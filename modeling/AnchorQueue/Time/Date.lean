/-!
# Calendar dates

Dates of the proleptic Gregorian calendar over a bounded range of years. A date carries the proof
that its day exists.
-/

namespace AnchorQueue.Time

def isLeapYear (year : Int) : Bool :=
  year % 4 = 0 && (year % 100 ≠ 0 || year % 400 = 0)

def daysInMonth (year : Int) : Nat → Nat
  | 1 | 3 | 5 | 7 | 8 | 10 | 12 => 31
  | 4 | 6 | 9 | 11 => 30
  | 2 => if isLeapYear year then 29 else 28
  | _ => 0

def IsDate (year : Int) (month day : Nat) : Prop :=
  (-262143 ≤ year ∧ year ≤ 262142) ∧ 1 ≤ day ∧ day ≤ daysInMonth year month

instance (year : Int) (month day : Nat) : Decidable (IsDate year month day) :=
  inferInstanceAs (Decidable (_ ∧ _))

structure Date where
  year : Int
  month : Nat
  day : Nat
  isDate : IsDate year month day
  deriving DecidableEq, Repr

namespace Date

def ofParts? (year : Int) (month day : Nat) : Option Date :=
  if h : IsDate year month day then some ⟨year, month, day, h⟩ else none

/-- The day after, unless the calendar ends. -/
def next? (d : Date) : Option Date :=
  ofParts? d.year d.month (d.day + 1) <|> ofParts? d.year (d.month + 1) 1 <|>
    ofParts? (d.year + 1) 1 1

/-- The day before, unless the calendar begins. -/
def previous? (d : Date) : Option Date :=
  ofParts? d.year d.month (d.day - 1) <|>
    ofParts? d.year (d.month - 1) (daysInMonth d.year (d.month - 1)) <|>
    ofParts? (d.year - 1) 12 31

theorem daysInMonth_pos_iff (year : Int) (month : Nat) :
    0 < daysInMonth year month ↔ 1 ≤ month ∧ month ≤ 12 := by
  unfold daysInMonth
  split
  case h_13 => simp only [imp_false] at *; omega
  all_goals first | omega | (split <;> omega)

theorem daysInMonth_le (year : Int) (month : Nat) : daysInMonth year month ≤ 31 := by
  unfold daysInMonth
  split <;> first | omega | (split <;> omega)

theorem month_bounds (d : Date) : 1 ≤ d.month ∧ d.month ≤ 12 := by
  have h := d.isDate
  exact (daysInMonth_pos_iff d.year d.month).mp (by unfold IsDate at h; omega)

theorem day_bounds (d : Date) : 1 ≤ d.day ∧ d.day ≤ 31 := by
  have h := d.isDate
  have := daysInMonth_le d.year d.month
  unfold IsDate at h
  omega

theorem ofParts?_self (d : Date) : ofParts? d.year d.month d.day = some d := by
  simp [ofParts?, d.isDate]

end Date

end AnchorQueue.Time
