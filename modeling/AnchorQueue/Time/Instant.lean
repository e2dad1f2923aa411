import AnchorQueue.Time.Date

/-!
# Instants

A moment in UTC, to the nanosecond. A leap second is second 59 with a whole second more in the
nanoseconds, so that it lies after second 59 and before the next minute.
-/

namespace AnchorQueue.Time

def nanosPerSecond : Nat := 1000000000

structure Clock where
  hour : Nat
  minute : Nat
  second : Nat
  nanos : Nat
  hour_lt : hour < 24
  minute_lt : minute < 60
  second_lt : second < 60
  nanos_lt : nanos < 2 * nanosPerSecond
  leap : nanosPerSecond ≤ nanos → second = 59
  deriving DecidableEq, Repr

structure Instant where
  date : Date
  clock : Clock
  deriving DecidableEq, Repr

def Clock.ofParts? (hour minute second nanos : Nat) : Option Clock :=
  if h : hour < 24 ∧ minute < 60 ∧ second < 60 ∧ nanos < 2 * nanosPerSecond ∧
      (nanosPerSecond ≤ nanos → second = 59) then
    some ⟨hour, minute, second, nanos, h.1, h.2.1, h.2.2.1, h.2.2.2.1, h.2.2.2.2⟩
  else none

theorem Clock.ofParts?_self (c : Clock) :
    Clock.ofParts? c.hour c.minute c.second c.nanos = some c := by
  rw [Clock.ofParts?, dif_pos ⟨c.hour_lt, c.minute_lt, c.second_lt, c.nanos_lt, c.leap⟩]

namespace Instant

/-- Position in time: every field is a digit, the year the leading one. -/
def rank (t : Instant) : Int :=
  ((((((t.date.year * 13 + t.date.month) * 32 + t.date.day) * 24 + t.clock.hour) * 60 +
    t.clock.minute) * 60 + t.clock.second) * (2 * nanosPerSecond) + t.clock.nanos)

instance : LE Instant := ⟨fun s t => s.rank ≤ t.rank⟩

instance : LT Instant := ⟨fun s t => s.rank < t.rank⟩

instance (s t : Instant) : Decidable (s ≤ t) := inferInstanceAs (Decidable (s.rank ≤ t.rank))

instance (s t : Instant) : Decidable (s < t) := inferInstanceAs (Decidable (s.rank < t.rank))

theorem le_def (s t : Instant) : s ≤ t ↔ s.rank ≤ t.rank := Iff.rfl

theorem lt_def (s t : Instant) : s < t ↔ s.rank < t.rank := Iff.rfl

theorem rank_injective {s t : Instant} (h : s.rank = t.rank) : s = t := by
  obtain ⟨⟨y, m, d, hd⟩, ⟨hh, mm, ss, nn, h1, h2, h3, h4, h5⟩⟩ := s
  obtain ⟨⟨y', m', d', hd'⟩, ⟨hh', mm', ss', nn', h1', h2', h3', h4', h5'⟩⟩ := t
  have hm := Date.month_bounds ⟨y, m, d, hd⟩
  have hm' := Date.month_bounds ⟨y', m', d', hd'⟩
  have hb := Date.day_bounds ⟨y, m, d, hd⟩
  have hb' := Date.day_bounds ⟨y', m', d', hd'⟩
  simp only [rank, nanosPerSecond] at h h4 h4' hm hm' hb hb'
  have e1 : nn = nn' := by omega
  have e2 : ss = ss' := by omega
  have e3 : mm = mm' := by omega
  have e4 : hh = hh' := by omega
  have e5 : d = d' := by omega
  have e6 : m = m' := by omega
  have e7 : y = y' := by omega
  subst e1 e2 e3 e4 e5 e6 e7
  rfl

/-- The instant whose local clock, `offset` minutes ahead of UTC, shows `t`. -/
def ofLocal? (t : Instant) (offset : Int) : Option Instant := do
  let minutes : Int := t.clock.hour * 60 + t.clock.minute - offset
  let date ← if minutes < 0 then t.date.previous? else if minutes < 1440 then some t.date
    else t.date.next?
  let ofDay := (minutes % 1440).toNat
  let clock ← Clock.ofParts? (ofDay / 60) (ofDay % 60) t.clock.second t.clock.nanos
  return ⟨date, clock⟩

end Instant

end AnchorQueue.Time
