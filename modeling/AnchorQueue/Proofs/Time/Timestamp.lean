import AnchorQueue.Proofs.Text.Decimal
import AnchorQueue.Proofs.Text.Trim
import AnchorQueue.Time.Rfc3339

/-!
# Written timestamps

Every instant is read back from its written form: before and after the four-digit years, with as
many fraction digits as it takes, and in a leap second, which shows as second 60.
-/

namespace AnchorQueue

namespace Time

open AnchorQueue.Text

theorem Instant.ofLocal?_zero (t : Instant) : Instant.ofLocal? t 0 = some t := by
  obtain ⟨date, clock⟩ := t
  have hHour := clock.hour_lt
  have hMinute := clock.minute_lt
  have hStart : ¬((clock.hour : Int) * 60 + clock.minute - 0 < 0) := by omega
  have hEnd : (clock.hour : Int) * 60 + clock.minute - 0 < 1440 := by omega
  have hOfDay : (((clock.hour : Int) * 60 + clock.minute - 0) % 1440).toNat =
      clock.hour * 60 + clock.minute := by omega
  have hHours : (clock.hour * 60 + clock.minute) / 60 = clock.hour := by omega
  have hMinutes : (clock.hour * 60 + clock.minute) % 60 = clock.minute := by omega
  simp only [ofLocal?, hOfDay, hHours, hMinutes, Clock.ofParts?_self, if_neg hStart, if_pos hEnd]
  rfl

namespace Rfc3339

theorem readMark_cons {c : Char} (h : isWhite c = false) (cs : List Char) :
    readMark c (c :: cs) = some cs := by
  rw [readMark, skipWhite_cons h]
  exact if_pos rfl

section

variable {ds rest : List Char} (hDigits : ∀ c ∈ ds, c.isDigit = true) (hNonempty : ds ≠ [])

include hDigits hNonempty

theorem skipWhite_digits (rest : List Char) : skipWhite (ds ++ rest) = ds ++ rest := by
  obtain ⟨d, ds, rfl⟩ := List.exists_cons_of_ne_nil hNonempty
  exact skipWhite_cons (isWhite_of_isDigit (hDigits d List.mem_cons_self)) _

theorem readNumber_append {most : Nat} (hLength : ds.length ≤ most) (hRest : EndsNumber rest) :
    readNumber most (ds ++ rest) =
      some (ds.foldl (fun n d => n * 10 + digitValue d) 0, rest) := by
  have hTaken : ((ds ++ rest).take most).takeWhile Char.isDigit = ds := by
    rw [← List.take_takeWhile, takeWhile_isDigit_append hDigits hRest,
      List.take_of_length_le hLength]
  simp only [readNumber, skipWhite_digits hDigits hNonempty, hTaken, if_neg hNonempty,
    List.drop_left]

end

/-- The digits of a padded number, in front of something else. -/
theorem readNumber_paddedDigits (width : Nat) {n : Nat} (hWidth : 0 < width) (hn : n < 10 ^ width)
    {rest : List Char} (hRest : EndsNumber rest) :
    readNumber width (paddedDigits width n ++ rest) = some (n, rest) := by
  rw [readNumber_append (fun _ => isDigit_of_mem_paddedDigits) (paddedDigits_ne_nil width n)
    (Nat.le_of_eq (length_paddedDigits hWidth hn)) hRest, foldl_paddedDigits]

theorem readYear_signed_paddedDigits (width n : Nat) (f : Nat → Int) {rest : List Char}
    (hRest : EndsNumber rest) :
    readYear.signed (paddedDigits width n ++ rest) f = some (f n, rest) := by
  have hDigits : ∀ c ∈ paddedDigits width n, c.isDigit = true :=
    fun _ => isDigit_of_mem_paddedDigits
  have hRead : readNumber (paddedDigits width n ++ rest).length (paddedDigits width n ++ rest) =
      some (n, rest) := by
    rw [readNumber_append hDigits (paddedDigits_ne_nil width n) (by simp) hRest,
      foldl_paddedDigits]
  obtain ⟨d, ds, hCons⟩ := List.exists_cons_of_ne_nil (paddedDigits_ne_nil width n)
  have hFirst : d.isDigit = true := hDigits d (hCons ▸ List.mem_cons_self)
  rw [hCons, List.cons_append] at hRead ⊢
  rw [readYear.signed, if_pos hFirst, hRead]
  rfl

theorem readYear_writeYear (year : Int) {rest : List Char} (hRest : EndsNumber rest) :
    readYear (writeYear year ++ rest) = some (year, rest) := by
  rw [writeYear]
  split
  · have hYear : -(year.natAbs : Int) = year := by omega
    rw [List.cons_append, readYear, skipWhite_cons (by decide)]
    exact (readYear_signed_paddedDigits 4 year.natAbs (fun n => -(n : Int)) hRest).trans
      (congrArg (fun y => some (y, rest)) hYear)
  · split
    · have hYear : (year.natAbs : Int) = year := by omega
      have hDigits : ∀ c ∈ paddedDigits 4 year.natAbs, c.isDigit = true :=
        fun _ => isDigit_of_mem_paddedDigits
      obtain ⟨d, ds, hCons⟩ := List.exists_cons_of_ne_nil (paddedDigits_ne_nil 4 year.natAbs)
      have hFirst : d.isDigit = true := hDigits d (hCons ▸ List.mem_cons_self)
      have hRead := readNumber_paddedDigits 4 (n := year.natAbs) (by decide)
        (by omega) hRest
      rw [readYear, skipWhite_digits hDigits (paddedDigits_ne_nil 4 _)]
      rw [hCons, List.cons_append] at hRead ⊢
      split
      · rename_i hPlus
        cases hPlus
        cases hFirst
      · rename_i hMinus
        cases hMinus
        cases hFirst
      · rw [hRead, Option.map_some, hYear]
    · have hYear : (year.natAbs : Int) = year := by omega
      rw [List.cons_append, readYear, skipWhite_cons (by decide)]
      exact (readYear_signed_paddedDigits 4 year.natAbs (fun n => (n : Int)) hRest).trans
        (congrArg (fun y => some (y, rest)) hYear)

theorem readDate_writeDate (d : Date) {rest : List Char} (hRest : EndsNumber rest) :
    readDate (writeDate d ++ rest) = some (d, rest) := by
  have hMonth := d.month_bounds
  have hDay := d.day_bounds
  have hDash (cs : List Char) : EndsNumber ('-' :: cs) := endsNumber_cons (by decide)
  simp only [writeDate, List.append_assoc, List.cons_append, readDate,
    readYear_writeYear d.year (hDash _), readMark_cons (c := '-') (by decide),
    readNumber_paddedDigits 2 (n := d.month) (by decide) (by omega) (hDash _),
    readNumber_paddedDigits 2 (n := d.day) (by decide) (by omega) hRest,
    Date.ofParts?_self, Option.bind_eq_bind, Option.bind_some]
  rfl

theorem readFraction_paddedDigits {width n : Nat} (hWidth : 0 < width) (hMost : width ≤ 9)
    (hn : n < 10 ^ width) {rest : List Char} (hRest : EndsNumber rest) :
    readFraction ('.' :: (paddedDigits width n ++ rest)) =
      some (n * 10 ^ (9 - width), rest) := by
  have hLength := length_paddedDigits hWidth hn
  have hKept : (paddedDigits width n).take 9 = paddedDigits width n :=
    List.take_of_length_le (Nat.le_trans (Nat.le_of_eq hLength) hMost)
  simp only [readFraction, takeWhile_isDigit_append (fun _ => isDigit_of_mem_paddedDigits) hRest,
    if_neg (paddedDigits_ne_nil width n), hKept, foldl_paddedDigits, List.drop_left]
  rw [hLength]
  rfl

theorem readFraction_writeFraction {nanos : Nat} (h : nanos < nanosPerSecond) (rest : List Char) :
    readFraction (writeFraction nanos ++ 'Z' :: rest) = some (nanos, 'Z' :: rest) := by
  have hRest : EndsNumber ('Z' :: rest) := endsNumber_cons (by decide)
  rw [nanosPerSecond] at h
  rw [writeFraction]
  split
  · rename_i hZero
    rw [hZero]
    rfl
  · split
    · have hNanos : nanos / 1000000 * 10 ^ (9 - 3) = nanos := by omega
      rw [List.cons_append, readFraction_paddedDigits (by decide) (by decide) (by omega) hRest,
        hNanos]
    · split
      · have hNanos : nanos / 1000 * 10 ^ (9 - 6) = nanos := by omega
        rw [List.cons_append, readFraction_paddedDigits (by decide) (by decide) (by omega) hRest,
          hNanos]
      · rw [List.cons_append, readFraction_paddedDigits (by decide) (by decide) (by omega) hRest,
          Nat.sub_self, Nat.pow_zero, Nat.mul_one]

theorem endsNumber_writeFraction (nanos : Nat) {rest : List Char} (hRest : EndsNumber rest) :
    EndsNumber (writeFraction nanos ++ rest) := by
  rw [writeFraction]
  split
  · exact hRest
  · split
    · exact endsNumber_cons (by decide)
    · split <;> exact endsNumber_cons (by decide)

theorem readClock_writeClock (c : Clock) (rest : List Char) :
    readClock (writeClock c ++ 'Z' :: rest) = some (c, 'Z' :: rest) := by
  have hHour := c.hour_lt
  have hMinute := c.minute_lt
  have hSecond := c.second_lt
  have hNanos := c.nanos_lt
  have hLeap := c.leap
  have hColon (cs : List Char) : EndsNumber (':' :: cs) := endsNumber_cons (by decide)
  have hFraction (cs : List Char) :
      EndsNumber (writeFraction (c.nanos % nanosPerSecond) ++ 'Z' :: cs) :=
    endsNumber_writeFraction _ (endsNumber_cons (by decide))
  simp only [writeClock, List.append_assoc, List.cons_append, readClock,
    readMark_cons (c := ':') (by decide),
    readNumber_paddedDigits 2 (n := c.hour) (by decide) (by omega) (hColon _),
    readNumber_paddedDigits 2 (n := c.minute) (by decide) (by omega) (hColon _),
    readNumber_paddedDigits 2 (n := c.second + c.nanos / nanosPerSecond) (by decide)
      (by rw [nanosPerSecond] at *; omega) (hFraction _),
    readFraction_writeFraction (Nat.mod_lt _ (by decide)),
    Option.bind_eq_bind, Option.bind_some]
  rw [nanosPerSecond] at *
  by_cases hLate : 1000000000 ≤ c.nanos
  · have hShown : c.second + c.nanos / 1000000000 = 60 := by omega
    have hPart : 1000000000 + c.nanos % 1000000000 = c.nanos := by omega
    rw [if_pos hShown, hPart, ← hLeap hLate, Clock.ofParts?_self]
    rfl
  · have hShown : c.second + c.nanos / 1000000000 = c.second := by omega
    have hPart : c.nanos % 1000000000 = c.nanos := by omega
    rw [hShown, if_neg (by omega), hPart, Clock.ofParts?_self]
    rfl

/-- Every instant is read back from its written form. -/
theorem read?_write (t : Instant) : read? (write t) = some t := by
  have hMark (cs : List Char) : EndsNumber ('T' :: cs) := endsNumber_cons (by decide)
  have hZone : readZone ['Z'] = some (0, []) := by decide
  simp only [write, List.append_assoc, List.cons_append, read?,
    readDate_writeDate _ (hMark _), Option.bind_eq_bind, Option.bind_some, readSeparator,
    decide_true, Bool.true_or, if_true, readClock_writeClock, hZone, Instant.ofLocal?_zero]
  rfl

end Rfc3339

end Time

end AnchorQueue
