import AnchorQueue.Json.Codec
import AnchorQueue.Proofs.Json.Lexer
import AnchorQueue.Proofs.Time.Timestamp

/-!
# Lawful codecs

A codec is lawful when it reads back what it writes, whatever follows, and writes lexemes that can
be told apart in a text. So a whole text of a lawful codec is decoded to the value it was encoded
from.
-/

namespace AnchorQueue.Json

structure Codec.Lawful {α : Type} (c : Codec α) : Prop where
  roundTrips : c.RoundTrips
  spaced : ∀ a, Spaced (c.write a)

/-- No value is written as null, or starts like the end of a list. -/
def Codec.Solid {α : Type} (c : Codec α) : Prop :=
  ∀ a, ∃ l ls, c.write a = l :: ls ∧ l ≠ .null ∧ l ≠ .mark .closeBracket

namespace Codec

variable {α : Type} {c : Codec α}

theorem Lawful.decode_encode (h : c.Lawful) (a : α) : decode c (encode c a) = .ok a := by
  have hRead := h.roundTrips a []
  rw [List.append_nil] at hRead
  rw [decode, encode, String.toList_ofList, lex_writeLexemes (h.spaced a), hRead]

/-! ## Scalars -/

theorem Lawful.text : Codec.text.Lawful where
  roundTrips _ _ := rfl
  spaced _ := trivial

theorem solid_text : Codec.text.Solid :=
  fun _ => ⟨_, _, rfl, nofun, nofun⟩

section

variable {parse : String → Option α} {print : α → String}

theorem Lawful.ofText (h : ∀ a, parse (print a) = some a) : (ofText parse print).Lawful where
  roundTrips a rest := by
    have hRead : readText (.text (.ok (print a)) (.ok ()) :: rest) = .ok (print a, rest) := rfl
    simp only [Codec.ofText, List.map_cons, List.map_nil, List.cons_append, List.nil_append,
      Lexeme.token, hRead, h]
  spaced _ := trivial

theorem solid_ofText : (ofText parse print).Solid :=
  fun _ => ⟨_, _, rfl, nofun, nofun⟩

end

section

variable {parse : Nat → Option α} {print : α → Nat}

theorem Lawful.ofNumber (h : ∀ a, parse (print a) = some a) (hSize : ∀ a, print a < UInt64.size) :
    (ofNumber parse print).Lawful where
  roundTrips a rest := by
    have hRead : readNumber (.number (.ok (some (print a))) (.ok ()) :: rest) =
        .ok (some (print a), rest) := rfl
    simp only [Codec.ofNumber, List.map_cons, List.map_nil, List.cons_append, List.nil_append,
      Lexeme.token, hRead, Option.bind_some, h]
  spaced a := ⟨hSize a, nofun, trivial⟩

theorem solid_ofNumber : (ofNumber parse print).Solid :=
  fun _ => ⟨_, _, rfl, nofun, nofun⟩

end

theorem Lawful.time : Codec.time.Lawful :=
  .ofText fun t => by rw [String.toList_ofList, Time.Rfc3339.read?_write]

theorem solid_time : Codec.time.Solid :=
  solid_ofText

theorem Lawful.word32 : Codec.word32.Lawful := by
  refine .ofNumber (fun n => ?_) fun n => Nat.lt_trans n.toNat_lt (by decide)
  rw [if_pos n.toNat_lt]
  simp

theorem Lawful.word64 : Codec.word64.Lawful := by
  refine .ofNumber (fun n => ?_) fun n => n.toNat_lt
  rw [if_pos n.toNat_lt]
  simp

theorem solid_word64 : Codec.word64.Solid :=
  solid_ofNumber

theorem Lawful.status : Codec.status.Lawful where
  roundTrips := (Lawful.ofText Status.ofName?_name).roundTrips
  spaced _ := trivial

/-! ## Unset values -/

theorem maybe_read_append (hSolid : c.Solid) (a : α) (ts : List Token) :
    c.maybe.read ((c.write a).map Lexeme.token ++ ts) =
      (c.read ((c.write a).map Lexeme.token ++ ts)).map fun r => (some r.1, r.2) := by
  obtain ⟨l, ls, hWrite, hNull, _⟩ := hSolid a
  rw [hWrite, List.map_cons, List.cons_append]
  cases l with
  | null => exact absurd rfl hNull
  | mark | text | number => rfl

theorem Lawful.maybe (h : c.Lawful) (hSolid : c.Solid) : c.maybe.Lawful where
  roundTrips a rest := by
    cases a with
    | none => rfl
    | some a =>
      have hWrite : c.maybe.write (some a) = c.write a := rfl
      rw [hWrite, maybe_read_append hSolid, h.roundTrips]
      rfl
  spaced a := by
    cases a with
    | none => trivial
    | some a => exact h.spaced a

end Codec

end AnchorQueue.Json
