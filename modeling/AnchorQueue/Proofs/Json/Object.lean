import AnchorQueue.Proofs.Json.Record

/-!
# Objects with any keys

An object whose values have no parts is read as the list of its members. They stay in their order,
and a key may come more than once.
-/

namespace AnchorQueue.Json

def entry (name : String) (l : Lexeme) : List Lexeme :=
  [.text name, .mark .colon, l]

def object (entries : List (List Lexeme)) : List Lexeme :=
  .mark .openBrace :: Record.commaSeparated entries ++ [.mark .closeBrace]

/-- A value without parts. Of the numbers these are the natural ones of 64 bits. -/
inductive Scalar
  | null
  | text (s : String)
  | number (n : UInt64)
  deriving DecidableEq

namespace Scalar

def lexeme : Scalar → Lexeme
  | null => .null
  | text s => .text s
  | number n => .number n.toNat

def ofToken? : Token → Option Scalar
  | .null (.ok ()) => some null
  | .text (.ok s) _ => some (text s)
  | .number (.ok (some n)) _ => if n < UInt64.size then some (number n.toUInt64) else none
  | _ => none

theorem ofToken?_lexeme (v : Scalar) : ofToken? v.lexeme.token = some v := by
  cases v with
  | null | text => rfl
  | number n =>
    have hSize : n.toNat < UInt64.size := n.toNat_lt
    simp [lexeme, Lexeme.token, ofToken?, hSize]

end Scalar

structure Object where
  members : List (String × Scalar)
  deriving DecidableEq

namespace Codec

/-- The members after the opening brace, up to the closing one. -/
def readMembers : List Token → Option (List (String × Scalar) × List Token)
  | .text (.ok key) _ :: .mark .colon :: value :: .mark .comma :: ts => do
    let v ← Scalar.ofToken? value
    let (members, ts) ← readMembers ts
    return ((key, v) :: members, ts)
  | .text (.ok key) _ :: .mark .colon :: value :: .mark .closeBrace :: ts => do
    let v ← Scalar.ofToken? value
    return ([(key, v)], ts)
  | _ => none

def writeMember (member : String × Scalar) : List Lexeme :=
  entry member.1 member.2.lexeme

def object : Codec Object where
  read
    | .mark .openBrace :: .mark .closeBrace :: ts => .ok (⟨[]⟩, ts)
    | .mark .openBrace :: ts =>
      match readMembers ts with
      | some (members, ts) => .ok (⟨members⟩, ts)
      | none => .error .malformed
    | _ => .error .malformed
  write o := Json.object (o.members.map writeMember)

theorem readMembers_comma (member : String × Scalar) (ts : List Token) :
    readMembers ((writeMember member).map Lexeme.token ++ .mark .comma :: ts) =
      (readMembers ts).map fun r => (member :: r.1, r.2) := by
  have hStep : readMembers ((writeMember member).map Lexeme.token ++ .mark .comma :: ts) =
      (Scalar.ofToken? member.2.lexeme.token).bind fun v =>
        (readMembers ts).bind fun r => some ((member.1, v) :: r.1, r.2) := rfl
  rw [hStep, Scalar.ofToken?_lexeme, Option.bind_some, Option.map_eq_bind]
  rfl

theorem readMembers_closeBrace (member : String × Scalar) (ts : List Token) :
    readMembers ((writeMember member).map Lexeme.token ++ .mark .closeBrace :: ts) =
      some ([member], ts) := by
  have hStep : readMembers ((writeMember member).map Lexeme.token ++ .mark .closeBrace :: ts) =
      (Scalar.ofToken? member.2.lexeme.token).bind fun v => some ([(member.1, v)], ts) := rfl
  rw [hStep, Scalar.ofToken?_lexeme, Option.bind_some]

theorem readMembers_commaSeparated (member : String × Scalar) (members : List (String × Scalar))
    (rest : List Token) :
    readMembers ((Record.commaSeparated ((member :: members).map writeMember)).map Lexeme.token ++
      .mark .closeBrace :: rest) = some (member :: members, rest) := by
  induction members generalizing member with
  | nil =>
    rw [List.map_singleton, Record.commaSeparated_cons, List.flatMap_nil, List.append_nil]
    exact readMembers_closeBrace member rest
  | cons next members ih =>
    have hForm : (Record.commaSeparated ((member :: next :: members).map writeMember)).map
        Lexeme.token ++ .mark .closeBrace :: rest = (writeMember member).map Lexeme.token ++
          .mark .comma :: ((Record.commaSeparated ((next :: members).map writeMember)).map
            Lexeme.token ++ .mark .closeBrace :: rest) := by
      simp [Record.commaSeparated_cons, Lexeme.token]
    rw [hForm, readMembers_comma, ih next]
    rfl

theorem object_read_of_members {ts rest : List Token} {members : List (String × Scalar)}
    (h : readMembers ts = some (members, rest)) :
    object.read (.mark .openBrace :: ts) = .ok (⟨members⟩, rest) := by
  cases ts with
  | nil => cases h
  | cons t ts =>
    cases t with
    | mark m => cases h
    | null | bool | text | number | junk => simp only [object, h]

theorem spaced_writeMember (member : String × Scalar) : Spaced (writeMember member) := by
  obtain ⟨key, v⟩ := member
  cases v with
  | null | text => trivial
  | number n => exact ⟨n.toNat_lt, by simp [StartsWithMark], trivial⟩

theorem Lawful.object : Codec.object.Lawful where
  roundTrips o rest := by
    obtain ⟨members⟩ := o
    cases members with
    | nil => rfl
    | cons member members =>
      have hForm : (Codec.object.write ⟨member :: members⟩).map Lexeme.token ++ rest =
          .mark .openBrace :: ((Record.commaSeparated ((member :: members).map writeMember)).map
            Lexeme.token ++ .mark .closeBrace :: rest) := by
        simp [Codec.object, Json.object, Lexeme.token]
      rw [hForm]
      exact object_read_of_members (readMembers_commaSeparated member members rest)
  spaced _ := Record.spaced_commaSeparated
    (List.forall_mem_map.mpr fun member _ => spaced_writeMember member) .closeBrace

theorem solid_object : Codec.object.Solid :=
  fun _ => ⟨_, _, rfl, nofun, nofun⟩

end Codec

end AnchorQueue.Json
