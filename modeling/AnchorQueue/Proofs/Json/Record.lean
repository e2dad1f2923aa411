import AnchorQueue.Json.Record
import AnchorQueue.Proofs.Json.Codec

/-!
# Lawful lists and records

A list of lawful items is lawful, and so is a record of lawful slots with different names, when what
a slot leaves out is what it takes for a missing entry. The entries of a record are read one by one
into a draft, which in the end holds all values that were written.
-/

namespace AnchorQueue.Json

/-! ## Parts between commas -/

namespace Record

theorem commaSeparated_cons (p : List Lexeme) (ps : List (List Lexeme)) :
    commaSeparated (p :: ps) = p ++ ps.flatMap fun q => .mark .comma :: q := by
  induction ps generalizing p with
  | nil => simp [commaSeparated]
  | cons q ps ih =>
    have hRest : commaSeparated (p :: q :: ps) = p ++ .mark .comma :: commaSeparated (q :: ps) := by
      simp [commaSeparated, List.intersperse]
    rw [hRest, ih, List.flatMap_cons]
    rfl

theorem length_le_commas.{u} {α : Type u} (f : α → List Lexeme) (as : List α) :
    as.length ≤ (as.flatMap fun a => .mark .comma :: f a).length := by
  induction as with
  | nil => exact Nat.le_refl 0
  | cons a as ih =>
    simp only [List.flatMap_cons, List.length_cons, List.length_append]
    omega

theorem spaced_commaSeparated {ps : List (List Lexeme)} (h : ∀ p ∈ ps, Spaced p) (m : Mark) :
    Spaced (commaSeparated ps ++ [.mark m]) := by
  induction ps with
  | nil => trivial
  | cons p ps ih =>
    have hRest : StartsWithMark ((ps.flatMap fun q => .mark .comma :: q) ++ [.mark m]) := by
      cases ps with
      | nil => exact startsWithMark_cons m []
      | cons q ps => exact startsWithMark_cons .comma _
    obtain ⟨hp, hps⟩ := List.forall_mem_cons.mp h
    rw [commaSeparated_cons, List.append_assoc]
    refine hp.append hRest ?_
    cases ps with
    | nil => trivial
    | cons q ps =>
      rw [commaSeparated_cons] at ih
      rw [List.flatMap_cons]
      exact ih hps

end Record

/-! ## Lists -/

namespace Codec

variable {α : Type} {c : Codec α}

theorem readRest_commas (h : c.RoundTrips) (as : List α) {fuel : Nat} (hFuel : as.length ≤ fuel)
    (rest : List Token) :
    c.readRest fuel ((as.flatMap fun a => .mark .comma :: c.write a).map Lexeme.token ++
      .mark .closeBracket :: rest) = .ok (as, rest) := by
  induction as generalizing fuel with
  | nil => cases fuel <;> rfl
  | cons a as ih =>
    cases fuel with
    | zero => cases hFuel
    | succ fuel =>
      have hRest := ih (Nat.le_of_succ_le_succ hFuel)
      simp only [List.flatMap_cons, List.cons_append, List.map_cons, List.map_append,
        List.append_assoc, Lexeme.token, readRest, h a, bind, Except.bind, hRest]
      rfl

theorem list_read_append (hSolid : c.Solid) (a : α) (ts : List Token) :
    c.list.read (.mark .openBracket :: ((c.write a).map Lexeme.token ++ ts)) = do
      let (first, rest) ← c.read ((c.write a).map Lexeme.token ++ ts)
      let (as, rest) ← c.readRest ((c.write a).map Lexeme.token ++ ts).length rest
      return (first :: as, rest) := by
  obtain ⟨l, ls, hWrite, _, hClose⟩ := hSolid a
  rw [hWrite, List.map_cons, List.cons_append]
  cases l with
  | mark m =>
    cases m with
    | closeBracket => exact absurd rfl hClose
    | openBrace | closeBrace | openBracket | comma | colon => rfl
  | null | text | number => rfl

theorem Lawful.list (h : c.Lawful) (hSolid : c.Solid) : c.list.Lawful where
  roundTrips as rest := by
    cases as with
    | nil => rfl
    | cons a as =>
      let later := (as.flatMap fun a => .mark .comma :: c.write a).map Lexeme.token
      have hForm : (c.list.write (a :: as)).map Lexeme.token ++ rest =
          .mark .openBracket :: ((c.write a).map Lexeme.token ++
            (later ++ .mark .closeBracket :: rest)) := by
        simp only [Codec.list, List.map_cons, Record.commaSeparated_cons, List.flatMap_map,
          List.map_append, List.cons_append, List.append_assoc, List.map_nil, List.nil_append,
          Lexeme.token, later]
      -- Every later item has at least its comma, so the tokens are fuel enough.
      have hFuel : as.length ≤ ((c.write a).map Lexeme.token ++
          (later ++ .mark .closeBracket :: rest)).length := by
        have hCommas := Record.length_le_commas c.write as
        simp only [List.length_append, List.length_map, later]
        omega
      rw [hForm, list_read_append hSolid, h.roundTrips]
      simp only [bind, Except.bind, later, readRest_commas h.roundTrips as hFuel rest]
      rfl
  spaced as :=
    Record.spaced_commaSeparated (List.forall_mem_map.mpr fun a _ => h.spaced a) .closeBracket

end Codec

/-! ## Slots -/

/-- What the slot leaves out it takes for missing. -/
structure Slot.Lawful (s : Slot) : Prop where
  codec : s.codec.Lawful
  missing : ∀ a, s.isOmitted a = true → s.missing = some a

namespace Slot

variable {α : Type} {c : Codec α} (name : String)

theorem Lawful.required (h : c.Lawful) : (required name c).Lawful where
  codec := h
  missing := nofun

theorem Lawful.nullable (h : c.Lawful) (hSolid : c.Solid) : (nullable name c).Lawful where
  codec := h.maybe hSolid
  missing := nofun

theorem Lawful.omittable (h : c.Lawful) (hSolid : c.Solid) : (omittable name c).Lawful where
  codec := h.maybe hSolid
  missing a hNone := by
    obtain rfl : a = none := Option.isNone_iff_eq_none.mp hNone
    rfl

end Slot

/-! ## Records -/

/-- A value for one of the slots. -/
inductive Entry : List Slot → Type 1
  | here {s : Slot} {ss : List Slot} (a : s.Value) : Entry (s :: ss)
  | there {s : Slot} {ss : List Slot} (e : Entry ss) : Entry (s :: ss)

namespace Entry

variable {ss : List Slot}

def name {ss : List Slot} : Entry ss → String
  | @here s _ _ => s.name
  | there e => name e

/-- The lexemes after the name. -/
def value {ss : List Slot} : Entry ss → List Lexeme
  | @here s _ a => s.codec.write a
  | there e => value e

def write (e : Entry ss) : List Lexeme :=
  .text e.name :: .mark .colon :: e.value

theorem name_mem_map (e : Entry ss) : e.name ∈ ss.map Slot.name := by
  induction e with
  | here a => exact List.mem_cons_self
  | there e ih => exact List.mem_cons_of_mem _ ih

end Entry

namespace Record

/-- The draft with the entry, if its slot is still open. -/
def put? : (ss : List Slot) → Draft ss → Entry ss → Option (Draft ss)
  | _ :: _, (v, d), .here a =>
    match v with
    | some _ => none
    | none => some (some a, d)
  | _ :: ss, (v, d), .there e => (put? ss d e).map fun d => (v, d)

def putAll? (ss : List Slot) : Draft ss → List (Entry ss) → Option (Draft ss)
  | d, [] => some d
  | d, e :: es => (put? ss d e).bind fun d => putAll? ss d es

theorem putAll?_map_there (s : Slot) (ss : List Slot) (v : Option s.Value) (d : Draft ss)
    (es : List (Entry ss)) :
    putAll? (s :: ss) (v, d) (es.map Entry.there) = (putAll? ss d es).map fun d => (v, d) := by
  induction es generalizing d with
  | nil => rfl
  | cons e es ih =>
    change ((put? ss d e).map fun d => (v, d)).bind _ = ((put? ss d e).bind _).map _
    cases put? ss d e with
    | none => rfl
    | some d => exact ih d

/-- The entries that are written. -/
def written : (ss : List Slot) → Row ss → List (Entry ss)
  | [], () => []
  | s :: ss, (a, r) =>
    if s.isOmitted a then (written ss r).map .there else .here a :: (written ss r).map .there

/-- The draft with the values that are written. -/
def drafted : (ss : List Slot) → Row ss → Draft ss
  | [], () => ()
  | s :: ss, (a, r) => (if s.isOmitted a then none else some a, drafted ss r)

theorem entries_eq_map (ss : List Slot) (r : Row ss) :
    entries ss r = (written ss r).map Entry.write := by
  induction ss with
  | nil => rfl
  | cons s ss ih =>
    obtain ⟨a, r⟩ := r
    have hLater : ((written ss r).map (@Entry.there s ss)).map Entry.write = entries ss r := by
      rw [ih, List.map_map]
      rfl
    rw [entries, written]
    split
    · exact hLater.symm
    · rw [List.map_cons, hLater]
      rfl

/-- Put into a blank draft one by one, the written entries fill it as far as it will be. -/
theorem putAll?_written (ss : List Slot) (r : Row ss) :
    putAll? ss (blank ss) (written ss r) = some (drafted ss r) := by
  induction ss with
  | nil => rfl
  | cons s ss ih =>
    obtain ⟨a, r⟩ := r
    rw [written, drafted, blank]
    split
    · rw [putAll?_map_there, ih]
      rfl
    · refine (putAll?_map_there s ss (some a) (blank ss) (written ss r)).trans ?_
      rw [ih]
      rfl

theorem finish_drafted {ss : List Slot} (h : ∀ s ∈ ss, s.Lawful) (r : Row ss) :
    finish ss (drafted ss r) = .ok r := by
  induction ss with
  | nil => rfl
  | cons s ss ih =>
    obtain ⟨a, r⟩ := r
    obtain ⟨hs, hss⟩ := List.forall_mem_cons.mp h
    have hValue : ((if s.isOmitted a then none else some a) <|> s.missing) = some a := by
      split
      · rename_i hOmitted
        exact hs.missing a hOmitted
      · rfl
    rw [drafted, finish, hValue, ih hss]
    rfl

theorem fill_of_ne {s : Slot} {ss : List Slot} {key : String} (h : key ≠ s.name)
    (v : Option s.Value) (d : Draft ss) (ts : List Token) :
    fill (s :: ss) (v, d) key ts = (fill ss d key ts).map fun r => ((v, r.1), r.2) := by
  cases v <;> rw [fill, if_neg h] <;> cases fill ss d key ts <;> rfl

theorem readEntries_append {ss : List Slot} (e : Entry ss) (ts : List Token) :
    readEntries ss (e.write.map Lexeme.token ++ ts) = (do
      let (d, rest) ← readEntry ss (blank ss) (e.write.map Lexeme.token ++ ts)
      readMore ss (e.write.map Lexeme.token ++ ts).length d rest) :=
  rfl

section

variable {ss : List Slot} (hNames : (ss.map Slot.name).Nodup)
  (hLawful : ∀ s ∈ ss, s.codec.RoundTrips)

include hNames hLawful

theorem fill_of_put? {d d' : Draft ss} {e : Entry ss} (h : put? ss d e = some d')
    (rest : List Token) :
    fill ss d e.name (.mark .colon :: (e.value.map Lexeme.token ++ rest)) = .ok (d', rest) := by
  -- The search for the slot goes down the slots as the entry does, and the names tell them apart.
  induction e with
  | @here s ss a =>
    obtain ⟨v, d⟩ := d
    cases v with
    | some _ => cases h
    | none =>
      cases h
      have hRead : s.codec.read ((s.codec.write a).map Lexeme.token ++ rest) = .ok (a, rest) :=
        hLawful s List.mem_cons_self a rest
      rw [fill, Entry.name, if_pos rfl, Entry.value]
      simp only [Codec.expectMark, if_true, bind, Except.bind, hRead]
      rfl
  | @there s ss e ih =>
    obtain ⟨v, d⟩ := d
    obtain ⟨hNew, hLater⟩ := List.nodup_cons.mp hNames
    obtain ⟨d₁, hPut, rfl⟩ := Option.map_eq_some_iff.mp h
    have hOther : e.name ≠ s.name := fun hSame => hNew (hSame ▸ e.name_mem_map)
    have hFill := ih hLater (List.forall_mem_cons.mp hLawful).2 hPut
    exact (fill_of_ne hOther v d _).trans (congrArg (Except.map _) hFill)

theorem readEntry_of_put? {d d' : Draft ss} {e : Entry ss} (h : put? ss d e = some d')
    (rest : List Token) : readEntry ss d (e.write.map Lexeme.token ++ rest) = .ok (d', rest) :=
  fill_of_put? hNames hLawful h rest

theorem readMore_of_putAll? {d d' : Draft ss} {es : List (Entry ss)}
    (h : putAll? ss d es = some d') {fuel : Nat} (hFuel : es.length ≤ fuel) (rest : List Token) :
    readMore ss fuel d ((es.flatMap fun e => .mark .comma :: e.write).map Lexeme.token ++
      .mark .closeBrace :: rest) = .ok (d', rest) := by
  induction es generalizing d fuel with
  | nil =>
    cases h
    cases fuel <;> rfl
  | cons e es ih =>
    cases fuel with
    | zero => cases hFuel
    | succ fuel =>
      obtain ⟨d₁, hFirst, hLater⟩ := Option.bind_eq_some_iff.mp h
      have hEntry := readEntry_of_put? hNames hLawful hFirst
      have hMore := ih hLater (Nat.le_of_succ_le_succ hFuel)
      simp only [List.flatMap_cons, List.cons_append, List.map_cons, List.map_append,
        List.append_assoc, Lexeme.token, readMore, bind, Except.bind, hEntry, hMore]

theorem readEntries_of_putAll? {d : Draft ss} {es : List (Entry ss)}
    (h : putAll? ss (blank ss) es = some d) (rest : List Token) :
    readEntries ss ((commaSeparated (es.map Entry.write)).map Lexeme.token ++
      .mark .closeBrace :: rest) = .ok (d, rest) := by
  cases es with
  | nil =>
    cases h
    rfl
  | cons e es =>
    obtain ⟨d₁, hFirst, hLater⟩ := Option.bind_eq_some_iff.mp h
    let later := (es.flatMap fun e => .mark .comma :: e.write).map Lexeme.token
    have hForm : (commaSeparated ((e :: es).map Entry.write)).map Lexeme.token ++
        .mark .closeBrace :: rest =
          e.write.map Lexeme.token ++ (later ++ .mark .closeBrace :: rest) := by
      rw [List.map_cons, commaSeparated_cons, List.flatMap_map, List.map_append, List.append_assoc]
    have hFuel : es.length ≤
        (e.write.map Lexeme.token ++ (later ++ .mark .closeBrace :: rest)).length := by
      have hCommas := length_le_commas Entry.write es
      simp only [List.length_append, List.length_map, later]
      omega
    have hEntry := readEntry_of_put? hNames hLawful hFirst (later ++ .mark .closeBrace :: rest)
    have hMore := readMore_of_putAll? hNames hLawful hLater hFuel rest
    rw [hForm, readEntries_append, hEntry]
    exact hMore

end

theorem spaced_write {ss : List Slot} (h : ∀ s ∈ ss, ∀ a, Spaced (s.codec.write a)) (r : Row ss) :
    Spaced (write ss r) := by
  refine spaced_commaSeparated ?_ .closeBrace
  induction ss with
  | nil => nofun
  | cons s ss ih =>
    obtain ⟨a, r⟩ := r
    obtain ⟨hs, hss⟩ := List.forall_mem_cons.mp h
    rw [entries]
    split
    · exact ih hss r
    · exact List.forall_mem_cons.mpr ⟨hs a, ih hss r⟩

theorem read_write {ss : List Slot} (hNames : (ss.map Slot.name).Nodup)
    (h : ∀ s ∈ ss, s.Lawful) (r : Row ss) (rest : List Token) :
    read ss ((write ss r).map Lexeme.token ++ rest) = .ok (r, rest) := by
  have hEntries := readEntries_of_putAll? hNames (fun s hs => (h s hs).codec.roundTrips)
    (putAll?_written ss r) rest
  have hForm : (write ss r).map Lexeme.token ++ rest = .mark .openBrace ::
      ((commaSeparated ((written ss r).map Entry.write)).map Lexeme.token ++
        .mark .closeBrace :: rest) := by
    simp only [write, entries_eq_map, List.map_cons, List.map_append, List.cons_append,
      List.append_assoc, List.map_nil, List.nil_append, Lexeme.token]
  rw [hForm]
  simp only [read, bind, Except.bind, hEntries, finish_drafted h r]
  rfl

variable {α : Type} {ss : List Slot} {toRow : α → Row ss} {ofRow : Row ss → α}

theorem lawful (hNames : (ss.map Slot.name).Nodup) (h : ∀ s ∈ ss, s.Lawful)
    (hRow : ∀ a, ofRow (toRow a) = a) : (codec ss toRow ofRow).Lawful where
  roundTrips a rest := by
    change (read ss ((write ss (toRow a)).map Lexeme.token ++ rest)).map _ = _
    rw [read_write hNames h]
    exact congrArg (fun b => Except.ok (b, rest)) (hRow a)
  spaced a := spaced_write (fun s hs => (h s hs).codec.spaced) (toRow a)

theorem solid : (codec ss toRow ofRow).Solid :=
  fun _ => ⟨_, _, rfl, nofun, nofun⟩

end Record

end AnchorQueue.Json
