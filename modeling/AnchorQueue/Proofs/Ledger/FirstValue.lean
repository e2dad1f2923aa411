import AnchorQueue.Proofs.Except
import AnchorQueue.Proofs.Ledger.Payload

/-!
# The first value counts

A form may have several values under one key. A payload is read from the first value of each of its
keys, and a first value that is empty counts too: it hides the later ones. So what is appended to a
form from which a payload is read changes nothing.
-/

namespace AnchorQueue.Ledger

/-- The first pair with the key has the value. -/
def Form.FirstValue (pairs : List (String × String)) (key value : String) : Prop :=
  ∃ before after, pairs = before ++ (key, value) :: after ∧ ∀ p ∈ before, p.1 ≠ key

theorem Form.FirstValue.append {pairs : List (String × String)} {key value : String}
    (h : FirstValue pairs key value) (more : List (String × String)) :
    FirstValue (pairs ++ more) key value := by
  obtain ⟨before, after, rfl, hBefore⟩ := h
  exact ⟨before, after ++ more, by simp, hBefore⟩

theorem Form.find?_eq_some_iff {pairs : List (String × String)} {key value : String} :
    (pairs.find? fun p => p.1 = key) = some (key, value) ↔ FirstValue pairs key value := by
  rw [List.find?_eq_some_iff_append, FirstValue]
  simp

namespace Payload

/-- The keys of the fields, in the order in which they are looked for. -/
def keys : List String :=
  ["org_id", "ts", "content"]

/-- The first value of the form under the key, if it is not empty. -/
def Gives (raw key value : String) : Prop :=
  Form.FirstValue (Form.pairs raw) key value ∧ value ≠ ""

/-- The key is the first among the given ones for which the form gives no value. -/
def FirstMissing (raw : String) (among : List String) (key : String) : Prop :=
  ∃ before after, among = before ++ key :: after ∧
    (∀ k ∈ before, ∃ value, Gives raw k value) ∧ ¬∃ value, Gives raw key value

variable {raw key value : String} {p : Payload} {f : MissingField}

theorem Gives.append (h : Gives raw key value) (more : String) :
    Gives (raw ++ "&" ++ more) key value := by
  rw [Gives, Form.pairs_append]
  exact ⟨h.1.append _, h.2⟩

theorem not_firstMissing_nil : ¬FirstMissing raw [] key := by
  rintro ⟨before, after, hKeys, _⟩
  exact absurd hKeys.symm (List.append_ne_nil_of_right_ne_nil _ (List.cons_ne_nil _ _))

theorem firstMissing_cons_iff {k : String} {ks : List String} :
    FirstMissing raw (k :: ks) key ↔
      k = key ∧ (¬∃ value, Gives raw key value) ∨
        (∃ value, Gives raw k value) ∧ FirstMissing raw ks key := by
  constructor
  · rintro ⟨before, after, hKeys, hBefore, hNot⟩
    cases before with
    | nil => exact Or.inl ⟨(List.cons.inj hKeys).1, hNot⟩
    | cons b before =>
      obtain ⟨rfl, rfl⟩ := List.cons.inj hKeys
      obtain ⟨hFirst, hRest⟩ := List.forall_mem_cons.mp hBefore
      exact Or.inr ⟨hFirst, before, after, rfl, hRest, hNot⟩
  · rintro (⟨rfl, hNot⟩ | ⟨hFirst, before, after, rfl, hBefore, hNot⟩)
    · exact ⟨[], ks, rfl, List.forall_mem_nil _, hNot⟩
    · exact ⟨k :: before, after, rfl, List.forall_mem_cons.mpr ⟨hFirst, hBefore⟩, hNot⟩

theorem field_eq_ok_iff : field (Form.pairs raw) key = .ok value ↔ Gives raw key value := by
  rw [Gives, ← Form.find?_eq_some_iff, field]
  cases hFind : (Form.pairs raw).find? fun p => p.1 = key with
  | none => simp
  | some q =>
    obtain ⟨k, v⟩ := q
    obtain rfl : k = key := by simpa using List.find?_some hFind
    by_cases hEmpty : v = ""
    · simp only [hEmpty, if_true, reduceCtorEq, Option.some.injEq, Prod.mk.injEq, true_and,
        false_iff, not_and, not_not]
      exact Eq.symm
    · simp only [hEmpty, if_false, Except.ok.injEq, Option.some.injEq, Prod.mk.injEq, true_and]
      constructor
      · rintro rfl
        exact ⟨rfl, hEmpty⟩
      · exact And.left

/-- A search for a field fails in one way only. -/
theorem eq_of_field_eq_error (h : field (Form.pairs raw) key = .error f) : f = ⟨key⟩ := by
  rw [field] at h
  split at h
  · split at h <;> cases h
    rfl
  · cases h
    rfl

theorem field_eq_error_iff :
    field (Form.pairs raw) key = .error f ↔ key = f.key ∧ ¬∃ value, Gives raw f.key value := by
  constructor
  · intro h
    obtain rfl := eq_of_field_eq_error h
    refine ⟨rfl, fun ⟨value, hGives⟩ => ?_⟩
    rw [field_eq_ok_iff.mpr hGives] at h
    cases h
  · rintro ⟨rfl, hNot⟩
    cases hField : field (Form.pairs raw) f.key with
    | ok value => exact absurd ⟨value, field_eq_ok_iff.mp hField⟩ hNot
    | error g => rw [eq_of_field_eq_error hField]

theorem decode_eq_ok_iff :
    decode raw = .ok p ↔ ∀ entry ∈ p.fields, Gives raw entry.1 entry.2 := by
  obtain ⟨orgId, timestamp, content⟩ := p
  simp only [decode, ofPairs, bind_eq_ok_iff, field_eq_ok_iff, pure, Except.pure, Except.ok.injEq,
    mk.injEq, fields, List.forall_mem_cons]
  constructor
  · rintro ⟨_, hOrg, _, hTs, _, hContent, rfl, rfl, rfl⟩
    exact ⟨hOrg, hTs, hContent, List.forall_mem_nil _⟩
  · rintro ⟨hOrg, hTs, hContent, _⟩
    exact ⟨_, hOrg, _, hTs, _, hContent, rfl, rfl, rfl⟩

theorem decode_eq_error_iff : decode raw = .error f ↔ FirstMissing raw keys f.key := by
  simp only [decode, ofPairs, bind_eq_error_iff, field_eq_ok_iff, field_eq_error_iff, pure,
    Except.pure, reduceCtorEq, and_false, exists_false, or_false, exists_and_right, keys,
    firstMissing_cons_iff, not_firstMissing_nil]

/-- A payload is read from a form exactly if the first value under each key is there and not empty,
and then it has these values; otherwise the first key is named for which this fails. So a form from
which a payload is read may be continued in any way. -/
theorem first_values_decide (raw : String) :
    (∀ p, decode raw = .ok p ↔ ∀ entry ∈ p.fields,
      Form.FirstValue (Form.pairs raw) entry.1 entry.2 ∧ entry.2 ≠ "") ∧
    (∀ f, decode raw = .error f ↔ FirstMissing raw keys f.key) ∧
    ∀ p, decode raw = .ok p → ∀ more, decode (raw ++ "&" ++ more) = .ok p := by
  refine ⟨fun p => decode_eq_ok_iff, fun f => decode_eq_error_iff, fun p hRead more => ?_⟩
  have hFields := decode_eq_ok_iff.mp hRead
  exact decode_eq_ok_iff.mpr fun entry hEntry => (hFields entry hEntry).append more

/-- The empty organization hides the later one. Where the payload can be read, the bytes that would
complete the last character of its content come too late, and so does another time. -/
theorem first_values_decide_hidden :
    decode "org_id=&ts=1&org_id=b&content=x" = .error ⟨"org_id"⟩ ∧
      FirstMissing "org_id=&ts=1&org_id=b&content=x" keys "org_id" ∧
      decode "org_id=a&ts=1&content=x%E2%82" = .ok ⟨"a", "1", "x\uFFFD"⟩ ∧
      decode ("org_id=a&ts=1&content=x%E2%82" ++ "&" ++ "%AC&ts=&ts=2") =
        .ok ⟨"a", "1", "x\uFFFD"⟩ := by
  have hHidden : decode "org_id=&ts=1&org_id=b&content=x" = .error ⟨"org_id"⟩ := by decide
  have hRead : decode "org_id=a&ts=1&content=x%E2%82" = .ok ⟨"a", "1", "x\uFFFD"⟩ := by decide
  obtain ⟨_, hMissing, _⟩ := first_values_decide "org_id=&ts=1&org_id=b&content=x"
  obtain ⟨_, _, hContinued⟩ := first_values_decide "org_id=a&ts=1&content=x%E2%82"
  exact ⟨hHidden, (hMissing _).mp hHidden, hRead, hContinued _ hRead _⟩

end Payload

end AnchorQueue.Ledger
