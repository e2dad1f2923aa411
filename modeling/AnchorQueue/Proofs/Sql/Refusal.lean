import AnchorQueue.Proofs.Batch.Faults
import AnchorQueue.Proofs.Sql.Dialogue
import AnchorQueue.Proofs.Store.Run
import AnchorQueue.Sql.Client

/-!
# Refused batches

Both stores run the same check before anything else. A batch with a fault leaves no trace in either
of them, and only such a batch ends in a validation error: nothing that the database replies is
reported as one.
-/

namespace AnchorQueue

open AnchorQueue.Time (Duration Instant)

/-- The error blames something other than the batch. -/
def StoreError.Outside (e : StoreError) : Prop :=
  ∀ text, e ≠ .validation text

namespace Sql

open StoreError (Outside)

theorem Stage.outside_error (stage : Stage) (cause : DatabaseError) :
    (stage.error cause).Outside := by
  intro text hEq
  cases stage <;> cases hEq

theorem FullRow.toJob_eq_error_iff {r : FullRow} {e : StoreError} :
    r.toJob = .error e ↔ Status.ofName? r.status = none ∧ e = .invalidStatus r.status := by
  rw [toJob, Status.parse]
  cases Status.ofName? r.status with
  | none => simp [bind, Except.bind, eq_comm]
  | some status => simp [bind, Except.bind, pure, Except.pure]

theorem FullRow.outside_of_toJob {r : FullRow} {e : StoreError} (h : r.toJob = .error e) :
    e.Outside := by
  obtain ⟨_, rfl⟩ := toJob_eq_error_iff.mp h
  intro text hEq
  cases hEq

namespace Dialogue

variable {α : Type}

theorem raises_ask (stage : Stage) (s : Statement) {next : Response → Dialogue α}
    (h : ∀ r, (next r).Raises Outside) : (ask stage s next).Raises Outside :=
  ⟨fun text => stage.outside_error (.server text), h⟩

theorem raises_opening (o : Operation) (limit : Duration) {body : Dialogue α}
    (h : body.Raises Outside) : (opening o limit body).Raises Outside :=
  raises_ask _ _ fun _ => raises_ask _ _ fun _ => h

theorem raises_changing (o : Operation) (limit : Duration) (part : String) (s : Statement) :
    (changing o limit part s).Raises Outside :=
  raises_opening o limit (raises_ask _ _ fun _ => raises_ask _ _ fun _ => trivial)

theorem raises_claimCommitted (plan : ClaimPlan) (rows : List FullRow) :
    (claimCommitted plan rows).Raises Outside := by
  apply raises_ask
  intro _
  simp only [Raises]
  cases hJobs : rows.mapM FullRow.toJob with
  | ok jobs => trivial
  | error e =>
    obtain ⟨row, _, hRow⟩ := mapM_eq_error hJobs
    exact FullRow.outside_of_toJob hRow

theorem raises_claimMarked (plan : ClaimPlan) (now : Instant) :
    (claimMarked plan now (claimCommitted plan)).Raises Outside := by
  rw [claimMarked]
  split
  · exact raises_claimCommitted plan []
  · apply raises_ask
    intro r
    exact raises_decoding (Stage.outside_error _) (raises_claimCommitted plan)

theorem raises_claiming (limit : Duration) (now : Instant) (ids : List String) (ceiling : UInt32) :
    (claiming limit now ids ceiling).Raises Outside := by
  apply raises_opening
  apply raises_ask
  intro r
  apply raises_decoding (Stage.outside_error _)
  intro locked
  rw [claimPlanned]
  split
  · exact raises_ask _ _ fun _ => trivial
  · rw [claimExhausted]
    split
    · exact raises_claimMarked _ now
    · exact raises_ask _ _ fun _ => raises_claimMarked _ now

theorem sent_opening (o : Operation) (limit : Duration) (body : Dialogue α) (isOpen : Bool)
    (replies : List Reply) : ((opening o limit body).run isOpen replies).sent ≠ [] := by
  rw [opening, run]
  split <;> exact List.cons_ne_nil _ _

end Dialogue

section

variable {α : Type} {affected : α → Nat} {finish : α → BatchResult × List Signal}

theorem sent_bounded (o : Operation) (limit : Duration) (size : Nat) (d : Dialogue α)
    (replies : List Reply) :
    (bounded o limit size affected finish d replies).sent = (d.run false replies).sent := by
  rw [bounded]
  cases (d.run false replies).ending <;> rfl

theorem outside_bounded (o : Operation) (limit : Duration) (size : Nat) {d : Dialogue α}
    (hd : d.Raises Outside) (replies : List Reply) {e : StoreError}
    (h : (bounded o limit size affected finish d replies).result = some (.error e)) :
    e.Outside := by
  rw [bounded] at h
  cases hEnding : (d.run false replies).ending with
  | finished a =>
    rw [hEnding] at h
    cases h
  | refused e' =>
    rw [hEnding] at h
    cases h
    exact hd.of_run hEnding
  | unanswered =>
    rw [hEnding] at h
    cases h
    intro text hEq
    cases hEq

end

variable {options : StoreOptions} {now : Instant} {b : Batch} {replies : List Reply}

theorem outside_exchange {requested : Nat} {e : StoreError}
    (h : (exchange options now requested b replies).result = some (.error e)) : e.Outside := by
  cases b with
  | claim ids ceiling => exact outside_bounded _ _ _ (Dialogue.raises_claiming _ _ _ _) replies h
  | insert | complete | fail | retry =>
    exact outside_bounded _ _ _ (Dialogue.raises_changing _ _ _ _) replies h

theorem sent_exchange (requested : Nat) :
    (exchange options now requested b replies).sent ≠ [] := by
  cases b <;>
    · rw [exchange, sent_bounded]
      exact Dialogue.sent_opening _ _ _ _ _

theorem perform_of_size_eq_zero (h : b.size = 0) :
    perform options now b replies = .unsent (.ok b.emptyResult) := by
  rw [perform, if_pos h]

theorem perform_of_fault {f : BatchFault} (h : b.fault? = some f) :
    perform options now b replies = .unsent (.error f.toError) := by
  have hSize : b.size ≠ 0 := by
    intro hZero
    rw [Batch.fault?_of_size_eq_zero hZero] at h
    cases h
  rw [perform, if_neg hSize, h]

theorem perform_of_accepted (hSize : b.size ≠ 0) (h : b.fault? = none) :
    perform options now b replies = exchange options now b.size b.normalize replies := by
  rw [perform, if_neg hSize, h]

theorem validation_iff {text : String} :
    (perform options now b replies).result = some (.error (.validation text)) ↔
      ∃ f, b.FirstFault f ∧ text = f.message := by
  constructor
  · intro h
    cases hFault : b.fault? with
    | some f =>
      rw [perform_of_fault hFault] at h
      cases h
      exact ⟨f, Batch.fault?_eq_some_iff.mp hFault, rfl⟩
    | none =>
      by_cases hSize : b.size = 0
      · rw [perform_of_size_eq_zero hSize] at h
        cases h
      · rw [perform_of_accepted hSize hFault] at h
        exact absurd rfl (outside_exchange h text)
  · rintro ⟨f, hFirst, rfl⟩
    rw [perform_of_fault (Batch.fault?_eq_some_iff.mpr hFirst)]
    rfl

theorem sent_eq_nil_iff :
    (perform options now b replies).sent = [] ↔ b.Malformed ∨ b.size = 0 := by
  cases hFault : b.fault? with
  | some f =>
    rw [perform_of_fault hFault]
    exact iff_of_true rfl (Or.inl (Batch.malformed_iff_exists_fault?.mpr ⟨f, hFault⟩))
  | none =>
    have hFormed : ¬b.Malformed := Batch.not_malformed_iff.mpr hFault
    by_cases hSize : b.size = 0
    · rw [perform_of_size_eq_zero hSize]
      exact iff_of_true rfl (Or.inr hSize)
    · rw [perform_of_accepted hSize hFault]
      exact iff_of_false (sent_exchange b.size) (not_or.mpr ⟨hFormed, hSize⟩)

end Sql

namespace Store

theorem perform_eq_error_iff {s : Store} {now : Instant} {b : Batch} {f : BatchFault} :
    (s.perform now b).result = .error f ↔ b.FirstFault f := by
  rw [← Batch.fault?_eq_some_iff]
  cases hFault : b.fault? with
  | some g =>
    rw [s.perform_of_fault now hFault]
    simp
  | none =>
    by_cases hSize : b.size = 0
    · rw [s.perform_of_size_eq_zero now hSize]
      simp
    · rw [s.perform_of_accepted now hSize hFault]
      simp [Effect.map]

theorem step_signals_of_refused {s : Store} {c : Call} (h : c.batch.Malformed ∨ c.batch.size = 0) :
    s.step c = s ∧ s.signals c = [] := by
  rcases h with hMalformed | hSize
  · obtain ⟨f, hFault⟩ := Batch.malformed_iff_exists_fault?.mp hMalformed
    exact ⟨s.after_of_fault c.now hFault, s.signals_of_fault hFault⟩
  · rw [step, after, signals, s.perform_of_size_eq_zero c.now hSize]
    exact ⟨rfl, rfl⟩

end Store

namespace Sql

/-- Exactly the malformed batches are refused, by both stores with the error of the first fault, and
they leave no trace: the memory stays as it is, no signal is given, and nothing is sent to the
database. A batch of no items is answered without a trace as well. -/
theorem malformed_batches_refused (b : Batch) (now : Instant) :
    (b.Malformed ↔ ∃ f, b.FirstFault f) ∧
    (∀ s : Store, (∀ f, (s.perform now b).result = .error f ↔ b.FirstFault f) ∧
      (¬b.Malformed → ∃ r, (s.perform now b).result = .ok r) ∧
      (∀ f, b.FirstFault f → s.perform now b = ⟨.error f, s, []⟩) ∧
      (b.Malformed ∨ b.size = 0 → s.step ⟨now, b⟩ = s ∧ s.signals ⟨now, b⟩ = []) ∧
      (b.size = 0 → s.perform now b = ⟨.ok b.emptyResult, s, []⟩)) ∧
    ∀ (options : StoreOptions) (replies : List Reply),
      (∀ text, (perform options now b replies).result = some (.error (.validation text)) ↔
        ∃ f, b.FirstFault f ∧ text = f.message) ∧
      (∀ f, b.FirstFault f → perform options now b replies = ⟨some (.error f.toError), [], []⟩) ∧
      ((perform options now b replies).sent = [] ↔ b.Malformed ∨ b.size = 0) ∧
      (b.size = 0 → perform options now b replies = ⟨some (.ok b.emptyResult), [], []⟩) := by
  refine ⟨?_, ?_, ?_⟩
  · simp only [Batch.malformed_iff_exists_fault?, Batch.fault?_eq_some_iff]
  · intro s
    refine ⟨fun f => Store.perform_eq_error_iff, fun hFormed => ?_, fun f hFirst => ?_,
      fun hRefused => Store.step_signals_of_refused hRefused, s.perform_of_size_eq_zero now⟩
    · exact ⟨_, s.resultOf_of_accepted (c := ⟨now, b⟩) (Batch.not_malformed_iff.mp hFormed)⟩
    · exact s.perform_of_fault now (Batch.fault?_eq_some_iff.mpr hFirst)
  · intro options replies
    refine ⟨fun text => validation_iff, ?_, sent_eq_nil_iff, perform_of_size_eq_zero⟩
    intro f hFirst
    exact perform_of_fault (Batch.fault?_eq_some_iff.mpr hFirst)

/-- The height of the second item comes first: the repeated and the blank id stand after it. -/
theorem malformed_batches_refused_outOfRange :
    let b : Batch := .complete [⟨"a", "t", "c", 7⟩, ⟨"b", "t", "c", 9223372036854775808⟩,
      ⟨"a", "t", "c", 7⟩, ⟨"\u00A0", "t", "c", 7⟩]
    let f : BatchFault := .heightOutOfRange "b" 9223372036854775808
    b.FirstFault f ∧ (Store.empty.run twoAttempts).perform newYear b =
        ⟨.error f, Store.empty.run twoAttempts, []⟩ ∧
      (Store.empty.run twoAttempts).step ⟨newYear, b⟩ = Store.empty.run twoAttempts ∧
      perform .default newYear b [.done 1] = ⟨some (.error f.toError), [], []⟩ := by
  intro b f
  obtain ⟨hMalformed, hMemory, hDatabase⟩ := malformed_batches_refused b newYear
  have hFirst : b.FirstFault f := Batch.fault?_eq_some_iff.mp (by decide)
  obtain ⟨_, _, hKept, hTrace, _⟩ := hMemory (Store.empty.run twoAttempts)
  obtain ⟨_, hRefused, _⟩ := hDatabase .default [.done 1]
  exact ⟨hFirst, hKept f hFirst, (hTrace (Or.inl (hMalformed.mpr ⟨f, hFirst⟩))).1,
    hRefused f hFirst⟩

end Sql

end AnchorQueue
