import AnchorQueue.Proofs.Json.Schema
import AnchorQueue.Proofs.Sql.Transaction

/-!
# Documents

Inserts, completions and failures travel as one document each. Whatever the database replies, every
document that it was sent is read as the items that were handed in, in their order; and a batch
that succeeds did send one, if it had any items.
-/

namespace AnchorQueue.Sql

open AnchorQueue.Json (Codec decode encode)
open AnchorQueue.Time (Duration Instant)

/-- Every document that was sent for the batch is read as the value, and a success did send one. -/
structure Carries {α : Type} (c : Codec α) (a : α) (b : Batch) (e : Exchange BatchResult) : Prop
    where
  decoded : ∀ s ∈ e.sent, ∀ json, .document json ∈ s.params → decode c json = .ok a
  sent_of_succeeded : b.size ≠ 0 → e.Succeeded → ∃ s ∈ e.sent, ∃ json, .document json ∈ s.params
  unsent_of_empty : b.size = 0 → e.sent = []

section

variable {α : Type} {c : Codec α} {a : α} {o : Operation} {limit : Duration} {lines : List Line}
  {replies : List Reply} {e : Exchange BatchResult} {b b₀ : Batch} {l : Line}

theorem carries_unsent (c : Codec α) (a : α) {result : Except StoreError BatchResult}
    (h : ∀ r, result = .ok r → b.size = 0) : Carries c a b (.unsent result) where
  decoded _ hs := absurd hs List.not_mem_nil
  sent_of_succeeded hSize hSucceeded := by
    obtain ⟨r, hr⟩ := hSucceeded
    exact absurd (h r (Option.some.inj hr)) hSize
  unsent_of_empty _ := rfl

theorem Disciplined.mem_sent (h : Disciplined o limit lines replies e) {s : Statement}
    (hs : s ∈ e.sent) : s = .rollback ∨ s ∈ lines.map Line.statement := by
  by_cases hSucceeded : e.Succeeded
  · rw [h.sent_of_succeeded hSucceeded] at hs
    exact Or.inr hs
  · obtain ⟨i, _, _, _, hSent⟩ := h.sent_of_not_succeeded hSucceeded
    rw [hSent] at hs
    rcases List.mem_append.mp hs with hLine | hLast
    · exact Or.inr (List.map_subset _ (List.take_subset _ _) hLine)
    · split at hLast
      · exact Or.inl (List.mem_singleton.mp hLast)
      · cases hLast

/-- Of the statements of a batch with a single one of its own, only this one has a document. -/
theorem Disciplined.carries (options : StoreOptions) (now : Instant)
    (hOwn : ownLines now [] b = [l])
    (hDocument : ∀ json, .document json ∈ l.statement.params ↔ json = encode c a)
    (hc : c.Lawful) (h : Disciplined o limit (script options now [] b) replies e)
    (hSize : b₀.size ≠ 0) : Carries c a b₀ e where
  decoded s hs json hJson := by
    have hStatement : s = l.statement := by
      rcases h.mem_sent hs with rfl | hLine
      · cases hJson
      · simp only [script, uncommitted, hOwn, List.cons_append, List.nil_append, List.map_cons,
          List.map_nil, List.mem_cons, List.not_mem_nil, or_false] at hLine
        rcases hLine with rfl | rfl | rfl | rfl
        · cases hJson
        · cases List.mem_singleton.mp hJson
        · rfl
        · cases hJson
    rw [hStatement, hDocument] at hJson
    rw [hJson]
    exact hc.decode_encode a
  sent_of_succeeded _ hSucceeded := by
    refine ⟨l.statement, ?_, encode c a, (hDocument _).mpr rfl⟩
    rw [h.sent_of_succeeded hSucceeded, script, uncommitted, hOwn]
    simp
  unsent_of_empty hEmpty := absurd hEmpty hSize

theorem disciplined_exchange_of_ne_claim (options : StoreOptions) (now : Instant) (requested : Nat)
    (h : b.operation ≠ .claim) (replies : List Reply) :
    Disciplined b.operation (limitOf options b.operation) (script options now [] b) replies
      (exchange options now requested b replies) := by
  cases b with
  | claim ids ceiling => exact absurd rfl h
  | insert | complete | fail | retry =>
    rw [exchange]
    apply disciplined_of_plays
    exact Dialogue.plays_changing _ _ _ replies (fun _ => rfl) rfl

theorem carries_perform (options : StoreOptions) (now : Instant) (hClaim : b.operation ≠ .claim)
    (hOwn : ownLines now [] b.normalize = [l])
    (hDocument : ∀ json, .document json ∈ l.statement.params ↔ json = encode c a)
    (hc : c.Lawful) (replies : List Reply) :
    Carries c a b (perform options now b replies) := by
  by_cases hSize : b.size = 0
  · rw [perform_of_size_eq_zero hSize]
    exact carries_unsent c a fun _ _ => hSize
  · cases hFault : b.fault? with
    | some f =>
      rw [perform_of_fault hFault]
      exact carries_unsent c a nofun
    | none =>
      rw [perform_of_accepted hSize hFault]
      rw [← b.operation_normalize] at hClaim
      exact (disciplined_exchange_of_ne_claim options now b.size hClaim replies).carries options
        now hOwn hDocument hc hSize

end

/-- Everything that is written is read back: jobs with null for what is unset, views without what is
unset, and from the document of a batch its very items, which for an insert are those without the
repetitions. Beside it stand the forms in which all of this is written. -/
theorem written_values_read_back :
    ((∀ j, decode Json.job (encode Json.job j) = .ok j) ∧
      (∀ s, decode Codec.status (encode Codec.status s) = .ok s) ∧
      (∀ x, decode Json.submission (encode Json.submission x) = .ok x) ∧
      (∀ a, decode Json.anchoring (encode Json.anchoring a) = .ok a) ∧
      (∀ f, decode Json.failure (encode Json.failure f) = .ok f) ∧
      (∀ v, decode Json.view (encode Json.view v) = .ok v) ∧
      (∀ r, decode Json.ledgerRecord (encode Json.ledgerRecord r) = .ok r) ∧
      ∀ p, decode Json.payload (encode Json.payload p) = .ok p) ∧
    (∀ j, Json.job.write j = Json.jobForm j) ∧
    (∀ v, Json.view.write v = Json.viewForm v) ∧
    ((∀ x, Json.submission.write x = Codec.object.write (Json.submissionForm x)) ∧
      (∀ a, Json.anchoring.write a = Codec.object.write (Json.anchoringForm a)) ∧
      (∀ f, Json.failure.write f = Codec.object.write (Json.failureForm f)) ∧
      (∀ r, Json.ledgerRecord.write r = Codec.object.write (Json.ledgerRecordForm r)) ∧
      ∀ p, Json.payload.write p = Codec.object.write (Json.payloadForm p)) ∧
    ∀ options now replies,
      (∀ submissions, Carries Json.submission.list
        (Batch.distinct Submission.requestId submissions) (.insert submissions)
        (perform options now (.insert submissions) replies)) ∧
      (∀ anchorings, Carries Json.anchoring.list anchorings (.complete anchorings)
        (perform options now (.complete anchorings) replies)) ∧
      ∀ failures, Carries Json.failure.list failures (.fail failures)
        (perform options now (.fail failures) replies) := by
  refine ⟨⟨Json.job_lawful.decode_encode, Codec.Lawful.status.decode_encode,
    Json.submission_lawful.decode_encode, Json.anchoring_lawful.decode_encode,
    Json.failure_lawful.decode_encode, Json.view_lawful.decode_encode,
    Json.ledgerRecord_lawful.decode_encode, Json.payload_lawful.decode_encode⟩,
    Json.write_job, Json.write_view,
    ⟨Json.write_submission, Json.write_anchoring, Json.write_failure, Json.write_ledgerRecord,
      Json.write_payload⟩, fun options now replies => ⟨?_, ?_, ?_⟩⟩
  · intro submissions
    refine carries_perform options now (by simp [Batch.operation]) rfl (fun json => ?_)
      (Json.submission_lawful.list Json.Record.solid) replies
    simp [Line.of, Statement.params]
  · intro anchorings
    refine carries_perform options now (by simp [Batch.operation]) rfl (fun json => ?_)
      (Json.anchoring_lawful.list Json.Record.solid) replies
    simp [Line.of, Statement.params]
  · intro failures
    refine carries_perform options now (by simp [Batch.operation]) rfl (fun json => ?_)
      (Json.failure_lawful.list Json.Record.solid) replies
    simp [Line.of, Statement.params]

end AnchorQueue.Sql
