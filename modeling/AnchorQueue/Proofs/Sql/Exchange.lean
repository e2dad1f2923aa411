import AnchorQueue.Proofs.Sql.Claiming
import AnchorQueue.Proofs.Sql.Refusal
import AnchorQueue.Proofs.Store.Attempts

/-!
# Batches on both stores

A batch that the server serves has the answer that the batch on the mirrored store has, the counters
go up alike, and the table is a mirror of the store afterwards.
-/

namespace AnchorQueue

open AnchorQueue.Time (Duration Instant)

/-- The same report, or the same jobs under the same ids. -/
def BatchResult.Same : BatchResult → BatchResult → Prop
  | report r, report r' => r = r'
  | claimed jobs, claimed jobs' => (jobs'.map Prod.fst).Nodup ∧ jobs.Perm jobs'
  | _, _ => False

namespace Signal

theorem counts_append (xs ys : List Signal) : counts (xs ++ ys) = counts xs ++ counts ys :=
  List.filterMap_append

theorem totals_eq_of_counts_eq {xs ys : List Signal} (h : counts xs = counts ys) :
    totals xs = totals ys := by
  simp only [totals, total, h]

end Signal

namespace Sql

open Signal (counts)

variable {α β : Type} {now : Instant} {t : Table} {s : Store}

/-- The exchange can be served from the table, and however it is served, it has a result, signals
and a committed table that satisfy `P`. -/
def Attains (now : Instant) (t : Table) (exchange : List Reply → Exchange α)
    (P : Except StoreError α → List Signal → Table → Prop) : Prop :=
  (∃ replies server, Server.Serves now ⟨t, none⟩ (exchange replies).sent replies server) ∧
    ∀ replies server, Server.Serves now ⟨t, none⟩ (exchange replies).sent replies server →
      ∃ result t', server = ⟨t', none⟩ ∧ (exchange replies).result = some result ∧
        P result (exchange replies).signals t'

theorem attains_unsent {result : Except StoreError α}
    {P : Except StoreError α → List Signal → Table → Prop} (h : P result [] t) :
    Attains now t (fun _ => .unsent result) P := by
  refine ⟨⟨[], ⟨t, none⟩, .nil _⟩, ?_⟩
  intro replies server hServes
  cases hServes
  exact ⟨result, t, rfl, rfl, h⟩

theorem attains_of_ensures {d : Dialogue α} {exchange : List Reply → Exchange β}
    {Q : List Signal → Except StoreError α → Table → Prop}
    {P : Except StoreError β → List Signal → Table → Prop} (h : d.Ensures now Q ⟨t, none⟩)
    (hSent : ∀ replies, (exchange replies).sent = (d.run false replies).sent)
    (hEnd : ∀ replies result t', (d.run false replies).ending = Ending.ofResult result →
      Q (d.run false replies).signals result t' →
      ∃ answer, (exchange replies).result = some answer ∧
        P answer (exchange replies).signals t') :
    Attains now t exchange P := by
  constructor
  · obtain ⟨replies, server, hServes⟩ := h.exists_serves
    exact ⟨replies, server, by rwa [hSent]⟩
  · intro replies server hServes
    rw [hSent] at hServes
    obtain ⟨result, t', rfl, hEnding, hQ⟩ := h.of_serves hServes
    obtain ⟨answer, hResult, hP⟩ := hEnd replies result t' hEnding hQ
    exact ⟨answer, t', rfl, hResult, hP⟩

theorem attains_unbounded {d : Dialogue α} {P : Except StoreError α → List Signal → Table → Prop}
    (h : d.Ensures now (fun signals result => P result signals) ⟨t, none⟩) :
    Attains now t (unbounded d) P := by
  apply attains_of_ensures h
  · intro replies
    rw [unbounded]
    cases (d.run false replies).ending <;> rfl
  · intro replies result t' hEnding hP
    rw [unbounded, hEnding]
    cases result <;> exact ⟨_, rfl, hP⟩

theorem attains_bounded {o : Operation} {limit : Duration} {size : Nat} {affected : α → Nat}
    {finish : α → BatchResult × List Signal} {d : Dialogue α}
    {P : Except StoreError BatchResult → List Signal → Table → Prop}
    (h : d.Ensures now (fun signals result t' => ∃ a, result = .ok a ∧
      P (.ok (finish a).1)
        (signals ++ [.timed o, .span ⟨o, size, some (affected a)⟩] ++ (finish a).2) t')
      ⟨t, none⟩) :
    Attains now t (bounded o limit size affected finish d) P := by
  apply attains_of_ensures h
  · exact sent_bounded o limit size d
  · rintro replies result t' hEnding ⟨a, rfl, hP⟩
    rw [bounded, hEnding]
    exact ⟨_, rfl, hP⟩

/-- The answer, the counters and the table after a batch agree with its effect on the store. -/
def AgreesWith (e : Effect BatchResult) (result : Except StoreError BatchResult)
    (signals : List Signal) (t' : Table) : Prop :=
  (∃ r, result = .ok r ∧ r.Same e.result) ∧ counts signals = counts e.signals ∧
    t'.Mirrors e.store

theorem attains_changing {o : Operation} {limit : Duration} {size n : Nat} {part : String}
    {statement : Statement} {c : Command} {finish : Nat → BatchResult × List Signal}
    {e : Effect BatchResult}
    (hCommand : statement.command? = some c)
    (hStatement : (∃ r t', t.Executes now c statement.params r t') ∧
      ∀ r t', t.Executes now c statement.params r t' → r = .done n ∧ t'.Mirrors e.store)
    (hResult : (finish n).1 = e.result) (hReport : ∃ r, e.result = .report r)
    (hSignals : counts (finish n).2 = counts e.signals) :
    Attains now t (bounded o limit size id finish (changing o limit part statement))
      (AgreesWith e) := by
  apply attains_bounded
  apply Dialogue.ensures_changing _ _ _ hCommand hStatement.1
  intro r t' hExecutes
  obtain ⟨rfl, hMirrors⟩ := hStatement.2 r t' hExecutes
  refine ⟨n, rfl, n, rfl, ⟨_, rfl, ?_⟩, ?_, hMirrors⟩
  · obtain ⟨r, hr⟩ := hReport
    rw [hResult, hr]
    rfl
  · rw [Signal.counts_append, hSignals]
    rfl

theorem attains_insert (h : t.Mirrors s) (limit : Duration) (size requested : Nat)
    (submissions : List Submission) :
    Attains now t (bounded .insert limit size id (finishInsert requested)
      (changing .insert limit "execute" (.insert submissions)))
      (AgreesWith (s.insert now requested submissions)) := by
  apply attains_changing rfl (h.insert now submissions) rfl ⟨_, rfl⟩
  rw [finishInsert, Signal.counts_append]
  split <;> rfl

/-- A transaction of one update, which does to the rows what the actions do to the jobs. -/
theorem attains_report (h : t.Mirrors s) {o : Operation} {target : Status} {limit : Duration}
    {size : Nat} (statement : Statement) {c : Command} {f₀ : FullRow → Option FullRow}
    {actions : List (String × Action)} (hCommand : statement.command? = some c)
    (hRewrites : c.Rewrites statement.params f₀) (hSilent : c.isReturning = false)
    (hRoom : c = .requeue → s.Roomy) (hNodup : (actions.map Prod.fst).Nodup)
    (hf : ∀ f, c.Rewrites statement.params f → Table.Performs f s actions)
    (hSize : actions.length = size) :
    Attains now t (bounded o limit size id (finishReport o target size)
      (changing o limit "update" statement)) (AgreesWith (s.report o target actions)) := by
  subst hSize
  exact attains_changing hCommand (h.update now hRewrites hSilent hRoom hNodup hf) rfl ⟨_, rfl⟩ rfl

theorem attains_claim (h : t.Mirrors s) {ids : List String} (hNodup : ids.Nodup)
    (limit : Duration) (size : Nat) (ceiling : UInt32) :
    Attains now t (bounded .claim limit size List.length (fun jobs => (.claimed jobs, []))
      (claiming limit now ids ceiling)) (AgreesWith (s.claim now ids ceiling)) := by
  apply attains_bounded
  refine (Dialogue.ensures_claiming h hNodup limit ceiling).mono ?_
  rintro signals result t' ⟨jobs, rfl, hJobs, rfl, hMirrors⟩
  refine ⟨jobs, rfl, ⟨_, rfl, s.nodup_keys_claimed now ceiling hNodup, hJobs⟩, ?_, hMirrors⟩
  rw [List.append_nil, Signal.counts_append]
  exact List.append_nil _

theorem attains_exchange (options : StoreOptions) (h : t.Mirrors s) {b : Batch}
    (hFault : b.fault? = none) (hRoom : s.Roomy) :
    Attains now t (exchange options now b.size b.normalize)
      (AgreesWith (s.effect now b.size b.normalize)) := by
  have hNodup := Batch.nodup_requestIds_normalize hFault
  cases b with
  | insert submissions => exact attains_insert h _ _ _ _
  | claim ids ceiling => exact attains_claim h hNodup _ _ ceiling
  | complete anchorings =>
    have hRead := recordset_encode Json.write_anchoring anchorings
    have hHeights : ∀ a ∈ anchorings, a.blockHeight.toNat ≤ Batch.greatestHeight :=
      fun _ => Batch.height_le_of_anchoring hFault
    obtain ⟨join, hJoin⟩ := exists_joins (anchorings.map Json.anchoringForm)
    apply attains_report h (.complete anchorings now) rfl
      (.complete now hRead (isSome_bigint_of_le hHeights) hJoin) rfl nofun
    · rwa [Store.keys_map]
    · exact fun _ => Table.performs_complete h hNodup hHeights
    · exact List.length_map _
  | fail failures =>
    have hRead := recordset_encode Json.write_failure failures
    obtain ⟨join, hJoin⟩ := exists_joins (failures.map Json.failureForm)
    apply attains_report h (.fail failures now) rfl (.fail now hRead hJoin) rfl nofun
    · rwa [Store.keys_map]
    · exact fun _ => Table.performs_fail h hNodup
    · exact List.length_map _
  | retry ids lastError =>
    apply attains_report h (.requeue lastError (Batch.distinct _ ids)) rfl
      (.requeue lastError _) rfl fun _ => hRoom
    · rwa [Store.keys_map_const]
    · exact fun _ => Table.performs_requeue h
    · exact List.length_map _

end Sql

end AnchorQueue
