import AnchorQueue.Proofs.Store.Accounts
import Mathlib.Data.List.Nodup

/-!
# What the counters tell of a call

A call counts under its own operation only, and the counter of the operation goes up by as many jobs
as the answer says were affected. Together with the accounts of the store this fixes the counters:
two runs of one operation that start from one store and end with the same jobs have counted the
same.
-/

namespace AnchorQueue

/-- The operation that a counter belongs to. -/
def Counter.operation? : Counter → Option Operation
  | inserted => some .insert
  | duplicate => some .insert
  | moved source target => source.operation? target
  | mismatch operation => some operation

/-- What counts the jobs that the operation affects. -/
def Operation.counter : Operation → Counter
  | insert => .inserted
  | claim => .moved .received .processing
  | complete => .moved .processing .completed
  | fail => .moved .processing .failed
  | retry => .moved .processing .received

def BatchResult.affected : BatchResult → Nat
  | report r => r.affected
  | claimed jobs => jobs.length

namespace Store

open AnchorQueue.Time (Instant)
open Signal (total)

theorem total_report_eq_zero (s : Store) {k : Counter} {operation : Operation} {target : Status}
    (h : Status.processing.operation? target = some operation)
    (hOther : k.operation? ≠ some operation) (actions : List (String × Action)) :
    total k (s.report operation target actions).signals = 0 := by
  have hMoved : k ≠ .moved .processing target := by
    rintro rfl
    exact hOther h
  have hMismatch : k ≠ .mismatch operation := by
    rintro rfl
    exact hOther rfl
  rw [total_report, if_neg hMoved, if_neg (fun hBoth => hMismatch hBoth.1)]

theorem total_effect_eq_zero (s : Store) (now : Instant) (requested : Nat) {b : Batch} {k : Counter}
    (h : k.operation? ≠ some b.operation) : total k (s.effect now requested b).signals = 0 := by
  cases b with
  | insert submissions =>
    have hInserted : .inserted ≠ k := by
      rintro rfl
      exact h rfl
    have hDuplicate : .duplicate ≠ k := by
      rintro rfl
      exact h rfl
    rw [effect, total_insert, if_neg hInserted, if_neg hDuplicate]
  | claim ids ceiling =>
    have hFailed : k ≠ .moved .received .failed := by
      rintro rfl
      exact h rfl
    have hStarted : k ≠ .moved .received .processing := by
      rintro rfl
      exact h rfl
    rw [effect, total_claim, if_neg hFailed, if_neg hStarted]
  | complete anchorings => exact s.total_report_eq_zero rfl h _
  | fail failures => exact s.total_report_eq_zero rfl h _
  | retry ids lastError => exact s.total_report_eq_zero rfl h _

theorem total_signals_eq_zero (s : Store) {c : Call} {k : Counter}
    (h : k.operation? ≠ some c.batch.operation) : total k (s.signals c) = 0 := by
  rcases s.signals_step_cases c with ⟨hSignals, _⟩ | ⟨_, hSignals, _⟩
  · rw [hSignals, Signal.total_nil]
  · rw [hSignals]
    exact s.total_effect_eq_zero _ _ (by rwa [Batch.operation_normalize])

theorem total_runSignals_eq_zero (s : Store) {calls : List Call} {k : Counter}
    (h : ∀ c ∈ calls, k.operation? ≠ some c.batch.operation) :
    total k (s.runSignals calls) = 0 := by
  induction calls generalizing s with
  | nil => rfl
  | cons c calls ih =>
    rw [runSignals, Signal.total_append, s.total_signals_eq_zero (h c List.mem_cons_self),
      ih _ fun d hd => h d (List.mem_cons_of_mem c hd)]

theorem total_counter_report (s : Store) {operation : Operation} {target : Status}
    (h : operation.counter = .moved .processing target) (actions : List (String × Action)) :
    total operation.counter (s.report operation target actions).signals =
      (s.report operation target actions).result.affected := by
  rw [h, total_report, if_pos rfl, if_neg (by simp)]
  rfl

theorem total_counter_effect (s : Store) (now : Instant) (requested : Nat) (b : Batch) :
    total b.operation.counter (s.effect now requested b).signals =
      (s.effect now requested b).result.affected := by
  cases b with
  | insert submissions => exact s.total_insert .inserted now requested submissions
  | claim ids ceiling =>
    exact (s.total_claim (.moved .received .processing) now ids ceiling).trans (Nat.zero_add _)
  | complete anchorings => exact s.total_counter_report rfl _
  | fail failures => exact s.total_counter_report rfl _
  | retry ids lastError => exact s.total_counter_report rfl _

theorem total_counter_signals (s : Store) {c : Call} {r : BatchResult}
    (h : s.resultOf c = .ok r) : total c.batch.operation.counter (s.signals c) = r.affected := by
  obtain ⟨now, b⟩ := c
  cases hFault : b.fault? with
  | some f =>
    rw [resultOf, s.perform_of_fault now hFault] at h
    cases h
  | none =>
    rw [s.resultOf_of_accepted hFault] at h
    cases h
    rw [s.total_signals_of_accepted hFault, ← b.operation_normalize]
    exact s.total_counter_effect now b.size b.normalize

theorem sum_eq_of_get?_eq {s t : Store} (h : ∀ id, s.get? id = t.get? id) (f : Job → Nat) :
    s.sum f = t.sum f := by
  have hEntries : s.jobs.entries.Perm t.jobs.entries := by
    refine (List.perm_ext_iff_of_nodup (List.Nodup.of_map Prod.fst s.jobs.nodup_keys)
      (List.Nodup.of_map Prod.fst t.jobs.nodup_keys)).mpr ?_
    rintro ⟨id, j⟩
    rw [← Roster.get?_eq_some_iff, ← Roster.get?_eq_some_iff]
    exact iff_of_eq (congrArg (· = some j) (h id))
  exact ((hEntries.map Prod.snd).map f).sum_nat

/-- What the calls of one operation have counted can be read off the jobs that they end with. -/
theorem Sound.total_eq_of_get?_eq {s : Store} (hs : s.Sound) {xs ys : List Call} {o : Operation}
    (hx : ∀ c ∈ xs, c.batch.operation = o) (hy : ∀ c ∈ ys, c.batch.operation = o)
    (hSame : ∀ id, (s.run xs).get? id = (s.run ys).get? id) {k : Counter}
    (hk : k = .inserted ∨ ∃ source target, k = .moved source target) :
    total k (s.runSignals xs) = total k (s.runSignals ys) := by
  have hForeign : ∀ {k : Counter}, k.operation? ≠ some o →
      total k (s.runSignals xs) = 0 ∧ total k (s.runSignals ys) = 0 := fun hk =>
    ⟨s.total_runSignals_eq_zero fun c hc => by rwa [hx c hc],
      s.total_runSignals_eq_zero fun c hc => by rwa [hy c hc]⟩
  have hBalance : ∀ {f entering lost gained}, Job.Weight f entering lost gained →
      Balances f entering lost gained s (s.runSignals xs) (s.run xs) ∧
      Balances f entering lost gained s (s.runSignals ys) (s.run xs) := by
    intro f entering lost gained hWeight
    refine ⟨hs.balances_run hWeight xs, ?_⟩
    have hLast := hs.balances_run hWeight ys
    rwa [Balances, ← sum_eq_of_get?_eq hSame f] at hLast
  have hStored := hBalance Job.weight_one
  have hStatus := fun status => hBalance (Job.weight_status status)
  have hReceived := hStatus .received
  have hProcessing := hStatus .processing
  have hCompleted := hStatus .completed
  have hFailed := hStatus .failed
  simp only [Balances, Signal.moves_eq, reduceCtorEq, if_true, if_false, Nat.one_mul,
    Nat.zero_mul, Nat.zero_add, Nat.add_zero]
    at hStored hReceived hProcessing hCompleted hFailed
  by_cases hOwn : k.operation? = some o
  · rcases hk with rfl | ⟨source, target, rfl⟩
    · omega
    · -- One status tells each edge, once the foreign edges at that status are known to be unused.
      cases source <;> cases target <;> cases hOwn
      · have hComplete := hForeign (k := .moved .processing .completed) (by decide)
        have hFail := hForeign (k := .moved .processing .failed) (by decide)
        have hBack := hForeign (k := .moved .processing .received) (by decide)
        omega
      · have hFail := hForeign (k := .moved .processing .failed) (by decide)
        omega
      · have hStart := hForeign (k := .moved .received .processing) (by decide)
        have hExhaust := hForeign (k := .moved .received .failed) (by decide)
        have hEnter := hForeign (k := .inserted) (by decide)
        omega
      · omega
      · have hExhaust := hForeign (k := .moved .received .failed) (by decide)
        omega
  · rw [(hForeign hOwn).1, (hForeign hOwn).2]

end Store

end AnchorQueue
