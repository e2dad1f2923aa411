import AnchorQueue.Proofs.Batch.Faults
import AnchorQueue.Proofs.Store.Accounts
import AnchorQueue.Proofs.Store.Repetition
import Mathlib.Data.Finset.Card

/-!
# What claims and reports do

A claim hands out the waiting jobs with retries left and fails the waiting jobs without. A report
gives every job in process that it names its own outcome. All other jobs stay as they are, and the
answer, the events and the counters say what was done.
-/

namespace AnchorQueue

open AnchorQueue.Time (Instant)

namespace Batch

/-- The batch reports what became of jobs in process. -/
def Reports (b : Batch) : Prop :=
  b.operation = .complete ∨ b.operation = .fail ∨ b.operation = .retry

theorem Reports.source?_eq {b : Batch} (h : b.Reports) :
    b.operation.source? = some .processing := by
  rcases h with h | h | h <;> rw [h] <;> rfl

/-- What an item of a report makes of the job in process that it names. -/
inductive Outcome (now : Instant) (j : Job) : Batch → String → Job → Prop
  | complete {anchorings : List Anchoring} {a : Anchoring} (ha : a ∈ anchorings) :
    Outcome now j (.complete anchorings) a.requestId { j with
      status := .completed
      txHash := some a.txHash
      chainHash := some a.chainHash
      blockHeight := some a.blockHeight
      errorMessage := none
      finishedAt := some now }
  | fail {failures : List Failure} {f : Failure} (hf : f ∈ failures) :
    Outcome now j (.fail failures) f.requestId { j with
      status := .failed
      errorMessage := some f.errorMessage
      finishedAt := some now }
  | retry {ids : List String} {lastError id : String} (hid : id ∈ ids) {n : UInt32}
    (hn : n.toNat = j.retries.toNat + 1) :
    Outcome now j (.retry ids lastError) id { j with
      status := .received
      retries := n
      errorMessage := some lastError
      startedAt := none }

/-- Where the ids of the items are distinct, a search by an id finds the very item. -/
theorem find?_eq_some_of_mem {α : Type} {key : α → String} {xs : List α}
    (hNodup : (xs.map key).Nodup) {x : α} (hx : x ∈ xs) :
    (xs.find? fun y => key y = key x) = some x := by
  obtain ⟨y, hy⟩ := exists_find?_of_mem_keys (List.mem_map_of_mem (f := key) hx)
  have hKey : key y = key x := by simpa using List.find?_some hy
  rwa [List.inj_on_of_nodup_map hNodup (List.mem_of_find?_eq_some hy) hx hKey] at hy

end Batch

namespace Signal

theorem events_ofReport (o : Operation) (r : BatchReport) :
    events (ofReport o r) = if r.isPartial then [.batchPartial o r] else [] := by
  rw [ofReport]
  split <;> rfl

end Signal

namespace Store

variable {s : Store}

open Signal (events total ofMoves ofReport)

/-- The effect of an empty batch would give no signal, except for an insert. -/
theorem signals_of_accepted (s : Store) {c : Call} (h : c.batch.fault? = none)
    (hInsert : c.batch.operation ≠ .insert) :
    s.signals c = (s.effect c.now c.batch.size c.batch.normalize).signals := by
  obtain ⟨now, b⟩ := c
  rw [signals]
  by_cases hSize : b.size = 0
  · rw [s.perform_of_size_eq_zero now hSize]
    cases b with
    | insert submissions => exact absurd rfl hInsert
    | claim | complete | fail | retry =>
      cases List.length_eq_zero_iff.mp hSize
      rfl
  · rw [s.perform_of_accepted now hSize h]
    rfl

/-- Jobs that a call does not name, or that do not have the status it works on, stay. -/
theorem get?_step_of_idle (s : Store) {c : Call} {status : Status}
    (hSource : c.batch.operation.source? = some status) {id : String}
    (hIdle : id ∈ c.batch.requestIds → ∀ j, s.get? id = some j → j.status ≠ status) :
    (s.step c).get? id = s.get? id := by
  by_cases hid : id ∈ c.batch.requestIds
  · rw [step]
    cases hFault : c.batch.fault? with
    | some f => rw [s.after_of_fault c.now hFault]
    | none =>
      rw [s.get?_after c.now hFault]
      apply Batch.stepOn_of_settled
      rw [Operation.Settled, hSource]
      intro hStored
      obtain ⟨j, hj, hStatus⟩ := Option.map_eq_some_iff.mp hStored
      exact hIdle hid j hj hStatus
  · exact s.get?_step_of_not_mem hid

theorem get?_step_of_act (s : Store) {c : Call} (h : c.batch.fault? = none) {id : String}
    {j k : Job} {a : Action} (hj : s.get? id = some j)
    (ha : c.batch.actionOn c.now id j = some a) (hAct : j.act? a = some k) :
    (s.step c).get? id = some k := by
  rw [step, s.get?_after c.now h, hj, Batch.stepOn, ha, Option.elim_some,
    Job.act_of_act?_eq_some hAct]

/-! ## Claims -/

/-- The waiting jobs that a claim finds at the ceiling. -/
def atCeiling (s : Store) (ids : List String) (ceiling : UInt32) : Finset String :=
  ids.toFinset.filter fun id => ∃ j ∈ s.get? id, j.status = .received ∧ ceiling ≤ j.retries

/-- What a claim hands out, and what it does to the store. -/
structure ClaimEffect (s : Store) (now : Instant) (ids : List String) (ceiling : UInt32)
    (claimed : List (String × Job)) (s' : Store) : Prop where
  nodup_keys : (claimed.map Prod.fst).Nodup
  mem_keys_iff : ∀ id, id ∈ claimed.map Prod.fst ↔
    id ∈ ids ∧ ∃ j, s.get? id = some j ∧ j.status = .received ∧ j.retries < ceiling
  started : ∀ id k, (id, k) ∈ claimed → s'.get? id = some k ∧
    ∃ j, s.get? id = some j ∧ k = { j with status := .processing, startedAt := some now }
  exhausted : ∀ id ∈ ids, ∀ j, s.get? id = some j → j.status = .received →
    ceiling ≤ j.retries → id ∉ claimed.map Prod.fst ∧
      s'.get? id = some { j with
        status := .failed
        errorMessage := some (exhaustedMessage ceiling)
        finishedAt := some now }
  others : ∀ id, (id ∈ ids → ∀ j, s.get? id = some j → j.status ≠ .received) →
    s'.get? id = s.get? id

theorem claimEffect (s : Store) (now : Instant) {ids : List String} {ceiling : UInt32}
    (h : (Batch.claim ids ceiling).fault? = none) :
    s.ClaimEffect now ids ceiling (s.claimed now (Batch.distinct id ids) ceiling)
      (s.step ⟨now, .claim ids ceiling⟩) := by
  have hKeys : ∀ k, k ∈ (s.claimed now (Batch.distinct id ids) ceiling).map Prod.fst ↔
      k ∈ ids ∧ ∃ j, s.get? k = some j ∧ j.status = .received ∧ j.retries < ceiling := by
    intro k
    rw [← s.handedOut_claim now h]
    exact s.mem_handedOut_claim_iff now h
  constructor
  · exact s.nodup_keys_claimed now ceiling (Batch.nodup_distinct_ids ids)
  · exact hKeys
  · intro k started hMem
    obtain ⟨hid, j, hj, hStatus, hBelow, rfl⟩ :=
      (s.mem_claimed_distinct_iff now ids ceiling).mp hMem
    refine ⟨?_, j, hj, rfl⟩
    have ha : (Batch.claim ids ceiling).actionOn now k j = some (.start now) := by
      rw [Batch.actionOn, if_pos hid, Action.ofClaim_of_lt hBelow]
    exact s.get?_step_of_act h hj ha (Job.act?_eq_some_iff.mpr ⟨⟨hStatus, rfl⟩, rfl⟩)
  · intro k hid j hj hStatus hCeiling
    constructor
    · rw [hKeys]
      rintro ⟨_, i, hi, _, hBelow⟩
      cases hj.symm.trans hi
      exact UInt32.not_le.mpr hBelow hCeiling
    · have ha : (Batch.claim ids ceiling).actionOn now k j = some (.exhaust ceiling now) := by
        rw [Batch.actionOn, if_pos hid, Action.ofClaim, if_pos hCeiling]
      exact s.get?_step_of_act h hj ha
        (Job.act?_eq_some_iff.mpr ⟨⟨hStatus, decide_eq_true hCeiling⟩, rfl⟩)
  · exact fun k hIdle => s.get?_step_of_idle (c := ⟨now, .claim ids ceiling⟩) rfl hIdle

theorem length_exhausted (s : Store) (ids : List String) (ceiling : UInt32) :
    (ClaimPlan.ofLocked ceiling (s.waiting (Batch.distinct id ids))).exhausted.length =
      (s.atCeiling ids ceiling).card := by
  have hNodup : (ClaimPlan.ofLocked ceiling (s.waiting (Batch.distinct id ids))).exhausted.Nodup :=
    s.nodup_keys_filter_waiting _ (Batch.nodup_distinct_ids ids)
  rw [← List.toFinset_card_of_nodup hNodup]
  congr 1
  ext k
  rw [List.mem_toFinset, mem_exhausted_iff, Batch.mem_distinct_ids, atCeiling, Finset.mem_filter,
    List.mem_toFinset]
  rfl

theorem events_claim (s : Store) (now : Instant) {ids : List String} {ceiling : UInt32}
    (h : (Batch.claim ids ceiling).fault? = none) :
    events (s.signals ⟨now, .claim ids ceiling⟩) =
      if (s.atCeiling ids ceiling).card = 0 then []
      else [.ceilingReached (s.atCeiling ids ceiling).card ceiling] := by
  rw [s.signals_of_accepted h (by simp [Batch.operation]), ← s.length_exhausted]
  simp only [effect, Batch.normalize, claim, Signal.events_append, Signal.events_ofMoves,
    List.append_nil, List.isEmpty_iff, List.length_eq_zero_iff]
  split <;> rfl

/-- A claim hands out the named jobs that wait with retries left, started at its time. The named
jobs that wait without retries fail and are not handed out, all other jobs stay, and the only event
is that some jobs have failed in this way, with their number. -/
theorem claim_exact (calls : List Call) (now : Instant) {ids : List String} (ceiling : UInt32)
    (hIds : ∀ id ∈ ids, ¬Text.Blank id) :
    let s := empty.run calls
    let c : Call := ⟨now, .claim ids ceiling⟩
    (∃ claimed, s.resultOf c = .ok (.claimed claimed) ∧
      s.ClaimEffect now ids ceiling claimed (s.step c)) ∧
    events (s.signals c) = if (s.atCeiling ids ceiling).card = 0 then []
      else [.ceilingReached (s.atCeiling ids ceiling).card ceiling] := by
  intro s c
  have hAccepted : (Batch.claim ids ceiling).fault? = none := by
    apply Batch.claim_accepted
    intro id hid
    rw [← Bool.not_eq_true, Text.isBlank_eq_true_iff]
    exact hIds id hid
  exact ⟨⟨_, s.resultOf_claim now hAccepted, s.claimEffect now hAccepted⟩,
    s.events_claim now hAccepted⟩

/-- One job has used up its only attempt, one is new and one is unknown. -/
theorem claim_exact_mixed :
    let s := empty.run
      [⟨newYear, .insert [⟨"a", "h", "org", newYear⟩, ⟨"b", "h", "org", newYear⟩]⟩,
        ⟨newYear, .claim ["a"] 1⟩, ⟨newYear, .retry ["a"] "timeout"⟩]
    let c : Call := ⟨newYearLater, .claim ["a", "b", "unknown", "b", "a"] 1⟩
    (∃ claimed, s.resultOf c = .ok (.claimed claimed) ∧ claimed.map Prod.fst = ["b"]) ∧
    (∃ j ∈ (s.step c).get? "a", j.status = .failed ∧ j.errorMessage = some (exhaustedMessage 1) ∧
      j.finishedAt = some newYearLater) ∧
    events (s.signals c) = [.ceilingReached 1 1] := by
  intro s c
  have hIds : ∀ id ∈ ["a", "b", "unknown", "b", "a"], ¬Text.Blank id := by
    simp only [← Text.isBlank_eq_true_iff]
    decide
  obtain ⟨⟨claimed, hResult, hEffect⟩, hEvents⟩ := claim_exact
    [⟨newYear, .insert [⟨"a", "h", "org", newYear⟩, ⟨"b", "h", "org", newYear⟩]⟩,
      ⟨newYear, .claim ["a"] 1⟩, ⟨newYear, .retry ["a"] "timeout"⟩] newYearLater 1 hIds
  obtain ⟨j, hj, hStatus, hCeiling⟩ : ∃ j ∈ s.get? "a", j.status = .received ∧ 1 ≤ j.retries := by
    decide
  refine ⟨⟨claimed, hResult, ?_⟩, ?_, ?_⟩
  · have hHandedOut : s.handedOut c = ["b"] := by decide
    rw [handedOut_of_resultOf hResult] at hHandedOut
    exact hHandedOut
  · exact ⟨_, (hEffect.exhausted "a" (by decide) j hj hStatus hCeiling).2, rfl, rfl, rfl⟩
  · have hCard : (s.atCeiling ["a", "b", "unknown", "b", "a"] 1).card = 1 := by decide
    rw [hCard] at hEvents
    exact hEvents

/-! ## Reports -/

/-- Of the ids that the batch names, some are unknown or have a job that is not in process. -/
def Skips (s : Store) (b : Batch) : Prop :=
  ∃ id ∈ b.requestIds, ∀ j, s.get? id = some j → j.status ≠ .processing

/-- What a report does to the store, and what it tells of that. -/
structure ReportEffect (s : Store) (c : Call) (r : BatchReport) : Prop where
  exists_outcome : ∀ id ∈ c.batch.requestIds, ∀ j, s.get? id = some j → j.status = .processing →
    ∃ k, Batch.Outcome c.now j c.batch id k
  get?_outcome : ∀ id j k, s.get? id = some j → j.status = .processing →
    Batch.Outcome c.now j c.batch id k → (s.step c).get? id = some k
  others : ∀ id, (id ∈ c.batch.requestIds → ∀ j, s.get? id = some j → j.status ≠ .processing) →
    (s.step c).get? id = s.get? id
  requested_eq : r.requested = c.batch.requestIds.toFinset.card
  affected_eq : r.affected =
    s.jobs.entries.countP fun entry => (s.step c).get? entry.1 ≠ some entry.2
  affected_le : r.affected ≤ r.requested
  warned : s.Skips c.batch → events (s.signals c) = [.batchPartial c.batch.operation r] ∧
    total (.mismatch c.batch.operation) (s.signals c) = 1
  silent : ¬s.Skips c.batch → events (s.signals c) = [] ∧
    total (.mismatch c.batch.operation) (s.signals c) = 0

/-- Actions on jobs in process move the named jobs that are in process. -/
theorem mem_keys_advance_iff (s : Store) {actions : List (String × Action)}
    (hNodup : (actions.map Prod.fst).Nodup)
    (hActions : ∀ x ∈ actions, x.2.source = .processing ∧ ∀ j, x.2.admits j = true) {id : String} :
    id ∈ (s.advance actions).2.map Prod.fst ↔
      id ∈ actions.map Prod.fst ∧ ∃ j, s.get? id = some j ∧ j.status = .processing := by
  constructor
  · intro hMoved
    refine ⟨(s.keys_advance_sublist actions).subset hMoved, ?_⟩
    obtain ⟨⟨_, k⟩, hMem, rfl⟩ := List.mem_map.mp hMoved
    obtain ⟨a, ha, hBind⟩ := (s.mem_advance_iff hNodup).mp hMem
    obtain ⟨j, hj, hAct⟩ := Option.bind_eq_some_iff.mp hBind
    obtain ⟨xs, ys, rfl, _⟩ := List.lookup_eq_some_iff.mp ha
    have hSource := (hActions (_, a) (List.mem_append_right xs List.mem_cons_self)).1
    exact ⟨j, hj, (Job.act?_eq_some_iff.mp hAct).1.1.trans hSource⟩
  · rintro ⟨hid, j, hj, hStatus⟩
    have hNamed : actions.lookup id ≠ none := by
      intro hNone
      obtain ⟨x, hx, rfl⟩ := List.mem_map.mp hid
      simpa using List.lookup_eq_none_iff.mp hNone x hx
    obtain ⟨a, ha⟩ := Option.ne_none_iff_exists'.mp hNamed
    obtain ⟨xs, ys, hSplit, _⟩ := List.lookup_eq_some_iff.mp ha
    obtain ⟨hSource, hAdmits⟩ :=
      hActions (id, a) (hSplit ▸ List.mem_append_right xs List.mem_cons_self)
    obtain ⟨k, hAct⟩ : ∃ k, j.act? a = some k :=
      ⟨_, Job.act?_eq_some_iff.mpr ⟨⟨hStatus.trans hSource.symm, hAdmits j⟩, rfl⟩⟩
    refine List.mem_map.mpr ⟨(id, k), (s.mem_advance_iff hNodup).mpr ⟨a, ha, ?_⟩, rfl⟩
    rw [hj, Option.bind_some, hAct]

/-- The actions of a report lead away from processing, and nothing but the status guards them. -/
theorem exists_report_effect (s : Store) (now : Instant) (requested : Nat) {b : Batch}
    (h : b.Reports) : ∃ target actions,
      s.effect now requested b = s.report b.operation target actions ∧
      actions.map Prod.fst = b.requestIds ∧
      ∀ x ∈ actions, x.2.source = .processing ∧ ∀ j, x.2.admits j = true := by
  cases b with
  | insert | claim => rcases h with h | h | h <;> cases h
  | complete anchorings =>
    refine ⟨.completed, _, rfl, keys_map _ _ anchorings, fun x hx => ?_⟩
    obtain ⟨a, _, rfl⟩ := List.mem_map.mp hx
    exact ⟨rfl, fun _ => rfl⟩
  | fail failures =>
    refine ⟨.failed, _, rfl, keys_map _ _ failures, fun x hx => ?_⟩
    obtain ⟨f, _, rfl⟩ := List.mem_map.mp hx
    exact ⟨rfl, fun _ => rfl⟩
  | retry ids lastError =>
    refine ⟨.received, _, rfl, keys_map_const ids _, fun x hx => ?_⟩
    obtain ⟨id, _, rfl⟩ := List.mem_map.mp hx
    exact ⟨rfl, fun _ => rfl⟩

variable {c : Call}

/-- A stored job changes exactly if it is named and in process. -/
theorem get?_step_ne_iff (s : Store) (hAccepted : c.batch.fault? = none)
    (hReports : c.batch.Reports) {id : String} {j : Job} (hj : s.get? id = some j) :
    (s.step c).get? id ≠ some j ↔ id ∈ c.batch.requestIds ∧ j.status = .processing := by
  constructor
  · intro hChanged
    rw [← hj] at hChanged
    refine Classical.byContradiction fun hIdle => hChanged ?_
    apply s.get?_step_of_idle hReports.source?_eq
    intro hid i hi hStatus
    cases hj.symm.trans hi
    exact hIdle ⟨hid, hStatus⟩
  · rintro ⟨hid, hStatus⟩ hSame
    have hSettled := s.settled_step hAccepted hid
    rw [Operation.Settled, hSame, Option.map_some, hStatus, hReports.source?_eq] at hSettled
    exact hSettled rfl

theorem reports_normalize {b : Batch} (h : b.Reports) : b.normalize.Reports := by
  rwa [Batch.Reports, Batch.operation_normalize]

/-- The jobs that a report moves, under their ids. -/
theorem exists_moved (s : Store) (hAccepted : c.batch.fault? = none) (hReports : c.batch.Reports) :
    ∃ (target : Status) (moved : List String),
      s.resultOf c = .ok (.report ⟨c.batch.normalize.requestIds.length, moved.length⟩) ∧
      s.signals c = ofMoves .processing target moved.length ++ ofReport c.batch.operation
        ⟨c.batch.normalize.requestIds.length, moved.length⟩ ∧
      moved.Sublist c.batch.normalize.requestIds ∧
      ∀ id, id ∈ moved ↔
        id ∈ c.batch.requestIds ∧ ∃ j, s.get? id = some j ∧ j.status = .processing := by
  have hInsert : c.batch.operation ≠ .insert := by
    rcases hReports with h | h | h <;> simp [h]
  obtain ⟨target, actions, hEffect, hKeys, hActions⟩ :=
    s.exists_report_effect c.now c.batch.size (reports_normalize hReports)
  have hNodup : (actions.map Prod.fst).Nodup := by
    rw [hKeys]
    exact Batch.nodup_requestIds_normalize hAccepted
  refine ⟨target, (s.advance actions).2.map Prod.fst, ?_, ?_, ?_, fun id => ?_⟩
  · rw [s.resultOf_of_accepted hAccepted, hEffect, ← hKeys, List.length_map, List.length_map]
    rfl
  · rw [s.signals_of_accepted hAccepted hInsert, hEffect, Batch.operation_normalize, ← hKeys,
      List.length_map, List.length_map]
    rfl
  · rw [← hKeys]
    exact s.keys_advance_sublist actions
  · rw [s.mem_keys_advance_iff hNodup hActions, hKeys, Batch.mem_requestIds_normalize]

theorem length_normalize_requestIds (hAccepted : c.batch.fault? = none) :
    c.batch.normalize.requestIds.length = c.batch.requestIds.toFinset.card := by
  rw [← List.toFinset_card_of_nodup (Batch.nodup_requestIds_normalize hAccepted)]
  congr 1
  ext id
  rw [List.mem_toFinset, List.mem_toFinset, Batch.mem_requestIds_normalize]

theorem countP_changed (s : Store) (hAccepted : c.batch.fault? = none)
    (hReports : c.batch.Reports) {moved : List String} (hNodup : moved.Nodup)
    (hMoved : ∀ id, id ∈ moved ↔
      id ∈ c.batch.requestIds ∧ ∃ j, s.get? id = some j ∧ j.status = .processing) :
    (s.jobs.entries.countP fun entry => (s.step c).get? entry.1 ≠ some entry.2) =
      moved.length := by
  rw [List.countP_eq_length_filter, ← List.length_map Prod.fst]
  apply List.Perm.length_eq
  refine (List.perm_ext_iff_of_nodup ?_ hNodup).mpr fun id => ?_
  · exact s.jobs.nodup_keys.sublist (List.filter_sublist.map Prod.fst)
  · rw [hMoved, List.mem_map]
    constructor
    · rintro ⟨⟨_, j⟩, hEntry, rfl⟩
      obtain ⟨hStored, hChanged⟩ := List.mem_filter.mp hEntry
      have hj := (Roster.get?_eq_some_iff _).mpr hStored
      obtain ⟨hid, hStatus⟩ :=
        (s.get?_step_ne_iff hAccepted hReports hj).mp (of_decide_eq_true hChanged)
      exact ⟨hid, j, hj, hStatus⟩
    · rintro ⟨hid, j, hj, hStatus⟩
      have hChanged := (s.get?_step_ne_iff hAccepted hReports hj).mpr ⟨hid, hStatus⟩
      exact ⟨(id, j), List.mem_filter.mpr ⟨(Roster.get?_eq_some_iff _).mp hj,
        decide_eq_true hChanged⟩, rfl⟩

/-- One of the named ids is left out exactly if fewer jobs moved than ids were named. -/
theorem skips_iff (hAccepted : c.batch.fault? = none) {moved : List String}
    (hSub : moved.Sublist c.batch.normalize.requestIds)
    (hMoved : ∀ id, id ∈ moved ↔
      id ∈ c.batch.requestIds ∧ ∃ j, s.get? id = some j ∧ j.status = .processing) :
    s.Skips c.batch ↔ moved.length < c.batch.normalize.requestIds.length := by
  constructor
  · rintro ⟨id, hid, hIdle⟩
    refine Nat.lt_of_not_le fun hLe => ?_
    have hMem : id ∈ moved := by
      rw [hSub.eq_of_length_le hLe, Batch.mem_requestIds_normalize]
      exact hid
    obtain ⟨_, j, hj, hStatus⟩ := (hMoved id).mp hMem
    exact hIdle j hj hStatus
  · intro hLt
    refine Classical.byContradiction fun hAll => Nat.not_le.mpr hLt ?_
    have hSubset : c.batch.normalize.requestIds ⊆ moved := by
      intro id hid
      rw [Batch.mem_requestIds_normalize] at hid
      refine (hMoved id).mpr ⟨hid, Classical.byContradiction fun hNone => hAll ⟨id, hid, ?_⟩⟩
      exact fun j hj hStatus => hNone ⟨j, hj, hStatus⟩
    exact ((Batch.nodup_requestIds_normalize hAccepted).subperm hSubset).length_le

theorem Sound.exists_outcome (hs : s.Sound) (hReports : c.batch.Reports) {id : String}
    (hid : id ∈ c.batch.requestIds) {j : Job} (hj : s.get? id = some j)
    (hStatus : j.status = .processing) : ∃ k, Batch.Outcome c.now j c.batch id k := by
  obtain ⟨now, b⟩ := c
  cases b with
  | insert | claim => rcases hReports with h | h | h <;> cases h
  | complete anchorings =>
    obtain ⟨a, ha, rfl⟩ := List.mem_map.mp hid
    exact ⟨_, .complete ha⟩
  | fail failures =>
    obtain ⟨f, hf, rfl⟩ := List.mem_map.mp hid
    exact ⟨_, .fail hf⟩
  | retry ids lastError =>
    exact ⟨_, .retry hid (Job.toNat_succ_of_room ((hs id j hj).room hStatus))⟩

theorem Sound.get?_outcome (hs : s.Sound) (hAccepted : c.batch.fault? = none) {id : String}
    {j k : Job} (hj : s.get? id = some j) (hStatus : j.status = .processing)
    (hOutcome : Batch.Outcome c.now j c.batch id k) : (s.step c).get? id = some k := by
  obtain ⟨now, b⟩ := c
  have hNodup := Batch.nodup_requestIds_normalize hAccepted
  cases hOutcome with
  | @complete anchorings a ha =>
    apply s.get?_step_of_act hAccepted hj (a := .complete a now)
    · rw [Batch.actionOn, Batch.find?_eq_some_of_mem hNodup ha, Option.map_some]
    · exact Job.act?_eq_some_iff.mpr ⟨⟨hStatus, rfl⟩, rfl⟩
  | @fail failures f hf =>
    apply s.get?_step_of_act hAccepted hj (a := .fail f.errorMessage now)
    · rw [Batch.actionOn, Batch.find?_eq_some_of_mem hNodup hf, Option.map_some]
    · exact Job.act?_eq_some_iff.mpr ⟨⟨hStatus, rfl⟩, rfl⟩
  | @retry ids lastError _ hid n hn =>
    have hSucc : n = j.retries + 1 := by
      rw [← UInt32.toNat_inj, hn, Job.toNat_succ_of_room ((hs id j hj).room hStatus)]
    subst hSucc
    apply s.get?_step_of_act hAccepted hj (a := .requeue lastError)
    · exact if_pos hid
    · exact Job.act?_eq_some_iff.mpr ⟨⟨hStatus, rfl⟩, rfl⟩

/-- A report gives every job in process that it names the outcome of its own item, leaves all other
jobs alone and brings in none. It answers how many ids it named and how many jobs changed, and warns
exactly if some of the ids were left out. -/
theorem report_exact (calls : List Call) (hAccepted : ¬c.batch.Malformed)
    (hReports : c.batch.Reports) :
    let s := empty.run calls
    ∃ r, s.resultOf c = .ok (.report r) ∧ s.ReportEffect c r := by
  intro s
  rw [Batch.not_malformed_iff] at hAccepted
  have hs : s.Sound := sound_empty.run calls
  obtain ⟨target, moved, hResult, hSignals, hSub, hMoved⟩ := s.exists_moved hAccepted hReports
  have hNodup := (Batch.nodup_requestIds_normalize hAccepted).sublist hSub
  have hSkips : s.Skips c.batch ↔ moved.length < c.batch.normalize.requestIds.length :=
    skips_iff hAccepted hSub hMoved
  refine ⟨_, hResult, ?_⟩
  constructor
  · exact fun id hid j hj hStatus => hs.exists_outcome hReports hid hj hStatus
  · exact fun id j k hj hStatus hOutcome => hs.get?_outcome hAccepted hj hStatus hOutcome
  · exact fun id hIdle => s.get?_step_of_idle hReports.source?_eq hIdle
  · exact length_normalize_requestIds hAccepted
  · exact (s.countP_changed hAccepted hReports hNodup hMoved).symm
  · exact hSub.length_le
  · intro hSkipped
    simp [hSignals, Signal.events_append, Signal.events_ofMoves, Signal.events_ofReport,
      Signal.total_append, Signal.total_ofMoves, Signal.total_ofReport, BatchReport.isPartial,
      hSkips.mp hSkipped]
  · intro hNone
    have hAll := Nat.not_lt.mp (hSkips.not.mp hNone)
    simp [hSignals, Signal.events_append, Signal.events_ofMoves, Signal.events_ofReport,
      Signal.total_append, Signal.total_ofMoves, Signal.total_ofReport, BatchReport.isPartial,
      hAll]

/-- Each item reaches its own job, in whatever order they come, and one job is still waiting. -/
theorem report_exact_crossed :
    let s := empty.run
      [⟨newYear, .insert [⟨"a", "h", "org", newYear⟩, ⟨"b", "h", "org", newYear⟩,
          ⟨"c", "h", "org", newYear⟩]⟩,
        ⟨newYear, .claim ["a", "b"] 3⟩]
    let c : Call := ⟨newYearLater,
      .complete [⟨"b", "t2", "h2", 2⟩, ⟨"c", "t3", "h3", 3⟩, ⟨"a", "t1", "h1", 1⟩]⟩
    (∃ j ∈ (s.step c).get? "a", j.txHash = some "t1" ∧ j.blockHeight = some 1) ∧
    (∃ j ∈ (s.step c).get? "b", j.txHash = some "t2" ∧ j.blockHeight = some 2) ∧
    (s.step c).get? "c" = s.get? "c" ∧
    ∃ r, s.resultOf c = .ok (.report r) ∧ r.requested = 3 ∧ r.affected = 2 ∧
      events (s.signals c) = [.batchPartial .complete r] := by
  intro s c
  have hAccepted : ¬c.batch.Malformed := by
    rw [Batch.not_malformed_iff]
    decide
  obtain ⟨r, hResult, hEffect⟩ := report_exact
    [⟨newYear, .insert [⟨"a", "h", "org", newYear⟩, ⟨"b", "h", "org", newYear⟩,
        ⟨"c", "h", "org", newYear⟩]⟩, ⟨newYear, .claim ["a", "b"] 3⟩] hAccepted (Or.inl rfl)
  obtain ⟨a, ha, haStatus⟩ : ∃ j ∈ s.get? "a", j.status = .processing := by decide
  obtain ⟨b, hb, hbStatus⟩ : ∃ j ∈ s.get? "b", j.status = .processing := by decide
  have hSkips : s.Skips c.batch := ⟨"c", by decide, by decide⟩
  refine ⟨⟨_, hEffect.get?_outcome "a" a _ ha haStatus (.complete (a := ⟨"a", "t1", "h1", 1⟩)
    (by decide)), rfl, rfl⟩, ⟨_, hEffect.get?_outcome "b" b _ hb hbStatus
    (.complete (a := ⟨"b", "t2", "h2", 2⟩) (by decide)), rfl, rfl⟩,
    hEffect.others "c" (by decide), r, hResult, ?_, ?_, (hEffect.warned hSkips).1⟩
  · rw [hEffect.requested_eq]
    decide
  · rw [hEffect.affected_eq]
    decide

end Store

end AnchorQueue
