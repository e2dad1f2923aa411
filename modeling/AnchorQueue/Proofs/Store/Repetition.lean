import AnchorQueue.Proofs.Store.Run

/-!
# A batch done twice

Every operation works on one status: an insert on ids without a job, a claim on waiting jobs, the
others on jobs in process. No id that a batch names has that status afterwards, so the same batch
finds nothing to do a second time, and repeating it is harmless.
-/

namespace AnchorQueue

open AnchorQueue.Time (Instant)

/-- The status of the jobs that the operation works on; an insert works on ids without a job. -/
def Operation.source? : Operation → Option Status
  | insert => none
  | claim => some .received
  | complete => some .processing
  | fail => some .processing
  | retry => some .processing

/-- What is stored does not have the status that the operation works on. -/
def Operation.Settled (o : Operation) (stored : Option Job) : Prop :=
  stored.map Job.status ≠ o.source?

namespace Batch

variable {b : Batch} {now : Instant} {id : String} {j : Job} {a : Action}

theorem Asks.source?_eq (h : b.Asks now id j a) : b.operation.source? = some a.source := by
  cases h <;> rfl

theorem Asks.admits (h : b.Asks now id j a) : a.admits j = true := by
  cases h with
  | exhaust _ hCeiling => exact decide_eq_true hCeiling
  | start | complete | fail | requeue => rfl

theorem stepOn_of_settled {stored : Option Job} (h : b.operation.Settled stored) :
    b.stepOn now id stored = stored := by
  cases stored with
  | none =>
    cases b with
    | insert submissions => exact absurd rfl h
    | claim | complete | fail | retry => rfl
  | some j =>
    rw [stepOn]
    cases ha : b.actionOn now id j with
    | none => rfl
    | some a =>
      have hStatus : j.status ≠ a.source := by
        intro hStatus
        exact h (by rw [Option.map_some, (asks_of_actionOn ha).source?_eq, hStatus])
      rw [Option.elim_some, Job.act_of_act?_eq_none (Job.act?_eq_none_of_status_ne hStatus)]

theorem settled_act (h : b.actionOn now id j = some a) : b.operation.Settled (some (j.act a)) := by
  have hAsks := asks_of_actionOn h
  rw [Operation.Settled, hAsks.source?_eq, Option.map_some]
  exact fun hSource => Job.status_act_ne hAsks.admits (Option.some.inj hSource)

theorem settled_entering (h : b.entering now id = some j) : b.operation.Settled (some j) := by
  cases b with
  | insert submissions => exact Option.some_ne_none j.status
  | claim | complete | fail | retry => cases h

theorem exists_find?_of_mem_keys {α : Type} {key : α → String} {xs : List α}
    (h : id ∈ xs.map key) : ∃ x, (xs.find? fun x => key x = id) = some x := by
  obtain ⟨x, hx, rfl⟩ := List.mem_map.mp h
  rw [← Option.isSome_iff_exists, List.find?_isSome]
  exact ⟨x, hx, decide_eq_true rfl⟩

theorem exists_entering (h : b.operation = .insert) (hid : id ∈ b.requestIds) (now : Instant) :
    ∃ j, b.entering now id = some j := by
  cases b with
  | insert submissions =>
    obtain ⟨x, hx⟩ := exists_find?_of_mem_keys hid
    exact ⟨x.toJob now, by rw [entering, hx, Option.map_some]⟩
  | claim | complete | fail | retry => cases h

theorem exists_actionOn (h : b.operation ≠ .insert) (hid : id ∈ b.requestIds) (now : Instant)
    (j : Job) : ∃ a, b.actionOn now id j = some a := by
  cases b with
  | insert submissions => exact absurd rfl h
  | claim ids ceiling => exact ⟨_, if_pos hid⟩
  | complete anchorings =>
    obtain ⟨x, hx⟩ := exists_find?_of_mem_keys hid
    exact ⟨.complete x now, by rw [actionOn, hx, Option.map_some]⟩
  | fail failures =>
    obtain ⟨x, hx⟩ := exists_find?_of_mem_keys hid
    exact ⟨.fail x.errorMessage now, by rw [actionOn, hx, Option.map_some]⟩
  | retry ids lastError => exact ⟨_, if_pos hid⟩

/-- A batch settles every id that it names. -/
theorem settled_stepOn (hid : id ∈ b.requestIds) (stored : Option Job) :
    b.operation.Settled (b.stepOn now id stored) := by
  by_cases hInsert : b.operation = .insert
  · rw [hInsert]
    cases stored with
    | none =>
      obtain ⟨j, hj⟩ := exists_entering hInsert hid now
      rw [stepOn, hj]
      exact Option.some_ne_none j.status
    | some j => exact Option.some_ne_none _
  · cases stored with
    | none =>
      cases b with
      | insert submissions => exact absurd rfl hInsert
      | claim | complete | fail | retry => exact (Option.some_ne_none _).symm
    | some j =>
      obtain ⟨a, ha⟩ := exists_actionOn hInsert hid now j
      rw [stepOn, ha]
      exact settled_act ha

/-- How many items a batch asks for; a retry does not count repetitions. -/
def requested : Batch → Nat
  | retry ids _ => (distinct (fun id => id) ids).length
  | b => b.size

/-- The answer to a batch that finds nothing to do. -/
def idleResult : Batch → BatchResult
  | claim _ _ => .claimed []
  | b => .report ⟨b.requested, 0⟩

theorem mem_requestIds_normalize (b : Batch) (id : String) :
    id ∈ b.normalize.requestIds ↔ id ∈ b.requestIds := by
  cases b with
  | insert submissions => exact mem_keys_distinct Submission.requestId submissions id
  | claim ids ceiling => exact mem_distinct_ids ids id
  | complete | fail => rfl
  | retry ids lastError => exact mem_distinct_ids ids id

end Batch

namespace Store

variable {s : Store}

theorem enroll_of_settled {now : Instant} {submissions : List Submission}
    (h : ∀ x ∈ submissions, Operation.insert.Settled (s.get? x.requestId)) :
    s.enroll now submissions = (s, 0) := by
  induction submissions with
  | nil => rfl
  | cons x submissions ih =>
    have hStored : s.get? x.requestId ≠ none := by
      intro hNone
      exact h x List.mem_cons_self (by rw [hNone]; rfl)
    obtain ⟨j, hj⟩ := Option.ne_none_iff_exists'.mp hStored
    rw [enroll, hj]
    exact ih fun y hy => h y (List.mem_cons_of_mem x hy)

theorem advance_of_refused {actions : List (String × Action)}
    (h : ∀ x ∈ actions, ∀ j ∈ s.get? x.1, j.act? x.2 = none) : s.advance actions = (s, []) := by
  induction actions with
  | nil => rfl
  | cons x actions ih =>
    have hHead : ((s.get? x.1).bind fun j => j.act? x.2) = none :=
      Option.bind_eq_none_iff.mpr (h x List.mem_cons_self)
    rw [advance, hHead]
    exact ih fun y hy => h y (List.mem_cons_of_mem x hy)

theorem waiting_of_settled {ids : List String}
    (h : ∀ id ∈ ids, Operation.claim.Settled (s.get? id)) : s.waiting ids = [] := by
  rw [List.eq_nil_iff_forall_not_mem]
  rintro ⟨id, n⟩ hMem
  obtain ⟨hid, j, hj, hStatus, _⟩ := s.mem_waiting_iff.mp hMem
  apply h id hid
  rw [hj, Option.map_some, hStatus]
  rfl

theorem report_of_settled {α : Type} (operation : Operation) (target : Status) {key : α → String}
    {action : α → Action} {xs : List α}
    (h : ∀ x ∈ xs, (s.get? (key x)).map Job.status ≠ some (action x).source) :
    (s.report operation target (xs.map fun x => (key x, action x))).result =
        .report ⟨xs.length, 0⟩ ∧
      (s.report operation target (xs.map fun x => (key x, action x))).store = s := by
  have hAdvance : s.advance (xs.map fun x => (key x, action x)) = (s, []) := by
    apply advance_of_refused
    intro y hy j hj
    obtain ⟨x, hx, rfl⟩ := List.mem_map.mp hy
    apply Job.act?_eq_none_of_status_ne
    intro hStatus
    exact h x hx (by rw [hj, Option.map_some, hStatus])
  rw [report, hAdvance, List.length_map]
  exact ⟨rfl, rfl⟩

/-- On settled ids a batch finds nothing to do. -/
theorem effect_of_settled (now : Instant) {b : Batch}
    (h : ∀ id ∈ b.requestIds, b.operation.Settled (s.get? id)) :
    (s.effect now b.size b.normalize).result = b.idleResult ∧
      (s.effect now b.size b.normalize).store = s := by
  cases b with
  | insert submissions =>
    have hEnroll : s.enroll now (Batch.distinct Submission.requestId submissions) = (s, 0) := by
      apply enroll_of_settled
      intro x hx
      exact h x.requestId ((Batch.mem_keys_distinct _ _ _).mp (List.mem_map_of_mem hx))
    rw [Batch.normalize, effect, insert, hEnroll]
    exact ⟨rfl, rfl⟩
  | claim ids ceiling =>
    have hWaiting : s.waiting (Batch.distinct id ids) = [] := by
      apply waiting_of_settled
      intro k hk
      exact h k ((Batch.mem_distinct_ids ids k).mp hk)
    rw [Batch.normalize, effect, claim, hWaiting]
    exact ⟨rfl, rfl⟩
  | complete anchorings =>
    exact report_of_settled .complete .completed fun a ha => h a.requestId (List.mem_map_of_mem ha)
  | fail failures =>
    exact report_of_settled .fail .failed fun f hf => h f.requestId (List.mem_map_of_mem hf)
  | retry ids lastError =>
    exact report_of_settled .retry .received fun k hk => h k ((Batch.mem_distinct_ids ids k).mp hk)

theorem perform_of_settled (now : Instant) {b : Batch} (hAccepted : b.fault? = none)
    (h : ∀ id ∈ b.requestIds, b.operation.Settled (s.get? id)) :
    s.resultOf ⟨now, b⟩ = .ok b.idleResult ∧ s.step ⟨now, b⟩ = s := by
  obtain ⟨hResult, hStore⟩ := s.effect_of_settled now h
  rw [s.resultOf_of_accepted hAccepted, step, s.after_of_accepted now hAccepted, hResult]
  exact ⟨rfl, hStore⟩

theorem settled_step (s : Store) {c : Call} (h : c.batch.fault? = none) {id : String}
    (hid : id ∈ c.batch.requestIds) : c.batch.operation.Settled ((s.step c).get? id) := by
  rw [step, s.get?_after c.now h]
  exact Batch.settled_stepOn hid (s.get? id)

/-- A call that is repeated right away, at whatever time, finds nothing to do and leaves the store
as the first one left it. So however often it is repeated, no job changes a second time. -/
theorem repetitions_idle (s : Store) {c : Call} (h : c.batch.fault? = none) :
    (∀ later, (s.step c).resultOf ⟨later, c.batch⟩ = .ok c.batch.idleResult ∧
      (s.step c).step ⟨later, c.batch⟩ = s.step c) ∧
    ∀ times : List Instant,
      (s.step c).run (times.map fun later => ⟨later, c.batch⟩) = s.step c := by
  have hRepeat : ∀ later, (s.step c).resultOf ⟨later, c.batch⟩ = .ok c.batch.idleResult ∧
      (s.step c).step ⟨later, c.batch⟩ = s.step c :=
    fun later => (s.step c).perform_of_settled later h fun id hid => s.settled_step h hid
  refine ⟨hRepeat, fun times => ?_⟩
  induction times with
  | nil => rfl
  | cons later times ih => rw [List.map_cons, run_cons, (hRepeat later).2, ih]

/-- A retry whose answer was lost is sent again, and counts as one retry. -/
theorem repetitions_idle_lostRetry :
    let c : Call := ⟨newYear, .retry ["a", "b", "a"] "timeout"⟩
    let s := (empty.run twoAttempts).step c
    (empty.run twoAttempts).resultOf c = .ok (.report ⟨2, 1⟩) ∧
      s.resultOf c = .ok (.report ⟨2, 0⟩) ∧
      ∃ j ∈ (s.step c).get? "a", j.status = .received ∧ j.retries = 2 := by
  intro c s
  obtain ⟨hRepeat, _⟩ := repetitions_idle (empty.run twoAttempts) (c := c) (by decide)
  obtain ⟨hResult, hStore⟩ := hRepeat newYear
  have hRequeued : ∃ j ∈ s.get? "a", j.status = .received ∧ j.retries = 2 := by decide
  refine ⟨rfl, hResult, ?_⟩
  rw [hStore]
  exact hRequeued

end Store

end AnchorQueue
