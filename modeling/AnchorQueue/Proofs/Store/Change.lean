import AnchorQueue.Proofs.Store.Step

/-!
# What a batch may change

For an id, a batch has one of three outcomes: what is stored stays as it is, a submission comes in
where nothing was stored, or one action that the batch asks for applies to the stored job.
-/

namespace AnchorQueue

open AnchorQueue.Time (Instant)

namespace Batch

/-- The batch asks the action of the job that is stored under the id. -/
inductive Asks (now : Instant) (id : String) (j : Job) : Batch → Action → Prop
  | start {ids : List String} {ceiling : UInt32} (hid : id ∈ ids) (hBelow : j.retries < ceiling) :
    Asks now id j (.claim ids ceiling) (.start now)
  | exhaust {ids : List String} {ceiling : UInt32} (hid : id ∈ ids)
    (hCeiling : ceiling ≤ j.retries) : Asks now id j (.claim ids ceiling) (.exhaust ceiling now)
  | complete {anchorings : List Anchoring} {a : Anchoring} (ha : a ∈ anchorings)
    (hid : a.requestId = id) : Asks now id j (.complete anchorings) (.complete a now)
  | fail {failures : List Failure} {f : Failure} (hf : f ∈ failures) (hid : f.requestId = id) :
    Asks now id j (.fail failures) (.fail f.errorMessage now)
  | requeue {ids : List String} {lastError : String} (hid : id ∈ ids) :
    Asks now id j (.retry ids lastError) (.requeue lastError)

theorem asks_of_actionOn {b : Batch} {now : Instant} {id : String} {j : Job} {a : Action}
    (h : b.actionOn now id j = some a) : b.Asks now id j a := by
  cases b with
  | insert submissions => cases h
  | claim ids ceiling =>
    rw [actionOn, Option.ite_none_right_eq_some] at h
    obtain ⟨hid, ha⟩ := h
    cases ha
    rw [Action.ofClaim]
    split
    · exact .exhaust hid ‹_›
    · exact .start hid (UInt32.not_le.mp ‹_›)
  | complete anchorings =>
    obtain ⟨x, hx, rfl⟩ := Option.map_eq_some_iff.mp h
    exact .complete (List.mem_of_find?_eq_some hx) (by simpa using List.find?_some hx)
  | fail failures =>
    obtain ⟨x, hx, rfl⟩ := Option.map_eq_some_iff.mp h
    exact .fail (List.mem_of_find?_eq_some hx) (by simpa using List.find?_some hx)
  | retry ids lastError =>
    rw [actionOn, Option.ite_none_right_eq_some] at h
    obtain ⟨hid, ha⟩ := h
    cases ha
    exact .requeue hid

theorem Asks.mem_requestIds {b : Batch} {now : Instant} {id : String} {j : Job} {a : Action}
    (h : b.Asks now id j a) : id ∈ b.requestIds := by
  cases h with
  | start hid => exact hid
  | exhaust hid => exact hid
  | complete ha hid => exact List.mem_map.mpr ⟨_, ha, hid⟩
  | fail hf hid => exact List.mem_map.mpr ⟨_, hf, hid⟩
  | requeue hid => exact hid

/-- What the batch does to what is stored under the id. -/
inductive Changes (b : Batch) (now : Instant) (id : String) : Option Job → Option Job → Prop
  | stay (stored : Option Job) : Changes b now id stored stored
  | enter {submissions : List Submission} {x : Submission} (hBatch : b = .insert submissions)
    (hAccepted : b.fault? = none) (hx : x ∈ submissions) (hid : x.requestId = id) :
    Changes b now id none (some (x.toJob now))
  | move {j k : Job} {a : Action} (hAccepted : b.fault? = none) (hAsks : b.Asks now id j a)
    (hAct : j.act? a = some k) : Changes b now id (some j) (some k)

theorem changes_stepOn {b : Batch} (h : b.fault? = none) (now : Instant) (id : String)
    (stored : Option Job) : b.Changes now id stored (b.stepOn now id stored) := by
  cases stored with
  | none =>
    rw [stepOn]
    cases b with
    | insert submissions =>
      rw [entering]
      cases hx : submissions.find? fun x => x.requestId = id with
      | none => exact .stay none
      | some x =>
        exact .enter rfl h (List.mem_of_find?_eq_some hx) (by simpa using List.find?_some hx)
    | claim ids ceiling => exact .stay none
    | complete anchorings => exact .stay none
    | fail failures => exact .stay none
    | retry ids lastError => exact .stay none
  | some j =>
    rw [stepOn]
    cases ha : b.actionOn now id j with
    | none => exact .stay (some j)
    | some a =>
      rw [Option.elim_some]
      cases hAct : j.act? a with
      | none =>
        rw [Job.act_of_act?_eq_none hAct]
        exact .stay (some j)
      | some k =>
        rw [Job.act_of_act?_eq_some hAct]
        exact .move h (asks_of_actionOn ha) hAct

end Batch

theorem Store.changes_after (s : Store) (now : Instant) (b : Batch) (id : String) :
    b.Changes now id (s.get? id) ((s.after now b).get? id) := by
  cases h : b.fault? with
  | none =>
    rw [s.get?_after now h]
    exact Batch.changes_stepOn h now id _
  | some f =>
    rw [s.after_of_fault now h]
    exact .stay _

end AnchorQueue
