import AnchorQueue.Proofs.Store.FirstWrite
import Mathlib.Data.List.Chain

/-!
# The history of one job

Whatever is asked of a job, in whatever state it is, the actions that apply form a path through the
statuses: each starts where the one before it led. So a job is started and put back in turn, nothing
follows an action that ends it, and the retries count how often it was put back.
-/

namespace AnchorQueue

namespace Action

def isStart : Action → Bool
  | start _ => true
  | _ => false

def isRequeue : Action → Bool
  | requeue _ => true
  | _ => false

/-- The action ends the life of the job. -/
def isFinal : Action → Bool
  | exhaust _ _ => true
  | complete _ _ => true
  | fail _ _ => true
  | _ => false

/-- The actions lead from the first status to the second, one after another. -/
inductive Path : Status → List Action → Status → Prop
  | nil (s : Status) : Path s [] s
  | cons (a : Action) {actions : List Action} {t : Status} (hRest : Path a.target actions t) :
    Path a.source (a :: actions) t

variable {s t : Status} {a b : Action} {actions earlier later : List Action}

theorem target_of_isFinal (h : a.isFinal = true) : a.target = .completed ∨ a.target = .failed := by
  cases a <;> simp_all [isFinal, target]

theorem isStart_or_isRequeue (a : Action) : (a.isStart || a.isRequeue) = !a.isFinal := by
  cases a <;> rfl

/-- A job that was started can be put back next, and one that was put back can be started. -/
theorem isStart_ne_of_target_eq_source (ha : a.isFinal = false) (hb : b.isFinal = false)
    (h : b.source = a.target) : a.isStart ≠ b.isStart := by
  cases a <;> cases b <;> simp_all [isFinal, source, target, isStart]

theorem Path.eq_nil_of_final (h : Path s actions t) (hs : s = .completed ∨ s = .failed) :
    actions = [] := by
  cases h with
  | nil => rfl
  | cons a => cases a <;> simp [source] at hs

theorem Path.of_append (h : Path s (earlier ++ later) t) :
    ∃ m, Path s earlier m ∧ Path m later t := by
  induction earlier generalizing s with
  | nil => exact ⟨s, .nil s, h⟩
  | cons a earlier ih =>
    cases h with
    | cons _ hRest =>
      obtain ⟨m, hEarlier, hLater⟩ := ih hRest
      exact ⟨m, .cons a hEarlier, hLater⟩

theorem Path.nothing_after_final (h : Path s (earlier ++ a :: later) t) (ha : a.isFinal = true) :
    later = [] := by
  obtain ⟨_, _, hFrom⟩ := h.of_append
  cases hFrom with
  | cons _ hLater => exact hLater.eq_nil_of_final (target_of_isFinal ha)

theorem Path.countP_isFinal_le (h : Path s actions t) : actions.countP isFinal ≤ 1 := by
  induction h with
  | nil => exact Nat.zero_le 1
  | cons a hRest ih =>
    by_cases ha : a.isFinal = true
    · rw [hRest.eq_nil_of_final (target_of_isFinal ha), List.countP_cons_of_pos ha]
      exact Nat.le_refl 1
    · rwa [List.countP_cons_of_neg ha]

/-- The first action that does not end the job starts where the path starts, because a path is over
once the job has ended. -/
theorem Path.source_of_head?_filter (h : Path s actions t) :
    ∀ b ∈ (actions.filter fun a => !a.isFinal).head?, b.source = s := by
  cases h with
  | nil => simp
  | cons a hRest =>
    by_cases ha : a.isFinal = true
    · simp [hRest.eq_nil_of_final (target_of_isFinal ha), ha]
    · simp [ha]

theorem Path.alternates (h : Path s actions t) :
    (actions.filter fun a => !a.isFinal).IsChain fun a b => a.isStart ≠ b.isStart := by
  induction h with
  | nil => exact .nil
  | cons a hRest ih =>
    by_cases ha : a.isFinal = true
    · rwa [List.filter_cons_of_neg (by simp [ha])]
    · rw [List.filter_cons_of_pos (by simp [ha]), List.isChain_cons]
      refine ⟨fun b hb => ?_, ih⟩
      have hCycle : b.isFinal = false := by
        simpa using (List.mem_filter.mp (List.mem_of_mem_head? hb)).2
      exact isStart_ne_of_target_eq_source (by simpa using ha) hCycle
        (hRest.source_of_head?_filter b hb)

end Action

namespace Job

/-- The job after a sequence of actions, of which some may not apply. -/
def actAll (j : Job) (actions : List Action) : Job :=
  actions.foldl act j

/-- The actions of a sequence that apply. -/
def applied : Job → List Action → List Action
  | _, [] => []
  | j, a :: actions =>
    match j.attempt a with
    | (true, k) => a :: applied k actions
    | (false, k) => applied k actions

variable {j k : Job} {a : Action} {actions earlier : List Action}

theorem actAll_cons (j : Job) (a : Action) (actions : List Action) :
    j.actAll (a :: actions) = (j.act a).actAll actions := rfl

theorem actAll_append_singleton (j : Job) (earlier : List Action) (a : Action) :
    j.actAll (earlier ++ [a]) = (j.actAll earlier).act a :=
  List.foldl_append

theorem applied_cons_of_some (h : j.act? a = some k) (actions : List Action) :
    j.applied (a :: actions) = a :: k.applied actions := by
  rw [applied, attempt_of_act?_eq_some h]

theorem applied_cons_of_none (h : j.act? a = none) (actions : List Action) :
    j.applied (a :: actions) = j.applied actions := by
  rw [applied, attempt_of_act?_eq_none h]

theorem applied_append (j : Job) (xs ys : List Action) :
    j.applied (xs ++ ys) = j.applied xs ++ (j.actAll xs).applied ys := by
  induction xs generalizing j with
  | nil => rfl
  | cons a xs ih =>
    rw [List.cons_append, actAll_cons]
    cases hAct : j.act? a with
    | none =>
      rw [applied_cons_of_none hAct, applied_cons_of_none hAct, act_of_act?_eq_none hAct]
      exact ih j
    | some k =>
      rw [applied_cons_of_some hAct, applied_cons_of_some hAct, act_of_act?_eq_some hAct]
      exact congrArg (a :: ·) (ih k)

theorem path_applied (j : Job) (actions : List Action) :
    Action.Path j.status (j.applied actions) (j.actAll actions).status := by
  induction actions generalizing j with
  | nil => exact .nil j.status
  | cons a actions ih =>
    rw [actAll_cons]
    cases hAct : j.act? a with
    | none =>
      rw [applied_cons_of_none hAct, act_of_act?_eq_none hAct]
      exact ih j
    | some k =>
      obtain ⟨⟨hSource, _⟩, hNext⟩ := act?_eq_some_iff.mp hAct
      have hTarget : k.status = a.target := hNext ▸ rfl
      rw [applied_cons_of_some hAct, act_of_act?_eq_some hAct, hSource]
      exact .cons a (hTarget ▸ ih k)

theorem canMoveTo_of_act? (h : j.act? a = some k) : j.status.canMoveTo k.status = true := by
  obtain ⟨⟨hSource, _⟩, rfl⟩ := act?_eq_some_iff.mp h
  rw [hSource]
  exact a.source_canMoveTo_target

theorem requestId_act (j : Job) (a : Action) : (j.act a).requestId = j.requestId := by
  cases hAct : j.act? a with
  | none => rw [act_of_act?_eq_none hAct]
  | some k => rw [act_of_act?_eq_some hAct, requestId_of_act? hAct]

theorem kept_actAll (j : Job) (actions : List Action) :
    (j.actAll actions).requestId = j.requestId ∧ (j.actAll actions).origin = j.origin := by
  induction actions generalizing j with
  | nil => exact ⟨rfl, rfl⟩
  | cons a actions ih =>
    obtain ⟨hId, hOrigin⟩ := ih (j.act a)
    exact ⟨hId.trans (j.requestId_act a), hOrigin.trans (j.origin_act a)⟩

theorem retries_of_act? (h : j.act? a = some k)
    (hRoom : a.isRequeue = true → j.retries.toNat + 1 < 2 ^ 32) :
    k.retries.toNat = j.retries.toNat + if a.isRequeue then 1 else 0 := by
  obtain ⟨_, rfl⟩ := act?_eq_some_iff.mp h
  cases a with
  | requeue lastError => exact toNat_succ_of_room (hRoom rfl)
  | start | exhaust | complete | fail => rfl

/-- The bound counts all calls that ask for a retry, so it is there for those that apply. -/
theorem retries_actAll
    (hRoom : j.retries.toNat + actions.countP Action.isRequeue < 2 ^ 32) :
    (j.actAll actions).retries.toNat =
      j.retries.toNat + (j.applied actions).countP Action.isRequeue := by
  induction actions generalizing j with
  | nil => rfl
  | cons a actions ih =>
    rw [List.countP_cons] at hRoom
    rw [actAll_cons]
    cases hAct : j.act? a with
    | none =>
      rw [applied_cons_of_none hAct, act_of_act?_eq_none hAct]
      exact ih (by omega)
    | some k =>
      have hStep := retries_of_act? hAct fun ha => by rw [if_pos ha] at hRoom; omega
      rw [applied_cons_of_some hAct, act_of_act?_eq_some hAct, ih (by omega), hStep,
        List.countP_cons]
      omega

/-- The laws of a job under a sequence of actions. Each call comes after some earlier ones, and the
job it gives back is the one that the calls after it find. -/
structure History (j : Job) (actions : List Action) : Prop where
  refused : ∀ earlier a k, earlier ++ [a] <+: actions →
    (j.actAll earlier).attempt a = (false, k) →
    k = j.actAll earlier ∧ j.actAll (earlier ++ [a]) = k ∧
      j.applied (earlier ++ [a]) = j.applied earlier
  moved : ∀ earlier a k, earlier ++ [a] <+: actions →
    (j.actAll earlier).attempt a = (true, k) →
    j.actAll (earlier ++ [a]) = k ∧ j.applied (earlier ++ [a]) = j.applied earlier ++ [a] ∧
      (j.actAll earlier).status.canMoveTo k.status = true
  alternating : ((j.applied actions).filter fun a => a.isStart || a.isRequeue).IsChain
    fun a b => a.isStart ≠ b.isStart
  one_final : (j.applied actions).countP Action.isFinal ≤ 1
  final_last : ∀ before a after, j.applied actions = before ++ a :: after → a.isFinal = true →
    after = []
  retries : (j.actAll actions).retries.toNat =
    j.retries.toNat + (j.applied actions).countP Action.isRequeue
  kept : ∀ earlier, earlier <+: actions →
    (j.actAll earlier).requestId = j.requestId ∧ (j.actAll earlier).origin = j.origin

/-- Every job keeps the laws under every sequence of actions, if there is room for its retries. -/
theorem history_of_room (j : Job) {actions : List Action}
    (hRoom : j.retries.toNat + actions.countP Action.isRequeue < 2 ^ 32) : j.History actions := by
  have hPath := j.path_applied actions
  constructor
  · intro earlier a k _ hAttempt
    have hAct : (j.actAll earlier).act? a = none := by rw [act?, hAttempt]
    obtain rfl : j.actAll earlier = k := by
      rw [attempt_of_act?_eq_none hAct] at hAttempt
      exact congrArg Prod.snd hAttempt
    rw [actAll_append_singleton, act_of_act?_eq_none hAct, applied_append,
      applied_cons_of_none hAct]
    exact ⟨rfl, rfl, List.append_nil _⟩
  · intro earlier a k _ hAttempt
    have hAct : (j.actAll earlier).act? a = some k := by rw [act?, hAttempt]
    rw [actAll_append_singleton, act_of_act?_eq_some hAct, applied_append,
      applied_cons_of_some hAct]
    exact ⟨rfl, rfl, canMoveTo_of_act? hAct⟩
  · simp only [Action.isStart_or_isRequeue]
    exact hPath.alternates
  · exact hPath.countP_isFinal_le
  · intro before a after hApplied hFinal
    rw [hApplied] at hPath
    exact hPath.nothing_after_final hFinal
  · exact retries_actAll hRoom
  · exact fun earlier _ => j.kept_actAll earlier

/-- A job that no call leads to: it is in process without a start, has an end, and is two retries
short of the greatest count. -/
def strayJob : Job :=
  ⟨"", "", "org", newYear, newYearLater, .processing, none, some newYear, some "t", none, some "",
    none, 4294967293⟩

theorem history_of_room_stray :
    let actions : List Action :=
      [.start newYear, .requeue "x", .requeue "y", .exhaust 4294967295 newYear, .start newYear,
        .start newYear, .fail "z" newYear, .complete ⟨"", "", "", 0⟩ newYear, .start newYear]
    strayJob.History actions ∧
      strayJob.applied actions = [.requeue "x", .start newYear, .fail "z" newYear] ∧
      (strayJob.actAll actions).retries.toNat = 4294967294 := by
  intro actions
  have hHistory : strayJob.History actions := history_of_room strayJob (by decide)
  have hApplied : strayJob.applied actions = [.requeue "x", .start newYear, .fail "z" newYear] := by
    decide
  have hRetries := hHistory.retries
  rw [hApplied] at hRetries
  exact ⟨hHistory, hApplied, hRetries⟩

end Job

end AnchorQueue
