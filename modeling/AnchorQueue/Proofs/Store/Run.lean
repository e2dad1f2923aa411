import AnchorQueue.Proofs.Store.Change

/-!
# Runs of calls

The calls of all workers reach the store one after another, in the order in which they get hold of
it. A run is the list of these calls, and every interleaving of the workers is such a list.
-/

namespace AnchorQueue

open AnchorQueue.Time (Instant)

/-- A batch, with the clock reading of its call. -/
structure Call where
  now : Instant
  batch : Batch

/-- The ids under which a result hands out jobs. -/
def BatchResult.handedOut : BatchResult → List String
  | report _ => []
  | claimed jobs => jobs.map Prod.fst

namespace Store

def step (s : Store) (c : Call) : Store :=
  s.after c.now c.batch

def run (s : Store) (calls : List Call) : Store :=
  calls.foldl step s

/-- What a call answers. -/
def resultOf (s : Store) (c : Call) : Except BatchFault BatchResult :=
  (s.perform c.now c.batch).result

/-- The ids under which a call hands out jobs; a call that fails hands out none. -/
def handedOut (s : Store) (c : Call) : List String :=
  match s.resultOf c with
  | .ok r => r.handedOut
  | .error _ => []

def signals (s : Store) (c : Call) : List Signal :=
  (s.perform c.now c.batch).signals

def runSignals : Store → List Call → List Signal
  | _, [] => []
  | s, c :: calls => s.signals c ++ (s.step c).runSignals calls

theorem signals_of_fault (s : Store) {c : Call} {f : BatchFault} (h : c.batch.fault? = some f) :
    s.signals c = [] := by
  rw [signals, s.perform_of_fault c.now h]

/-- A call leaves store and signals alone, or has the effect of its accepted batch. -/
theorem signals_step_cases (s : Store) (c : Call) :
    s.signals c = [] ∧ s.step c = s ∨
      c.batch.fault? = none ∧
        s.signals c = (s.effect c.now c.batch.size c.batch.normalize).signals ∧
        s.step c = (s.effect c.now c.batch.size c.batch.normalize).store := by
  cases hFault : c.batch.fault? with
  | some f => exact Or.inl ⟨s.signals_of_fault hFault, s.after_of_fault c.now hFault⟩
  | none =>
    rw [signals, step, after]
    by_cases hSize : c.batch.size = 0
    · rw [s.perform_of_size_eq_zero c.now hSize]
      exact Or.inl ⟨rfl, rfl⟩
    · rw [s.perform_of_accepted c.now hSize hFault]
      exact Or.inr ⟨rfl, rfl, rfl⟩

theorem run_cons (s : Store) (c : Call) (calls : List Call) :
    s.run (c :: calls) = (s.step c).run calls := rfl

theorem run_append (s : Store) (xs ys : List Call) : s.run (xs ++ ys) = (s.run xs).run ys :=
  List.foldl_append

theorem runSignals_append (s : Store) (xs ys : List Call) :
    s.runSignals (xs ++ ys) = s.runSignals xs ++ (s.run xs).runSignals ys := by
  induction xs generalizing s with
  | nil => rfl
  | cons c xs ih => rw [List.cons_append, runSignals, runSignals, ih, run_cons, List.append_assoc]

theorem run_take_succ (s : Store) {calls : List Call} {i : Nat} {c : Call}
    (h : calls[i]? = some c) : s.run (calls.take (i + 1)) = (s.run (calls.take i)).step c := by
  rw [List.take_add_one, h, Option.toList_some, run_append]
  rfl

/-- A property that every call keeps holds after every run. -/
theorem run_induction {P : Store → Prop} (hStep : ∀ s c, P s → P (s.step c)) {s : Store} (h : P s)
    (calls : List Call) : P (s.run calls) := by
  induction calls generalizing s with
  | nil => exact h
  | cons c calls ih => exact ih (hStep s c h)

theorem get?_step_of_not_mem (s : Store) {c : Call} {id : String} (h : id ∉ c.batch.requestIds) :
    (s.step c).get? id = s.get? id := by
  rw [step]
  generalize hBefore : s.get? id = before
  generalize hAfter : (s.after c.now c.batch).get? id = stored
  have hChanges := s.changes_after c.now c.batch id
  rw [hBefore, hAfter] at hChanges
  cases hChanges with
  | stay => rfl
  | enter hBatch _ hx hid =>
    rw [hBatch] at h
    exact absurd (List.mem_map.mpr ⟨_, hx, hid⟩) h
  | move _ hAsks _ => exact absurd hAsks.mem_requestIds h

theorem get?_run_of_not_mem (s : Store) {calls : List Call} {id : String}
    (h : ∀ c ∈ calls, id ∉ c.batch.requestIds) : (s.run calls).get? id = s.get? id := by
  induction calls generalizing s with
  | nil => rfl
  | cons c calls ih =>
    rw [run_cons, ih _ fun d hd => h d (List.mem_cons_of_mem c hd),
      s.get?_step_of_not_mem (h c List.mem_cons_self)]

theorem resultOf_of_accepted (s : Store) {c : Call} (h : c.batch.fault? = none) :
    s.resultOf c = .ok (s.effect c.now c.batch.size c.batch.normalize).result := by
  obtain ⟨now, b⟩ := c
  rw [resultOf]
  by_cases hSize : b.size = 0
  · rw [s.perform_of_size_eq_zero now hSize]
    cases b <;> cases List.length_eq_zero_iff.mp hSize <;> rfl
  · rw [s.perform_of_accepted now hSize h]
    rfl

theorem resultOf_claim (s : Store) (now : Instant) {ids : List String} {ceiling : UInt32}
    (h : (Batch.claim ids ceiling).fault? = none) :
    s.resultOf ⟨now, .claim ids ceiling⟩ =
      .ok (.claimed (s.claimed now (Batch.distinct id ids) ceiling)) :=
  s.resultOf_of_accepted h

theorem handedOut_of_resultOf {s : Store} {c : Call} {r : BatchResult} (h : s.resultOf c = .ok r) :
    s.handedOut c = r.handedOut := by
  rw [handedOut, h]

theorem handedOut_claim (s : Store) (now : Instant) {ids : List String} {ceiling : UInt32}
    (h : (Batch.claim ids ceiling).fault? = none) :
    s.handedOut ⟨now, .claim ids ceiling⟩ =
      (s.claimed now (Batch.distinct id ids) ceiling).map Prod.fst :=
  handedOut_of_resultOf (s.resultOf_claim now h)

/-- What an accepted claim hands out, with the repetitions among the candidates dropped. -/
theorem mem_claimed_distinct_iff (s : Store) (now : Instant) (ids : List String) (ceiling : UInt32)
    {k : String} {started : Job} :
    (k, started) ∈ s.claimed now (Batch.distinct id ids) ceiling ↔
      k ∈ ids ∧ ∃ j, s.get? k = some j ∧ j.status = .received ∧ j.retries < ceiling ∧
        { j with status := .processing, startedAt := some now } = started := by
  rw [s.mem_claimed_iff now ceiling (Batch.nodup_distinct_ids ids), Batch.mem_distinct_ids]

/-- Only accepted claims hand out jobs. -/
theorem handedOut_cases (s : Store) (c : Call) : s.handedOut c = [] ∨
    ∃ ids ceiling, c.batch = .claim ids ceiling ∧ c.batch.fault? = none := by
  obtain ⟨now, b⟩ := c
  cases hFault : b.fault? with
  | some f =>
    rw [handedOut, resultOf, s.perform_of_fault now hFault]
    exact Or.inl rfl
  | none =>
    rw [handedOut_of_resultOf (s.resultOf_of_accepted hFault)]
    cases b with
    | claim ids ceiling => exact Or.inr ⟨ids, ceiling, rfl, rfl⟩
    | insert | complete | fail | retry => exact Or.inl rfl

theorem mem_handedOut_claim_iff (s : Store) (now : Instant) {ids : List String}
    {ceiling : UInt32} (h : (Batch.claim ids ceiling).fault? = none) {k : String} :
    k ∈ s.handedOut ⟨now, .claim ids ceiling⟩ ↔
      k ∈ ids ∧ ∃ j, s.get? k = some j ∧ j.status = .received ∧ j.retries < ceiling := by
  rw [s.handedOut_claim now h, List.mem_map]
  constructor
  · rintro ⟨⟨_, _⟩, hMem, rfl⟩
    obtain ⟨hid, j, hj, hStatus, hBelow, _⟩ := (s.mem_claimed_distinct_iff now ids ceiling).mp hMem
    exact ⟨hid, j, hj, hStatus, hBelow⟩
  · rintro ⟨hid, j, hj, hStatus, hBelow⟩
    refine ⟨(k, { j with status := .processing, startedAt := some now }), ?_, rfl⟩
    exact (s.mem_claimed_distinct_iff now ids ceiling).mpr ⟨hid, j, hj, hStatus, hBelow, rfl⟩

/-- What is handed out was waiting, and the claim asked to start it. -/
theorem start_of_mem_handedOut (s : Store) {c : Call} {id : String} (h : id ∈ s.handedOut c) :
    c.batch.fault? = none ∧ ∃ ids ceiling j, c.batch = .claim ids ceiling ∧ id ∈ ids ∧
      s.get? id = some j ∧ j.status = .received ∧ j.retries < ceiling := by
  obtain ⟨now, b⟩ := c
  rcases s.handedOut_cases ⟨now, b⟩ with hNone | ⟨ids, ceiling, rfl, hAccepted⟩
  · rw [hNone] at h
    exact absurd h List.not_mem_nil
  · obtain ⟨hid, j, hj, hStatus, hBelow⟩ := (s.mem_handedOut_claim_iff now hAccepted).mp h
    exact ⟨hAccepted, ids, ceiling, j, rfl, hid, hj, hStatus, hBelow⟩

end Store

/-- A clock reading for runs on fixed inputs. -/
def newYear : Instant :=
  ⟨⟨2025, 1, 1, by decide⟩, ⟨0, 0, 0, 0, by decide, by decide, by decide, by decide, by decide⟩⟩

/-- One second into the year. -/
def newYearLater : Instant :=
  { newYear with
    clock := { newYear.clock with second := 1, second_lt := by decide, leap := by decide } }

/-- A job comes in, is claimed, put back, and claimed again. -/
def twoAttempts : List Call :=
  [⟨newYear, .insert [⟨"a", "h", "org", newYear⟩]⟩, ⟨newYear, .claim ["a"] 3⟩,
    ⟨newYear, .retry ["a"] "timeout"⟩, ⟨newYear, .claim ["a", "b", "a"] 3⟩]

/-- The job succeeds with its second attempt. -/
def anchored : List Call :=
  twoAttempts ++ [⟨newYear, .complete [⟨"a", "t", "c", 7⟩]⟩]

end AnchorQueue
