import AnchorQueue.Proofs.Store.FirstWrite
import AnchorQueue.Proofs.Store.Sum

/-!
# The counters account for the store

The counters tell how many jobs there are in each status and how often jobs were put back. Every
number that adds up over the stored jobs changes with a call by what the counted moves of that call
lose and gain, and from the start of a run on nothing gets lost.
-/

namespace AnchorQueue

open AnchorQueue.Time (Instant)

namespace Status

def edges : List (Status × Status) :=
  [(received, processing), (received, failed), (processing, completed), (processing, failed),
    (processing, received)]

end Status

namespace Signal

theorem total_cons (c : Counter) (x : Signal) (xs : List Signal) :
    total c (x :: xs) = total c [x] + total c xs :=
  total_append c [x] xs

theorem total_count (c d : Counter) (n : Nat) :
    total c [.count d n] = if d = c then n else 0 := by
  simp [total, counts]

theorem total_event (c : Counter) (e : Event) : total c [.event e] = 0 := rfl

theorem total_ofMoves (c : Counter) (source target : Status) (n : Nat) :
    total c (ofMoves source target n) = if c = .moved source target then n else 0 := by
  rw [ofMoves]
  split
  · rename_i hn
    simp [hn, total_nil]
  · rw [total_count]
    simp [eq_comm]

theorem total_ofReport (c : Counter) (o : Operation) (r : BatchReport) :
    total c (ofReport o r) = if c = .mismatch o ∧ r.isPartial = true then 1 else 0 := by
  rw [ofReport]
  split
  · rename_i hPartial
    rw [total_cons, total_event, total_count]
    simp [hPartial, eq_comm]
  · rename_i hWhole
    simp [hWhole, total_nil]

/-- The counted moves along the edges of a job's life, each with its weight. -/
def moves (weight : Status → Status → Nat) (signals : List Signal) : Nat :=
  (Status.edges.map fun e => weight e.1 e.2 * total (.moved e.1 e.2) signals).sum

theorem moves_eq (weight : Status → Status → Nat) (signals : List Signal) :
    moves weight signals =
      weight .received .processing * total (.moved .received .processing) signals +
      weight .received .failed * total (.moved .received .failed) signals +
      weight .processing .completed * total (.moved .processing .completed) signals +
      weight .processing .failed * total (.moved .processing .failed) signals +
      weight .processing .received * total (.moved .processing .received) signals := by
  simp only [moves, Status.edges, List.map_cons, List.map_nil, List.sum_cons, List.sum_nil]
  omega

theorem moves_append (weight : Status → Status → Nat) (xs ys : List Signal) :
    moves weight (xs ++ ys) = moves weight xs + moves weight ys := by
  simp only [moves_eq, total_append, Nat.mul_add]
  omega

theorem moves_ofMoves (weight : Status → Status → Nat) {source target : Status}
    (h : source.canMoveTo target = true) (n : Nat) :
    moves weight (ofMoves source target n) = weight source target * n := by
  simp only [moves_eq, total_ofMoves]
  cases source <;> cases target <;> simp [Status.canMoveTo] at h ⊢

theorem moves_eq_zero {weight : Status → Status → Nat} {signals : List Signal}
    (h : ∀ a b, total (.moved a b) signals = 0) : moves weight signals = 0 := by
  simp only [moves_eq, h, Nat.mul_zero, Nat.add_zero]

end Signal

def BatchResult.isPartial : BatchResult → Bool
  | report r => r.isPartial
  | claimed _ => false

/-- A number of a job that a move changes by what the move loses and gains. -/
structure Job.Weight (f : Job → Nat) (entering : Nat) (lost gained : Status → Status → Nat) :
    Prop where
  toJob : ∀ (x : Submission) (now : Instant), f (x.toJob now) = entering
  act : ∀ {id : String} {j k : Job} {a : Action}, j.Sound id → j.act? a = some k →
    f k + lost a.source a.target = f j + gained a.source a.target

namespace Store

variable {f : Job → Nat} {entering : Nat} {lost gained : Status → Status → Nat}

open Signal (total moves ofMoves ofReport)

/-- The sum of the number changes as the signals say. -/
def Balances (f : Job → Nat) (entering : Nat) (lost gained : Status → Status → Nat) (s : Store)
    (signals : List Signal) (s' : Store) : Prop :=
  s'.sum f + moves lost signals =
    s.sum f + moves gained signals + entering * total .inserted signals

theorem balances_silent (s : Store) {signals : List Signal}
    (hMoved : ∀ a b, total (.moved a b) signals = 0) (hInserted : total .inserted signals = 0) :
    Balances f entering lost gained s signals s := by
  simp [Balances, Signal.moves_eq_zero hMoved, hInserted]

theorem Balances.append {s t u : Store} {xs ys : List Signal}
    (hx : Balances f entering lost gained s xs t) (hy : Balances f entering lost gained t ys u) :
    Balances f entering lost gained s (xs ++ ys) u := by
  simp only [Balances, Signal.moves_append, Signal.total_append, Nat.mul_add] at hx hy ⊢
  omega

theorem balances_advance (hWeight : Job.Weight f entering lost gained) (s : Store)
    {actions : List (String × Action)} {source target : Status}
    (hMoves : source.canMoveTo target = true) (hNodup : (actions.map Prod.fst).Nodup)
    (hEdge : ∀ x ∈ actions, x.2.source = source ∧ x.2.target = target)
    (hSound : ∀ x ∈ actions, ∀ j ∈ s.get? x.1, j.Sound x.1) :
    Balances f entering lost gained s (ofMoves source target (s.advance actions).2.length)
      (s.advance actions).1 := by
  have hMove : ∀ x ∈ actions, ∀ j ∈ s.get? x.1, ∀ k, j.act? x.2 = some k →
      f k + lost source target = f j + gained source target := by
    intro x hx j hj k hAct
    rw [← (hEdge x hx).1, ← (hEdge x hx).2]
    exact hWeight.act (hSound x hx j hj) hAct
  rw [Balances, Signal.moves_ofMoves _ hMoves, Signal.moves_ofMoves _ hMoves,
    Signal.total_ofMoves, if_neg (by simp)]
  exact s.sum_advance hNodup hMove

theorem total_insert (c : Counter) (s : Store) (now : Instant) (requested : Nat)
    (submissions : List Submission) :
    total c (s.insert now requested submissions).signals =
      (if .inserted = c then (s.enroll now submissions).2 else 0) +
        if .duplicate = c then requested - (s.enroll now submissions).2 else 0 := by
  rw [← Signal.total_count, ← Signal.total_count, ← Signal.total_append]
  rfl

theorem total_claim (c : Counter) (s : Store) (now : Instant) (ids : List String)
    (ceiling : UInt32) :
    total c (s.claim now ids ceiling).signals =
      (if c = .moved .received .failed then
        (ClaimPlan.ofLocked ceiling (s.waiting ids)).exhausted.length else 0) +
      if c = .moved .received .processing then (s.claimed now ids ceiling).length else 0 := by
  have hEvents : ∀ (p : Bool) (e : Event), total c (if p then [] else [.event e]) = 0 := by
    intro p e
    cases p <;> rfl
  simp only [claim, claimed, Signal.total_append, Signal.total_ofMoves, hEvents, Nat.zero_add]

theorem total_report (c : Counter) (s : Store) (operation : Operation) (target : Status)
    (actions : List (String × Action)) :
    total c (s.report operation target actions).signals =
      (if c = .moved .processing target then (s.advance actions).2.length else 0) +
      if c = .mismatch operation ∧
          (s.advance actions).2.length < actions.length then 1 else 0 := by
  simp only [report, Signal.total_append, Signal.total_ofMoves, Signal.total_ofReport,
    BatchReport.isPartial, decide_eq_true_eq]

/-- The effect of an empty batch would add nothing to any counter. -/
theorem total_signals_of_accepted (s : Store) {c : Call} (h : c.batch.fault? = none)
    (k : Counter) :
    total k (s.signals c) = total k (s.effect c.now c.batch.size c.batch.normalize).signals := by
  obtain ⟨now, b⟩ := c
  rw [signals]
  by_cases hSize : b.size = 0
  · rw [s.perform_of_size_eq_zero now hSize]
    cases b with
    | insert submissions =>
      cases List.length_eq_zero_iff.mp hSize
      exact ((s.total_insert k now 0 []).trans (by simp [enroll, Signal.total_nil])).symm
    | claim | complete | fail | retry =>
      cases List.length_eq_zero_iff.mp hSize
      rfl
  · rw [s.perform_of_accepted now hSize h]
    rfl

theorem balances_insert (hWeight : Job.Weight f entering lost gained) (s : Store) (now : Instant)
    (requested : Nat) (submissions : List Submission) :
    Balances f entering lost gained s (s.insert now requested submissions).signals
      (s.insert now requested submissions).store := by
  have hMoved : ∀ a b, total (.moved a b) (s.insert now requested submissions).signals = 0 :=
    fun a b => s.total_insert (.moved a b) now requested submissions
  have hInserted : total .inserted (s.insert now requested submissions).signals =
      (s.enroll now submissions).2 := s.total_insert .inserted now requested submissions
  rw [Balances, Signal.moves_eq_zero hMoved, Signal.moves_eq_zero hMoved, hInserted]
  exact s.sum_enroll (fun x => hWeight.toJob x now) submissions

theorem balances_claim (hWeight : Job.Weight f entering lost gained) {s : Store} (hs : s.Sound)
    (now : Instant) {ids : List String} (ceiling : UInt32) (h : ids.Nodup) :
    Balances f entering lost gained s (s.claim now ids ceiling).signals
      (s.claim now ids ceiling).store := by
  let plan := ClaimPlan.ofLocked ceiling (s.waiting ids)
  let failures := plan.exhausted.map fun id => (id, Action.exhaust ceiling now)
  let starts := plan.claimable.map fun id => (id, Action.start now)
  have hFailures : (failures.map Prod.fst).Nodup := by
    rw [keys_map_const]
    exact s.nodup_keys_filter_waiting _ h
  have hStarts : (starts.map Prod.fst).Nodup := by
    rw [keys_map_const]
    exact s.nodup_keys_filter_waiting _ h
  have hFailed : Balances f entering lost gained s
      (ofMoves .received .failed (s.advance failures).2.length) (s.advance failures).1 := by
    apply balances_advance hWeight s rfl hFailures
    · intro x hx
      obtain ⟨id, _, rfl⟩ := List.mem_map.mp hx
      exact ⟨rfl, rfl⟩
    · intro x _ j hj
      exact hs x.1 j hj
  -- The count is taken from the plan, and every job of this part of the plan does fail.
  have hCount : (s.advance failures).2.length = plan.exhausted.length := by
    rw [s.length_advance hFailures, List.length_map]
    intro x hx
    obtain ⟨id, hid, rfl⟩ := List.mem_map.mp hx
    obtain ⟨_, j, hj, hStatus, hCeiling⟩ := s.mem_exhausted_iff.mp hid
    exact ⟨j, hj, _, Job.act?_eq_some_iff.mpr ⟨⟨hStatus, decide_eq_true hCeiling⟩, rfl⟩⟩
  have hStarted : Balances f entering lost gained (s.advance failures).1
      (ofMoves .received .processing ((s.advance failures).1.advance starts).2.length)
      ((s.advance failures).1.advance starts).1 := by
    apply balances_advance hWeight _ rfl hStarts
    · intro x hx
      obtain ⟨id, _, rfl⟩ := List.mem_map.mp hx
      exact ⟨rfl, rfl⟩
    · intro x hx j hj
      obtain ⟨id, hid, rfl⟩ := List.mem_map.mp hx
      rw [get?_advance_of_not_mem s] at hj
      · exact hs id j hj
      · rw [keys_map_const]
        exact s.not_mem_exhausted_of_mem_claimable hid
  rw [hCount] at hFailed
  refine (Balances.append (s.balances_silent ?_ ?_) hFailed).append hStarted
  · intro a b
    split <;> rfl
  · split <;> rfl

theorem balances_report (hWeight : Job.Weight f entering lost gained) {s : Store} (hs : s.Sound)
    (operation : Operation) {target : Status} {actions : List (String × Action)}
    (hMoves : Status.canMoveTo .processing target = true)
    (hNodup : (actions.map Prod.fst).Nodup)
    (hEdge : ∀ x ∈ actions, x.2.source = .processing ∧ x.2.target = target) :
    Balances f entering lost gained s (s.report operation target actions).signals
      (s.report operation target actions).store := by
  refine (balances_advance hWeight s hMoves hNodup hEdge fun x _ j hj => hs x.1 j hj).append ?_
  apply balances_silent
  · intro a b
    rw [Signal.total_ofReport, if_neg (by simp)]
  · rw [Signal.total_ofReport, if_neg (by simp)]

theorem Sound.balances_step {s : Store} (hs : s.Sound)
    (hWeight : Job.Weight f entering lost gained) (c : Call) :
    Balances f entering lost gained s (s.signals c) (s.step c) := by
  rcases s.signals_step_cases c with ⟨hSignals, hStep⟩ | ⟨hFault, hSignals, hStep⟩
  · rw [hSignals, hStep]
    exact s.balances_silent (fun _ _ => rfl) rfl
  · have hNodup := Batch.nodup_requestIds_normalize hFault
    rw [hSignals, hStep]
    generalize c.batch.size = requested
    generalize c.batch.normalize = b at hNodup
    cases b with
    | insert submissions => exact s.balances_insert hWeight c.now requested submissions
    | claim ids ceiling => exact balances_claim hWeight hs c.now ceiling hNodup
    | complete anchorings =>
      apply balances_report hWeight hs _ rfl
      · rwa [keys_map]
      · intro x hx
        obtain ⟨a, _, rfl⟩ := List.mem_map.mp hx
        exact ⟨rfl, rfl⟩
    | fail failures =>
      apply balances_report hWeight hs _ rfl
      · rwa [keys_map]
      · intro x hx
        obtain ⟨f, _, rfl⟩ := List.mem_map.mp hx
        exact ⟨rfl, rfl⟩
    | retry ids lastError =>
      apply balances_report hWeight hs _ rfl
      · rwa [keys_map_const]
      · intro x hx
        obtain ⟨id, _, rfl⟩ := List.mem_map.mp hx
        exact ⟨rfl, rfl⟩

theorem Sound.balances_run {s : Store} (hs : s.Sound)
    (hWeight : Job.Weight f entering lost gained) (calls : List Call) :
    Balances f entering lost gained s (s.runSignals calls) (s.run calls) := by
  induction calls generalizing s with
  | nil => exact s.balances_silent (fun _ _ => rfl) rfl
  | cons c calls ih => exact (hs.balances_step hWeight c).append (ih (hs.step c))

theorem enroll_count_le (now : Instant) (s : Store) (submissions : List Submission) :
    (s.enroll now submissions).2 ≤ submissions.length := by
  induction submissions generalizing s with
  | nil => exact Nat.le_refl 0
  | cons x submissions ih =>
    rw [enroll]
    split
    · exact Nat.le_succ_of_le (ih s)
    · exact Nat.succ_le_succ (ih _)

/-- Every accepted submission is counted once, as new or as known. -/
theorem total_submitted_signals (s : Store) (c : Call) :
    total .inserted (s.signals c) + total .duplicate (s.signals c) = c.submitted.length := by
  obtain ⟨now, b⟩ := c
  cases b with
  | insert submissions =>
    cases hFault : (Batch.insert submissions).fault? with
    | some f =>
      rw [s.signals_of_fault hFault, Call.submitted_of_fault hFault]
      rfl
    | none =>
      have hSubmitted :
          (Call.submitted ⟨now, .insert submissions⟩).length = submissions.length := by
        simp [Call.submitted, hFault]
      rw [hSubmitted, s.total_signals_of_accepted hFault, s.total_signals_of_accepted hFault]
      let fresh := Batch.distinct Submission.requestId submissions
      have hInserted : total .inserted (s.insert now submissions.length fresh).signals =
          (s.enroll now fresh).2 := s.total_insert _ _ _ _
      have hDuplicate : total .duplicate (s.insert now submissions.length fresh).signals =
          submissions.length - (s.enroll now fresh).2 :=
        (s.total_insert _ _ _ _).trans (Nat.zero_add _)
      have hCount := enroll_count_le now s fresh
      have hFresh : fresh.length ≤ submissions.length :=
        (Batch.distinctFrom_sublist Submission.requestId [] submissions).length_le
      change total .inserted (s.insert now submissions.length fresh).signals +
        total .duplicate (s.insert now submissions.length fresh).signals = submissions.length
      omega
  | claim | complete | fail | retry =>
    rcases s.signals_step_cases ⟨now, _⟩ with ⟨hSignals, _⟩ | ⟨_, hSignals, _⟩
    · rw [hSignals]
      rfl
    · rw [hSignals]
      simp [Batch.normalize, effect, total_claim, complete, fail, retry, total_report,
        Call.submitted]

theorem total_submitted_runSignals (s : Store) (calls : List Call) :
    total .inserted (s.runSignals calls) + total .duplicate (s.runSignals calls) =
      (submitted calls).length := by
  induction calls generalizing s with
  | nil => rfl
  | cons c calls ih =>
    have hHead := s.total_submitted_signals c
    have hRest := ih (s.step c)
    simp only [runSignals, Signal.total_append, submitted, List.flatMap_cons,
      List.length_append] at hRest ⊢
    omega

end Store

namespace Job

theorem weight_one : Weight (fun _ => 1) 1 (fun _ _ => 0) (fun _ _ => 0) where
  toJob _ _ := rfl
  act _ _ := rfl

theorem weight_status (status : Status) :
    Weight (fun j => if j.status = status then 1 else 0) (if .received = status then 1 else 0)
      (fun source _ => if source = status then 1 else 0)
      (fun _ target => if target = status then 1 else 0) where
  toJob _ _ := rfl
  act _ hAct := by
    obtain ⟨⟨hSource, _⟩, rfl⟩ := act?_eq_some_iff.mp hAct
    rw [hSource]
    exact Nat.add_comm _ _

end Job

namespace Store

open Signal (total moves)

end Store

end AnchorQueue
