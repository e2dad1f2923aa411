import AnchorQueue.Proofs.Sql.Claiming
import AnchorQueue.Proofs.Sql.Columns
import AnchorQueue.Proofs.Sql.Command
import AnchorQueue.Proofs.Sql.Progress
import AnchorQueue.Proofs.Sql.Transaction
import AnchorQueue.Proofs.Store.Accounts

/-!
# How a claim shares out the locked rows

Every locked row goes to one of two updates, by its retries, and what the second update returns is
what the claim hands out. The retries are here the signed numbers that the database has.
-/

namespace AnchorQueue.Sql

open AnchorQueue.Time (Instant)
open Signal (counts ofMoves total)

/-! ## The two parts -/

def Reply.returned : Reply → List Row
  | rows rs => rs
  | _ => []

section

variable (ceiling : UInt32) (locked : List (String × Int32))

/-- The locked ids whose retries have reached the ceiling. -/
def usedUp : List String :=
  (locked.filter fun l => (ceiling.toNat : Int) ≤ l.2.toInt).map Prod.fst

/-- The locked ids whose retries are below the ceiling. -/
def leftOver : List String :=
  (locked.filter fun l => l.2.toInt < (ceiling.toNat : Int)).map Prod.fst

/-- The plan of a claim, by the signed numbers. -/
def shares : ClaimPlan :=
  ⟨usedUp ceiling locked, leftOver ceiling locked⟩

/-- The rows that the marking update returns, if it is sent. -/
def returned (replies : List Reply) : List Row :=
  if leftOver ceiling locked = [] then []
  else (replyTo replies (markPlace (shares ceiling locked))).returned

end

variable {ceiling : UInt32} {locked : List (String × Int32)}

theorem decide_lt_eq_not_decide_le (m n : Int) : decide (m < n) = !decide (n ≤ m) := by
  rw [← decide_not]
  exact decide_eq_decide.mpr Int.not_le.symm

theorem usedUp_append_leftOver_perm (ceiling : UInt32) (locked : List (String × Int32)) :
    (usedUp ceiling locked ++ leftOver ceiling locked).Perm (locked.map Prod.fst) := by
  have hBelow : leftOver ceiling locked =
      (locked.filter fun l => !decide ((ceiling.toNat : Int) ≤ l.2.toInt)).map Prod.fst :=
    congrArg (List.map Prod.fst) (List.filter_congr fun l _ => decide_lt_eq_not_decide_le _ _)
  rw [hBelow, usedUp, ← List.map_append]
  exact (List.filter_append_perm _ locked).map Prod.fst

/-- An id that is locked once is in the part to which its retries belong. -/
theorem mem_filter_ids_iff {p : String × Int32 → Bool} (hNodup : (locked.map Prod.fst).Nodup)
    {l : String × Int32} (h : l ∈ locked) : l.1 ∈ (locked.filter p).map Prod.fst ↔ p l = true := by
  constructor
  · intro hMem
    obtain ⟨m, hm, hId⟩ := List.mem_map.mp hMem
    obtain ⟨hLocked, hp⟩ := List.mem_filter.mp hm
    rwa [List.inj_on_of_nodup_map hNodup hLocked h hId] at hp
  · exact fun hp => List.mem_map_of_mem (List.mem_filter.mpr ⟨h, hp⟩)

theorem lockedRetries_toNat {n : Int32} (h : 0 ≤ n) :
    ((lockedRetries n).toNat : Int) = n.toInt := by
  rw [lockedRetries, if_neg (Int32.not_lt.mpr h), Int32.toNat_toUInt32_of_le h]
  exact Int.toNat_of_nonneg (Int32.le_iff_toInt_le.mp h)

theorem ofLocked_lockedRetries (h : ∀ l ∈ locked, 0 ≤ l.2) :
    ClaimPlan.ofLocked ceiling (locked.map fun l => (l.1, lockedRetries l.2)) =
      shares ceiling locked := by
  have hExhausted : ∀ l ∈ locked, ClaimPlan.isExhausted ceiling (l.1, lockedRetries l.2) =
      decide ((ceiling.toNat : Int) ≤ l.2.toInt) := by
    intro l hl
    rw [← lockedRetries_toNat (h l hl)]
    exact decide_eq_decide.mpr (UInt32.le_iff_toNat_le.trans Int.ofNat_le.symm)
  rw [ClaimPlan.ofLocked, shares, List.filter_map, List.filter_map, List.map_map, List.map_map]
  congr 1
  · rw [usedUp, ← List.filter_congr hExhausted]
    rfl
  · have hClaimable : ∀ l ∈ locked, (!ClaimPlan.isExhausted ceiling (l.1, lockedRetries l.2)) =
        decide (l.2.toInt < (ceiling.toNat : Int)) := by
      intro l hl
      rw [hExhausted l hl, decide_lt_eq_not_decide_le]
    rw [leftOver, ← List.filter_congr hClaimable]
    rfl

/-! ## The claim -/

/-- An accepted claim that has locked the rows: ids once each, and no retries below zero. -/
structure Locks (ids : List String) (ceiling : UInt32) (locked : List (String × Int32))
    (replies : List Reply) : Prop where
  ids_ne_nil : ids ≠ []
  not_malformed : ¬(Batch.claim ids ceiling).Malformed
  begun : (replyTo replies 0).response? ≠ none
  limited : (replyTo replies 1).response? ≠ none
  read : ∃ a, (replyTo replies 2).response? = some a ∧ a.rows.mapM Row.locked = .ok locked
  nodup : (locked.map Prod.fst).Nodup
  nonneg : ∀ l ∈ locked, 0 ≤ l.2

/-- The transaction of a claim that has locked the rows. -/
def sharing (options : StoreOptions) (now : Instant) (ids : List String) (ceiling : UInt32)
    (locked : List (String × Int32)) : List Statement :=
  planned options now (Batch.distinct id ids) ceiling (shares ceiling locked)

/-- What a claim sends for the rows that it locked, and what it answers. -/
structure SharesOut (options : StoreOptions) (now : Instant) (ids : List String)
    (ceiling : UInt32) (locked : List (String × Int32)) (replies : List Reply)
    (e : Exchange BatchResult) : Prop where
  perm : (usedUp ceiling locked ++ leftOver ceiling locked).Perm (locked.map Prod.fst)
  usedUp_sublist : (usedUp ceiling locked).Sublist (locked.map Prod.fst)
  leftOver_sublist : (leftOver ceiling locked).Sublist (locked.map Prod.fst)
  mem_usedUp_iff : ∀ l ∈ locked,
    l.1 ∈ usedUp ceiling locked ↔ (ceiling.toNat : Int) ≤ l.2.toInt
  mem_leftOver_iff : ∀ l ∈ locked,
    l.1 ∈ leftOver ceiling locked ↔ l.2.toInt < (ceiling.toNat : Int)
  exhaust_mem_iff : ∀ message time bound, .exhaust message time bound ∈ e.sent ↔
    bound ≠ [] ∧ bound = usedUp ceiling locked ∧ message = exhaustedMessage ceiling ∧ time = now
  mark_mem_iff : ∀ time bound, .markProcessing time bound ∈ e.sent ↔
    bound ≠ [] ∧ bound = leftOver ceiling locked ∧ time = now ∧
      (usedUp ceiling locked = [] ∨ (replyTo replies 3).response? ≠ none)
  exhaust_params_iff : ∀ params,
    (∃ s ∈ e.sent, s.sql = Command.exhaust.text ∧ s.params = params) ↔
      usedUp ceiling locked ≠ [] ∧
        params = [.text (exhaustedMessage ceiling), .instant now, .texts (usedUp ceiling locked)]
  mark_params_iff : ∀ params,
    (∃ s ∈ e.sent, s.sql = Command.markProcessing.text ∧ s.params = params) ↔
      leftOver ceiling locked ≠ [] ∧
        params = [.instant now, .texts (leftOver ceiling locked)] ∧
        (usedUp ceiling locked = [] ∨ (replyTo replies 3).response? ≠ none)
  sent_eq : ∃ n, e.sent = (sharing options now ids ceiling locked).take (n + 4) ∨
    e.sent = (sharing options now ids ceiling locked).take (n + 4) ++ [.rollback]
  sent_of_succeed : Succeed (sharing options now ids ceiling locked) replies →
    e.sent = sharing options now ids ceiling locked
  idle : locked = [] →
    sharing options now ids ceiling locked = [.beginTransaction,
      .limitTime options.batchTimeout, .lock (Batch.distinct id ids), .commit] ∧
    ((replyTo replies 3).response? ≠ none → e.result = some (.ok (.claimed [])))
  answer : Succeed (sharing options now ids ceiling locked) replies →
    ((returned ceiling locked replies).map Row.requestId).Nodup →
    (∀ row ∈ returned ceiling locked replies, ∃ status : Status,
      row.status = some status.name) →
    ∃ jobs, List.Forall₂ Row.Shows (returned ceiling locked replies) jobs ∧
      (jobs.map Job.requestId).Nodup ∧
      e.result = some (.ok (.claimed (jobs.map fun j => (j.requestId, j)))) ∧
      ∀ c, total c e.signals =
        (if c = .moved .received .failed then (usedUp ceiling locked).length else 0) +
          if c = .moved .received .processing then (returned ceiling locked replies).length else 0

section

variable {options : StoreOptions} {now : Instant} {ids : List String} {replies : List Reply}

theorem Locks.succeed (h : Locks ids ceiling locked replies) :
    Succeed ((sharing options now ids ceiling locked).take 3) replies := by
  obtain ⟨a, hResponse, hRead⟩ := h.read
  have hLock := Reply.verdict_of_response? hResponse (.lock (Batch.distinct id ids))
  rw [Statement.rowFault?, hRead] at hLock
  change Succeed [.beginTransaction, .limitTime options.batchTimeout,
    .lock (Batch.distinct id ids)] replies
  rw [succeed_cons, succeed_cons, succeed_cons, replyTo_tail, replyTo_tail, replyTo_tail]
  exact ⟨(Statement.verdict_eq_succeeded_iff (fun _ => rfl) _).mpr h.begun,
    (Statement.verdict_eq_succeeded_iff (fun _ => rfl) _).mpr h.limited, hLock, succeed_nil _⟩

theorem Locks.exists_claimReaches (h : Locks ids ceiling locked replies) (options : StoreOptions)
    (now : Instant) :
    ∃ n, ClaimReaches ceiling (shares ceiling locked) (sharing options now ids ceiling locked)
      replies (n + 3) (perform options now (.claim ids ceiling) replies) := by
  obtain ⟨a, hResponse, hRead⟩ := h.read
  obtain ⟨n, hReaches⟩ := Sql.exists_claimReaches options now replies h.ids_ne_nil h.not_malformed
  rw [Reply.locked_of_response? hResponse hRead, ofLocked_lockedRetries h.nonneg] at hReaches
  have hLength : 3 ≤ (sharing options now ids ceiling locked).length := by
    simp [sharing, planned]
  obtain ⟨m, rfl⟩ := Nat.exists_eq_add_of_le' ((hReaches.le_iff 3 hLength).mpr h.succeed)
  exact ⟨m, hReaches⟩

/-! ### The updates that are sent -/

theorem not_mem_take_commit {s : Statement} (h : s ≠ .commit) (n : Nat) :
    s ∉ [Statement.commit].take n :=
  fun hMem => h (List.mem_singleton.mp (List.mem_of_mem_take hMem))

theorem exhaust_mem_take_iff {plan : ClaimPlan} {message : String} {time : Instant}
    {bound : List String} (n : Nat) :
    .exhaust message time bound ∈ (afterLock plan ceiling now).take (n + 1) ↔
      bound ≠ [] ∧ bound = plan.exhausted ∧ message = exhaustedMessage ceiling ∧ time = now := by
  obtain ⟨exhausted, claimable⟩ := plan
  have hCommit := not_mem_take_commit (Statement.noConfusion :
    Statement.exhaust message time bound ≠ .commit)
  cases exhausted <;> cases claimable <;> cases n <;>
    simp [afterLock, afterExhausting, hCommit] <;> grind

theorem mark_mem_take_iff {plan : ClaimPlan} {time : Instant} {bound : List String} (n : Nat) :
    .markProcessing time bound ∈ (afterLock plan ceiling now).take (n + 1) ↔
      bound ≠ [] ∧ bound = plan.claimable ∧ time = now ∧ (plan.exhausted = [] ∨ 0 < n) := by
  obtain ⟨exhausted, claimable⟩ := plan
  have hCommit := not_mem_take_commit (Statement.noConfusion :
    Statement.markProcessing time bound ≠ .commit)
  cases exhausted <;> cases claimable <;> cases n <;>
    simp [afterLock, afterExhausting, hCommit] <;> grind

variable {n : Nat} {e : Exchange BatchResult}

section

variable
  (h : ClaimReaches ceiling (shares ceiling locked) (sharing options now ids ceiling locked)
    replies (n + 3) e)

include h

theorem ClaimReaches.mem_sent_iff {s : Statement} (hs : s ∉ [.beginTransaction,
      .limitTime options.batchTimeout, .lock (Batch.distinct id ids), .rollback]) :
    s ∈ e.sent ↔ s ∈ (afterLock (shares ceiling locked) ceiling now).take (n + 1) := by
  have hTake : (sharing options now ids ceiling locked).take (n + 3 + 1) =
      [.beginTransaction, .limitTime options.batchTimeout, .lock (Batch.distinct id ids)] ++
        (afterLock (shares ceiling locked) ceiling now).take (n + 1) := rfl
  rw [h.sent_eq, hTake]
  simp only [List.mem_cons, List.not_mem_nil, or_false, not_or] at hs
  split <;> simp [hs]

/-- The update that exhausts is the fourth statement, if there is one. -/
theorem ClaimReaches.exhausted_iff :
    usedUp ceiling locked = [] ∨ 0 < n ↔
      usedUp ceiling locked = [] ∨ (replyTo replies 3).response? ≠ none := by
  refine or_congr_right' fun hSome => ?_
  have hAt : (sharing options now ids ceiling locked)[3]? =
      some (.exhaust (exhaustedMessage ceiling) now (usedUp ceiling locked)) := by
    simp [sharing, planned, afterLock, shares, hSome]
  have hLt := h.toReaches.lt_iff hAt
  rw [Statement.verdict_eq_succeeded_iff (fun _ => rfl)] at hLt
  exact Nat.lt_add_left_iff_pos.symm.trans
    (hLt.trans (and_iff_right (Nat.le_add_left 3 n)))

end

theorem Reply.mapM_returned {r : Reply} {bound : List String}
    (h : (Statement.markProcessing now bound).verdict r = .succeeded) :
    r.returned.mapM Row.full = .ok r.full := by
  cases r with
  | done k => rfl
  | rows rs =>
    rw [Statement.verdict, Statement.rowFault?] at h
    cases hFull : rs.mapM Row.full with
    | ok full => rw [returned, Reply.full, hFull]
    | error cause =>
      rw [hFull] at h
      cases h
  | refused text | silent => cases h

/-- When all statements succeed, the rows that are returned can be read. -/
theorem mapM_returned (h : Succeed (sharing options now ids ceiling locked) replies) :
    (returned ceiling locked replies).mapM Row.full =
      .ok (markedRows (shares ceiling locked) replies) := by
  rw [returned, markedRows]
  by_cases hNone : leftOver ceiling locked = []
  · have hEmpty : (shares ceiling locked).claimable.isEmpty = true := List.isEmpty_iff.mpr hNone
    rw [if_pos hNone, if_pos hEmpty]
    rfl
  · have hSome : ¬(shares ceiling locked).claimable.isEmpty = true :=
      mt List.isEmpty_iff.mp hNone
    have hAt : (sharing options now ids ceiling locked)[markPlace (shares ceiling locked)]? =
        some (.markProcessing now (leftOver ceiling locked)) := by
      rw [sharing, planned, afterLock, afterExhausting, if_neg hSome, markPlace]
      split <;> rfl
    rw [if_neg hNone, if_neg hSome]
    exact Reply.mapM_returned (h _ _ hAt)

/-- The event of a claim leaves the counters alone. -/
theorem total_claimSignals (c : Counter) (plan : ClaimPlan) (rows : List FullRow) :
    total c ((planned options now ids ceiling plan).flatMap (claimSignals ceiling plan rows)) =
      (if c = .moved .received .failed then plan.exhausted.length else 0) +
        if c = .moved .received .processing then rows.length else 0 := by
  have hCommit : total c (claimSignals ceiling plan rows .commit) =
      (if c = .moved .received .failed then plan.exhausted.length else 0) +
        if c = .moved .received .processing then rows.length else 0 := by
    rw [claimSignals, Signal.total_append, Signal.total_ofMoves, Signal.total_ofMoves]
  have hEvent : ∀ (event : Event) (later : List Signal),
      total c (.event event :: later) = total c later := fun _ _ => rfl
  rw [← hCommit, planned, afterLock, afterExhausting]
  split <;> split <;> simp [claimSignals, hEvent]

/-- With no row locked there is nothing to do but to commit. -/
theorem Locks.idle (h : Locks ids ceiling [] replies) (options : StoreOptions) (now : Instant)
    (hCommit : (replyTo replies 3).response? ≠ none) :
    (perform options now (.claim ids ceiling) replies).result = some (.ok (.claimed [])) := by
  obtain ⟨n, hReaches⟩ := h.exists_claimReaches options now
  have hLast : (sharing options now ids ceiling [])[3]? = some .commit := rfl
  have hAll : Succeed (sharing options now ids ceiling []) replies :=
    (succeed_take_succ hLast).mpr
      ⟨h.succeed, (Statement.verdict_eq_succeeded_iff (fun _ => rfl) _).mpr hCommit⟩
  exact hReaches.result_eq (hReaches.eq_length_iff.mpr hAll) [] rfl

theorem ClaimReaches.answer
    (h : ClaimReaches ceiling (shares ceiling locked) (sharing options now ids ceiling locked)
      replies (n + 3) e)
    (hAll : Succeed (sharing options now ids ceiling locked) replies)
    (hNodup : ((returned ceiling locked replies).map Row.requestId).Nodup)
    (hNamed : ∀ row ∈ returned ceiling locked replies, ∃ status : Status,
      row.status = some status.name) :
    ∃ jobs, List.Forall₂ Row.Shows (returned ceiling locked replies) jobs ∧
      (jobs.map Job.requestId).Nodup ∧
      e.result = some (.ok (.claimed (jobs.map fun j => (j.requestId, j)))) ∧
      ∀ c, total c e.signals =
        (if c = .moved .received .failed then (usedUp ceiling locked).length else 0) +
          if c = .moved .received .processing then (returned ceiling locked replies).length
          else 0 := by
  have hRows := mapM_returned hAll
  obtain ⟨jobs, hJobs⟩ := exists_jobs_of_named hRows hNamed
  have hShows := shows_of_mapM hRows hJobs
  have hIds := nodup_ids_of_shows hShows hNodup
  have hLength := h.eq_length_iff.mpr hAll
  refine ⟨jobs, hShows, hIds, ?_, fun c => ?_⟩
  · rw [h.result_eq hLength jobs hJobs, keyed_eq_map hIds]
  · have hCounts := h.counts_eq
    rw [hLength, List.take_length] at hCounts
    rw [total, hCounts, ← total, sharing, total_claimSignals, eq_map_toRow_of_mapM hRows,
      List.length_map]
    rfl

/-- A claim loses no locked row and hands none out twice: every one is bound to exactly one of the
two updates, to the exhausting one if its retries have reached the ceiling. What the marking update
returns is handed out, column by column, and both moves are counted. -/
theorem locked_rows_shared_out (options : StoreOptions) (now : Instant)
    (h : Locks ids ceiling locked replies) :
    SharesOut options now ids ceiling locked replies
      (perform options now (.claim ids ceiling) replies) := by
  obtain ⟨n, hReaches⟩ := h.exists_claimReaches options now
  have hExhaust : ∀ message time bound, .exhaust message time bound ∈
      (perform options now (.claim ids ceiling) replies).sent ↔
        bound ≠ [] ∧ bound = usedUp ceiling locked ∧ message = exhaustedMessage ceiling ∧
          time = now :=
    fun message time bound => (hReaches.mem_sent_iff (by simp)).trans (exhaust_mem_take_iff n)
  have hMark : ∀ time bound, .markProcessing time bound ∈
      (perform options now (.claim ids ceiling) replies).sent ↔
        bound ≠ [] ∧ bound = leftOver ceiling locked ∧ time = now ∧
          (usedUp ceiling locked = [] ∨ (replyTo replies 3).response? ≠ none) := by
    intro time bound
    rw [← hReaches.exhausted_iff]
    exact (hReaches.mem_sent_iff (by simp)).trans (mark_mem_take_iff n)
  exact {
    perm := usedUp_append_leftOver_perm ceiling locked
    usedUp_sublist := List.filter_sublist.map Prod.fst
    leftOver_sublist := List.filter_sublist.map Prod.fst
    mem_usedUp_iff := fun l hl => (mem_filter_ids_iff h.nodup hl).trans decide_eq_true_iff
    mem_leftOver_iff := fun l hl => (mem_filter_ids_iff h.nodup hl).trans decide_eq_true_iff
    exhaust_mem_iff := hExhaust
    mark_mem_iff := hMark
    exhaust_params_iff := by
      intro params
      constructor
      · rintro ⟨s, hs, hText, rfl⟩
        obtain ⟨message, time, bound, rfl⟩ := Statement.eq_exhaust_of_sql hText
        obtain ⟨hSome, rfl, rfl, rfl⟩ := (hExhaust _ _ _).mp hs
        exact ⟨hSome, rfl⟩
      · rintro ⟨hSome, rfl⟩
        exact ⟨_, (hExhaust _ _ _).mpr ⟨hSome, rfl, rfl, rfl⟩, Statement.sql_eq_text rfl, rfl⟩
    mark_params_iff := by
      intro params
      constructor
      · rintro ⟨s, hs, hText, rfl⟩
        obtain ⟨time, bound, rfl⟩ := Statement.eq_markProcessing_of_sql hText
        obtain ⟨hSome, rfl, rfl, hReached⟩ := (hMark _ _).mp hs
        exact ⟨hSome, rfl, hReached⟩
      · rintro ⟨hSome, rfl, hReached⟩
        exact ⟨_, (hMark _ _).mpr ⟨hSome, rfl, rfl, hReached⟩, Statement.sql_eq_text rfl, rfl⟩
    sent_eq := by
      refine ⟨n, ?_⟩
      have hSent := hReaches.sent_eq
      split at hSent
      · exact Or.inr hSent
      · exact Or.inl (hSent.trans (List.append_nil _))
    sent_of_succeed := hReaches.sent_eq_of_succeed
    idle := by
      rintro rfl
      exact ⟨rfl, h.idle options now⟩
    answer := hReaches.answer }

/-- Of two jobs one is at the ceiling. -/
def mixedClaim : List Reply :=
  [.done 0, .done 1, .rows [(heldRow "b" 0).lockedRow, (heldRow "a" 3).lockedRow], .done 1,
    .rows [(heldRow "b" 0).toRow], .done 0]

theorem locked_rows_shared_out_mixed :
    let e := perform .default newYear (.claim ["a", "b", "a"] 3) mixedClaim
    Locks ["a", "b", "a"] 3 [("b", 0), ("a", 3)] mixedClaim ∧
      .exhaust (exhaustedMessage 3) newYear ["a"] ∈ e.sent ∧
      .markProcessing newYear ["b"] ∈ e.sent ∧
      (∃ s ∈ e.sent, s.sql = Command.exhaust.text ∧
        s.params = [.text "reached maximum retry count (3)", .instant newYear, .texts ["a"]]) ∧
      (∃ s ∈ e.sent, s.sql = Command.markProcessing.text ∧
        s.params = [.instant newYear, .texts ["b"]]) ∧
      ∃ j, (heldRow "b" 0).toRow.Shows j ∧ e.result = some (.ok (.claimed [("b", j)])) ∧
        total (.moved .received .failed) e.signals = 1 ∧
        total (.moved .received .processing) e.signals = 1 := by
  intro e
  have hLocks : Locks ["a", "b", "a"] 3 [("b", 0), ("a", 3)] mixedClaim :=
    { ids_ne_nil := List.cons_ne_nil _ _
      not_malformed := Batch.not_malformed_iff.mpr (by decide)
      begun := Option.some_ne_none _
      limited := Option.some_ne_none _
      read := ⟨_, rfl, rfl⟩
      nodup := by decide
      nonneg := by decide }
  have hShares := locked_rows_shared_out .default newYear hLocks
  have hAll : Succeed (sharing .default newYear ["a", "b", "a"] 3 [("b", 0), ("a", 3)])
      mixedClaim := by
    change Succeed [_, _, _, _, _, _] mixedClaim
    simp only [succeed_cons, succeed_nil, and_true]
    exact ⟨rfl, rfl, rfl, rfl, rfl, rfl⟩
  obtain ⟨jobs, hShows, _, hResult, hTotals⟩ := hShares.answer hAll (by decide)
    fun row hRow => ⟨.processing, by
      cases List.mem_singleton.mp hRow
      rfl⟩
  obtain ⟨j, rfl⟩ : ∃ j, jobs = [j] := by
    obtain ⟨j, rest, _, hRest, rfl⟩ := List.forall₂_cons_left_iff.mp hShows
    exact ⟨j, by rw [List.forall₂_nil_left_iff.mp hRest]⟩
  have hShown : (heldRow "b" 0).toRow.Shows j := (List.forall₂_cons.mp hShows).1
  have hId : j.requestId = "b" := (Option.some.inj hShown.requestId).symm
  refine ⟨hLocks, ?_, ?_, ?_, ?_, j, hShown, ?_, hTotals _, hTotals _⟩
  · exact (hShares.exhaust_mem_iff _ _ _).mpr ⟨List.cons_ne_nil _ _, rfl, rfl, rfl⟩
  · exact (hShares.mark_mem_iff _ _).mpr
      ⟨List.cons_ne_nil _ _, rfl, rfl, Or.inr (Option.some_ne_none _)⟩
  · exact (hShares.exhaust_params_iff _).mpr ⟨List.cons_ne_nil _ _, by decide +kernel⟩
  · exact (hShares.mark_params_iff _).mpr
      ⟨List.cons_ne_nil _ _, rfl, Or.inr (Option.some_ne_none _)⟩
  · rw [hResult, List.map_singleton, hId]

end

end AnchorQueue.Sql
