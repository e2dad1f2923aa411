import AnchorQueue.Proofs.Sql.Following
import AnchorQueue.Proofs.Sql.Refusal

/-!
# How far a claim gets

What a dialogue that follows its script has sent and signalled depends on one number, that of its
statements that succeeded. For a claim this says how far it gets, whatever is replied.
-/

namespace AnchorQueue.Sql

open AnchorQueue.Time (Duration Instant)
open Signal (counts events)

/-! ## Statements that succeed -/

/-- Every statement has a reply with which it succeeds. -/
def Succeed (statements : List Statement) (replies : List Reply) : Prop :=
  ∀ (i : Nat) (s : Statement), statements[i]? = some s →
    s.verdict (replyTo replies i) = .succeeded

/-- The first `n` statements succeed, those that were sent are one more, and a transaction that is
left open is rolled back. -/
structure Reaches (isOpen : Bool) (statements : List Statement) (replies : List Reply) (n : Nat)
    (sent : List Statement) : Prop where
  le_length : n ≤ statements.length
  le_iff : ∀ m ≤ statements.length, m ≤ n ↔ Succeed (statements.take m) replies
  sent_eq : sent = statements.take (n + 1) ++
    if n < statements.length ∧ (isOpen = true ∨ 0 < n) then [.rollback] else []

/-- A statement whose rows are not read succeeds with every reply that is no refusal. -/
theorem Statement.verdict_eq_succeeded_iff {s : Statement} (h : ∀ rows, s.rowFault? rows = none)
    (r : Reply) : s.verdict r = .succeeded ↔ r.response? ≠ none := by
  cases r with
  | done n => exact iff_of_true rfl (Option.some_ne_none _)
  | rows rs =>
    rw [verdict, h]
    exact iff_of_true rfl (Option.some_ne_none _)
  | refused text => exact iff_of_false Verdict.noConfusion (fun hNone => hNone rfl)
  | silent => exact iff_of_false Verdict.noConfusion (fun hNone => hNone rfl)

section

variable {s : Statement} {statements sent : List Statement} {replies : List Reply} {n m : Nat}
  {isOpen : Bool}

theorem succeed_nil (replies : List Reply) : Succeed [] replies := by
  intro i s hs
  cases List.getElem?_nil.symm.trans hs

theorem succeed_cons :
    Succeed (s :: statements) replies ↔
      s.verdict (replyTo replies 0) = .succeeded ∧ Succeed statements replies.tail := by
  constructor
  · intro h
    refine ⟨h 0 s rfl, fun i t ht => ?_⟩
    rw [replyTo_tail]
    exact h (i + 1) t ht
  · rintro ⟨hFirst, hRest⟩ i t ht
    cases i with
    | zero =>
      cases ht
      exact hFirst
    | succ i =>
      rw [← replyTo_tail]
      exact hRest i t ht

theorem succeed_take_succ (hs : statements[m]? = some s) :
    Succeed (statements.take (m + 1)) replies ↔
      Succeed (statements.take m) replies ∧ s.verdict (replyTo replies m) = .succeeded := by
  induction m generalizing statements replies with
  | zero =>
    cases statements with
    | nil => cases List.getElem?_nil.symm.trans hs
    | cons t statements =>
      cases hs
      rw [List.take_succ_cons, List.take_zero, succeed_cons]
      exact and_comm.trans (and_congr_left' (iff_of_true (succeed_nil _) (succeed_nil _)))
  | succ m ih =>
    cases statements with
    | nil => cases List.getElem?_nil.symm.trans hs
    | cons t statements =>
      rw [List.getElem?_cons_succ] at hs
      rw [List.take_succ_cons, List.take_succ_cons, succeed_cons, succeed_cons, ih hs, and_assoc,
        replyTo_tail]

theorem Reaches.lt_iff (h : Reaches isOpen statements replies n sent)
    (hs : statements[m]? = some s) :
    m < n ↔ m ≤ n ∧ s.verdict (replyTo replies m) = .succeeded := by
  have hm : m < statements.length := (List.getElem?_eq_some_iff.mp hs).1
  rw [Nat.lt_iff_add_one_le, h.le_iff (m + 1) hm, succeed_take_succ hs,
    h.le_iff m (Nat.le_of_lt hm)]

theorem Reaches.eq_length_iff (h : Reaches isOpen statements replies n sent) :
    n = statements.length ↔ Succeed statements replies := by
  have hAll := h.le_iff _ (Nat.le_refl _)
  rw [List.take_length] at hAll
  exact Iff.trans ⟨Nat.le_of_eq ∘ Eq.symm, Nat.le_antisymm h.le_length⟩ hAll

theorem Reaches.sent_eq_of_succeed (h : Reaches isOpen statements replies n sent)
    (hAll : Succeed statements replies) : sent = statements := by
  rw [h.sent_eq, h.eq_length_iff.mpr hAll, if_neg fun hLt => Nat.lt_irrefl _ hLt.1,
    List.append_nil]
  exact List.take_of_length_le (Nat.le_succ _)

end

/-! ## Progress -/

section

variable {α : Type} {after : Statement → List Signal} {final : Ending α} {isOpen : Bool}
  {statements : List Statement} {replies : List Reply} {t : Transcript α} {n : Nat}

/-- The first `n` statements of a dialogue succeeded. -/
structure Progress (after : Statement → List Signal) (final : Ending α) (isOpen : Bool)
    (statements : List Statement) (replies : List Reply) (n : Nat) (t : Transcript α) : Prop
    extends Reaches isOpen statements replies n t.sent where
  signals_eq : t.signals = (statements.take n).flatMap after
  ending : n = statements.length → t.ending = final

theorem Progress.cons {s : Statement} (h : Progress after final true statements replies.tail n t)
    (hFirst : s.verdict (replyTo replies 0) = .succeeded) :
    Progress after final isOpen (s :: statements) replies (n + 1)
      ((t.telling (after s)).sending s) where
  le_length := Nat.succ_le_succ h.le_length
  le_iff := by
    intro m hm
    cases m with
    | zero => exact iff_of_true (Nat.zero_le _) (succeed_nil replies)
    | succ m =>
      rw [List.take_succ_cons, succeed_cons, ← h.le_iff m (Nat.le_of_succ_le_succ hm),
        Nat.succ_le_succ_iff]
      exact (and_iff_right hFirst).symm
  sent_eq := by
    have hSent : t.sent = _ := h.sent_eq
    simp only [true_or, and_true] at hSent
    simp [Transcript.sending, Transcript.telling, hSent]
  signals_eq := by
    have hSignals : t.signals = _ := h.signals_eq
    simp [Transcript.sending, Transcript.telling, hSignals]
  ending hn := h.ending (Nat.succ.inj hn)

theorem progress_stopped {s : Statement} (e : Ending α)
    (h : s.verdict (replyTo replies 0) ≠ .succeeded) :
    Progress after final isOpen (s :: statements) replies 0
      ((Dialogue.abandon isOpen e).sending s) where
  le_length := Nat.zero_le _
  le_iff := by
    intro m _
    cases m with
    | zero => exact iff_of_true (Nat.le_refl 0) (succeed_nil replies)
    | succ m =>
      rw [List.take_succ_cons, succeed_cons]
      exact iff_of_false (Nat.not_succ_le_zero m) fun hBoth => h hBoth.1
  sent_eq := by cases isOpen <;> simp [Transcript.sending, Dialogue.abandon]
  signals_eq := rfl
  ending := nofun

theorem Follows.exists_progress {lines : List Line}
    (h : Follows after final isOpen lines replies t) :
    ∃ n, Progress after final isOpen (lines.map Line.statement) replies n t := by
  induction h with
  | ended isOpen replies =>
    refine ⟨0, ⟨Nat.le_refl 0, fun m hm => ?_, by simp⟩, rfl, fun _ => rfl⟩
    rw [List.map_nil, List.take_nil]
    exact iff_of_true hm (succeed_nil replies)
  | succeeded hFirst _ ih =>
    obtain ⟨n, hProgress⟩ := ih
    exact ⟨n + 1, hProgress.cons hFirst⟩
  | stopped isOpen lines hEnding =>
    refine ⟨0, progress_stopped _ fun hSucceeded => ?_⟩
    rw [hSucceeded] at hEnding
    cases hEnding

end

/-! ## Claims -/

/-- What a claim sends behind the update that exhausts. -/
def afterExhausting (plan : ClaimPlan) (now : Instant) : List Statement :=
  if plan.claimable.isEmpty then [.commit] else [.markProcessing now plan.claimable, .commit]

/-- What a claim sends behind its lock: the updates that have ids, and the commit. -/
def afterLock (plan : ClaimPlan) (ceiling : UInt32) (now : Instant) : List Statement :=
  if plan.exhausted.isEmpty then afterExhausting plan now
  else .exhaust (exhaustedMessage ceiling) now plan.exhausted :: afterExhausting plan now

/-- The whole transaction of a claim. -/
def planned (options : StoreOptions) (now : Instant) (ids : List String) (ceiling : UInt32)
    (plan : ClaimPlan) : List Statement :=
  [.beginTransaction, .limitTime options.batchTimeout, .lock ids] ++ afterLock plan ceiling now

theorem map_statement_script (options : StoreOptions) (now : Instant)
    (locked : List (String × UInt32)) (ids : List String) (ceiling : UInt32) :
    (script options now locked (.claim ids ceiling)).map Line.statement =
      planned options now ids ceiling (.ofLocked ceiling locked) := by
  simp only [script, uncommitted, ownLines, exhaustLines, markLines, planned, afterLock,
    afterExhausting]
  split <;> split <;> rfl

/-- The exchange of a claim ends as its transcript does; what it adds is a duration and a span. -/
structure Concludes (t : Transcript (List (String × Job))) (e : Exchange BatchResult) : Prop where
  sent_eq : e.sent = t.sent
  events_eq : events e.signals = events t.signals
  counts_eq : counts e.signals = counts t.signals
  result_eq : ∀ jobs, t.ending = .finished jobs → e.result = some (.ok (.claimed jobs))

theorem concludes_bounded (limit : Duration) (size : Nat) (d : Dialogue (List (String × Job)))
    (replies : List Reply) :
    Concludes (d.run false replies) (bounded .claim limit size List.length
      (fun jobs => (.claimed jobs, [])) d replies) := by
  rw [bounded]
  split <;> rename_i hEnding <;> constructor <;> simp [events, counts, hEnding]

/-- A claim of which the first `n` statements succeed. -/
structure ClaimReaches (ceiling : UInt32) (plan : ClaimPlan) (statements : List Statement)
    (replies : List Reply) (n : Nat) (e : Exchange BatchResult) : Prop
    extends Reaches false statements replies n e.sent where
  events_eq : events e.signals =
    events ((statements.take n).flatMap (claimSignals ceiling plan (markedRows plan replies)))
  counts_eq : counts e.signals =
    counts ((statements.take n).flatMap (claimSignals ceiling plan (markedRows plan replies)))
  result_eq : n = statements.length → ∀ jobs,
    (markedRows plan replies).mapM FullRow.toJob = .ok jobs →
    e.result = some (.ok (.claimed (keyed jobs)))

/-- Whatever is replied to an accepted claim, it goes through its statements as far as they
succeed. -/
theorem exists_claimReaches (options : StoreOptions) (now : Instant) {ids : List String}
    {ceiling : UInt32} (replies : List Reply) (hIds : ids ≠ [])
    (hFormed : ¬(Batch.claim ids ceiling).Malformed) :
    let plan := ClaimPlan.ofLocked ceiling (replyTo replies 2).locked
    ∃ n, ClaimReaches ceiling plan
      (planned options now (Batch.distinct id ids) ceiling plan) replies n
      (perform options now (.claim ids ceiling) replies) := by
  intro plan
  have hSize : (Batch.claim ids ceiling).size ≠ 0 := mt List.length_eq_zero_iff.mp hIds
  obtain ⟨n, hProgress⟩ := (Dialogue.follows_claiming options now (Batch.distinct id ids) ceiling
    replies).exists_progress
  rw [map_statement_script] at hProgress
  have hEnd := concludes_bounded options.batchTimeout (Batch.distinct id ids).length
    (claiming options.batchTimeout now (Batch.distinct id ids) ceiling) replies
  rw [perform_of_accepted hSize (Batch.not_malformed_iff.mp hFormed)]
  refine ⟨n, ⟨?_, ?_, ?_, ?_⟩⟩
  · exact hEnd.sent_eq ▸ hProgress.toReaches
  · exact hEnd.events_eq.trans (congrArg events hProgress.signals_eq)
  · exact hEnd.counts_eq.trans (congrArg counts hProgress.signals_eq)
  · intro hn jobs hJobs
    refine hEnd.result_eq (keyed jobs) ((hProgress.ending hn).trans ?_)
    rw [claimEnding, hJobs]

end AnchorQueue.Sql
