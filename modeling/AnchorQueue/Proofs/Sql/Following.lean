import AnchorQueue.Proofs.Sql.Script

/-!
# Dialogues that follow a script

A dialogue follows a list of lines if it sends them in turn as long as they succeed, gives certain
signals behind each of them, and ends in a certain way behind the last. Every batch follows its
script, whatever is replied. A claim does so also when the rows that it gets back after all have a
status without a name; it is then refused behind its commit.
-/

namespace AnchorQueue.Sql

open AnchorQueue.Time (Duration Instant)
open Signal (Unmetered ofMoves)

/-- How a statement that did not succeed ends the dialogue. -/
def Stage.ending? {α : Type} (stage : Stage) : Verdict → Option (Ending α)
  | .succeeded => none
  | .failed cause => some (.refused (stage.error cause))
  | .unanswered => some .unanswered

/-- Behind each line that succeeds come the signals `after` it, and behind the last the dialogue
ends with `final`. -/
inductive Follows {α : Type} (after : Statement → List Signal) (final : Ending α) :
    Bool → List Line → List Reply → Transcript α → Prop
  | ended (isOpen : Bool) (replies : List Reply) :
    Follows after final isOpen [] replies ⟨final, [], []⟩
  | succeeded {isOpen : Bool} {l : Line} {lines : List Line} {replies : List Reply}
    {t : Transcript α} (h : l.statement.verdict (replyTo replies 0) = .succeeded)
    (hRest : Follows after final true lines replies.tail t) :
    Follows after final isOpen (l :: lines) replies
      ((t.telling (after l.statement)).sending l.statement)
  | stopped (isOpen : Bool) {l : Line} (lines : List Line) {replies : List Reply} {e : Ending α}
    (h : (Stage.named l.stage).ending? (l.statement.verdict (replyTo replies 0)) = some e) :
    Follows after final isOpen (l :: lines) replies
      ((Dialogue.abandon isOpen e).sending l.statement)

section

variable {α : Type} {after : Statement → List Signal} {isOpen : Bool} {lines : List Line}
  {replies : List Reply} {t : Transcript α}

/-- What follows a script up to an answer plays it, unless it counts before the last line. -/
theorem Follows.plays {a : α} (h : Follows after (.finished a) isOpen lines replies t)
    (hAfter : ∀ l ∈ lines.dropLast, Unmetered (after l.statement)) :
    Plays isOpen lines replies t := by
  induction h with
  | ended isOpen replies => exact .finished isOpen replies a []
  | @succeeded isOpen l lines replies t hFirst hRest ih =>
    refine .succeeded hFirst ?_
    cases lines with
    | nil =>
      cases hRest
      exact .finished true replies.tail a _
    | cons m lines =>
      have hRestAfter := List.forall_mem_cons.mp hAfter
      exact .told hRestAfter.1 (ih hRestAfter.2)
  | @stopped isOpen l lines replies e hVerdict =>
    cases hCause : l.statement.verdict (replyTo replies 0) with
    | succeeded =>
      rw [hCause] at hVerdict
      cases hVerdict
    | failed cause =>
      rw [hCause] at hVerdict
      cases hVerdict
      exact .failed isOpen lines hCause
    | unanswered =>
      rw [hCause] at hVerdict
      cases hVerdict
      exact .unanswered isOpen lines hCause

end

namespace Dialogue

variable {α β : Type} {o : Operation} {part : String} {s : Statement} {isOpen : Bool}
  {lines : List Line} {replies : List Reply} {after : Statement → List Signal} {final : Ending α}

/-! ## Statements of a dialogue -/

theorem run_ask_cases (stage : Stage) (s : Statement) (next : Response → Dialogue α)
    (isOpen : Bool) (replies : List Reply) :
    (∃ a, (nextReply replies).response? = some a ∧
      (ask stage s next).run isOpen replies =
        ((next a).run (opens isOpen s) replies.tail).sending s) ∨
    ∃ e, stage.ending? (s.verdict (replyTo replies 0)) = some e ∧
      (ask stage s next).run isOpen replies = (abandon isOpen e).sending s := by
  cases hResponse : (nextReply replies).response? with
  | some a => exact Or.inl ⟨a, rfl, run_ask_of_response? stage s next isOpen hResponse⟩
  | none =>
    rw [← nextReply_eq, run]
    cases hReply : nextReply replies with
    | done n | rows rs =>
      rw [hReply] at hResponse
      cases hResponse
    | refused text => exact Or.inr ⟨_, rfl, rfl⟩
    | silent => exact Or.inr ⟨_, rfl, rfl⟩

theorem follows_ask {next : Response → Dialogue α}
    (hNext : ∀ a, (replyTo replies 0).response? = some a → s.rowFault? a.rows = none →
      ∃ t, Follows after final true lines replies.tail t ∧
        (next a).run (opens isOpen s) replies.tail = t.telling (after s))
    (hFault : ∀ a cause, s.rowFault? a.rows = some cause →
      (next a).run (opens isOpen s) replies.tail =
        abandon isOpen (.refused ((stageOf o part).error cause))) :
    Follows after final isOpen (.of o part s :: lines) replies
      ((ask (stageOf o part) s next).run isOpen replies) := by
  rcases run_ask_cases (stageOf o part) s next isOpen replies with
    ⟨a, hResponse, hRun⟩ | ⟨e, hEnding, hRun⟩
  · -- The statement went through, so the verdict is up to the rows that came back.
    rw [hRun]
    rw [nextReply_eq] at hResponse
    have hVerdict := Reply.verdict_of_response? hResponse s
    cases hRows : s.rowFault? a.rows with
    | none =>
      rw [hRows] at hVerdict
      obtain ⟨t, hFollows, hNextRun⟩ := hNext a hResponse hRows
      rw [hNextRun]
      exact .succeeded (l := .of o part s) hVerdict hFollows
    | some cause =>
      rw [hRows] at hVerdict
      rw [hFault a cause hRows]
      exact .stopped isOpen (l := .of o part s) lines (congrArg (stageOf o part).ending? hVerdict)
  · rw [hRun]
    exact .stopped isOpen (l := .of o part s) lines hEnding

/-- No row is read of what comes back. -/
theorem follows_ask_unread {next : Response → Dialogue α}
    (hUnread : ∀ rows, s.rowFault? rows = none)
    (hNext : ∀ a, (replyTo replies 0).response? = some a →
      ∃ t, Follows after final true lines replies.tail t ∧
        (next a).run (opens isOpen s) replies.tail = t.telling (after s)) :
    Follows after final isOpen (.of o part s :: lines) replies
      ((ask (stageOf o part) s next).run isOpen replies) := by
  apply follows_ask fun a hResponse _ => hNext a hResponse
  intro a cause hSome
  rw [hUnread] at hSome
  cases hSome

theorem follows_ask_reading {f : Row → Except DatabaseError β} {next : List β → Dialogue α}
    (hRead : ∀ rows, s.rowFault? rows = readFault? (rows.mapM f)) (hOpen : opens true s = true)
    (hSilent : after s = [])
    (hNext : ∀ a xs, (replyTo replies 0).response? = some a → a.rows.mapM f = .ok xs →
      Follows after final true lines replies.tail ((next xs).run true replies.tail)) :
    Follows after final true (.of o part s :: lines) replies
      ((ask (stageOf o part) s fun r => decoding (stageOf o part) (r.rows.mapM f) next).run true
        replies) := by
  apply follows_ask
  · intro a hResponse hNone
    rw [hRead] at hNone
    cases hRows : a.rows.mapM f with
    | ok xs =>
      rw [hOpen, decoding, hSilent]
      exact ⟨_, hNext a xs hResponse hRows, rfl⟩
    | error cause =>
      rw [hRows] at hNone
      cases hNone
  · intro a cause hSome
    rw [hRead] at hSome
    cases hRows : a.rows.mapM f with
    | ok xs =>
      rw [hRows] at hSome
      cases hSome
    | error cause' =>
      rw [hRows] at hSome
      cases hSome
      rw [hOpen]
      rfl

theorem follows_opening {limit : Duration} {body : Dialogue α}
    (hBegin : after .beginTransaction = []) (hLimit : after (.limitTime limit) = [])
    (h : Follows after final true lines replies.tail.tail (body.run true replies.tail.tail)) :
    Follows after final false
      (.of o "begin" .beginTransaction :: .of o "begin" (.limitTime limit) :: lines) replies
      ((opening o limit body).run false replies) := by
  have hLimited : Follows after final true (.of o "begin" (.limitTime limit) :: lines)
      replies.tail ((ask (stageOf o "begin") (.limitTime limit) fun _ => body).run true
        replies.tail) := by
    refine follows_ask_unread (fun _ => rfl) fun _ _ => ⟨_, h, ?_⟩
    rw [hLimit]
    rfl
  refine follows_ask_unread (fun _ => rfl) fun _ _ => ⟨_, hLimited, ?_⟩
  rw [hBegin]
  rfl

/-! ## Transactions of one statement -/

/-- The number of rows that a transaction of one statement changes. -/
def changed (replies : List Reply) : Nat :=
  ((replyTo replies 2).response?.map Response.affected).getD 0

theorem follows_changing (o : Operation) (limit : Duration) (part : String) (replies : List Reply)
    (hRows : ∀ rows, s.rowFault? rows = none) (hOpen : opens true s = true) :
    Follows (fun _ => []) (.finished (changed replies)) false
      [.of o "begin" .beginTransaction, .of o "begin" (.limitTime limit), .of o part s,
        .of o "commit" .commit] replies ((changing o limit part s).run false replies) := by
  apply follows_opening rfl rfl
  apply follows_ask_unread hRows
  intro a hResponse
  rw [replyTo_tail, replyTo_tail] at hResponse
  have hChanged : changed replies = a.affected := by rw [changed, hResponse]; rfl
  rw [hOpen, hChanged]
  exact ⟨_, follows_ask_unread (fun _ => rfl) fun _ _ => ⟨_, .ended true _, rfl⟩, rfl⟩

theorem plays_changing (o : Operation) (limit : Duration) (part : String) (replies : List Reply)
    (hRows : ∀ rows, s.rowFault? rows = none) (hOpen : opens true s = true) :
    Plays false [.of o "begin" .beginTransaction, .of o "begin" (.limitTime limit), .of o part s,
      .of o "commit" .commit] replies ((changing o limit part s).run false replies) :=
  (follows_changing o limit part replies hRows hOpen).plays fun _ _ => ⟨rfl, rfl⟩

end Dialogue

/-! ## Claims -/

/-- What a claim signals behind a statement: the event behind the update that exhausts, although
the transaction is still open, and the counters behind the commit. -/
def claimSignals (ceiling : UInt32) (plan : ClaimPlan) (rows : List FullRow) :
    Statement → List Signal
  | .exhaust _ _ ids => [.event (.ceilingReached ids.length ceiling)]
  | .commit =>
    ofMoves .received .failed plan.exhausted.length ++ ofMoves .received .processing rows.length
  | _ => []

def claimEnding (rows : List FullRow) : Ending (List (String × Job)) :=
  match rows.mapM FullRow.toJob with
  | .ok jobs => .finished (keyed jobs)
  | .error e => .refused e

/-- The rows that an update returns; none if they cannot be read. -/
def Reply.full : Reply → List FullRow
  | rows rs =>
    match rs.mapM Row.full with
    | .ok full => full
    | .error _ => []
  | _ => []

/-- The place of the update that marks the jobs, if there is one. -/
def markPlace (plan : ClaimPlan) : Nat :=
  if plan.exhausted.isEmpty then 3 else 4

/-- The rows of the jobs that a claim hands out. -/
def markedRows (plan : ClaimPlan) (replies : List Reply) : List FullRow :=
  if plan.claimable.isEmpty then [] else (replyTo replies (markPlace plan)).full

theorem Reply.full_of_response? {r : Reply} {a : Response} {rows : List FullRow}
    (h : r.response? = some a) (hRead : a.rows.mapM Row.full = .ok rows) : r.full = rows := by
  cases r with
  | done n =>
    cases h
    cases hRead
    rfl
  | rows rs =>
    cases h
    rw [full, hRead]
  | refused text => cases h
  | silent => cases h

theorem unmetered_claimSignals {ceiling : UInt32} {plan : ClaimPlan} {rows : List FullRow}
    {s : Statement} (h : s ≠ .commit) : Unmetered (claimSignals ceiling plan rows s) := by
  cases s with
  | commit => exact absurd rfl h
  | _ => exact ⟨rfl, rfl⟩

theorem Reply.exists_jobs_of_full {r : Reply} (h : r.Checked) :
    ∃ jobs, r.full.mapM FullRow.toJob = .ok jobs := by
  cases r with
  | rows rs =>
    rw [full]
    cases hFull : rs.mapM Row.full with
    | ok rows => exact exists_jobs_of_checked h rfl hFull
    | error cause => exact ⟨[], rfl⟩
  | done | refused | silent => exact ⟨[], rfl⟩

theorem exists_finished_of_checked {replies : List Reply} (h : ∀ r ∈ replies, r.Checked)
    (plan : ClaimPlan) : ∃ jobs, claimEnding (markedRows plan replies) = .finished jobs := by
  obtain ⟨jobs, hJobs⟩ : ∃ jobs, (markedRows plan replies).mapM FullRow.toJob = .ok jobs := by
    rw [markedRows]
    split
    · exact ⟨[], rfl⟩
    · exact Reply.exists_jobs_of_full (checked_replyTo h _)
  rw [claimEnding, hJobs]
  exact ⟨keyed jobs, rfl⟩

namespace Dialogue

variable {now : Instant} {ceiling : UInt32} {plan : ClaimPlan} {replies : List Reply}

theorem follows_claimCommitted (rows : List FullRow) :
    Follows (claimSignals ceiling plan rows) (claimEnding rows) true
      [.of .claim "commit" .commit] replies ((claimCommitted plan rows).run true replies) := by
  refine follows_ask_unread (fun _ => rfl) fun _ _ => ⟨_, .ended true replies.tail, ?_⟩
  rw [run, claimEnding]
  cases rows.mapM FullRow.toJob <;> rfl

theorem follows_claimMarked {rows : List FullRow}
    (h : rows = if plan.claimable.isEmpty then [] else (replyTo replies 0).full) :
    Follows (claimSignals ceiling plan rows) (claimEnding rows) true
      (markLines plan now ++ [.of .claim "commit" .commit]) replies
      ((claimMarked plan now (claimCommitted plan)).run true replies) := by
  rw [claimMarked, markLines]
  subst h
  split
  · exact follows_claimCommitted []
  · apply follows_ask_reading (fun _ => rfl) rfl rfl
    intro a rows hResponse hRows
    rw [Reply.full_of_response? hResponse hRows]
    exact follows_claimCommitted rows

/-- The replies to a plan are those behind the lock. -/
theorem follows_claimPlanned :
    let rows := markedRows plan replies
    Follows (claimSignals ceiling plan rows) (claimEnding rows) true
      ((exhaustLines plan ceiling now ++ markLines plan now) ++ [.of .claim "commit" .commit])
      replies.tail.tail.tail ((claimPlanned plan ceiling now).run true replies.tail.tail.tail) := by
  intro rows
  rw [claimPlanned, List.append_assoc, exhaustLines]
  by_cases hEmpty : plan.isEmpty
  · obtain ⟨hExhausted, hClaimable⟩ := (Bool.and_eq_true _ _).mp hEmpty
    have hRows : rows = [] := if_pos hClaimable
    rw [if_pos hEmpty, if_pos hExhausted, markLines, if_pos hClaimable, hRows]
    refine follows_ask_unread (fun _ => rfl) fun _ _ => ⟨_, .ended true _, ?_⟩
    rw [claimSignals, List.isEmpty_iff.mp hExhausted]
    rfl
  · rw [if_neg hEmpty, claimExhausted]
    by_cases hNone : plan.exhausted.isEmpty
    · rw [if_pos hNone, if_pos hNone]
      apply follows_claimMarked
      simp only [rows, markedRows, markPlace, if_pos hNone, replyTo_tail]
    · rw [if_neg hNone, if_neg hNone]
      refine follows_ask_unread (fun _ => rfl) fun _ _ => ⟨_, follows_claimMarked ?_, rfl⟩
      simp only [rows, markedRows, markPlace, if_neg hNone, replyTo_tail]

theorem follows_claiming (options : StoreOptions) (now : Instant) (ids : List String)
    (ceiling : UInt32) (replies : List Reply) :
    let locked := (replyTo replies 2).locked
    let plan := ClaimPlan.ofLocked ceiling locked
    let rows := markedRows plan replies
    Follows (claimSignals ceiling plan rows) (claimEnding rows) false
      (script options now locked (.claim ids ceiling)) replies
      ((claiming options.batchTimeout now ids ceiling).run false replies) := by
  intro locked plan rows
  apply follows_opening rfl rfl
  apply follows_ask_reading (fun _ => rfl) rfl rfl
  intro a pairs hResponse hRows
  have hLocked := Reply.locked_of_response? hResponse hRows
  rw [replyTo_tail, replyTo_tail] at hLocked
  rw [← hLocked]
  exact follows_claimPlanned

theorem plays_claiming (options : StoreOptions) (now : Instant) (ids : List String)
    (ceiling : UInt32) {replies : List Reply} (h : ∀ r ∈ replies, r.Checked) :
    Plays false (script options now (replyTo replies 2).locked (.claim ids ceiling)) replies
      ((claiming options.batchTimeout now ids ceiling).run false replies) := by
  have hFollows := follows_claiming options now ids ceiling replies
  obtain ⟨jobs, hJobs⟩ := exists_finished_of_checked h
    (ClaimPlan.ofLocked ceiling (replyTo replies 2).locked)
  simp only [hJobs] at hFollows
  apply hFollows.plays
  rw [script, List.dropLast_concat]
  exact fun l hl => unmetered_claimSignals (ne_commit_of_mem_uncommitted hl)

end Dialogue

end AnchorQueue.Sql
