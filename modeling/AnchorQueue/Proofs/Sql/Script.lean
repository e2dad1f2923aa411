import AnchorQueue.Proofs.Sql.Server
import AnchorQueue.Proofs.Sql.Verdict
import AnchorQueue.Store.Perform

/-!
# The script of a batch

A batch is to be one transaction: it opens, limits the time of its statements, sends those of its
own, and commits. Which statements a claim has of its own depends on the rows that it locked. Every
dialogue of a batch plays its script up to the first statement that does not succeed, and there the
open transaction is rolled back.
-/

namespace AnchorQueue

open AnchorQueue.Time (Duration Instant)

/-- No counter goes up, and no duration is taken. -/
def Signal.Unmetered (signals : List Signal) : Prop :=
  counts signals = [] ∧ timings signals = []

theorem Signal.Unmetered.append {xs ys : List Signal} (hx : Unmetered xs) (hy : Unmetered ys) :
    Unmetered (xs ++ ys) := by
  rw [Unmetered, counts, timings, List.filterMap_append, List.filterMap_append]
  exact ⟨List.append_eq_nil_iff.mpr ⟨hx.1, hy.1⟩, List.append_eq_nil_iff.mpr ⟨hx.2, hy.2⟩⟩

namespace Sql

/-! ## Lines -/

/-- A statement, with the stage to which its errors are put down. -/
structure Line where
  stage : String
  statement : Statement
  deriving DecidableEq

def Line.of (o : Operation) (part : String) (s : Statement) : Line :=
  ⟨o.name ++ "." ++ part, s⟩

def exhaustLines (plan : ClaimPlan) (ceiling : UInt32) (now : Instant) : List Line :=
  if plan.exhausted.isEmpty then []
  else [.of .claim "exhaust" (.exhaust (exhaustedMessage ceiling) now plan.exhausted)]

def markLines (plan : ClaimPlan) (now : Instant) : List Line :=
  if plan.claimable.isEmpty then []
  else [.of .claim "mark_processing" (.markProcessing now plan.claimable)]

/-- The statements of a batch between its opening and its commit. -/
def ownLines (now : Instant) (locked : List (String × UInt32)) : Batch → List Line
  | .insert submissions => [.of .insert "execute" (.insert submissions)]
  | .claim ids ceiling =>
    let plan := ClaimPlan.ofLocked ceiling locked
    .of .claim "lock" (.lock ids) :: (exhaustLines plan ceiling now ++ markLines plan now)
  | .complete anchorings => [.of .complete "update" (.complete anchorings now)]
  | .fail failures => [.of .fail "update" (.fail failures now)]
  | .retry ids lastError => [.of .retry "update" (.requeue lastError ids)]

/-- What comes before the commit. -/
def uncommitted (options : StoreOptions) (now : Instant) (locked : List (String × UInt32))
    (b : Batch) : List Line :=
  .of b.operation "begin" .beginTransaction ::
    .of b.operation "begin" (.limitTime (limitOf options b.operation)) :: ownLines now locked b

def script (options : StoreOptions) (now : Instant) (locked : List (String × UInt32))
    (b : Batch) : List Line :=
  uncommitted options now locked b ++ [.of b.operation "commit" .commit]

theorem ne_commit_of_mem_ownLines {now : Instant} {locked : List (String × UInt32)} {b : Batch}
    {l : Line} (h : l ∈ ownLines now locked b) : l.statement ≠ .commit := by
  cases b with
  | claim ids ceiling =>
    rcases List.mem_cons.mp h with rfl | hPlanned
    · exact Statement.noConfusion
    · rcases List.mem_append.mp hPlanned with hExhaust | hMark
      · rw [exhaustLines] at hExhaust
        split at hExhaust
        · cases hExhaust
        · cases List.mem_singleton.mp hExhaust
          exact Statement.noConfusion
      · rw [markLines] at hMark
        split at hMark
        · cases hMark
        · cases List.mem_singleton.mp hMark
          exact Statement.noConfusion
  | insert | complete | fail | retry =>
    cases List.mem_singleton.mp h
    exact Statement.noConfusion

theorem ne_commit_of_mem_uncommitted {options : StoreOptions} {now : Instant}
    {locked : List (String × UInt32)} {b : Batch} {l : Line}
    (h : l ∈ uncommitted options now locked b) : l.statement ≠ .commit := by
  rcases List.mem_cons.mp h with rfl | h
  · exact Statement.noConfusion
  · rcases List.mem_cons.mp h with rfl | h
    · exact Statement.noConfusion
    · exact ne_commit_of_mem_ownLines h

/-! ## Playing a script -/

/-- The transcript is that of a dialogue which sends the lines one by one, as long as they succeed.
It ends with the first that does not, and leaves no transaction open. -/
inductive Plays {α : Type} : Bool → List Line → List Reply → Transcript α → Prop
  | finished (isOpen : Bool) (replies : List Reply) (a : α) (signals : List Signal) :
    Plays isOpen [] replies ⟨.finished a, [], signals⟩
  | told {isOpen : Bool} {lines : List Line} {replies : List Reply} {t : Transcript α}
    {signals : List Signal} (hSignals : Signal.Unmetered signals)
    (hRest : Plays isOpen lines replies t) : Plays isOpen lines replies (t.telling signals)
  | succeeded {isOpen : Bool} {l : Line} {lines : List Line} {replies : List Reply}
    {t : Transcript α} (h : l.statement.verdict (replyTo replies 0) = .succeeded)
    (hRest : Plays true lines replies.tail t) :
    Plays isOpen (l :: lines) replies (t.sending l.statement)
  | failed (isOpen : Bool) {l : Line} (lines : List Line) {replies : List Reply}
    {cause : DatabaseError} (h : l.statement.verdict (replyTo replies 0) = .failed cause) :
    Plays isOpen (l :: lines) replies
      ((Dialogue.abandon isOpen (.refused (.database l.stage cause))).sending l.statement)
  | unanswered (isOpen : Bool) {l : Line} (lines : List Line) {replies : List Reply}
    (h : l.statement.verdict (replyTo replies 0) = .unanswered) :
    Plays isOpen (l :: lines) replies ((Dialogue.abandon isOpen .unanswered).sending l.statement)

end Sql

end AnchorQueue
