import AnchorQueue.Proofs.Sql.Following
import AnchorQueue.Proofs.Sql.Refusal

/-!
# Transactions from end to end

A batch goes through its whole script, or it stops at the first statement that does not succeed. So
it commits at most once and only what succeeded as a whole, its error names the statement at which
it stopped, and nothing is counted that was not committed.
-/

namespace AnchorQueue.Sql

open AnchorQueue.Time (Duration Instant)

/-- The verdict on the line at a place of the script. -/
def verdictAt (lines : List Line) (replies : List Reply) (i : Nat) : Option Verdict :=
  lines[i]?.map fun l => l.statement.verdict (replyTo replies i)

theorem verdictAt_succ (l : Line) (lines : List Line) (replies : List Reply) (i : Nat) :
    verdictAt (l :: lines) replies (i + 1) = verdictAt lines replies.tail i := by
  rw [verdictAt, verdictAt, List.getElem?_cons_succ, replyTo_tail]

section

variable {α : Type}

structure Completed (lines : List Line) (replies : List Reply) (t : Transcript α) : Prop where
  succeeded : ∀ i < lines.length, verdictAt lines replies i = some .succeeded
  sent_eq : t.sent = lines.map Line.statement
  ending : ∃ a, t.ending = .finished a

/-- The line at the place is the first that does not succeed. -/
structure Stopped (isOpen : Bool) (lines : List Line) (replies : List Reply) (i : Nat)
    (t : Transcript α) : Prop where
  reached : ∀ j < i, verdictAt lines replies j = some .succeeded
  sent_eq : t.sent = (lines.take (i + 1)).map Line.statement ++
    if isOpen = true ∨ 0 < i then [.rollback] else []
  ending : ∃ l, lines[i]? = some l ∧
    ((∃ cause, verdictAt lines replies i = some (.failed cause) ∧
        t.ending = .refused (.database l.stage cause)) ∨
      verdictAt lines replies i = some .unanswered ∧ t.ending = .unanswered)
  unmetered : Signal.Unmetered t.signals

variable {isOpen : Bool} {l : Line} {lines : List Line} {replies : List Reply} {t : Transcript α}
  {i : Nat}

theorem Completed.cons (h : Completed lines replies.tail t)
    (hFirst : l.statement.verdict (replyTo replies 0) = .succeeded) :
    Completed (l :: lines) replies (t.sending l.statement) where
  succeeded := by
    intro i hi
    cases i with
    | zero => exact congrArg some hFirst
    | succ i =>
      rw [verdictAt_succ]
      exact h.succeeded i (Nat.lt_of_succ_lt_succ hi)
  sent_eq := congrArg (l.statement :: ·) h.sent_eq
  ending := h.ending

theorem Stopped.cons (h : Stopped true lines replies.tail i t)
    (hFirst : l.statement.verdict (replyTo replies 0) = .succeeded) :
    Stopped isOpen (l :: lines) replies (i + 1) (t.sending l.statement) where
  reached := by
    intro j hj
    cases j with
    | zero => exact congrArg some hFirst
    | succ j =>
      rw [verdictAt_succ]
      exact h.reached j (Nat.lt_of_succ_lt_succ hj)
  sent_eq := by
    have hSent := h.sent_eq
    rw [if_pos (Or.inl rfl)] at hSent
    rw [if_pos (Or.inr (Nat.succ_pos i)), List.take_succ_cons, List.map_cons, List.cons_append,
      ← hSent]
    rfl
  ending := by
    rw [verdictAt_succ, List.getElem?_cons_succ]
    exact h.ending
  unmetered := h.unmetered

theorem stopped_first {e : Ending α}
    (h : (∃ cause, l.statement.verdict (replyTo replies 0) = .failed cause ∧
        e = .refused (.database l.stage cause)) ∨
      l.statement.verdict (replyTo replies 0) = .unanswered ∧ e = .unanswered) :
    Stopped isOpen (l :: lines) replies 0
      ((Dialogue.abandon isOpen e).sending l.statement) where
  reached := nofun
  sent_eq := by cases isOpen <;> rfl
  ending := by
    refine ⟨l, rfl, ?_⟩
    rcases h with ⟨cause, hVerdict, hEnding⟩ | ⟨hVerdict, hEnding⟩
    · exact Or.inl ⟨cause, congrArg some hVerdict, hEnding⟩
    · exact Or.inr ⟨congrArg some hVerdict, hEnding⟩
  unmetered := ⟨rfl, rfl⟩

/-- What plays a script has gone through it, or has stopped at one of its lines. -/
theorem Plays.completed_or_stopped (h : Plays isOpen lines replies t) :
    Completed lines replies t ∨ ∃ i, Stopped isOpen lines replies i t := by
  induction h with
  | finished isOpen replies a signals => exact Or.inl ⟨nofun, rfl, a, rfl⟩
  | told hSignals hRest ih =>
    rcases ih with hAll | ⟨i, hAt⟩
    · exact Or.inl ⟨hAll.succeeded, hAll.sent_eq, hAll.ending⟩
    · exact Or.inr ⟨i, hAt.reached, hAt.sent_eq, hAt.ending, hSignals.append hAt.unmetered⟩
  | succeeded hFirst hRest ih =>
    rcases ih with hAll | ⟨i, hAt⟩
    · exact Or.inl (hAll.cons hFirst)
    · exact Or.inr ⟨i + 1, hAt.cons hFirst⟩
  | failed isOpen lines hFirst => exact Or.inr ⟨0, stopped_first (Or.inl ⟨_, hFirst, rfl⟩)⟩
  | unanswered isOpen lines hFirst => exact Or.inr ⟨0, stopped_first (Or.inr ⟨hFirst, rfl⟩)⟩

end

/-! ## Batches -/

def Exchange.Succeeded (e : Exchange BatchResult) : Prop :=
  ∃ r, e.result = some (.ok r)

/-- How a batch goes that is to be the transaction of the lines, of which the last is the commit. -/
structure Disciplined (o : Operation) (limit : Duration) (lines : List Line)
    (replies : List Reply) (e : Exchange BatchResult) : Prop where
  sent_of_succeeded : e.Succeeded → e.sent = lines.map Line.statement
  sent_of_not_succeeded : ¬e.Succeeded → ∃ i < lines.length,
    (∀ j < i, verdictAt lines replies j = some .succeeded) ∧
    verdictAt lines replies i ≠ some .succeeded ∧
    e.sent = (lines.take (i + 1)).map Line.statement ++ if 0 < i then [.rollback] else []
  count_commit_le : e.sent.count .commit ≤ 1
  succeeded_before_commit : .commit ∈ e.sent →
    ∀ i, i + 1 < lines.length → verdictAt lines replies i = some .succeeded
  succeeded_iff : e.Succeeded ↔
    .commit ∈ e.sent ∧ verdictAt lines replies (lines.length - 1) = some .succeeded
  result_of_failed : ∀ i l cause, lines[i]? = some l →
    (∀ j < i, verdictAt lines replies j = some .succeeded) →
    verdictAt lines replies i = some (.failed cause) →
    e.result = some (.error (.database l.stage cause))
  result_of_unanswered : ∀ i, (∀ j < i, verdictAt lines replies j = some .succeeded) →
    verdictAt lines replies i = some .unanswered →
    e.result = some (.error (.timeout o.name limit))
  unmetered_of_not_succeeded : ¬e.Succeeded → Signal.Unmetered e.signals

section

variable {α : Type} {o : Operation} {limit : Duration} {size : Nat} {affected : α → Nat}
  {finish : α → BatchResult × List Signal} {d : Dialogue α} {front : List Line} {last : Line}
  {replies : List Reply}

theorem count_commit_lines (hFront : ∀ l ∈ front, l.statement ≠ .commit)
    (hLast : last.statement = .commit) :
    ((front ++ [last]).map Line.statement).count .commit = 1 := by
  have hNone : .commit ∉ front.map Line.statement := by
    intro hMem
    obtain ⟨l, hl, hCommit⟩ := List.mem_map.mp hMem
    exact hFront l hl hCommit
  rw [List.map_append, List.count_append, List.count_eq_zero_of_not_mem hNone, List.map_singleton,
    hLast, Nat.zero_add, List.count_singleton_self]

theorem lt_of_commit_mem (hFront : ∀ l ∈ front, l.statement ≠ .commit) {n : Nat}
    (h : .commit ∈ ((front ++ [last]).take n).map Line.statement) : front.length < n := by
  refine Nat.lt_of_not_le fun hLe => ?_
  rw [List.take_append_of_le_length hLe] at h
  obtain ⟨l, hl, hCommit⟩ := List.mem_map.mp h
  exact hFront l (List.mem_of_mem_take hl) hCommit

theorem Completed.disciplined (h : Completed (front ++ [last]) replies (d.run false replies))
    (hFront : ∀ l ∈ front, l.statement ≠ .commit) (hLast : last.statement = .commit) :
    Disciplined o limit (front ++ [last]) replies
      (bounded o limit size affected finish d replies) := by
  obtain ⟨a, hEnding⟩ := h.ending
  have hSucceeded : (bounded o limit size affected finish d replies).Succeeded := by
    rw [Exchange.Succeeded, bounded, hEnding]
    exact ⟨_, rfl⟩
  have hSent : (bounded o limit size affected finish d replies).sent =
      (front ++ [last]).map Line.statement := by
    rw [sent_bounded, h.sent_eq]
  have hNever : ∀ i v, verdictAt (front ++ [last]) replies i = some v → v = .succeeded := by
    intro i v hv
    have hi : i < (front ++ [last]).length := by
      obtain ⟨l, hl, _⟩ := Option.map_eq_some_iff.mp hv
      exact (List.getElem?_eq_some_iff.mp hl).1
    exact Option.some.inj (hv.symm.trans (h.succeeded i hi))
  constructor
  · exact fun _ => hSent
  · exact fun hNot => absurd hSucceeded hNot
  · have hOnce := count_commit_lines hFront hLast
    rw [← hSent] at hOnce
    exact Nat.le_of_eq hOnce
  · exact fun _ i hi => h.succeeded i (Nat.lt_of_succ_lt hi)
  · refine iff_of_true hSucceeded ⟨?_, h.succeeded _ ?_⟩
    · rw [hSent, List.map_append, List.map_singleton, hLast]
      exact List.mem_append_right _ List.mem_cons_self
    · rw [List.length_append]
      exact Nat.lt_succ_self _
  · intro i l cause _ _ hFailed
    cases hNever i _ hFailed
  · intro i _ hUnanswered
    cases hNever i _ hUnanswered
  · exact fun hNot => absurd hSucceeded hNot

section

variable {lines : List Line} {t : Transcript α} {i : Nat}

theorem Stopped.not_succeeded (h : Stopped false lines replies i t) :
    verdictAt lines replies i ≠ some .succeeded := by
  intro hVerdict
  obtain ⟨l, _, ⟨cause, hFailed, _⟩ | ⟨hUnanswered, _⟩⟩ := h.ending
  · cases hVerdict.symm.trans hFailed
  · cases hVerdict.symm.trans hUnanswered

theorem Stopped.lt_length (h : Stopped false lines replies i t) : i < lines.length := by
  obtain ⟨l, hl, _⟩ := h.ending
  exact (List.getElem?_eq_some_iff.mp hl).1

/-- There is only one line at which a transaction can stop. -/
theorem Stopped.eq_of_reached (h : Stopped false lines replies i t) {j : Nat} {v : Verdict}
    (hReached : ∀ k < j, verdictAt lines replies k = some .succeeded)
    (hVerdict : verdictAt lines replies j = some v) (hNot : v ≠ .succeeded) : j = i := by
  rcases Nat.lt_trichotomy j i with hBefore | hSame | hAfter
  · exact absurd (Option.some.inj (hVerdict.symm.trans (h.reached j hBefore))) hNot
  · exact hSame
  · exact absurd (hReached i hAfter) h.not_succeeded

theorem Stopped.sent_eq_of_closed (h : Stopped false lines replies i t) :
    t.sent = (lines.take (i + 1)).map Line.statement ++ if 0 < i then [.rollback] else [] := by
  simpa only [Bool.false_eq_true, false_or] using h.sent_eq

theorem commit_not_mem_rollback (i : Nat) :
    Statement.commit ∉ if 0 < i then [Statement.rollback] else [] := by
  split <;> decide

theorem Stopped.count_commit_le (h : Stopped false (front ++ [last]) replies i t)
    (hFront : ∀ l ∈ front, l.statement ≠ .commit) (hLast : last.statement = .commit) :
    t.sent.count .commit ≤ 1 := by
  rw [h.sent_eq_of_closed, List.count_append,
    List.count_eq_zero_of_not_mem (commit_not_mem_rollback i), Nat.add_zero,
    ← count_commit_lines hFront hLast]
  exact ((List.take_sublist _ _).map _).count_le _

/-- When the commit was sent, it is where the transaction stopped. -/
theorem Stopped.eq_of_commit_mem (h : Stopped false (front ++ [last]) replies i t)
    (hFront : ∀ l ∈ front, l.statement ≠ .commit) (hCommit : .commit ∈ t.sent) :
    i = front.length := by
  have hAfter : front.length < i + 1 := by
    rw [h.sent_eq_of_closed] at hCommit
    rcases List.mem_append.mp hCommit with hLines | hRollback
    · exact lt_of_commit_mem hFront hLines
    · exact absurd hRollback (commit_not_mem_rollback i)
  have hBound := h.lt_length
  rw [List.length_append, List.length_singleton] at hBound
  exact Nat.le_antisymm (Nat.le_of_lt_succ hBound) (Nat.le_of_lt_succ hAfter)

end

theorem bounded_of_refused {e : StoreError} (h : (d.run false replies).ending = .refused e) :
    (bounded o limit size affected finish d replies).result = some (.error e) ∧
      (bounded o limit size affected finish d replies).signals =
        (d.run false replies).signals ++ [.span ⟨o, size, none⟩] := by
  rw [bounded, h]
  exact ⟨rfl, rfl⟩

theorem bounded_of_unanswered (h : (d.run false replies).ending = .unanswered) :
    (bounded o limit size affected finish d replies).result =
        some (.error (.timeout o.name limit)) ∧
      (bounded o limit size affected finish d replies).signals =
        (d.run false replies).signals ++ [.span ⟨o, size, none⟩] := by
  rw [bounded, h]
  exact ⟨rfl, rfl⟩

theorem Stopped.exists_error {lines : List Line} {i : Nat}
    (h : Stopped false lines replies i (d.run false replies)) (o : Operation) (limit : Duration)
    (size : Nat) (affected : α → Nat) (finish : α → BatchResult × List Signal) :
    ∃ l e, lines[i]? = some l ∧
      (bounded o limit size affected finish d replies).result = some (.error e) ∧
      (bounded o limit size affected finish d replies).signals =
        (d.run false replies).signals ++ [.span ⟨o, size, none⟩] ∧
      ((∃ cause, verdictAt lines replies i = some (.failed cause) ∧ e = .database l.stage cause) ∨
        verdictAt lines replies i = some .unanswered ∧ e = .timeout o.name limit) := by
  obtain ⟨l, hl, ⟨cause, hFailed, hEnding⟩ | ⟨hUnanswered, hEnding⟩⟩ := h.ending
  · obtain ⟨hResult, hSignals⟩ := bounded_of_refused hEnding
    exact ⟨l, _, hl, hResult, hSignals, Or.inl ⟨cause, hFailed, rfl⟩⟩
  · obtain ⟨hResult, hSignals⟩ := bounded_of_unanswered hEnding
    exact ⟨l, _, hl, hResult, hSignals, Or.inr ⟨hUnanswered, rfl⟩⟩

theorem Stopped.disciplined {i : Nat}
    (h : Stopped false (front ++ [last]) replies i (d.run false replies))
    (hFront : ∀ l ∈ front, l.statement ≠ .commit) (hLast : last.statement = .commit) :
    Disciplined o limit (front ++ [last]) replies
      (bounded o limit size affected finish d replies) := by
  obtain ⟨l, e, hl, hResult, hSignals, hCause⟩ := h.exists_error o limit size affected finish
  have hNot : ¬(bounded o limit size affected finish d replies).Succeeded := by
    rintro ⟨r, hr⟩
    cases hResult.symm.trans hr
  have hSent : (bounded o limit size affected finish d replies).sent = (d.run false replies).sent :=
    sent_bounded o limit size d replies
  constructor
  · exact fun hSucceeded => absurd hSucceeded hNot
  · rw [hSent]
    exact fun _ => ⟨i, h.lt_length, h.reached, h.not_succeeded, h.sent_eq_of_closed⟩
  · rw [hSent]
    exact h.count_commit_le hFront hLast
  · -- A commit that was sent is where the transaction stopped, and all before it succeeded.
    rw [hSent]
    intro hCommit j hj
    rw [List.length_append] at hj
    rw [h.eq_of_commit_mem hFront hCommit] at h
    exact h.reached j (Nat.lt_of_succ_lt_succ hj)
  · rw [hSent]
    refine iff_of_false hNot ?_
    rintro ⟨hCommit, hVerdict⟩
    have hLength : (front ++ [last]).length - 1 = i := by
      rw [List.length_append, h.eq_of_commit_mem hFront hCommit]
      rfl
    rw [hLength] at hVerdict
    exact h.not_succeeded hVerdict
  · intro j m cause hm hReached hFailed
    obtain rfl := h.eq_of_reached hReached hFailed Verdict.noConfusion
    obtain ⟨cause', hFailed', rfl⟩ | ⟨hUnanswered, _⟩ := hCause
    · cases hl.symm.trans hm
      cases hFailed.symm.trans hFailed'
      exact hResult
    · cases hFailed.symm.trans hUnanswered
  · intro j hReached hUnanswered
    obtain rfl := h.eq_of_reached hReached hUnanswered Verdict.noConfusion
    obtain ⟨cause, hFailed, _⟩ | ⟨_, rfl⟩ := hCause
    · cases hUnanswered.symm.trans hFailed
    · exact hResult
  · rw [hSignals]
    exact fun _ => h.unmetered.append ⟨rfl, rfl⟩

theorem disciplined_of_plays (options : StoreOptions) (now : Instant)
    (locked : List (String × UInt32)) (b : Batch)
    (h : Plays false (script options now locked b) replies (d.run false replies)) :
    Disciplined o limit (script options now locked b) replies
      (bounded o limit size affected finish d replies) := by
  have hFront : ∀ l ∈ uncommitted options now locked b, l.statement ≠ .commit :=
    fun _ => ne_commit_of_mem_uncommitted
  rcases h.completed_or_stopped with hAll | ⟨i, hAt⟩
  · exact hAll.disciplined hFront rfl
  · exact hAt.disciplined hFront rfl

end

theorem disciplined_exchange (options : StoreOptions) (now : Instant) (requested : Nat) (b : Batch)
    {replies : List Reply} (h : ∀ r ∈ replies, r.Checked) :
    Disciplined b.operation (limitOf options b.operation)
      (script options now (replyTo replies 2).locked b) replies
      (exchange options now requested b replies) := by
  cases b with
  | claim ids ceiling =>
    rw [exchange]
    apply disciplined_of_plays
    exact Dialogue.plays_claiming options now ids ceiling h
  | insert | complete | fail | retry =>
    rw [exchange]
    apply disciplined_of_plays
    exact Dialogue.plays_changing _ _ _ replies (fun _ => rfl) rfl

/-- Whatever is replied to an accepted batch, it is one transaction that goes through the script of
the batch or stops at the first statement that does not succeed. It succeeds if and only if its
commit does, and otherwise the error names the stage of that statement, or the operation if there
was no answer, and no counter goes up. -/
theorem transactions_disciplined (options : StoreOptions) (now : Instant) {b : Batch}
    {replies : List Reply} (hSize : b.size ≠ 0) (hFormed : ¬b.Malformed)
    (hChecked : ∀ r ∈ replies, r.Checked) :
    Disciplined b.operation (limitOf options b.operation)
      (script options now (replyTo replies 2).locked b.normalize) replies
      (perform options now b replies) := by
  have hFault := Batch.not_malformed_iff.mp hFormed
  have hDisciplined := disciplined_exchange options now b.size b.normalize hChecked
  rwa [b.operation_normalize, ← perform_of_accepted hSize hFault] at hDisciplined

def heldRow (id : String) (retries : Int32) : FullRow :=
  ⟨id, "h", "org", newYear, "PROCESSING", newYear, some newYear, none, none, none, none, none,
    retries⟩

/-- A claim of two jobs, one of them at the ceiling, whose commit is refused. -/
def refusedCommit : List Reply :=
  [.done 0, .done 1, .rows [(heldRow "a" 3).lockedRow, (heldRow "b" 0).lockedRow], .done 1,
    .rows [(heldRow "b" 0).toRow], .refused "deadlock"]

theorem transactions_disciplined_refusedCommit :
    let b : Batch := .claim ["a", "b", "a"] 3
    let e := perform .default newYear b refusedCommit
    (∀ r ∈ refusedCommit, r.Checked) ∧
      e.sent = [.beginTransaction, .limitTime StoreOptions.default.batchTimeout, .lock ["a", "b"],
        .exhaust (exhaustedMessage 3) newYear ["a"], .markProcessing newYear ["b"], .commit,
        .rollback] ∧
      e.result = some (.error (.database "claim.commit" (.server "deadlock"))) ∧
      Signal.Unmetered e.signals := by
  intro b e
  have hChecked : ∀ r ∈ refusedCommit, r.Checked := by
    simp [refusedCommit, Reply.Checked, heldRow, FullRow.lockedRow, FullRow.toRow,
      show ∃ status : Status, status.name = "PROCESSING" from ⟨.processing, rfl⟩]
  have hFormed : ¬b.Malformed := Batch.not_malformed_iff.mpr (by decide)
  have hDisciplined := transactions_disciplined .default newYear (by decide) hFormed hChecked
  have hResult := hDisciplined.result_of_failed 5 ⟨"claim.commit", .commit⟩ (.server "deadlock")
    rfl (by decide) (by decide)
  have hNot : ¬e.Succeeded := by
    rintro ⟨r, hr⟩
    cases hResult.symm.trans hr
  exact ⟨hChecked, rfl, hResult, hDisciplined.unmetered_of_not_succeeded hNot⟩

end AnchorQueue.Sql
