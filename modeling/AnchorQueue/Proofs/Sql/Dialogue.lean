import AnchorQueue.Proofs.Except
import AnchorQueue.Sql.Client

/-!
# How dialogues go on and end

After a reply that is no refusal a dialogue goes on with what the statement gave. A dialogue that
is refused ends with one of the errors that its stages and its own refusals raise.
-/

namespace AnchorQueue.Sql

namespace Reply

/-- What a reply gives to a statement that succeeded. -/
def response? : Reply → Option Response
  | done n => some ⟨n, []⟩
  | rows rs => some ⟨rs.length, rs⟩
  | refused _ => none
  | silent => none

end Reply

namespace Dialogue

variable {α β : Type}

theorem run_ask_of_response? (stage : Stage) (s : Statement) (next : Response → Dialogue α)
    (isOpen : Bool) {replies : List Reply} {a : Response}
    (h : (nextReply replies).response? = some a) :
    (ask stage s next).run isOpen replies =
      ((next a).run (opens isOpen s) replies.tail).sending s := by
  rw [run]
  generalize nextReply replies = r at h
  cases r with
  | done n =>
    cases h
    rfl
  | rows rs =>
    cases h
    rfl
  | refused text => cases h
  | silent => cases h

theorem run_ask (stage : Stage) (s : Statement) (next : Response → Dialogue α) (isOpen : Bool)
    {r : Reply} {a : Response} (h : r.response? = some a) (replies : List Reply) :
    (ask stage s next).run isOpen (r :: replies) =
      ((next a).run (opens isOpen s) replies).sending s :=
  run_ask_of_response? stage s next isOpen h

/-- The errors that a dialogue may end with all satisfy `P`. -/
def Raises (P : StoreError → Prop) : Dialogue α → Prop
  | done _ => True
  | refuse e => P e
  | tell _ rest => rest.Raises P
  | ask stage _ next => (∀ text, P (stage.error (.server text))) ∧ ∀ r, (next r).Raises P

variable {P : StoreError → Prop}

theorem Raises.of_run {d : Dialogue α} (h : d.Raises P) {isOpen : Bool} {replies : List Reply}
    {e : StoreError} (hRun : (d.run isOpen replies).ending = .refused e) : P e := by
  induction d generalizing isOpen replies with
  | done a => cases hRun
  | refuse e' =>
    cases hRun
    exact h
  | tell signals rest ih => exact ih h hRun
  | ask stage s next ih =>
    rw [run] at hRun
    split at hRun
    · exact ih _ (h.2 _) hRun
    · exact ih _ (h.2 _) hRun
    · rename_i text _
      cases hRun
      exact h.1 text
    · cases hRun

theorem raises_decoding {stage : Stage} {e : Except DatabaseError β} {next : β → Dialogue α}
    (hStage : ∀ cause, P (stage.error cause)) (hNext : ∀ b, (next b).Raises P) :
    (decoding stage e next).Raises P := by
  cases e with
  | ok b => exact hNext b
  | error cause => exact hStage cause

end Dialogue

end AnchorQueue.Sql
