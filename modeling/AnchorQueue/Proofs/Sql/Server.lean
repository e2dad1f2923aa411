import AnchorQueue.Proofs.Sql.Dialogue
import AnchorQueue.Proofs.Sql.Table
import AnchorQueue.Sql.Client

/-!
# A server with one client

A server keeps the table as it was last committed, and a copy to which the open transaction applies
its commands. Of a statement it gets the text, which tells the command, and the arguments. What a
dialogue ensures is shown statement by statement: the server has a reply, and whichever reply it
gives, the rest of the dialogue ensures the same.
-/

namespace AnchorQueue

open AnchorQueue.Time (Duration Instant)

namespace Sql

def Command.isControl : Command → Bool
  | beginTransaction => true
  | commit => true
  | rollback => true
  | limitTime => true
  | _ => false

/-- Whether a transaction is open after the command. -/
def Command.opens (isOpen : Bool) : Command → Bool
  | beginTransaction => true
  | commit => false
  | rollback => false
  | _ => isOpen

theorem Command.opens_of_not_isControl {c : Command} (h : c.isControl = false) {isOpen : Bool} :
    c.opens isOpen = isOpen := by
  cases c with
  | beginTransaction | commit | rollback => cases h
  | _ => rfl

theorem Dialogue.opens_eq {s : Statement} {c : Command} (h : s.command? = some c)
    (isOpen : Bool) : opens isOpen s = c.opens isOpen := by
  cases s with
  | find k =>
    cases h
    cases k <;> rfl
  | _ => cases h <;> rfl

structure Server where
  committed : Table
  transaction : Option Table

namespace Server

def empty : Server :=
  ⟨.empty, none⟩

def isOpen (server : Server) : Bool :=
  server.transaction.isSome

/-- The command gets the reply and leaves the second server. -/
inductive Obeys (now : Instant) : Server → Command → List Param → Reply → Server → Prop
  | beginTransaction (t : Table) :
    Obeys now ⟨t, none⟩ .beginTransaction [] (.done 0) ⟨t, some t⟩
  | limitTime (t u : Table) (limit : String) :
    Obeys now ⟨t, some u⟩ .limitTime [.text limit] (.done 1) ⟨t, some u⟩
  | commit (t u : Table) : Obeys now ⟨t, some u⟩ .commit [] (.done 0) ⟨u, none⟩
  | rollback (t u : Table) : Obeys now ⟨t, some u⟩ .rollback [] (.done 0) ⟨t, none⟩
  | inside {t u u' : Table} {c : Command} {params : List Param} {r : Reply}
    (h : u.Executes now c params r u') : Obeys now ⟨t, some u⟩ c params r ⟨t, some u'⟩
  | alone {t t' : Table} {c : Command} {params : List Param} {r : Reply}
    (h : t.Executes now c params r t') : Obeys now ⟨t, none⟩ c params r ⟨t', none⟩

/-- The server goes by the text of the statement and its arguments alone. -/
def Replies (now : Instant) (server : Server) (s : Statement) (r : Reply) (server' : Server) :
    Prop :=
  ∃ c, Command.ofText? s.sql = some c ∧ server.Obeys now c s.params r server'

inductive Serves (now : Instant) : Server → List Statement → List Reply → Server → Prop
  | nil (server : Server) : Serves now server [] [] server
  | cons {server server' server'' : Server} {s : Statement} {r : Reply}
    {statements : List Statement} {replies : List Reply}
    (hReply : server.Replies now s r server')
    (hRest : Serves now server' statements replies server'') :
    Serves now server (s :: statements) (r :: replies) server''

variable {now : Instant} {server server' : Server} {s : Statement} {c : Command}
  {params : List Param} {r : Reply}

theorem replies_iff (h : s.command? = some c) :
    server.Replies now s r server' ↔ server.Obeys now c s.params r server' := by
  simp [Replies, Command.ofText?_sql, h]

theorem not_isControl_of_executes {t t' : Table} (h : t.Executes now c params r t') :
    c.isControl = false := by
  cases h with
  | update hRewrites | returning hRewrites => cases hRewrites <;> rfl
  | insert | lock | findId | findNone | findFirst => rfl

theorem Replies.isOpen_eq (h : server.Replies now s r server') :
    server'.isOpen = Dialogue.opens server.isOpen s := by
  obtain ⟨c, hText, hObeys⟩ := h
  rw [Command.ofText?_sql] at hText
  rw [Dialogue.opens_eq hText]
  generalize s.params = params at hObeys
  cases hObeys with
  | beginTransaction | limitTime | commit | rollback => rfl
  | inside hExecutes | alone hExecutes =>
    exact (Command.opens_of_not_isControl (not_isControl_of_executes hExecutes)).symm

end Server

/-- How a dialogue ends that had an answer to all its statements. -/
def Ending.ofResult {α : Type} : Except StoreError α → Ending α
  | .ok a => .finished a
  | .error e => .refused e

namespace Dialogue

variable {α : Type} {now : Instant}

/-- The dialogue gets its replies from the server and ends outside of transactions, with signals, a
result and a table that satisfy `Q`. -/
def Ensures (now : Instant) :
    Dialogue α → (List Signal → Except StoreError α → Table → Prop) → Server → Prop
  | done a, Q, server => server.transaction = none ∧ Q [] (.ok a) server.committed
  | refuse e, Q, server => server.transaction = none ∧ Q [] (.error e) server.committed
  | tell signals rest, Q, server => rest.Ensures now (fun later => Q (signals ++ later)) server
  | ask _ s next, Q, server => (∃ r server', server.Replies now s r server') ∧
      ∀ r server', server.Replies now s r server' →
        ∃ a, r.response? = some a ∧ (next a).Ensures now Q server'

variable {Q : List Signal → Except StoreError α → Table → Prop} {d : Dialogue α}
  {server server' : Server} {replies : List Reply}

theorem exists_sent_ask (stage : Stage) (s : Statement) (next : Response → Dialogue α)
    (isOpen : Bool) (replies : List Reply) :
    ∃ rest, ((ask stage s next).run isOpen replies).sent = s :: rest := by
  rw [run]
  split <;> exact ⟨_, rfl⟩

theorem Ensures.mono {Q' : List Signal → Except StoreError α → Table → Prop}
    (h : d.Ensures now Q server)
    (hQ : ∀ signals result t', Q signals result t' → Q' signals result t') :
    d.Ensures now Q' server := by
  induction d generalizing Q Q' server with
  | done a => exact ⟨h.1, hQ _ _ _ h.2⟩
  | refuse e => exact ⟨h.1, hQ _ _ _ h.2⟩
  | tell signals rest ih => exact ih h fun later => hQ (signals ++ later)
  | ask stage s next ih =>
    refine ⟨h.1, fun r server₁ hReply => ?_⟩
    obtain ⟨a, hResponse, hNext⟩ := h.2 r server₁ hReply
    exact ⟨a, hResponse, ih a hNext hQ⟩

/-- A dialogue that ensures something can be served. -/
theorem Ensures.exists_serves (h : d.Ensures now Q server) :
    ∃ replies server', server.Serves now (d.run server.isOpen replies).sent replies server' := by
  induction d generalizing Q server with
  | done a => exact ⟨[], server, .nil server⟩
  | refuse e =>
    refine ⟨[], server, ?_⟩
    rw [Server.isOpen, h.1]
    exact .nil server
  | tell signals rest ih => exact ih h
  | ask stage s next ih =>
    obtain ⟨⟨r, server₁, hReply⟩, hNext⟩ := h
    obtain ⟨a, hResponse, hRest⟩ := hNext r server₁ hReply
    obtain ⟨replies, server₂, hServes⟩ := ih a hRest
    refine ⟨r :: replies, server₂, ?_⟩
    rw [run_ask stage s next server.isOpen hResponse, ← hReply.isOpen_eq]
    exact .cons hReply hServes

/-- However a dialogue that ensures something is served, it does end as it ensures. -/
theorem Ensures.of_serves (h : d.Ensures now Q server)
    (hServes : server.Serves now (d.run server.isOpen replies).sent replies server') :
    ∃ result t', server' = ⟨t', none⟩ ∧
      (d.run server.isOpen replies).ending = Ending.ofResult result ∧
      Q (d.run server.isOpen replies).signals result t' := by
  induction d generalizing Q server replies with
  | done a =>
    obtain ⟨committed, transaction⟩ := server
    obtain ⟨rfl, hQ⟩ := h
    cases hServes
    exact ⟨.ok a, committed, rfl, rfl, hQ⟩
  | refuse e =>
    obtain ⟨committed, transaction⟩ := server
    obtain ⟨rfl, hQ⟩ := h
    cases hServes
    exact ⟨.error e, committed, rfl, rfl, hQ⟩
  | tell signals rest ih => exact ih h hServes
  | ask stage s next ih =>
    obtain ⟨sent, hSent⟩ := exists_sent_ask stage s next server.isOpen replies
    have hAll := hServes
    rw [hSent] at hAll
    cases hAll with
    | @cons _ server₁ _ _ r _ replies hReply hRest =>
      obtain ⟨a, hResponse, hNext⟩ := h.2 r server₁ hReply
      rw [run_ask stage s next server.isOpen hResponse, ← hReply.isOpen_eq] at hSent ⊢
      have hTail : ((next a).run server₁.isOpen replies).sent = sent := (List.cons.inj hSent).2
      rw [← hTail] at hRest
      exact ih a hNext hRest

section

variable {t u : Table} {stage : Stage} {s : Statement} {next : Response → Dialogue α}

theorem ensures_ask {c : Command} (hCommand : s.command? = some c)
    (hReply : ∃ r server', server.Obeys now c s.params r server')
    (hNext : ∀ r server', server.Obeys now c s.params r server' →
      ∃ a, r.response? = some a ∧ (next a).Ensures now Q server') :
    (ask stage s next).Ensures now Q server := by
  obtain ⟨r, server', hObeys⟩ := hReply
  refine ⟨⟨r, server', (Server.replies_iff hCommand).mpr hObeys⟩, fun r server' hReplies => ?_⟩
  exact hNext r server' ((Server.replies_iff hCommand).mp hReplies)

theorem ensures_ask_inside {c : Command} (hCommand : s.command? = some c)
    (hReply : ∃ r u', u.Executes now c s.params r u')
    (hNext : ∀ r u', u.Executes now c s.params r u' →
      ∃ a, r.response? = some a ∧ (next a).Ensures now Q ⟨t, some u'⟩) :
    (ask stage s next).Ensures now Q ⟨t, some u⟩ := by
  obtain ⟨r, u', hExecutes⟩ := hReply
  apply ensures_ask hCommand ⟨r, ⟨t, some u'⟩, .inside hExecutes⟩
  intro r₁ server₁ hObeys
  generalize s.params = params at hExecutes hNext hObeys
  cases hObeys with
  | inside hExecutes₁ => exact hNext r₁ _ hExecutes₁
  | limitTime | commit | rollback => cases Server.not_isControl_of_executes hExecutes

theorem ensures_ask_alone {c : Command} (hCommand : s.command? = some c)
    (hReply : ∃ r t', t.Executes now c s.params r t')
    (hNext : ∀ r t', t.Executes now c s.params r t' →
      ∃ a, r.response? = some a ∧ (next a).Ensures now Q ⟨t', none⟩) :
    (ask stage s next).Ensures now Q ⟨t, none⟩ := by
  obtain ⟨r, t', hExecutes⟩ := hReply
  apply ensures_ask hCommand ⟨r, ⟨t', none⟩, .alone hExecutes⟩
  intro r₁ server₁ hObeys
  generalize s.params = params at hExecutes hNext hObeys
  cases hObeys with
  | alone hExecutes₁ => exact hNext r₁ _ hExecutes₁
  | beginTransaction => cases Server.not_isControl_of_executes hExecutes

theorem ensures_opening (o : Operation) (limit : Duration) {body : Dialogue α}
    (h : body.Ensures now Q ⟨t, some t⟩) : (opening o limit body).Ensures now Q ⟨t, none⟩ := by
  apply ensures_ask rfl ⟨_, _, .beginTransaction t⟩
  intro r server hObeys
  cases hObeys with
  | alone hExecutes => cases Server.not_isControl_of_executes hExecutes
  | beginTransaction =>
    refine ⟨_, rfl, ensures_ask rfl ⟨_, _, .limitTime t t _⟩ ?_⟩
    intro r server hObeys
    cases hObeys with
    | inside hExecutes => cases Server.not_isControl_of_executes hExecutes
    | limitTime => exact ⟨_, rfl, h⟩

theorem ensures_committing (o : Operation) {rest : Dialogue α}
    (h : rest.Ensures now Q ⟨u, none⟩) : (committing o rest).Ensures now Q ⟨t, some u⟩ := by
  apply ensures_ask rfl ⟨_, _, .commit t u⟩
  intro r server hObeys
  cases hObeys with
  | inside hExecutes => cases Server.not_isControl_of_executes hExecutes
  | commit => exact ⟨_, rfl, h⟩

end

theorem ensures_changing {Q : List Signal → Except StoreError Nat → Table → Prop} {t : Table}
    (o : Operation) (limit : Duration) (part : String) {s : Statement} {c : Command}
    (hCommand : s.command? = some c) (hReply : ∃ r t', t.Executes now c s.params r t')
    (hDone : ∀ r t', t.Executes now c s.params r t' → ∃ n, r = .done n ∧ Q [] (.ok n) t') :
    (changing o limit part s).Ensures now Q ⟨t, none⟩ := by
  apply ensures_opening
  apply ensures_ask_inside hCommand hReply
  intro r t' hExecutes
  obtain ⟨n, rfl, hQ⟩ := hDone r t' hExecutes
  exact ⟨_, rfl, ensures_committing o ⟨rfl, hQ⟩⟩

end Dialogue

end Sql

end AnchorQueue
