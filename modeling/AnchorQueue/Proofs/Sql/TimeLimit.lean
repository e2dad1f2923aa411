import AnchorQueue.Proofs.Sql.Progress
import AnchorQueue.Proofs.Sql.Server
import AnchorQueue.Proofs.Store.Run

/-!
# The time limit on the server

The first thing a transaction sends is the limit of its operation, as it stands in the environment.
The environment may have any number of seconds that fits into 64 bits, and the server has a range
of its own, in which zero stands for no limit.
-/

namespace AnchorQueue

open AnchorQueue.Time (Duration Instant)

/-! ## The limit in the environment -/

namespace Config

/-- The variable with the limit of an operation. -/
def limitVariable : Operation → Variable
  | .retry => .retryTimeout
  | _ => .batchTimeout

def defaultSeconds : Operation → Nat
  | .retry => 10
  | _ => 15

/-- The limit of an operation is what its variable says, in seconds. -/
theorem limitOf_of_load {env : Environment} {c : Config} (h : load env = .ok c) (o : Operation) :
    ∃ seconds, number env (limitVariable o) UInt64.size (defaultSeconds o) = .ok seconds ∧
      Sql.limitOf c.storeOptions o = .ofSeconds seconds := by
  obtain ⟨databaseUrl, _, h⟩ := bind_eq_ok_iff.mp h
  obtain ⟨maxConnections, _, h⟩ := bind_eq_ok_iff.mp h
  obtain ⟨minConnections, _, h⟩ := bind_eq_ok_iff.mp h
  obtain ⟨maxRetries, _, h⟩ := bind_eq_ok_iff.mp h
  obtain ⟨batchTimeout, hBatch, h⟩ := bind_eq_ok_iff.mp h
  obtain ⟨retryTimeout, hRetry, h⟩ := bind_eq_ok_iff.mp h
  cases h
  cases o with
  | retry => exact ⟨retryTimeout, hRetry, rfl⟩
  | _ => exact ⟨batchTimeout, hBatch, rfl⟩

end Config

theorem Time.Duration.millis_ofSeconds (n : Nat) : (Duration.ofSeconds n).millis = 1000 * n := by
  change n * 1000000000 / 1000000 = 1000 * n
  omega

namespace Sql

/-! ## The statements of a dialogue -/

namespace Dialogue

variable {α β : Type} {P : Statement → Prop} {d : Dialogue α}

/-- All statements that a dialogue may send satisfy `P`. -/
def Asks (P : Statement → Prop) : Dialogue α → Prop
  | done _ => True
  | refuse _ => True
  | tell _ rest => rest.Asks P
  | ask _ s next => P s ∧ ∀ r, (next r).Asks P

theorem Asks.of_run (h : d.Asks P) (hRollback : P .rollback) (isOpen : Bool)
    (replies : List Reply) : ∀ s ∈ (d.run isOpen replies).sent, P s := by
  have hAbandon : ∀ (isOpen : Bool) (e : Ending α), ∀ s ∈ (abandon isOpen e).sent, P s := by
    intro isOpen e s hs
    rw [abandon] at hs
    split at hs
    · rwa [List.mem_singleton.mp hs]
    · cases hs
  induction d generalizing isOpen replies with
  | done a =>
    intro s hs
    cases hs
  | refuse e => exact hAbandon isOpen _
  | tell signals rest ih => exact ih h isOpen replies
  | ask stage s next ih =>
    rcases run_ask_cases stage s next isOpen replies with ⟨a, _, hRun⟩ | ⟨e, _, hRun⟩
    · rw [hRun]
      exact List.forall_mem_cons.mpr ⟨h.1, ih a (h.2 a) _ _⟩
    · rw [hRun]
      exact List.forall_mem_cons.mpr ⟨h.1, hAbandon isOpen e⟩

theorem asks_decoding {stage : Stage} {e : Except DatabaseError β} {next : β → Dialogue α}
    (hNext : ∀ b, (next b).Asks P) : (decoding stage e next).Asks P := by
  cases e with
  | ok b => exact hNext b
  | error cause => trivial

theorem asks_changing {o : Operation} {limit : Duration} {part : String} {s : Statement}
    (hBegin : P .beginTransaction) (hLimit : P (.limitTime limit)) (hOwn : P s)
    (hCommit : P .commit) : (changing o limit part s).Asks P :=
  ⟨hBegin, fun _ => ⟨hLimit, fun _ => ⟨hOwn, fun _ => ⟨hCommit, fun _ => trivial⟩⟩⟩⟩

end Dialogue

/-- The statement limits nothing else, if it is a time limit at all. -/
def Statement.LimitsOnly (limit : Duration) : Statement → Prop
  | limitTime d => d = limit
  | _ => True

namespace Dialogue

theorem asks_claiming (limit : Duration) (now : Instant) (ids : List String) (ceiling : UInt32) :
    (claiming limit now ids ceiling).Asks (Statement.LimitsOnly limit) := by
  have hCommitted : ∀ plan rows, (claimCommitted plan rows).Asks (Statement.LimitsOnly limit) := by
    intro plan rows
    refine ⟨trivial, fun _ => ?_⟩
    rw [Asks]
    cases rows.mapM FullRow.toJob <;> trivial
  have hMarked : ∀ plan, (claimMarked plan now (claimCommitted plan)).Asks
      (Statement.LimitsOnly limit) := by
    intro plan
    rw [claimMarked]
    split
    · exact hCommitted plan []
    · exact ⟨trivial, fun _ => asks_decoding (hCommitted plan)⟩
  refine ⟨trivial, fun _ => ⟨rfl, fun _ => ⟨trivial, fun _ => asks_decoding fun locked => ?_⟩⟩⟩
  rw [claimPlanned]
  split
  · exact ⟨trivial, fun _ => trivial⟩
  · rw [claimExhausted]
    split
    · exact hMarked _
    · exact ⟨trivial, fun _ => hMarked _⟩

theorem sent_opening_of_begun {o : Operation} {limit : Duration} {body : Dialogue α}
    {replies : List Reply} (h : (replyTo replies 0).response? ≠ none) :
    ((opening o limit body).run false replies).sent[1]? = some (.limitTime limit) := by
  rw [← nextReply_eq] at h
  obtain ⟨a, hResponse⟩ := Option.ne_none_iff_exists'.mp h
  obtain ⟨rest, hRest⟩ := exists_sent_ask (stageOf o "begin") (.limitTime limit) (fun _ => body)
    true replies.tail
  rw [opening, run_ask_of_response? _ _ _ _ hResponse, Transcript.sending]
  exact congrArg (·[0]?) hRest

theorem sent_opening_of_not_begun {o : Operation} {limit : Duration} {body : Dialogue α}
    {replies : List Reply} (h : (replyTo replies 0).response? = none) :
    ((opening o limit body).run false replies).sent = [.beginTransaction] := by
  rw [← nextReply_eq] at h
  rw [opening]
  rcases run_ask_cases (stageOf o "begin") .beginTransaction (fun _ =>
      .ask (stageOf o "begin") (.limitTime limit) fun _ => body) false replies with
    ⟨a, hResponse, _⟩ | ⟨e, _, hRun⟩
  · cases h.symm.trans hResponse
  · rw [hRun]
    rfl

end Dialogue

/-! ## Batches -/

section

variable {options : StoreOptions} {now : Instant} {b : Batch} {replies : List Reply}

theorem limitsOnly_of_mem_sent (requested : Nat) {s : Statement}
    (hs : s ∈ (exchange options now requested b replies).sent) :
    s.LimitsOnly (limitOf options b.operation) := by
  cases b with
  | claim ids ceiling =>
    rw [exchange, sent_bounded] at hs
    exact (Dialogue.asks_claiming _ now ids ceiling).of_run trivial false replies s hs
  | insert | complete | fail | retry =>
    rw [exchange, sent_bounded] at hs
    refine (Dialogue.asks_changing trivial ?_ trivial trivial).of_run trivial false replies s hs
    rfl

theorem sent_exchange_of_begun (requested : Nat) (h : (replyTo replies 0).response? ≠ none) :
    (exchange options now requested b replies).sent[1]? =
      some (.limitTime (limitOf options b.operation)) := by
  cases b <;>
  · rw [exchange, sent_bounded]
    exact Dialogue.sent_opening_of_begun h

theorem sent_exchange_of_not_begun (requested : Nat) (h : (replyTo replies 0).response? = none) :
    (exchange options now requested b replies).sent = [.beginTransaction] := by
  cases b <;>
  · rw [exchange, sent_bounded]
    exact Dialogue.sent_opening_of_not_begun h

end

/-- The greatest number of milliseconds that the server takes for a limit. -/
def greatestLimit : Nat :=
  Nat.pow 2 31 - 1

/-- Every limit that is sent is the text of the milliseconds, and in the range in which the server
really aborts statements after it. -/
def Exchange.KeepsTime (limit : Duration) (e : Exchange BatchResult) : Prop :=
  ∀ d, .limitTime d ∈ e.sent →
    (Statement.limitTime d).params = [.text (Text.decimal limit.millis ++ "ms")] ∧
      1 ≤ limit.millis ∧ limit.millis ≤ greatestLimit

/-- How a batch limits its time to a number of seconds. -/
structure LimitsTime (seconds : Nat) (replies : List Reply) (e : Exchange BatchResult) : Prop where
  sent_of_begun : (replyTo replies 0).response? ≠ none →
    e.sent[1]? = some (.limitTime (.ofSeconds seconds))
  sent_of_not_begun : (replyTo replies 0).response? = none → e.sent = [.beginTransaction]
  value_eq : ∀ d, .limitTime d ∈ e.sent →
    (Statement.limitTime d).params = [.text (Text.decimal (1000 * seconds) ++ "ms")]
  keeps_iff : (replyTo replies 0).response? ≠ none →
    (e.KeepsTime (.ofSeconds seconds) ↔ 1 ≤ seconds ∧ seconds ≤ 2147483)

theorem limitsTime_perform {options : StoreOptions} {b : Batch} {seconds : Nat} (now : Instant)
    (hSize : b.size ≠ 0) (hFormed : ¬b.Malformed)
    (hSeconds : limitOf options b.operation = .ofSeconds seconds) (replies : List Reply) :
    LimitsTime seconds replies (perform options now b replies) := by
  rw [perform_of_accepted hSize (Batch.not_malformed_iff.mp hFormed)]
  rw [← b.operation_normalize] at hSeconds
  have hOnly : ∀ d, .limitTime d ∈ (exchange options now b.size b.normalize replies).sent →
      d = .ofSeconds seconds := by
    intro d hd
    rw [← hSeconds]
    exact limitsOnly_of_mem_sent b.size hd
  have hText : (Statement.limitTime (.ofSeconds seconds)).params =
      [.text (Text.decimal (1000 * seconds) ++ "ms")] := by
    rw [Statement.params, Duration.millis_ofSeconds]
  constructor
  · intro hBegun
    rw [sent_exchange_of_begun b.size hBegun, hSeconds]
  · exact sent_exchange_of_not_begun b.size
  · intro d hd
    rw [hOnly d hd, hText]
  · intro hBegun
    have hSent : .limitTime (.ofSeconds seconds) ∈
        (exchange options now b.size b.normalize replies).sent := by
      rw [← hSeconds]
      exact List.mem_of_getElem? (sent_exchange_of_begun b.size hBegun)
    have hGreatest : greatestLimit = 2147483647 := rfl
    rw [Exchange.KeepsTime, Duration.millis_ofSeconds, hGreatest]
    constructor
    · intro hKeeps
      obtain ⟨_, hFrom, hTo⟩ := hKeeps _ hSent
      omega
    · rintro ⟨hFrom, hTo⟩ d hd
      rw [hOnly d hd, hText]
      exact ⟨rfl, by omega, by omega⟩

/-- With every environment that is accepted, a batch sends the limit of its operation as a text in
milliseconds before anything else of its own. The server keeps to it only from one second up to
2147483: of zero it makes no limit, and more than that it does not take. -/
theorem time_limit_kept_iff {env : Environment} {c : Config} {b : Batch} (now : Instant)
    (hLoad : Config.load env = .ok c) (hSize : b.size ≠ 0) (hFormed : ¬b.Malformed) :
    ∃ seconds, Config.number env (Config.limitVariable b.operation) UInt64.size
        (Config.defaultSeconds b.operation) = .ok seconds ∧
      limitOf c.storeOptions b.operation = .ofSeconds seconds ∧
      ∀ replies, LimitsTime seconds replies (perform c.storeOptions now b replies) := by
  obtain ⟨seconds, hNumber, hSeconds⟩ := Config.limitOf_of_load hLoad b.operation
  exact ⟨seconds, hNumber, hSeconds, limitsTime_perform now hSize hFormed hSeconds⟩

/-- An environment with a limit for batches. -/
def limitedTo (text : String) : Environment
  | .databaseUrl => .text "postgres://localhost/queue"
  | .batchTimeout => .text text
  | _ => .unset

/-- A batch of one failure. -/
def oneFailure : Batch :=
  .fail [⟨"a", "lost"⟩]

theorem time_limit_kept_iff_tenMinutes :
    ∃ c, Config.load (limitedTo "600 ") = .ok c ∧ oneFailure.size ≠ 0 ∧ ¬oneFailure.Malformed ∧
      (perform c.storeOptions newYear oneFailure []).KeepsTime (.ofSeconds 600) := by
  have hFormed : ¬oneFailure.Malformed := Batch.not_malformed_iff.mpr (by decide)
  obtain ⟨c, hLoad⟩ : ∃ c, Config.load (limitedTo "600 ") = .ok c := ⟨_, rfl⟩
  obtain ⟨seconds, hNumber, _, hLimits⟩ := time_limit_kept_iff newYear hLoad (by decide) hFormed
  cases hNumber
  exact ⟨c, hLoad, by decide, hFormed,
    ((hLimits []).keeps_iff (Option.some_ne_none _)).mpr (by decide)⟩

/-- Zero seconds are sent as no limit, and a month as one that the server does not take. -/
theorem time_limit_not_kept :
    (∃ c, Config.load (limitedTo "0") = .ok c ∧
      ¬(perform c.storeOptions newYear oneFailure []).KeepsTime
        (limitOf c.storeOptions oneFailure.operation)) ∧
    ∃ c, Config.load (limitedTo "2592000") = .ok c ∧
      ¬(perform c.storeOptions newYear oneFailure []).KeepsTime
        (limitOf c.storeOptions oneFailure.operation) := by
  refine ⟨⟨_, rfl, fun h => ?_⟩, ⟨_, rfl, fun h => ?_⟩⟩
  · exact absurd (h (.ofSeconds 0) (by decide)).2.1 (by decide)
  · exact absurd (h (.ofSeconds 2592000) (by decide)).2.2 (by decide)

end Sql

end AnchorQueue
