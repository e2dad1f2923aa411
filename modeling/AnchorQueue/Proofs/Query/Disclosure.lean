import AnchorQueue.Proofs.Query.Service
import AnchorQueue.Proofs.Sql.Refusal

/-!
# What failures disclose

What a caller is shown of a failed query tells which kind of failure it was. The texts, stages,
limits and causes behind it are kept back; only a rejection is passed on with its text, and the
database rejects no lookup.
-/

namespace AnchorQueue

namespace QueryError

/-- What a caller is shown of an error. -/
structure Face where
  statusCode : Nat
  publicMessage : String
  text : String
  deriving DecidableEq

def face (e : QueryError) : Face :=
  ⟨e.statusCode, e.publicMessage, e.message⟩

end QueryError

def Answer.face? {α : Type} (a : Answer α) : Option QueryError.Face :=
  match a.result with
  | .ok _ => none
  | .error e => some e.face

/-- The kinds of failure that a good query may meet with. -/
inductive Mishap
  | notFound
  | rejected (text : String)
  | storeFailed
  | ledgerFailed
  | undecodable
  deriving DecidableEq

namespace Mishap

def ofStore : StoreError → Mishap
  | .notFound _ => notFound
  | .validation text => rejected text
  | _ => storeFailed

def face : Mishap → QueryError.Face
  | notFound => ⟨404, "log not found", "log not found"⟩
  | rejected text => ⟨400, text, "invalid request: " ++ text⟩
  | storeFailed => ⟨500, "internal server error", "failed to query database"⟩
  | ledgerFailed => ⟨500, "blockchain query failed", "blockchain query failed"⟩
  | undecodable => ⟨500, "internal server error", "failed to parse on-chain data"⟩

theorem ofStore_eq_storeFailed_iff (e : StoreError) :
    ofStore e = .storeFailed ↔ (∀ text, e ≠ .notFound text) ∧ e.Outside := by
  cases e <;> simp [ofStore, StoreError.Outside]

theorem face_ofStore (e : StoreError) : (QueryError.ofStore e).face = (ofStore e).face := by
  cases e <;> rfl

end Mishap

namespace Audit

/-- A reply of the ledger that holds no log. -/
inductive BadReply
  | failed (reason : String)
  | absent
  | empty
  | undecodable (raw : String) {f : Ledger.MissingField} (hRaw : raw ≠ "")
    (hDecode : Ledger.Payload.decode raw = .error f)

namespace BadReply

def reply : BadReply → Except String (Option String)
  | failed reason => .error reason
  | absent => .ok none
  | empty => .ok (some "")
  | undecodable raw _ _ => .ok (some raw)

def mishap : BadReply → Mishap
  | failed _ => .ledgerFailed
  | absent => .notFound
  | empty => .notFound
  | undecodable _ _ _ => .undecodable

theorem face?_ofReply (hash : String) (bad : BadReply) :
    (ofReply hash bad.reply).face? = some bad.mishap.face := by
  cases bad with
  | failed | absent | empty => rfl
  | undecodable raw hRaw hDecode =>
    rw [reply, ofReply, if_neg hRaw, ofRaw, hDecode]
    rfl

end BadReply

end Audit

namespace StatusQuery

theorem face?_answer (caller : String) (k : Key) (e : StoreError) :
    (answer caller k (.error e)).face? = some (Mishap.ofStore e).face :=
  congrArg some (Mishap.face_ofStore e)

end StatusQuery

inductive Query
  | status (q : StatusQuery) (caller : String)
  | audit (text : String)

namespace QueryService

variable {m : Type → Type} [Monad m]

/-- What the caller is shown, if the query is refused. -/
def refusal (service : QueryService m) : Query → m (Option QueryError.Face)
  | .status q caller => Answer.face? <$> service.status q caller
  | .audit text => Answer.face? <$> service.audit text

/-- The query is good, and its lookup, whatever else it does, comes to nothing but this trouble. -/
inductive Meets (service : QueryService m) : Query → m Mishap → Prop
  | status {q : StatusQuery} {caller : String} {k : Key} {errors : m StoreError}
    (hKey : q.key = .ok k) (hFind : service.find k = .error <$> errors) :
    Meets service (.status q caller) (Mishap.ofStore <$> errors)
  | audit {text hash : String} {look : String → m (Except String (Option String))}
    {replies : m Audit.BadReply} (hCheck : PathSegment.check "log_hash" text = .ok hash)
    (hLedger : service.ledger = some look) (hReply : look hash = Audit.BadReply.reply <$> replies) :
    Meets service (.audit text) (Audit.BadReply.mishap <$> replies)

variable [LawfulMonad m] {service : QueryService m}

theorem Meets.refusal_eq {query : Query} {trouble : m Mishap} (h : service.Meets query trouble) :
    service.refusal query = (fun x => some x.face) <$> trouble := by
  cases h with
  | status hKey hFind =>
    simp only [refusal, QueryService.status, hKey, hFind, bind_pure_comp, Functor.map_map,
      StatusQuery.face?_answer]
  | audit hCheck hLedger hReply =>
    simp only [refusal, QueryService.audit, hCheck, hLedger, hReply, bind_pure_comp,
      Functor.map_map, Audit.BadReply.face?_ofReply]

end QueryService

namespace Sql

open Dialogue (nextReply)

/-- What goes wrong in a lookup with this reply. -/
inductive Reply.Spoils : Reply → Mishap → Prop
  | refused (text : String) : Spoils (.refused text) .storeFailed
  | done (n : Nat) : Spoils (.done n) .notFound
  | noRow : Spoils (.rows []) .notFound
  | nullColumn {row : Row} {rest : List Row} {cause : DatabaseError}
    (hFull : row.full = .error cause) : Spoils (.rows (row :: rest)) .storeFailed
  | unknownStatus {row : Row} {rest : List Row} {full : FullRow} (hFull : row.full = .ok full)
    (hStatus : Status.ofName? full.status = none) : Spoils (.rows (row :: rest)) .storeFailed

theorem ofStore_error_lookupStage (k : Key) (cause : DatabaseError) :
    Mishap.ofStore ((lookupStage k).error cause) = .storeFailed := by
  cases k <;> rfl

/-- What a lookup gives is decided by the first row of the first reply. -/
theorem result_find (k : Key) (replies : List Reply) :
    (find k replies).result =
      match nextReply replies with
      | .done _ => some (.error (.notFound k.describe))
      | .rows [] => some (.error (.notFound k.describe))
      | .rows (row :: _) => some (row.full.mapError (lookupStage k).error >>= FullRow.toJob)
      | .refused text => some (.error ((lookupStage k).error (.server text)))
      | .silent => none := by
  rw [find, unbounded, finding, Dialogue.run]
  rcases nextReply replies with n | (_ | ⟨row, rest⟩) | text | _
  · rfl
  · rfl
  · cases hFull : row.full with
    | error cause =>
      simp only [Dialogue.decoding, hFull]
      rfl
    | ok full =>
      simp only [Dialogue.decoding, hFull]
      change _ = some full.toJob
      cases full.toJob <;> rfl
  · rfl
  · rfl

/-- The lookups that fail are those with such a reply, and none is rejected. -/
theorem spoils_iff {k : Key} {replies : List Reply} {x : Mishap} :
    (nextReply replies).Spoils x ↔
      ∃ e, (find k replies).result = some (.error e) ∧ Mishap.ofStore e = x := by
  rw [result_find]
  generalize nextReply replies = r
  constructor
  · rintro (text | n | _ | hFull | ⟨hFull, hStatus⟩)
    · exact ⟨_, rfl, ofStore_error_lookupStage k _⟩
    · exact ⟨_, rfl, rfl⟩
    · exact ⟨_, rfl, rfl⟩
    · simp only [hFull]
      exact ⟨_, rfl, ofStore_error_lookupStage k _⟩
    · simp only [hFull]
      exact ⟨_, congrArg some (FullRow.toJob_eq_error_iff.mpr ⟨hStatus, rfl⟩), rfl⟩
  · rintro ⟨e, hFind, rfl⟩
    rcases r with n | (_ | ⟨row, rest⟩) | text | _
    · cases hFind
      exact .done n
    · cases hFind
      exact .noRow
    · rcases bind_eq_error_iff.mp (Option.some.inj hFind) with hFull | ⟨full, hFull, hJob⟩
      · obtain ⟨cause, hCause, rfl⟩ := mapError_eq_error_iff.mp hFull
        rw [ofStore_error_lookupStage]
        exact .nullColumn hCause
      · obtain ⟨hStatus, rfl⟩ := FullRow.toJob_eq_error_iff.mp hJob
        exact .unknownStatus (mapError_eq_ok_iff.mp hFull) hStatus
    · cases hFind
      rw [ofStore_error_lookupStage]
      exact .refused text
    · cases hFind

theorem meets_of_spoils {q : StatusQuery} {k : Key} {replies : List Reply} {x : Mishap}
    {caller : String} (hKey : q.key = .ok k) (h : (nextReply replies).Spoils x) :
    (service replies).Meets (.status q caller) (some x) := by
  obtain ⟨e, hFind, rfl⟩ := spoils_iff.mp h
  have hFind : (service replies).find k = .error <$> some e := hFind
  exact .status hKey hFind

end Sql

namespace QueryService

/-- The same trouble is answered in the same words, whatever the services and the queries are, and
the errors of a store are all the same trouble but for those that find nothing or reject. So it is
with the database, where every failure of a lookup comes of a reply that is refused, lacks a row or
is malformed, and with every reply of a ledger that holds no log. -/
theorem details_withheld :
    (∀ (m : Type → Type) [Monad m] [LawfulMonad m] (service service' : QueryService m)
      (query query' : Query) (trouble : m Mishap), service.Meets query trouble →
      service'.Meets query' trouble → service.refusal query = (fun x => some x.face) <$> trouble ∧
        service'.refusal query' = service.refusal query) ∧
    (∀ e, Mishap.ofStore e = .storeFailed ↔ (∀ text, e ≠ .notFound text) ∧ e.Outside) ∧
    (∀ q k caller replies, q.key = .ok k →
      (∀ x, (Sql.Dialogue.nextReply replies).Spoils x →
        (Sql.status q caller replies).1.map Answer.face? = some (some x.face)) ∧
      ∀ e, (Sql.find k replies).result = some (.error e) →
        (Sql.Dialogue.nextReply replies).Spoils (.ofStore e)) ∧
    ∀ text hash lookup bad, PathSegment.check "log_hash" text = .ok hash →
      lookup hash = Audit.BadReply.reply bad →
      (Audit.byHash (some lookup) text).face? = some bad.mishap.face := by
  refine ⟨?_, Mishap.ofStore_eq_storeFailed_iff, ?_, ?_⟩
  · intro m _ _ service service' query query' trouble h h'
    exact ⟨h.refusal_eq, h'.refusal_eq.trans h.refusal_eq.symm⟩
  · intro q k caller replies hKey
    refine ⟨fun x hSpoils => ?_, fun e hFind => Sql.spoils_iff.mpr ⟨e, hFind, rfl⟩⟩
    exact (Sql.meets_of_spoils hKey hSpoils).refusal_eq
  · intro text hash lookup bad hCheck hReply
    have hMeets : (Store.empty.service (some lookup)).Meets (.audit text) bad.mishap :=
      @Meets.audit Id _ _ text hash lookup bad hCheck rfl hReply
    exact hMeets.refusal_eq

def nullRow : Sql.Row :=
  ⟨none, none, none, none, none, none, none, none, none, none, none, none, none⟩

theorem details_withheld_hosts :
    (∃ face, (Sql.service [.refused "no entry for host 10.0.0.5"]).refusal
        (.status (.byRequestId "a") "org-a") = some (some face) ∧
      (Sql.service [.rows [nullRow]]).refusal (.status (.byContent "log") "org-b") =
        some (some face)) ∧
    (Audit.byHash (some fun _ => .error "host 10.0.0.5 is down") "h").face? =
      (Audit.byHash (some fun _ => .error "refused by 10.0.0.6") "h").face? ∧
    (Audit.byHash (some fun _ => .ok (some "org_id=a")) "h").face? =
      (Audit.byHash (some fun _ => .ok (some "ts=1&content=x")) "h").face? := by
  obtain ⟨hServices, _, _, hLedgers⟩ := details_withheld
  have hFirst : (Sql.service [.refused "no entry for host 10.0.0.5"]).Meets
      (.status (.byRequestId "a") "org-a") (some .storeFailed) :=
    Sql.meets_of_spoils rfl (.refused _)
  have hSecond : (Sql.service [.rows [nullRow]]).Meets
      (.status (.byContent "log") "org-b") (some .storeFailed) :=
    Sql.meets_of_spoils rfl (.nullColumn rfl)
  obtain ⟨hShown, hSame⟩ := hServices Option _ _ _ _ _ hFirst hSecond
  refine ⟨⟨_, hShown, hSame.trans hShown⟩, ?_, ?_⟩
  · exact (hLedgers "h" "h" _ (.failed _) rfl rfl).trans
      (hLedgers "h" "h" _ (.failed _) rfl rfl).symm
  · exact (hLedgers "h" "h" _ (.undecodable "org_id=a" (by decide) rfl) rfl rfl).trans
      (hLedgers "h" "h" _ (.undecodable "ts=1&content=x" (by decide) rfl) rfl rfl).symm

end QueryService

end AnchorQueue
