import AnchorQueue.Proofs.Ledger.FirstValue
import AnchorQueue.Proofs.Query.PathSegment
import AnchorQueue.Query.Service

/-!
# What audits ask

An audit that writes down what it is asked gives the same answers as the one that runs. It asks the
ledger for one hash, and only if the query is good, whatever is in the store and whoever asks.
-/

namespace AnchorQueue

namespace Audit

/-- How the reply of the ledger for a hash is answered. -/
inductive Answers (hash : String) :
    Except String (Option String) → Except QueryError LedgerRecord → Prop
  | failed (reason : String) : Answers hash (.error reason) (.error (.ledger reason))
  | absent : Answers hash (.ok none) (.error .notFound)
  | empty : Answers hash (.ok (some "")) (.error .notFound)
  | undecodable {raw key : String} (hRaw : raw ≠ "")
    (hMissing : Ledger.Payload.FirstMissing raw Ledger.Payload.keys key) :
    Answers hash (.ok (some raw)) (.error (.decode ⟨key⟩))
  | found {raw : String} {p : Ledger.Payload} (hRaw : raw ≠ "")
    (hGives : ∀ entry ∈ p.fields, Ledger.Payload.Gives raw entry.1 entry.2) :
    Answers hash (.ok (some raw)) (.ok {
      source := "blockchain"
      logHash := hash
      content := p.content
      orgId := p.orgId
      timestamp := p.timestamp })

/-- How an audit of a trimmed text ends, and what is asked for it. -/
inductive Ends (ledger : Option Ledger.Lookup) (hash : String) :
    Except QueryError LedgerRecord → List Inquiry → Prop
  | empty (hEmpty : hash = "") : Ends ledger hash (.error (.invalidRequest "missing log_hash")) []
  | climbs (hSome : hash ≠ "") (hClimbs : PathSegment.Climbs hash) :
    Ends ledger hash
      (.error (.invalidRequest "invalid log_hash: path traversal characters not allowed")) []
  | unavailable (hSome : hash ≠ "") (hStays : ¬PathSegment.Climbs hash) (hNone : ledger = none) :
    Ends ledger hash (.error .ledgerUnavailable) []
  | asked {lookup : Ledger.Lookup} {result : Except QueryError LedgerRecord} (hSome : hash ≠ "")
    (hStays : ¬PathSegment.Climbs hash) (hLedger : ledger = some lookup)
    (hAnswers : Answers hash (lookup hash) result) : Ends ledger hash result [.ledger hash]

variable {hash : String} {result : Except QueryError LedgerRecord} {requests : List Inquiry}

theorem answers_iff {reply : Except String (Option String)} :
    Answers hash reply result ↔ (ofReply hash reply).result = result := by
  constructor
  · rintro (reason | _ | _ | ⟨hRaw, hMissing⟩ | ⟨hRaw, hGives⟩)
    · rfl
    · rfl
    · rfl
    · rw [ofReply, if_neg hRaw, ofRaw, Ledger.Payload.decode_eq_error_iff.mpr hMissing]
    · rw [ofReply, if_neg hRaw, ofRaw, Ledger.Payload.decode_eq_ok_iff.mpr hGives]
      rfl
  · rintro rfl
    rcases reply with reason | _ | raw
    · exact .failed reason
    · exact .absent
    · by_cases hRaw : raw = ""
      · subst hRaw
        exact .empty
      · rw [ofReply, if_neg hRaw, ofRaw]
        cases hDecode : Ledger.Payload.decode raw with
        | ok p => exact .found hRaw (Ledger.Payload.decode_eq_ok_iff.mp hDecode)
        | error f => exact .undecodable hRaw (Ledger.Payload.decode_eq_error_iff.mp hDecode)

theorem exists_ends (ledger : Option Ledger.Lookup) (hash : String) :
    ∃ result requests, Ends ledger hash result requests := by
  by_cases hEmpty : hash = ""
  · exact ⟨_, _, .empty hEmpty⟩
  by_cases hClimbs : PathSegment.Climbs hash
  · exact ⟨_, _, .climbs hEmpty hClimbs⟩
  cases hLedger : ledger with
  | none => exact ⟨_, _, .unavailable hEmpty hClimbs rfl⟩
  | some lookup => exact ⟨_, _, .asked hEmpty hClimbs rfl (answers_iff.mpr rfl)⟩

end Audit

namespace Store

variable {s : Store} {ledger : Option Ledger.Lookup} {text : String}

theorem recordedAudit_of_check_eq_error {e : QueryError}
    (h : PathSegment.check "log_hash" text = .error e) :
    s.recordedAudit ledger text = (⟨.error e, []⟩, []) := by
  simp only [recordedAudit, QueryService.audit, h]
  rfl

theorem recordedAudit_of_no_ledger {hash : String}
    (h : PathSegment.check "log_hash" text = .ok hash) :
    s.recordedAudit none text = (⟨.error .ledgerUnavailable, []⟩, []) := by
  simp only [recordedAudit, QueryService.audit, h]
  rfl

theorem recordedAudit_of_ledger {hash : String} (h : PathSegment.check "log_hash" text = .ok hash)
    (lookup : Ledger.Lookup) : s.recordedAudit (some lookup) text =
      (Audit.ofReply hash (lookup hash), [.ledger hash]) := by
  simp only [recordedAudit, QueryService.audit, h]
  rfl

/-- Writing down what is asked changes no answer. -/
theorem fst_recordedAudit : (s.recordedAudit ledger text).1 = Audit.byHash ledger text := by
  cases hCheck : PathSegment.check "log_hash" text with
  | error e =>
    simp only [recordedAudit_of_check_eq_error hCheck, Audit.byHash, QueryService.audit, hCheck]
    rfl
  | ok hash =>
    cases ledger with
    | none =>
      simp only [recordedAudit_of_no_ledger hCheck, Audit.byHash, QueryService.audit, hCheck]
      rfl
    | some lookup =>
      simp only [recordedAudit_of_ledger hCheck, Audit.byHash, QueryService.audit, hCheck]
      rfl

theorem recordedAudit_of_ends {result : Except QueryError LedgerRecord} {requests : List Inquiry}
    (h : Audit.Ends ledger (Text.trim text) result requests) :
    (s.recordedAudit ledger text).1.result = result ∧
      (s.recordedAudit ledger text).2 = requests := by
  cases h with
  | empty hEmpty =>
    rw [recordedAudit_of_check_eq_error (PathSegment.check_of_empty hEmpty _)]
    exact ⟨rfl, rfl⟩
  | climbs hSome hClimbs =>
    rw [recordedAudit_of_check_eq_error (PathSegment.check_of_climbs hSome hClimbs _)]
    exact ⟨rfl, rfl⟩
  | unavailable hSome hStays hNone =>
    rw [hNone, recordedAudit_of_no_ledger (PathSegment.check_of_stays hSome hStays _)]
    exact ⟨rfl, rfl⟩
  | asked hSome hStays hLedger hAnswers =>
    rw [hLedger, recordedAudit_of_ledger (PathSegment.check_of_stays hSome hStays _)]
    exact ⟨Audit.answers_iff.mp hAnswers, rfl⟩

/-- An audit ends as the rule for the trimmed text says, and asks what the rule says. It is the
audit that runs, and whatever the store holds, neither the answer nor what is asked is another. -/
theorem audit_exact (s : Store) (ledger : Option Ledger.Lookup) (text : String) :
    (∀ result requests, ((s.recordedAudit ledger text).1.result = result ∧
      (s.recordedAudit ledger text).2 = requests) ↔
        Audit.Ends ledger (Text.trim text) result requests) ∧
    (s.recordedAudit ledger text).1 = Audit.byHash ledger text ∧
    ∀ t : Store, t.recordedAudit ledger text = s.recordedAudit ledger text := by
  refine ⟨fun result requests => ⟨?_, recordedAudit_of_ends⟩, fst_recordedAudit, fun t => ?_⟩
  · rintro ⟨rfl, rfl⟩
    obtain ⟨result, requests, hEnds⟩ := Audit.exists_ends ledger (Text.trim text)
    obtain ⟨rfl, rfl⟩ := recordedAudit_of_ends (s := s) hEnds
    exact hEnds
  · obtain ⟨_, _, hEnds⟩ := Audit.exists_ends ledger (Text.trim text)
    have hAsked := (recordedAudit_of_ends (s := t) hEnds).2
    exact Prod.ext (fst_recordedAudit.trans fst_recordedAudit.symm)
      (hAsked.trans (recordedAudit_of_ends hEnds).2.symm)

end Store

end AnchorQueue
