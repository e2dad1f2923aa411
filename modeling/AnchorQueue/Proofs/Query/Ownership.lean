import AnchorQueue.Proofs.Query.PathSegment
import AnchorQueue.Proofs.Store.Search
import AnchorQueue.Query.Service

/-!
# What owners find

An organization finds its job by the id if the id has no white space at its edges, because a query
leaves such white space away. It finds a log by the content if its own job was the first with this
content; otherwise the first one belongs to another organization, and the answer is a refusal.
-/

namespace AnchorQueue

open AnchorQueue.Time (Instant)

namespace Digest

theorem isWhite_hexDigit {n : Nat} (h : n < 16) : Text.isWhite (Text.hexDigit n) = false := by
  have hAll : ∀ i : Fin 16, Text.isWhite (Text.hexDigit i) = false := by decide
  exact hAll ⟨n, h⟩

/-- What is submitted from a content has a hash that passes the check of its batch. -/
theorem isBlank_contentHash (content : String) : Text.isBlank (contentHash content) = false := by
  rw [contentHash, Text.isBlank, String.toList_ofList, Sha256.digest, Sha256.Chaining.toList,
    List.flatMap_cons, Sha256.hexWord, List.map_cons, List.cons_append, List.all_cons,
    isWhite_hexDigit (Nat.mod_lt _ (by decide)), Bool.false_and]

end Digest

namespace StatusQuery

theorem key_byRequestId_eq_ok_iff {id : String} {k : Key} : (byRequestId id).key = .ok k ↔
    k = .requestId (Text.trim id) ∧ Text.isBlank id = false ∧
      ¬PathSegment.Climbs (Text.trim id) := by
  rw [key]
  cases hCheck : PathSegment.check "request_id" id with
  | ok segment =>
    obtain ⟨rfl, hBlank, hClimbs⟩ := PathSegment.check_eq_ok_iff.mp hCheck
    simp [Except.map, hBlank, hClimbs, eq_comm]
  | error e =>
    have hNot : ¬(Text.isBlank id = false ∧ ¬PathSegment.Climbs (Text.trim id)) := by
      intro hPasses
      rw [PathSegment.check_eq_ok_iff.mpr ⟨rfl, hPasses⟩] at hCheck
      cases hCheck
    simp only [Except.map, reduceCtorEq, false_iff]
    exact fun h => hNot h.2

theorem key_byContent {content : String} (h : content ≠ "") :
    (byContent content).key = .ok (.logHash (Digest.contentHash content)) := by
  rw [key, if_neg h]

theorem result_authorize_eq_ok_iff {caller : String} {j : Job} {v : StatusView} :
    (authorize caller j).result = .ok v ↔ j.sourceOrg = caller ∧ j.view = v := by
  rw [authorize]
  split
  · rename_i hOwner
    simp [hOwner]
  · rename_i hOther
    simp [hOther]

end StatusQuery

namespace Store

open StatusQuery (authorize)

variable {s : Store} {q : StatusQuery}

theorem status_of_key_eq_error {e : QueryError} (h : q.key = .error e) (caller : String) :
    s.status q caller = ⟨.error e, []⟩ := by
  simp only [status, QueryService.status, h]
  rfl

/-- Once a query has its key, the answer is a refusal, or up to who owns the job. -/
theorem status_of_key_eq_ok {k : Key} (h : q.key = .ok k) (caller : String) :
    s.status q caller = (s.find? k).elim ⟨.error .notFound, []⟩ (authorize caller) := by
  simp only [status, QueryService.status, h, service, find]
  cases s.find? k <;> rfl

/-- An answer shows the job that was found under the key of the query, to its owner. -/
theorem status_eq_ok_iff {caller : String} {v : StatusView} :
    (s.status q caller).result = .ok v ↔
      ∃ k j, q.key = .ok k ∧ s.find? k = some j ∧ j.sourceOrg = caller ∧ j.view = v := by
  cases hKey : q.key with
  | error e =>
    rw [status_of_key_eq_error hKey]
    simp
  | ok k =>
    rw [status_of_key_eq_ok hKey]
    cases hFind : s.find? k with
    | none => simp [hFind]
    | some j => simp [hFind, StatusQuery.result_authorize_eq_ok_iff]

theorem Sound.status_byRequestId_eq_ok_iff (h : s.Sound) {id : String} {j : Job}
    (hj : s.get? id = some j) (hStays : ¬PathSegment.Climbs j.requestId) :
    (s.status (.byRequestId j.requestId) j.sourceOrg).result = .ok j.view ↔
      ¬Text.HasWhiteEdge j.requestId := by
  have hSound := h id j hj
  rw [status_eq_ok_iff, ← Text.trim_eq_self_iff]
  constructor
  · rintro ⟨k, found, hKey, hFind, _, hView⟩
    obtain ⟨rfl, _, _⟩ := StatusQuery.key_byRequestId_eq_ok_iff.mp hKey
    -- What is found lies under the trimmed id, and its view shows the id under which it lies.
    rw [← (h _ found hFind).key]
    exact congrArg StatusView.requestId hView
  · intro hTrim
    refine ⟨.requestId j.requestId, j, ?_, ?_, rfl, rfl⟩
    · rw [StatusQuery.key_byRequestId_eq_ok_iff, hTrim]
      exact ⟨rfl, hSound.id_not_blank, hStays⟩
    · rw [find?, hSound.key, hj]

theorem Sound.status_byContent (h : s.Sound) {content : String} (hContent : content ≠ "") {k : Job}
    (hFirst : s.FirstWith (Digest.contentHash content) k) (caller : String) :
    s.status (.byContent content) caller = authorize caller k := by
  rw [status_of_key_eq_ok (StatusQuery.key_byContent hContent),
    h.find?_logHash_eq_some_iff.mpr hFirst, Option.elim_some]

/-- After every run the owner of a job gets to see this very job under its id, unless the id leads
to another place, if and only if the id has no white space at its edges. -/
theorem owner_finds_by_id (calls : List Call) {id : String} {j : Job}
    (hj : (empty.run calls).get? id = some j) (hStays : ¬PathSegment.Climbs j.requestId) :
    ((empty.run calls).status (.byRequestId j.requestId) j.sourceOrg).result = .ok j.view ↔
      ¬Text.HasWhiteEdge j.requestId :=
  (sound_empty.run calls).status_byRequestId_eq_ok_iff hj hStays

theorem owner_finds_by_id_anchored :
    ∃ j : Job, (empty.run anchored).get? "a" = some j ∧ j.status = .completed ∧
      ((empty.run anchored).status (.byRequestId "a") "org").result = .ok j.view := by
  obtain ⟨j, hj, hId, hOrg, hStatus⟩ : ∃ j ∈ (empty.run anchored).get? "a",
      j.requestId = "a" ∧ j.sourceOrg = "org" ∧ j.status = .completed := by decide
  have hStays : ¬PathSegment.Climbs j.requestId := by
    rw [hId]
    decide
  have hEdges : ¬Text.HasWhiteEdge j.requestId := by
    rw [hId]
    decide
  have hView := (owner_finds_by_id anchored hj hStays).mpr hEdges
  rw [hId, hOrg] at hView
  exact ⟨j, hj, hStatus, hView⟩

end Store

/-- Three ids, two of them with a space at an edge. -/
def spacedIds : List Call :=
  [⟨newYear, .insert [⟨"a", "g", "org", newYear⟩, ⟨" a", "h", "org", newYear⟩,
    ⟨"b ", "i", "org", newYear⟩]⟩]

namespace Store

/-- The owner of `" a"` is shown the job under `"a"`, and the owner of `"b "` nothing at all. -/
theorem owner_misses_spaced_ids :
    (∃ j ∈ (empty.run spacedIds).get? " a", j.requestId = " a" ∧ j.sourceOrg = "org" ∧
      ((empty.run spacedIds).status (.byRequestId " a") "org").result ≠ .ok j.view) ∧
    (∃ k ∈ (empty.run spacedIds).get? "a", k.requestId = "a" ∧
      ((empty.run spacedIds).status (.byRequestId " a") "org").result = .ok k.view) ∧
    ∃ j ∈ (empty.run spacedIds).get? "b ", j.requestId = "b " ∧ j.sourceOrg = "org" ∧
      ((empty.run spacedIds).status (.byRequestId "b ") "org").result = .error .notFound := by
  decide

/-- After every run the owner of a job with the content is answered from the first of all jobs with
the content: it sees that job if it owns it too, and is refused if another organization does. -/
theorem owner_finds_by_content (calls : List Call) {content id : String} {own : Job}
    (hContent : content ≠ "") (hOwn : (empty.run calls).get? id = some own)
    (hHash : own.logHash = Digest.contentHash content) :
    ∃ k, (empty.run calls).FirstWith (Digest.contentHash content) k ∧
      (k.sourceOrg = own.sourceOrg →
        ((empty.run calls).status (.byContent content) own.sourceOrg).result = .ok k.view) ∧
      (k.sourceOrg ≠ own.sourceOrg →
        ((empty.run calls).status (.byContent content) own.sourceOrg).result =
          .error .permissionDenied) := by
  have hSound := sound_empty.run calls
  obtain ⟨k, hFirst⟩ := hSound.exists_firstWith hOwn hHash
  rw [hSound.status_byContent hContent hFirst, StatusQuery.authorize]
  refine ⟨k, hFirst, fun hSame => ?_, fun hOther => ?_⟩
  · rw [if_pos hSame]
  · rw [if_neg hOther]

end Store

/-- Two organizations hand in one content, each under an id of its own. -/
def sharedContent : List Call :=
  [⟨newYear, .insert [.ofContent "a" "org-a" "log" newYear]⟩,
    ⟨newYearLater, .insert [.ofContent "b" "org-b" "log" newYear]⟩]

namespace Store

theorem step_insert_ofContent (s : Store) (now receivedAt : Instant) {id : String}
    (h : Text.isBlank id = false) (org content : String) :
    s.step ⟨now, .insert [.ofContent id org content receivedAt]⟩ =
      (s.enroll now [.ofContent id org content receivedAt]).1 := by
  have hSize : (Batch.insert [.ofContent id org content receivedAt]).size ≠ 0 := Nat.succ_ne_zero 0
  have hFault : (Batch.insert [.ofContent id org content receivedAt]).fault? = none := by
    simp [Batch.fault?, Batch.firstFault, Batch.submissionFault, Submission.ofContent, h,
      Digest.isBlank_contentHash]
  rw [step, after, s.perform_of_accepted now hSize hFault]
  rfl

theorem entries_sharedContent : (empty.run sharedContent).jobs.entries =
    [("a", (Submission.ofContent "a" "org-a" "log" newYear).toJob newYear),
      ("b", (Submission.ofContent "b" "org-b" "log" newYear).toJob newYearLater)] := by
  rw [sharedContent, run_cons, run_cons, step_insert_ofContent _ _ _ (by decide),
    step_insert_ofContent _ _ _ (by decide)]
  rfl

theorem get?_sharedContent_iff {id : String} {j : Job} :
    (empty.run sharedContent).get? id = some j ↔
      id = "a" ∧ j = (Submission.ofContent "a" "org-a" "log" newYear).toJob newYear ∨
      id = "b" ∧ j = (Submission.ofContent "b" "org-b" "log" newYear).toJob newYearLater := by
  rw [get?, Roster.get?_eq_some_iff, entries_sharedContent]
  simp

theorem firstWith_sharedContent : (empty.run sharedContent).FirstWith (Digest.contentHash "log")
    ((Submission.ofContent "a" "org-a" "log" newYear).toJob newYear) where
  stored := get?_sharedContent_iff.mpr (Or.inl ⟨rfl, rfl⟩)
  logHash_eq := rfl
  first := by
    intro id k hk _ hNe
    rcases get?_sharedContent_iff.mp hk with ⟨_, rfl⟩ | ⟨_, rfl⟩
    · exact absurd rfl hNe
    · exact Or.inl (by decide : newYear < newYearLater)

theorem owner_finds_by_content_shared :
    ∃ j, (empty.run sharedContent).get? "a" = some j ∧ j.logHash = Digest.contentHash "log" ∧
      j.sourceOrg = "org-a" ∧
      ((empty.run sharedContent).status (.byContent "log") "org-a").result = .ok j.view := by
  have hOwn := firstWith_sharedContent.stored
  obtain ⟨k, hFirst, hSame, _⟩ := owner_finds_by_content sharedContent (by decide) hOwn rfl
  cases hFirst.unique firstWith_sharedContent
  exact ⟨_, hOwn, rfl, rfl, hSame rfl⟩

theorem owner_denied_by_content_shared :
    ∃ j, (empty.run sharedContent).get? "b" = some j ∧ j.logHash = Digest.contentHash "log" ∧
      j.sourceOrg = "org-b" ∧
      ((empty.run sharedContent).status (.byContent "log") "org-b").result =
        .error .permissionDenied := by
  refine ⟨_, get?_sharedContent_iff.mpr (Or.inr ⟨rfl, rfl⟩), rfl, rfl, ?_⟩
  rw [(sound_empty.run sharedContent).status_byContent (by decide) firstWith_sharedContent]
  rfl

end Store

end AnchorQueue
