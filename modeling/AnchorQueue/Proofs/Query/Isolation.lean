import AnchorQueue.Proofs.Query.Ownership
import AnchorQueue.Proofs.Store.FirstWrite

/-!
# What stays hidden from other organizations

An answer shows a job to its owner only. Of the jobs of others an organization can learn that they
are there, with which hash, whose they are and when they were stored: two states that agree on this,
and on the jobs of the organization itself, give it the same answers. So the progress of a job shows
to nobody but its owner.
-/

namespace AnchorQueue

open AnchorQueue.Time (Instant)

/-- The view has the fields of the job, with the name of its status. -/
structure StatusView.Shows (v : StatusView) (j : Job) : Prop where
  requestId : v.requestId = j.requestId
  logHash : v.logHash = j.logHash
  sourceOrg : v.sourceOrg = j.sourceOrg
  status : v.status = j.status.name
  receivedAt : v.receivedAt = j.receivedAt
  startedAt : v.startedAt = j.startedAt
  finishedAt : v.finishedAt = j.finishedAt
  txHash : v.txHash = j.txHash
  blockHeight : v.blockHeight = j.blockHeight
  chainHash : v.chainHash = j.chainHash
  errorMessage : v.errorMessage = j.errorMessage

namespace Job

theorem shows_view (j : Job) : j.view.Shows j := by
  constructor <;> rfl

/-- What of a job may show to others than its owner. -/
structure Outline where
  logHash : String
  sourceOrg : String
  storedAt : Instant

def outline (j : Job) : Outline :=
  ⟨j.logHash, j.sourceOrg, j.storedAt⟩

/-- The organization cannot tell the jobs apart. -/
structure AlikeFor (org : String) (j k : Job) : Prop where
  requestId_eq : k.requestId = j.requestId
  outline_eq : k.outline = j.outline
  own : j.sourceOrg = org → k = j

theorem AlikeFor.authorize_eq {org : String} {j k : Job} (h : j.AlikeFor org k) :
    StatusQuery.authorize org k = StatusQuery.authorize org j := by
  by_cases hOwner : j.sourceOrg = org
  · rw [h.own hOwner]
  · have hOrg : k.sourceOrg = j.sourceOrg := congrArg Outline.sourceOrg h.outline_eq
    rw [StatusQuery.authorize, StatusQuery.authorize, hOrg, h.requestId_eq, if_neg hOwner,
      if_neg hOwner]

end Job

namespace Store

/-- The same jobs in outline, and the same jobs of the organization in full. -/
structure AlikeFor (org : String) (s t : Store) : Prop where
  outline_eq : ∀ id, (t.get? id).map Job.outline = (s.get? id).map Job.outline
  own_iff : ∀ id j, j.sourceOrg = org → (t.get? id = some j ↔ s.get? id = some j)

variable {org : String} {s t : Store}

theorem AlikeFor.symm (h : s.AlikeFor org t) : t.AlikeFor org s where
  outline_eq id := (h.outline_eq id).symm
  own_iff id j hOwner := (h.own_iff id j hOwner).symm

theorem AlikeFor.exists_get? (h : s.AlikeFor org t) (hs : s.Sound) (ht : t.Sound) {id : String}
    {j : Job} (hj : s.get? id = some j) : ∃ k, t.get? id = some k ∧ j.AlikeFor org k := by
  have hOutline := h.outline_eq id
  rw [hj, Option.map_some] at hOutline
  obtain ⟨k, hk, hSame⟩ := Option.map_eq_some_iff.mp hOutline
  refine ⟨k, hk, (ht id k hk).key.trans (hs id j hj).key.symm, hSame, fun hOwner => ?_⟩
  have hOwn := (h.own_iff id j hOwner).mpr hj
  rw [hk] at hOwn
  exact Option.some.inj hOwn

theorem AlikeFor.exists_firstWith (h : s.AlikeFor org t) (hs : s.Sound) (ht : t.Sound)
    {hash : String} {j : Job} (hj : s.FirstWith hash j) :
    ∃ k, t.FirstWith hash k ∧ j.AlikeFor org k := by
  obtain ⟨k, hk, hAlike⟩ := h.exists_get? hs ht hj.stored
  have hHash : k.logHash = j.logHash := congrArg Job.Outline.logHash hAlike.outline_eq
  have hStored : k.storedAt = j.storedAt := congrArg Job.Outline.storedAt hAlike.outline_eq
  refine ⟨k, ⟨hAlike.requestId_eq ▸ hk, hHash.trans hj.logHash_eq, ?_⟩, hAlike⟩
  intro id m hm hmHash hNe
  -- The rival has a counterpart in the first state, which stands at the same place of the order.
  obtain ⟨m', hm', hBack⟩ := h.symm.exists_get? ht hs hm
  have hmStored : m'.storedAt = m.storedAt := congrArg Job.Outline.storedAt hBack.outline_eq
  have hRival : m' ≠ j := by
    rintro rfl
    rw [← (hs id m' hm').key, hk] at hm
    exact hNe (Option.some.inj hm).symm
  have hBefore := hj.first id m' hm'
    ((congrArg Job.Outline.logHash hBack.outline_eq).trans hmHash) hRival
  rwa [hmStored, hBack.requestId_eq, ← hStored, ← hAlike.requestId_eq] at hBefore

theorem AlikeFor.exists_find? (h : s.AlikeFor org t) (hs : s.Sound) (ht : t.Sound) {key : Key}
    {j : Job} (hj : s.find? key = some j) : ∃ k, t.find? key = some k ∧ j.AlikeFor org k := by
  cases key with
  | requestId id => exact h.exists_get? hs ht hj
  | logHash hash =>
    obtain ⟨k, hFirst, hAlike⟩ := h.exists_firstWith hs ht (hs.find?_logHash_eq_some_iff.mp hj)
    exact ⟨k, ht.find?_logHash_eq_some_iff.mpr hFirst, hAlike⟩

theorem AlikeFor.status_eq (h : s.AlikeFor org t) (hs : s.Sound) (ht : t.Sound)
    (q : StatusQuery) : s.status q org = t.status q org := by
  cases hKey : q.key with
  | error e => rw [status_of_key_eq_error hKey, status_of_key_eq_error hKey]
  | ok key =>
    rw [status_of_key_eq_ok hKey, status_of_key_eq_ok hKey]
    cases hFind : s.find? key with
    | some j =>
      obtain ⟨k, hk, hAlike⟩ := h.exists_find? hs ht hFind
      rw [hk, Option.elim_some, Option.elim_some, hAlike.authorize_eq]
    | none =>
      cases hFind' : t.find? key with
      | none => rfl
      | some k =>
        obtain ⟨j, hj, _⟩ := h.symm.exists_find? ht hs hFind'
        rw [hFind] at hj
        cases hj

theorem exists_get?_of_find? {key : Key} {j : Job} (h : s.find? key = some j) :
    ∃ id, s.get? id = some j := by
  cases key with
  | requestId id => exact ⟨id, h⟩
  | logHash hash => exact (find?_logHash_spec h).1

/-- A call that brings in no job and names no job of the organization goes unnoticed by it. -/
theorem alikeFor_step (s : Store) {c : Call} (hNone : c.submitted = [])
    (hOthers : ∀ id ∈ c.batch.requestIds, ∀ j, s.get? id = some j → j.sourceOrg ≠ org) :
    s.AlikeFor org (s.step c) := by
  have hOrigin : ∀ id, ((s.step c).get? id).map Job.origin = (s.get? id).map Job.origin := by
    intro id
    rw [s.origin_step, hNone]
    exact Option.or_none
  constructor
  · intro id
    have hOutline := congrArg (Option.map fun o : Job.Origin =>
      Job.Outline.mk o.logHash o.sourceOrg o.storedAt) (hOrigin id)
    rwa [Option.map_map, Option.map_map] at hOutline
  · intro id j hOwner
    by_cases hMem : id ∈ c.batch.requestIds
    · -- Whoever owns what lies under a named id, it is not the organization.
      refine iff_of_false (fun hj => ?_) fun hj => hOthers id hMem j hj hOwner
      have hSame := hOrigin id
      rw [hj, Option.map_some] at hSame
      obtain ⟨k, hk, hkj⟩ := Option.map_eq_some_iff.mp hSame.symm
      exact hOthers id hMem k hk ((congrArg Job.Origin.sourceOrg hkj).trans hOwner)
    · rw [s.get?_step_of_not_mem hMem]

/-- After every run an answer shows a stored job, field by field, to the organization that owns it.
States that differ in nothing but the progress and the times of jobs of others give an organization
the same answers, with the same signals. -/
theorem organizations_isolated (org : String) :
    (∀ calls q v, ((empty.run calls).status q org).result = .ok v →
      v.sourceOrg = org ∧ ∃ id j, (empty.run calls).get? id = some j ∧ v.Shows j) ∧
    ∀ calls calls', (empty.run calls).AlikeFor org (empty.run calls') →
      ∀ q, (empty.run calls).status q org = (empty.run calls').status q org := by
  constructor
  · intro calls q v hView
    obtain ⟨key, j, _, hFind, hOwner, rfl⟩ := status_eq_ok_iff.mp hView
    obtain ⟨id, hj⟩ := exists_get?_of_find? hFind
    exact ⟨hOwner, id, j, hj, j.shows_view⟩
  · intro calls calls' hAlike q
    exact hAlike.status_eq (sound_empty.run calls) (sound_empty.run calls') q

/-- The second organization sees its own job, and cannot see that the job of the first one has been
claimed. -/
theorem organizations_isolated_shared :
    let calls := sharedContent
    let calls' := sharedContent ++ [⟨newYearLater, .claim ["a"] 3⟩]
    (∃ v, ((empty.run calls).status (.byRequestId "b") "org-b").result = .ok v ∧
      v.sourceOrg = "org-b") ∧
    (empty.run calls).AlikeFor "org-b" (empty.run calls') ∧
      (empty.run calls).get? "a" ≠ (empty.run calls').get? "a" ∧
      ∀ q, (empty.run calls).status q "org-b" = (empty.run calls').status q "org-b" := by
  intro calls calls'
  obtain ⟨hShown, hSame⟩ := organizations_isolated "org-b"
  have hFirst := get?_sharedContent_iff.mpr (Or.inl ⟨rfl, rfl⟩)
  have hSecond := get?_sharedContent_iff.mpr (Or.inr ⟨rfl, rfl⟩)
  have hView := ((sound_empty.run sharedContent).status_byRequestId_eq_ok_iff hSecond
    (by decide : ¬PathSegment.Climbs "b")).mpr (by decide : ¬Text.HasWhiteEdge "b")
  have hRun : empty.run calls' = (empty.run calls).step ⟨newYearLater, .claim ["a"] 3⟩ :=
    empty.run_append sharedContent _
  have hAlike : (empty.run calls).AlikeFor "org-b" (empty.run calls') := by
    rw [hRun]
    refine alikeFor_step _ rfl fun id hid j hj => ?_
    rw [List.mem_singleton.mp hid, hFirst] at hj
    cases hj
    decide
  have hClaimed : (empty.run calls).get? "a" ≠ (empty.run calls').get? "a" := by
    rw [hRun, step, get?_after _ _ (by decide), hFirst]
    intro hStays
    exact absurd (congrArg (Option.map Job.status) hStays) (by decide)
  exact ⟨⟨_, hView, (hShown calls _ _ hView).1⟩, hAlike, hClaimed, hSame calls calls' hAlike⟩

end Store

end AnchorQueue
