import AnchorQueue.Proofs.Sql.Mirror
import AnchorQueue.Proofs.Store.Earliest

/-!
# The commands against the store

Each command of a batch, with the arguments of its statement, does to a mirror what the batch does
to the store. The one that puts jobs back needs room for one retry more in the column of the
retries.
-/

namespace AnchorQueue

open AnchorQueue.Json (Object)
open AnchorQueue.Time (Instant)

/-- The greatest number of retries that the database can hold. -/
def greatestRetries : Nat :=
  Nat.pow 2 31 - 1

/-- Every job in process can be put back within the range of the column of the retries. -/
def Store.Roomy (s : Store) : Prop :=
  ∀ id j, s.get? id = some j → j.status = .processing → j.retries.toNat + 1 ≤ greatestRetries

namespace Sql

theorem toInt32_nonneg {n : UInt32} (h : n.toNat ≤ greatestRetries) : 0 ≤ n.toInt32 := by
  have hGreatest : greatestRetries = 2147483647 := rfl
  have hBits : 2 * n.toBitVec.toNat < 2 ^ 32 := by
    rw [UInt32.toNat_toBitVec]
    omega
  rw [Int32.le_iff_toInt_le]
  change (0 : Int) ≤ n.toBitVec.toInt
  rw [BitVec.toInt_eq_toNat_of_lt hBits]
  exact Int.natCast_nonneg _

theorem lockedRetries_toInt32 {n : UInt32} (h : 0 ≤ n.toInt32) : lockedRetries n.toInt32 = n := by
  rw [lockedRetries, if_neg (Int32.not_lt.mpr h), UInt32.toUInt32_toInt32]

theorem FullRow.map_ofJob_act? {j : Job} {a : Action} (hAdmits : a.admits j = true) :
    (j.act? a).map ofJob = if (ofJob j).status = a.source.name then
      some (ofJob { a.revise j with status := a.target }) else none := by
  have hName : (ofJob j).status = a.source.name ↔ j.status = a.source := Status.name_eq_iff
  by_cases hStatus : j.status = a.source
  · rw [if_pos (hName.mpr hStatus), Job.act?_eq_some_iff.mpr ⟨⟨hStatus, hAdmits⟩, rfl⟩,
      Option.map_some]
  · rw [if_neg (mt hName.mp hStatus), Job.act?_eq_none_of_status_ne hStatus, Option.map_none]

namespace Table

open FullRow (ofJob)

variable {now : Instant} {t t' : Table} {s : Store} {c : Command} {params : List Param}
  {f f₀ : FullRow → Option FullRow} {actions : List (String × Action)}

theorem Mirrors.update (h : t.Mirrors s) (now : Instant) (hRewrites : c.Rewrites params f₀)
    (hSilent : c.isReturning = false) (hRoom : c = .requeue → s.Roomy)
    (hNodup : (actions.map Prod.fst).Nodup)
    (hf : ∀ f, c.Rewrites params f → Performs f s actions) :
    (∃ r t', t.Executes now c params r t') ∧ ∀ r t', t.Executes now c params r t' →
      r = .done (s.advance actions).2.length ∧ t'.Mirrors (s.advance actions).1 := by
  constructor
  · have hFits : c = .requeue → ∀ r ∈ t.rows, r.status = "PROCESSING" → 0 ≤ r.retries + 1 := by
      intro hc r hr hStatus
      obtain ⟨id, j, hj, rfl⟩ := h.mem_rows_iff.mp hr
      have hLe := hRoom hc id j hj (Status.name_eq_iff.mp hStatus)
      have hNext : (j.retries + 1).toNat ≤ greatestRetries := by
        rw [UInt32.toNat_add, UInt32.toNat_one]
        exact Nat.le_trans (Nat.mod_le _ _) hLe
      have hFits := toInt32_nonneg hNext
      rwa [UInt32.toInt32_add] at hFits
    obtain ⟨t', hReplaced⟩ := exists_replaced hRewrites t hFits
    exact ⟨_, t', .update hRewrites hReplaced hSilent⟩
  · intro r t' hExecutes
    cases hExecutes with
    | update hRewrites' hReplaced _ =>
      refine ⟨?_, h.replaced hRewrites' hNodup (hf _ hRewrites') hReplaced⟩
      rw [(h.hits_perm hRewrites' hNodup (hf _ hRewrites')).length_eq, List.length_map,
        List.length_map]
    | returning _ _ hReturning => cases hSilent.symm.trans hReturning
    | insert | lock | findId | findNone | findFirst => cases hRewrites

theorem Mirrors.returning (h : t.Mirrors s) (now : Instant) (ids : List String)
    (hNodup : (actions.map Prod.fst).Nodup)
    (hf : ∀ f, Command.markProcessing.Rewrites [.instant now, .texts ids] f →
      Performs f s actions) :
    (∃ r t', t.Executes now .markProcessing [.instant now, .texts ids] r t') ∧
      ∀ r t', t.Executes now .markProcessing [.instant now, .texts ids] r t' →
        t'.Mirrors (s.advance actions).1 ∧
        ∃ jobs : List Job, r = .rows (jobs.map fun j => (ofJob j).toRow) ∧
          jobs.Perm ((s.advance actions).2.map Prod.snd) := by
  constructor
  · obtain ⟨t', hReplaced⟩ := exists_replaced (.markProcessing now ids) t nofun
    exact ⟨_, t', .returning (.markProcessing now ids) hReplaced rfl (List.Perm.refl _)⟩
  · intro r t' hExecutes
    cases hExecutes with
    | update _ _ hSilent => cases hSilent
    | returning hRewrites hReplaced _ hReturned =>
      refine ⟨h.replaced hRewrites hNodup (hf _ hRewrites) hReplaced, ?_⟩
      obtain ⟨jobs, rfl, hJobs⟩ := FullRow.exists_map_ofJob
        (hReturned.trans (h.hits_perm hRewrites hNodup (hf _ hRewrites)))
      exact ⟨jobs, by rw [List.map_map]; rfl, hJobs⟩

/-- An update of the rows with the given ids does to the jobs one and the same action. -/
theorem performs_of_ids (h : t.Mirrors s) {ids ids' : List String} (hIds : ids'.Perm ids)
    {a : Action} {g : FullRow → FullRow}
    (hAdmits : ∀ id ∈ ids, ∀ j, s.get? id = some j → a.admits j = true)
    (hf : ∀ r, f r = if r.requestId ∈ ids' ∧ r.status = a.source.name then some (g r) else none)
    (hg : ∀ j, g (ofJob j) = ofJob { a.revise j with status := a.target }) :
    Performs f s (ids.map fun id => (id, a)) := by
  intro id j hj
  obtain rfl := h.requestId_eq hj
  have hRow : (ofJob j).requestId ∈ ids' ↔ j.requestId ∈ ids := hIds.mem_iff
  rw [Store.lookup_map_const, hf, hg]
  by_cases hMem : j.requestId ∈ ids
  · rw [if_pos hMem, Option.bind_some, FullRow.map_ofJob_act? (hAdmits j.requestId hMem j hj)]
    simp only [hRow, hMem, true_and]
  · simp only [hRow, hMem, false_and, if_false]
    rfl

/-- An update from a document does to each job the action of its item. -/
theorem performs_of_join (h : t.Mirrors s) {α : Type} {key : α → String} {form : α → Object}
    {items : List α} (hKey : ∀ x, (form x).text "request_id" = some (key x))
    (hNodup : (items.map key).Nodup) {join : FullRow → Option Object}
    (hJoin : Joins (items.map form) join) {action : α → Action}
    {g : Object → FullRow → FullRow} {source : Status}
    (hAction : ∀ x j, (action x).source = source ∧ (action x).admits j = true)
    (hf : ∀ r, f r = (join r).bind fun d =>
      if r.status = source.name then some (g d r) else none)
    (hg : ∀ x ∈ items, ∀ j,
      g (form x) (ofJob j) = ofJob { (action x).revise j with status := (action x).target }) :
    Performs f s (items.map fun x => (key x, action x)) := by
  intro id j hj
  obtain rfl := h.requestId_eq hj
  have hItem : join (ofJob j) = (items.find? fun x => key x = j.requestId).map form :=
    hJoin.eq_find? hKey hNodup (ofJob j)
  rw [Store.lookup_map, hf, hItem]
  cases hFind : items.find? fun x => key x = j.requestId with
  | none => rfl
  | some x =>
    obtain ⟨hSource, hAdmits⟩ := hAction x j
    rw [Option.map_some, Option.map_some, Option.bind_some, Option.bind_some,
      FullRow.map_ofJob_act? hAdmits, hSource, hg x (List.mem_of_find?_eq_some hFind)]

theorem performs_exhaust (h : t.Mirrors s) {ids ids' : List String} {ceiling : UInt32}
    (hIds : ids'.Perm ids)
    (hCeiling : ∀ id ∈ ids, ∀ j, s.get? id = some j → ceiling ≤ j.retries)
    (hf : Command.exhaust.Rewrites
      [.text (exhaustedMessage ceiling), .instant now, .texts ids'] f) :
    Performs f s (ids.map fun id => (id, .exhaust ceiling now)) := by
  cases hf
  refine performs_of_ids h hIds ?_ (fun _ => rfl) fun _ => rfl
  intro id hid j hj
  exact decide_eq_true (hCeiling id hid j hj)

theorem performs_start (h : t.Mirrors s) {ids ids' : List String} (hIds : ids'.Perm ids)
    (hf : Command.markProcessing.Rewrites [.instant now, .texts ids'] f) :
    Performs f s (ids.map fun id => (id, .start now)) := by
  cases hf
  exact performs_of_ids h hIds (fun _ _ _ _ => rfl) (fun _ => rfl) fun _ => rfl

theorem performs_requeue (h : t.Mirrors s) {ids : List String} {lastError : String}
    (hf : Command.requeue.Rewrites [.text lastError, .texts ids] f) :
    Performs f s (ids.map fun id => (id, .requeue lastError)) := by
  cases hf
  refine performs_of_ids h (List.Perm.refl ids) (fun _ _ _ _ => rfl) (fun _ => rfl) fun j => ?_
  simp only [ofJob, Action.revise, UInt32.toInt32_add]
  rfl

theorem performs_complete (h : t.Mirrors s) {anchorings : List Anchoring}
    (hNodup : (anchorings.map Anchoring.requestId).Nodup)
    (hHeights : ∀ a ∈ anchorings, a.blockHeight.toNat ≤ Batch.greatestHeight)
    (hf : Command.complete.Rewrites (Statement.complete anchorings now).params f) :
    Performs f s (anchorings.map fun a => (a.requestId, .complete a now)) := by
  cases hf with
  | complete _ hRead _ hJoin =>
    cases hRead.symm.trans (recordset_encode Json.write_anchoring anchorings)
    refine performs_of_join h (fun _ => rfl) hNodup hJoin (fun _ _ => ⟨rfl, rfl⟩) (fun _ => rfl) ?_
    intro a ha j
    rw [bigint_anchoringForm (hHeights a ha)]
    rfl

theorem performs_fail (h : t.Mirrors s) {failures : List Failure}
    (hNodup : (failures.map Failure.requestId).Nodup)
    (hf : Command.fail.Rewrites (Statement.fail failures now).params f) :
    Performs f s (failures.map fun x => (x.requestId, .fail x.errorMessage now)) := by
  cases hf with
  | fail _ hRead hJoin =>
    cases hRead.symm.trans (recordset_encode Json.write_failure failures)
    exact performs_of_join h (fun _ => rfl) hNodup hJoin (fun _ _ => ⟨rfl, rfl⟩) (fun _ => rfl)
      fun _ _ _ => rfl

/-! ## Inserting and reading -/

theorem Mirrors.insertAll (h : t.Mirrors s) (now : Instant) (submissions : List Submission) :
    (t.insertAll now submissions).1.Mirrors (s.enroll now submissions).1 ∧
      (t.insertAll now submissions).2 = (s.enroll now submissions).2 := by
  induction submissions generalizing t s with
  | nil => exact ⟨h, rfl⟩
  | cons x submissions ih =>
    rw [Table.insertAll, Store.enroll]
    cases hj : s.get? x.requestId with
    | some j =>
      have hRow : ¬t.get? x.requestId = none := by
        rw [h.get?_of_get? hj]
        exact Option.some_ne_none _
      rw [dif_neg hRow]
      exact ih h
    | none =>
      have hRow : t.get? x.requestId = none := by
        rw [h x.requestId, hj, Option.map_none]
      have hAdd : (t.add now x hRow).Mirrors (s.put x.requestId (x.toJob now)) := by
        intro id
        rw [get?_add, Store.get?_put]
        split
        · rfl
        · exact h id
      obtain ⟨hMirrors, hCount⟩ := ih hAdd
      rw [dif_pos hRow]
      exact ⟨hMirrors, congrArg (· + 1) hCount⟩

theorem Mirrors.insert (h : t.Mirrors s) (now : Instant) (submissions : List Submission) :
    (∃ r t', t.Executes now .insert (Statement.insert submissions).params r t') ∧
      ∀ r t', t.Executes now .insert (Statement.insert submissions).params r t' →
        r = .done (s.enroll now submissions).2 ∧ t'.Mirrors (s.enroll now submissions).1 := by
  have hDocument := recordset_encode Json.write_submission submissions
  refine ⟨⟨_, _, .insert hDocument (mapM_submission? submissions)⟩, ?_⟩
  intro r t' hExecutes
  obtain ⟨hMirrors, hCount⟩ := h.insertAll now submissions
  cases hExecutes with
  | insert hRead hRows =>
    cases hRead.symm.trans hDocument
    cases hRows.symm.trans (mapM_submission? submissions)
    exact ⟨by rw [hCount], hMirrors⟩
  | update hRewrites | returning hRewrites => cases hRewrites

theorem Mirrors.lock (h : t.Mirrors s) (now : Instant) {ids : List String} (hNodup : ids.Nodup) :
    (∃ r t', t.Executes now .lock [.texts ids] r t') ∧
      ∀ r t', t.Executes now .lock [.texts ids] r t' → t' = t ∧
        ∃ locked : List FullRow, r = .rows (locked.map FullRow.lockedRow) ∧
          (locked.map fun row => (row.requestId, lockedRetries row.retries)).Perm
            (s.waiting ids) := by
  refine ⟨⟨_, _, .lock (List.Perm.refl _)⟩, ?_⟩
  intro r t' hExecutes
  cases hExecutes with
  | update hRewrites | returning hRewrites => cases hRewrites
  | @lock _ locked hLocked =>
    refine ⟨rfl, locked, rfl, ?_⟩
    have hIds : (locked.map FullRow.requestId).Nodup :=
      (hLocked.map FullRow.requestId).nodup_iff.mpr
        (t.nodup_ids.sublist (List.filter_sublist.map FullRow.requestId))
    have hPairs : (locked.map fun row => (row.requestId, lockedRetries row.retries)).Nodup := by
      apply List.Nodup.of_map Prod.fst
      rwa [Store.keys_map]
    have hWaiting : (s.waiting ids).Nodup :=
      (hNodup.sublist (s.keys_waiting_sublist ids)).of_map
    refine (List.perm_ext_iff_of_nodup hPairs hWaiting).mpr ?_
    rintro ⟨id, n⟩
    rw [Store.mem_waiting_iff, List.mem_map]
    constructor
    · rintro ⟨row, hRow, hEq⟩
      cases hEq
      obtain ⟨hMem, hWhere⟩ := List.mem_filter.mp (hLocked.mem_iff.mp hRow)
      obtain ⟨id, j, hj, rfl⟩ := h.mem_rows_iff.mp hMem
      obtain ⟨hid, hStatus⟩ := of_decide_eq_true hWhere
      obtain rfl := h.requestId_eq hj
      exact ⟨hid, j, hj, Status.name_eq_iff.mp hStatus,
        (lockedRetries_toInt32 (t.allowed _ hMem).retries).symm⟩
    · rintro ⟨hid, j, hj, hStatus, rfl⟩
      obtain rfl := h.requestId_eq hj
      have hMem := h.mem_rows_iff.mpr ⟨_, j, hj, rfl⟩
      refine ⟨ofJob j, hLocked.mem_iff.mpr (List.mem_filter.mpr ⟨hMem, ?_⟩), ?_⟩
      · exact decide_eq_true ⟨hid, Status.name_eq_iff.mpr hStatus⟩
      · exact Prod.ext rfl (lockedRetries_toInt32 (t.allowed _ hMem).retries)

theorem before_ofJob_iff {j k : Job} : (ofJob j).Before (ofJob k) ↔ Store.precedes j k = true :=
  Store.precedes_iff.symm

theorem Mirrors.find (h : t.Mirrors s) (now : Instant) (k : Key) :
    (∃ r t', t.Executes now (.ofKey k) [.text k.value] r t') ∧
      ∀ r t', t.Executes now (.ofKey k) [.text k.value] r t' →
        t' = t ∧ r = .rows ((s.find? k).toList.map fun j => (ofJob j).toRow) := by
  cases k with
  | requestId id =>
    refine ⟨⟨_, _, .findId id⟩, ?_⟩
    intro r t' hExecutes
    cases hExecutes with
    | update hRewrites | returning hRewrites => cases hRewrites
    | findId =>
      refine ⟨rfl, ?_⟩
      rw [Key.value, h id, Store.find?]
      cases s.get? id <;> rfl
  | logHash hash =>
    cases hFind : s.find? (.logHash hash) with
    | none =>
      have hNone := s.find?_logHash_eq_none_iff.mp hFind
      have hRows : ∀ r ∈ t.rows, r.logHash ≠ hash := by
        intro r hr
        obtain ⟨id, j, hj, rfl⟩ := h.mem_rows_iff.mp hr
        exact hNone id j hj
      refine ⟨⟨_, _, .findNone hRows⟩, ?_⟩
      intro r t' hExecutes
      cases hExecutes with
      | update hRewrites | returning hRewrites => cases hRewrites
      | findNone => exact ⟨rfl, rfl⟩
      | findFirst hr hHash _ => exact absurd hHash (hRows _ hr)
    | some j =>
      obtain ⟨⟨id, hj⟩, hHash, hFirst⟩ := Store.find?_logHash_spec hFind
      have hMem : ofJob j ∈ t.rows := h.mem_rows_iff.mpr ⟨id, j, hj, rfl⟩
      have hRows : ∀ r ∈ t.rows, r.logHash = hash → ¬r.Before (ofJob j) := by
        intro r hr hHash'
        obtain ⟨id', k, hk, rfl⟩ := h.mem_rows_iff.mp hr
        rw [before_ofJob_iff]
        exact hFirst id' k hk hHash'
      refine ⟨⟨_, _, .findFirst hMem hHash hRows⟩, ?_⟩
      intro r t' hExecutes
      cases hExecutes with
      | update hRewrites | returning hRewrites => cases hRewrites
      | findNone hNone => exact absurd hHash (hNone _ hMem)
      | findFirst hr hHash' hFirst' =>
        -- Neither of the two comes before the other, so they have one id.
        obtain ⟨id', k, hk, rfl⟩ := h.mem_rows_iff.mp hr
        have hIds := Store.requestId_eq_of_not_precedes (hFirst id' k hk hHash')
          (mt before_ofJob_iff.mpr (hFirst' _ hMem hHash))
        rw [h.requestId_eq hk, h.requestId_eq hj] at hIds
        subst hIds
        cases hj.symm.trans hk
        exact ⟨rfl, rfl⟩

end Table

end Sql

end AnchorQueue
