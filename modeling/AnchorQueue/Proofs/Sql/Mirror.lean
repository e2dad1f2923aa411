import AnchorQueue.Proofs.Sql.Table
import AnchorQueue.Proofs.Store.Claim
import Mathlib.Data.List.Perm.Basic

/-!
# A table that mirrors a store

Every job has a row that is read back as the job. A table mirrors a store if it has under every id
the row of the job that is stored there. An update that treats the rows as a list of actions treats
the jobs leads to a mirror of the store after the actions, and changes as many rows as jobs moved.
-/

namespace AnchorQueue

open AnchorQueue.Time (Instant)

theorem Status.name_eq_iff {s s' : Status} : s.name = s'.name ↔ s = s' := by
  constructor
  · intro h
    have hFound := ofName?_name s
    rw [h, ofName?_name] at hFound
    exact (Option.some.inj hFound).symm
  · rintro rfl
    rfl

namespace Sql

namespace FullRow

def ofJob (j : Job) : FullRow where
  requestId := j.requestId
  logHash := j.logHash
  sourceOrg := j.sourceOrg
  receivedAt := j.receivedAt
  status := j.status.name
  storedAt := j.storedAt
  startedAt := j.startedAt
  finishedAt := j.finishedAt
  txHash := j.txHash
  blockHeight := j.blockHeight.map UInt64.toInt64
  chainHash := j.chainHash
  errorMessage := j.errorMessage
  retries := j.retries.toInt32

theorem toJob_ofJob (j : Job) : (ofJob j).toJob = .ok j := by
  have hStatus : Status.parse j.status.name = .ok j.status := by
    rw [Status.parse, Status.ofName?_name]
  have hHeight : (j.blockHeight.map UInt64.toInt64).map Int64.toUInt64 = j.blockHeight := by
    cases j.blockHeight with
    | none => rfl
    | some height => rw [Option.map_some, Option.map_some, UInt64.toUInt64_toInt64]
  simp only [toJob, ofJob, hStatus, hHeight, UInt32.toUInt32_toInt32]
  rfl

/-- Rows of jobs, in any order, are the rows of the jobs in that order. -/
theorem exists_map_ofJob {rows : List FullRow} {jobs : List Job}
    (h : rows.Perm (jobs.map ofJob)) :
    ∃ jobs' : List Job, rows = jobs'.map ofJob ∧ jobs'.Perm jobs := by
  have hComp : Relation.Comp (· = List.map ofJob ·) List.Perm rows jobs := by
    rw [List.eq_map_comp_perm]
    exact h
  exact hComp

end FullRow

namespace Table

open FullRow (ofJob)

def Mirrors (t : Table) (s : Store) : Prop :=
  ∀ id, t.get? id = (s.get? id).map ofJob

theorem mirrors_empty : empty.Mirrors .empty :=
  fun _ => rfl

variable {t t' : Table} {s : Store} {id : String} {j : Job}

theorem Mirrors.get?_of_get? (h : t.Mirrors s) (hj : s.get? id = some j) :
    t.get? id = some (ofJob j) := by
  rw [h id, hj, Option.map_some]

theorem Mirrors.requestId_eq (h : t.Mirrors s) (hj : s.get? id = some j) : j.requestId = id :=
  (get?_eq_some_iff.mp (h.get?_of_get? hj)).2

theorem Mirrors.mem_rows_iff (h : t.Mirrors s) {r : FullRow} :
    r ∈ t.rows ↔ ∃ id j, s.get? id = some j ∧ ofJob j = r := by
  constructor
  · intro hr
    have hRow : t.get? r.requestId = some r := get?_eq_some_iff.mpr ⟨hr, rfl⟩
    rw [h r.requestId] at hRow
    obtain ⟨j, hj, hOf⟩ := Option.map_eq_some_iff.mp hRow
    exact ⟨r.requestId, j, hj, hOf⟩
  · rintro ⟨id, j, hj, rfl⟩
    exact (get?_eq_some_iff.mp (h.get?_of_get? hj)).1

/-! ## Updates -/

/-- The update makes of the row of a job what the action of its id makes of the job. -/
def Performs (f : FullRow → Option FullRow) (s : Store) (actions : List (String × Action)) :
    Prop :=
  ∀ id j, s.get? id = some j → f (ofJob j) = ((actions.lookup id).bind j.act?).map ofJob

variable {c : Command} {params : List Param} {f : FullRow → Option FullRow}
  {actions : List (String × Action)}

theorem Mirrors.replaced (h : t.Mirrors s) (hRewrites : c.Rewrites params f)
    (hNodup : (actions.map Prod.fst).Nodup) (hf : Performs f s actions)
    (hReplaced : t.Replaced f t') : t'.Mirrors (s.advance actions).1 := by
  intro id
  rw [get?_replaced hRewrites hReplaced, h id, s.get?_advance hNodup]
  cases hj : s.get? id with
  | none => rfl
  | some j =>
    simp only [Option.map_some, hf id j hj]
    cases actions.lookup id with
    | none => rfl
    | some a =>
      rw [Option.bind_some, Option.elim_some]
      cases hAct : j.act? a with
      | none =>
        rw [Job.act_of_act?_eq_none hAct]
        rfl
      | some k =>
        rw [Job.act_of_act?_eq_some hAct]
        rfl

theorem Mirrors.requestId_of_moved (h : t.Mirrors s) (hNodup : (actions.map Prod.fst).Nodup)
    {moved : String × Job} (hMoved : moved ∈ (s.advance actions).2) :
    moved.2.requestId = moved.1 := by
  obtain ⟨a, _, hAct⟩ := (s.mem_advance_iff hNodup).mp hMoved
  obtain ⟨j, hj, hjk⟩ := Option.bind_eq_some_iff.mp hAct
  rw [Job.requestId_of_act? hjk, h.requestId_eq hj]

theorem Mirrors.nodup_ids_of_moved (h : t.Mirrors s) (hNodup : (actions.map Prod.fst).Nodup) :
    (((s.advance actions).2.map Prod.snd).map Job.requestId).Nodup := by
  have hIds : ((s.advance actions).2.map Prod.snd).map Job.requestId =
      (s.advance actions).2.map Prod.fst := by
    rw [List.map_map]
    exact List.map_congr_left fun moved hMoved => h.requestId_of_moved hNodup hMoved
  rw [hIds]
  exact hNodup.sublist (s.keys_advance_sublist actions)

theorem Mirrors.hits_perm (h : t.Mirrors s) (hRewrites : c.Rewrites params f)
    (hNodup : (actions.map Prod.fst).Nodup) (hf : Performs f s actions) :
    (t.hits f).Perm (((s.advance actions).2.map Prod.snd).map ofJob) := by
  have hMoved : (((s.advance actions).2.map Prod.snd).map ofJob).Nodup := by
    apply List.Nodup.of_map FullRow.requestId
    rw [List.map_map]
    exact h.nodup_ids_of_moved hNodup
  refine (List.perm_ext_iff_of_nodup (nodup_hits hRewrites t) hMoved).mpr fun r => ?_
  rw [hits, List.mem_filterMap, List.map_map, List.mem_map]
  constructor
  · rintro ⟨r₀, hr₀, hr⟩
    obtain ⟨id, j, hj, rfl⟩ := h.mem_rows_iff.mp hr₀
    rw [hf id j hj] at hr
    obtain ⟨k, hk, rfl⟩ := Option.map_eq_some_iff.mp hr
    obtain ⟨a, ha, hAct⟩ := Option.bind_eq_some_iff.mp hk
    refine ⟨(id, k), (s.mem_advance_iff hNodup).mpr ⟨a, ha, ?_⟩, rfl⟩
    rw [hj, Option.bind_some, hAct]
  · rintro ⟨⟨id, k⟩, hMem, rfl⟩
    obtain ⟨a, ha, hAct⟩ := (s.mem_advance_iff hNodup).mp hMem
    obtain ⟨j, hj, hjk⟩ := Option.bind_eq_some_iff.mp hAct
    refine ⟨ofJob j, h.mem_rows_iff.mpr ⟨id, j, hj, rfl⟩, ?_⟩
    rw [hf id j hj, ha, Option.bind_some, hjk]
    rfl

end Table

end Sql

end AnchorQueue
