import AnchorQueue.Proofs.Sql.Verdict
import Mathlib.Algebra.Group.Nat.Defs

/-!
# Rows as jobs

A row whose columns are all there, with the name of a status, is a job with the same columns. Rows
are read in their order, and as many jobs come out.
-/

namespace AnchorQueue.Sql

/-- The job has the columns of the row. A number below zero is read as one without a sign. -/
structure Row.Shows (r : Row) (j : Job) : Prop where
  requestId : r.requestId = some j.requestId
  logHash : r.logHash = some j.logHash
  sourceOrg : r.sourceOrg = some j.sourceOrg
  receivedAt : r.receivedAt = some j.receivedAt
  status : r.status = some j.status.name
  storedAt : r.storedAt = some j.storedAt
  startedAt : r.startedAt = j.startedAt
  finishedAt : r.finishedAt = j.finishedAt
  txHash : r.txHash = j.txHash
  blockHeight : r.blockHeight.map (fun n => n.toInt % (UInt64.size : Int)) =
    j.blockHeight.map fun n => (n.toNat : Int)
  chainHash : r.chainHash = j.chainHash
  errorMessage : r.errorMessage = j.errorMessage
  retries : r.retries.map (fun n => n.toInt % (UInt32.size : Int)) = some (j.retries.toNat : Int)

theorem toInt_emod {w : Nat} (b : BitVec w) : b.toInt % (2 ^ w : Nat) = b.toNat := by
  rw [BitVec.toInt_eq_toNat_bmod, Int.bmod_emod]
  exact Int.emod_eq_of_lt (Int.natCast_nonneg _) (Int.ofNat_lt.mpr b.isLt)

theorem FullRow.shows_of_toJob {f : FullRow} {j : Job} (h : f.toJob = .ok j) :
    f.toRow.Shows j := by
  rw [FullRow.toJob] at h
  cases hStatus : Status.ofName? f.status with
  | none =>
    rw [Status.parse, hStatus] at h
    cases h
  | some status =>
    rw [Status.parse, hStatus] at h
    cases h
    constructor <;> try rfl
    · exact congrArg some (Status.name_of_ofName? hStatus).symm
    · rw [Option.map_map]
      exact congrArg (Option.map · f.blockHeight) (funext fun n => toInt_emod n.toBitVec)
    · exact congrArg some (toInt_emod f.retries.toBitVec)

theorem eq_map_toRow_of_mapM {rs : List Row} {full : List FullRow}
    (h : rs.mapM Row.full = .ok full) : rs = full.map FullRow.toRow := by
  have hRows := (forall₂_of_mapM_eq_ok h).imp fun _ _ => FullRow.eq_toRow_of_full
  rwa [← List.forall₂_map_right_iff, List.forall₂_eq_eq_eq] at hRows

theorem shows_of_mapM {rs : List Row} {full : List FullRow} {jobs : List Job}
    (hRows : rs.mapM Row.full = .ok full) (hJobs : full.mapM FullRow.toJob = .ok jobs) :
    List.Forall₂ Row.Shows rs jobs := by
  rw [eq_map_toRow_of_mapM hRows, List.forall₂_map_left_iff]
  exact (forall₂_of_mapM_eq_ok hJobs).imp fun _ _ => FullRow.shows_of_toJob

/-- Rows with distinct ids are jobs with distinct ids. -/
theorem nodup_ids_of_shows {rs : List Row} {jobs : List Job} (h : List.Forall₂ Row.Shows rs jobs)
    (hNodup : (rs.map Row.requestId).Nodup) : (jobs.map Job.requestId).Nodup := by
  have hIds : rs.map Row.requestId = (jobs.map Job.requestId).map some := by
    rw [List.map_map, ← List.forall₂_eq_eq_eq, List.forall₂_map_left_iff,
      List.forall₂_map_right_iff]
    exact h.imp fun _ _ hShows => hShows.requestId
  rw [hIds] at hNodup
  exact hNodup.of_map

theorem exists_jobs_of_named {rs : List Row} {full : List FullRow}
    (hRows : rs.mapM Row.full = .ok full)
    (hNamed : ∀ row ∈ rs, ∃ status : Status, row.status = some status.name) :
    ∃ jobs, full.mapM FullRow.toJob = .ok jobs := by
  refine exists_jobs_of_checked (r := .rows rs) ?_ rfl hRows
  intro row hRow text hText
  obtain ⟨status, hStatus⟩ := hNamed row hRow
  exact ⟨status, Option.some.inj (hStatus.symm.trans hText)⟩

end AnchorQueue.Sql
