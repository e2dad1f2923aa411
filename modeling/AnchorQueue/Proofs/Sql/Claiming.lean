import AnchorQueue.Proofs.Except
import AnchorQueue.Proofs.Sql.Execution
import AnchorQueue.Proofs.Sql.Server
import AnchorQueue.Store.Perform

/-!
# Claiming from the table

The dialogue of a claim plans with the locked rows, in the order in which they come. The parts of
its plan have the same members as those of the plan of the store, and both parts are carried out
statement by statement as the store carries out its actions.
-/

namespace AnchorQueue

open AnchorQueue.Time (Duration Instant)

theorem RosterEntries.put_of_not_mem {α : Type} {key : String} {value : α}
    {entries : List (String × α)} (h : key ∉ entries.map Prod.fst) :
    put key value entries = entries ++ [(key, value)] := by
  induction entries with
  | nil => rfl
  | cons entry entries ih =>
    rw [List.map_cons, List.mem_cons, not_or] at h
    rw [put, if_neg (Ne.symm h.1), ih h.2, List.cons_append]

theorem ClaimPlan.ofLocked_perm (ceiling : UInt32) {locked locked' : List (String × UInt32)}
    (h : locked.Perm locked') :
    (ofLocked ceiling locked).exhausted.Perm (ofLocked ceiling locked').exhausted ∧
      (ofLocked ceiling locked).claimable.Perm (ofLocked ceiling locked').claimable :=
  ⟨(h.filter _).map Prod.fst, (h.filter _).map Prod.fst⟩

namespace Sql

open FullRow (ofJob)
open Signal (ofMoves)

theorem keyed_eq_map {jobs : List Job} (h : (jobs.map Job.requestId).Nodup) :
    keyed jobs = jobs.map fun j => (j.requestId, j) := by
  suffices hFrom : ∀ entries : List (String × Job),
      (entries.map Prod.fst ++ jobs.map Job.requestId).Nodup →
      jobs.foldl (fun entries j => RosterEntries.put j.requestId j entries) entries =
        entries ++ jobs.map fun j => (j.requestId, j) from hFrom [] h
  clear h
  induction jobs with
  | nil => simp
  | cons j jobs ih =>
    intro entries hNodup
    have hNew : j.requestId ∉ entries.map Prod.fst := by
      intro hMem
      exact (List.nodup_append.mp hNodup).2.2 _ hMem _ List.mem_cons_self rfl
    rw [List.foldl_cons, RosterEntries.put_of_not_mem hNew, ih]
    · simp
    · simpa using hNodup

theorem Table.Mirrors.keyed_perm {t : Table} {s : Store} (h : t.Mirrors s)
    {actions : List (String × Action)} (hNodup : (actions.map Prod.fst).Nodup) {jobs : List Job}
    (hJobs : jobs.Perm ((s.advance actions).2.map Prod.snd)) :
    (keyed jobs).Perm (s.advance actions).2 := by
  have hIds : (jobs.map Job.requestId).Nodup :=
    (hJobs.map Job.requestId).nodup_iff.mpr (h.nodup_ids_of_moved hNodup)
  have hMoved : ((s.advance actions).2.map Prod.snd).map (fun j => (j.requestId, j)) =
      (s.advance actions).2 := by
    rw [List.map_map]
    refine (List.map_congr_left fun moved hMem => ?_).trans (List.map_id _)
    exact Prod.ext (h.requestId_of_moved hNodup hMem) rfl
  rw [keyed_eq_map hIds]
  have hPerm := hJobs.map fun j => (j.requestId, j)
  rwa [hMoved] at hPerm

namespace Dialogue

variable {now : Instant} {t u : Table} {s : Store}
  {Q : List Signal → Except StoreError (List (String × Job)) → Table → Prop}
  {plan plan' : ClaimPlan} {ceiling : UInt32}

theorem ensures_claimExhausted {rest : Dialogue (List (String × Job))} (h : t.Mirrors s)
    (hPlan : plan'.exhausted.Perm plan.exhausted) (hNodup : plan.exhausted.Nodup)
    (hCeiling : ∀ id ∈ plan.exhausted, ∀ j, s.get? id = some j → ceiling ≤ j.retries)
    (hRest : ∀ u : Table,
      u.Mirrors (s.advance (plan.exhausted.map fun id => (id, .exhaust ceiling now))).1 →
      rest.Ensures now (fun later => Q ((if plan.exhausted.isEmpty then []
        else [.event (.ceilingReached plan.exhausted.length ceiling)]) ++ later)) ⟨t, some u⟩) :
    (claimExhausted plan' ceiling now rest).Ensures now Q ⟨t, some t⟩ := by
  rw [claimExhausted, hPlan.isEmpty_eq, hPlan.length_eq]
  split
  · rename_i hNone
    have hStay := hRest t
    rw [if_pos hNone, List.isEmpty_iff.mp hNone] at hStay
    exact hStay h
  · rename_i hSome
    rw [if_neg hSome] at hRest
    have hKeys : ((plan.exhausted.map fun id => (id, Action.exhaust ceiling now)).map
        Prod.fst).Nodup := by rwa [Store.keys_map_const]
    obtain ⟨hReply, hDone⟩ := h.update now (.exhaust _ now plan'.exhausted) rfl nofun
      hKeys fun _ hf => Table.performs_exhaust h hPlan hCeiling hf
    apply ensures_ask_inside rfl hReply
    intro r u hExecutes
    obtain ⟨rfl, hMirrors⟩ := hDone r u hExecutes
    exact ⟨_, rfl, hRest u hMirrors⟩

theorem ensures_claimMarked {rest : List FullRow → Dialogue (List (String × Job))}
    (h : u.Mirrors s) (hPlan : plan'.claimable.Perm plan.claimable)
    (hNodup : plan.claimable.Nodup)
    (hRest : ∀ (jobs : List Job) (u' : Table),
      jobs.Perm ((s.advance (plan.claimable.map fun id => (id, .start now))).2.map Prod.snd) →
      u'.Mirrors (s.advance (plan.claimable.map fun id => (id, .start now))).1 →
      (rest (jobs.map ofJob)).Ensures now Q ⟨t, some u'⟩) :
    (claimMarked plan' now rest).Ensures now Q ⟨t, some u⟩ := by
  rw [claimMarked, hPlan.isEmpty_eq]
  split
  · rename_i hNone
    rw [List.isEmpty_iff.mp hNone] at hRest
    exact hRest [] u (List.Perm.refl []) h
  · have hKeys : ((plan.claimable.map fun id => (id, Action.start now)).map Prod.fst).Nodup := by
      rwa [Store.keys_map_const]
    obtain ⟨hReply, hRows⟩ := h.returning now plan'.claimable hKeys
      fun _ hf => Table.performs_start h hPlan hf
    apply ensures_ask_inside rfl hReply
    intro r u' hExecutes
    obtain ⟨hMirrors, jobs, rfl, hJobs⟩ := hRows r u' hExecutes
    refine ⟨_, rfl, ?_⟩
    have hFull : (jobs.map fun j => (ofJob j).toRow).mapM Row.full = .ok (jobs.map ofJob) :=
      mapM_map_eq_ok (fun j => (ofJob j).full_toRow) jobs
    simp only [hFull]
    exact hRest jobs u' hJobs hMirrors

theorem ensures_claimCommitted {jobs : List Job}
    (hQ : Q (ofMoves .received .failed plan.exhausted.length ++
      ofMoves .received .processing jobs.length) (.ok (keyed jobs)) u) :
    (claimCommitted plan (jobs.map ofJob)).Ensures now Q ⟨t, some u⟩ := by
  apply ensures_committing
  have hJobs : (jobs.map ofJob).mapM FullRow.toJob = .ok jobs := by
    rw [mapM_map_eq_ok FullRow.toJob_ofJob, List.map_id']
  simp only [hJobs, List.length_map]
  refine ⟨rfl, ?_⟩
  change Q (_ ++ []) (.ok (keyed jobs)) u
  rwa [List.append_nil]

/-- A claim gives the jobs that the store hands out, with the signals of the store. -/
theorem ensures_claiming (h : t.Mirrors s) {ids : List String} (hNodup : ids.Nodup)
    (limit : Duration) (ceiling : UInt32) :
    (claiming limit now ids ceiling).Ensures now (fun signals result t' =>
      ∃ jobs, result = .ok jobs ∧ jobs.Perm (s.claimed now ids ceiling) ∧
        signals = (s.claim now ids ceiling).signals ∧
        t'.Mirrors (s.claim now ids ceiling).store) ⟨t, none⟩ := by
  apply ensures_opening
  obtain ⟨hReply, hRows⟩ := h.lock now hNodup
  apply ensures_ask_inside rfl hReply
  intro r u hExecutes
  obtain ⟨rfl, locked, rfl, hLocked⟩ := hRows r u hExecutes
  refine ⟨_, rfl, ?_⟩
  have hPairs : (locked.map FullRow.lockedRow).mapM Row.locked =
      .ok (locked.map fun row => (row.requestId, row.retries)) :=
    mapM_map_eq_ok FullRow.locked_lockedRow locked
  simp only [hPairs, decoding, List.map_map]
  obtain ⟨hExhausted, hClaimable⟩ := ClaimPlan.ofLocked_perm ceiling hLocked
  change (claimPlanned (ClaimPlan.ofLocked ceiling (locked.map fun row =>
    (row.requestId, lockedRetries row.retries))) ceiling now).Ensures now _ _
  rw [claimPlanned]
  split
  · rename_i hNone
    have hWaiting : s.waiting ids = [] := by
      rw [ClaimPlan.isEmpty_ofLocked_iff] at hNone
      rw [hNone] at hLocked
      exact hLocked.nil_eq.symm
    have hClaimed : s.claimed now ids ceiling = [] := by
      rw [Store.claimed, hWaiting]
      rfl
    apply ensures_committing
    rw [Store.claim, hWaiting, hClaimed]
    exact ⟨rfl, [], rfl, List.Perm.refl [], rfl, h⟩
  · apply ensures_claimExhausted h hExhausted (s.nodup_keys_filter_waiting _ hNodup)
    · intro id hid j hj
      obtain ⟨_, k, hk, _, hCeiling⟩ := s.mem_exhausted_iff.mp hid
      cases hk.symm.trans hj
      exact hCeiling
    · intro u hu
      apply ensures_claimMarked hu hClaimable (s.nodup_keys_filter_waiting _ hNodup)
      intro jobs u' hJobs hu'
      apply ensures_claimCommitted
      refine ⟨keyed jobs, rfl, ?_, ?_, hu'⟩
      · apply hu.keyed_perm _ hJobs
        rw [Store.keys_map_const]
        exact s.nodup_keys_filter_waiting _ hNodup
      · rw [hExhausted.length_eq, hJobs.length_eq, List.length_map, ← List.append_assoc]
        rfl

end Dialogue

end Sql

end AnchorQueue
