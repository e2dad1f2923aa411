import AnchorQueue.Proofs.Sql.Exchange
import Mathlib.Data.List.Induction

/-!
# The two stores agree

The same requests go to the memory and, through a server with a single client, to the database. As
long as the ceilings of all claims fit into the column of the retries, nothing that a caller or an
observer sees tells the two apart.
-/

namespace AnchorQueue

open AnchorQueue.Time (Instant)

def Batch.ceiling? : Batch → Option UInt32
  | claim _ ceiling => some ceiling
  | _ => none

inductive Request
  | call (c : Call)
  | find (now : Instant) (k : Key)

inductive Outcome
  | batch (r : BatchResult)
  | job (j : Job)
  deriving DecidableEq

def Outcome.Same : Outcome → Outcome → Prop
  | batch r, batch r' => r.Same r'
  | job j, job k => j = k
  | _, _ => False

/-- The same error, or the same that is given. -/
def SameAnswer : Except StoreError Outcome → Except StoreError Outcome → Prop
  | .ok g, .ok g' => g.Same g'
  | .error e, .error e' => e = e'
  | _, _ => False

namespace Request

def now : Request → Instant
  | call c => c.now
  | find now _ => now

/-- The calls of a request; a search leaves the store alone. -/
def calls : Request → List Call
  | call c => [c]
  | find _ _ => []

/-- The ceiling of a claim fits into the column of the retries. -/
def CeilingFits (request : Request) : Prop :=
  ∀ c ∈ request.calls, ∀ ceiling ∈ c.batch.ceiling?, ceiling.toNat ≤ greatestRetries

end Request

def Store.answer (s : Store) : Request → Except StoreError Outcome
  | .call c =>
    match s.resultOf c with
    | .ok r => .ok (.batch r)
    | .error f => .error f.toError
  | .find _ k => (s.find k).map .job

theorem Store.Sound.roomy {s : Store} (h : s.Sound)
    (hAttempts : ∀ id, s.attempts id ≤ greatestRetries) : s.Roomy := by
  intro id j hj hStatus
  have hShaped := (h id j hj).shaped
  simp only [Job.Shaped, hStatus] at hShaped
  obtain ⟨now, hStarted⟩ := Option.ne_none_iff_exists'.mp hShaped.1
  have hLe := hAttempts id
  simpa [attempts, hj, Job.attempts, hStarted] using hLe

namespace Sql

open Signal (counts totals)

def Exchange.map {α β : Type} (f : α → β) (x : Exchange α) : Exchange β :=
  ⟨x.result.map (Except.map f), x.sent, x.signals⟩

theorem Attains.map {α β : Type} {now : Instant} {t : Table} {exchange : List Reply → Exchange α}
    {P : Except StoreError α → List Signal → Table → Prop}
    {P' : Except StoreError β → List Signal → Table → Prop} (h : Attains now t exchange P)
    (f : α → β) (hP : ∀ result signals t', P result signals t' → P' (result.map f) signals t') :
    Attains now t (fun replies => (exchange replies).map f) P' := by
  refine ⟨h.1, fun replies server hServes => ?_⟩
  obtain ⟨result, t', hServer, hResult, hAttained⟩ := h.2 replies server hServes
  refine ⟨result.map f, t', hServer, ?_, hP result _ t' hAttained⟩
  change (exchange replies).result.map (Except.map f) = _
  rw [hResult, Option.map_some]

def exchangeOf (options : StoreOptions) : Request → List Reply → Exchange Outcome
  | .call c, replies => (perform options c.now c.batch replies).map .batch
  | .find _ k, replies => (find k replies).map .job

variable {t : Table} {s : Store} {options : StoreOptions}

theorem attains_find (h : t.Mirrors s) (now : Instant) (k : Key) :
    Attains now t (find k) fun result signals t' =>
      result = s.find k ∧ signals = [] ∧ t' = t := by
  obtain ⟨hReply, hRows⟩ := h.find now k
  apply attains_unbounded
  apply Dialogue.ensures_ask_alone rfl hReply
  intro r t' hExecutes
  obtain ⟨rfl, rfl⟩ := hRows r t' hExecutes
  refine ⟨_, rfl, ?_⟩
  rw [Store.find]
  cases s.find? k with
  | none => exact ⟨rfl, rfl, rfl, rfl⟩
  | some j =>
    simp only [Option.toList_some, List.map_cons, List.map_nil, FullRow.full_toRow,
      Dialogue.decoding, FullRow.toJob_ofJob]
    exact ⟨rfl, rfl, rfl, rfl⟩

theorem attains_request (options : StoreOptions) (h : t.Mirrors s) (hRoom : s.Roomy)
    (request : Request) :
    Attains request.now t (exchangeOf options request) fun answer signals t' =>
      SameAnswer answer (s.answer request) ∧
        counts signals = counts (s.runSignals request.calls) ∧
        t'.Mirrors (s.run request.calls) := by
  cases request with
  | find now k =>
    apply (attains_find h now k).map
    rintro result signals t' ⟨rfl, rfl, rfl⟩
    refine ⟨?_, rfl, h⟩
    rw [Store.answer]
    cases s.find k <;> rfl
  | call c =>
    obtain ⟨now, b⟩ := c
    have hSignals : counts (s.runSignals [⟨now, b⟩]) = counts (s.signals ⟨now, b⟩) := by
      rw [Store.runSignals, Store.runSignals, List.append_nil]
    change Attains now t (fun replies => (perform options now b replies).map .batch)
      fun answer signals t' => SameAnswer answer (s.answer (.call ⟨now, b⟩)) ∧
        counts signals = counts (s.runSignals [⟨now, b⟩]) ∧ t'.Mirrors (s.after now b)
    rw [hSignals, Store.answer, Store.resultOf, Store.signals, Store.after]
    cases hFault : b.fault? with
    | some f =>
      simp only [perform_of_fault hFault, s.perform_of_fault now hFault]
      exact attains_unsent ⟨rfl, rfl, h⟩
    | none =>
      by_cases hSize : b.size = 0
      · simp only [perform_of_size_eq_zero hSize, s.perform_of_size_eq_zero now hSize]
        refine attains_unsent ⟨?_, rfl, h⟩
        cases b with
        | claim ids ceiling => exact ⟨List.nodup_nil, List.Perm.refl []⟩
        | insert | complete | fail | retry => exact rfl
      · simp only [perform_of_accepted hSize hFault, s.perform_of_accepted now hSize hFault]
        apply (attains_exchange options h hFault hRoom).map
        rintro result signals t' ⟨⟨r, rfl, hSame⟩, hCounts, hMirrors⟩
        exact ⟨hSame, hCounts, hMirrors⟩

theorem Table.Mirrors.exists_read (h : t.Mirrors s) :
    ∃ jobs, t.rows.mapM FullRow.toJob = .ok jobs ∧ jobs.Perm s.jobs.values := by
  have hIds : s.jobs.values.map Job.requestId = s.jobs.entries.map Prod.fst := by
    rw [Roster.values, List.map_map]
    refine List.map_congr_left fun entry hEntry => ?_
    exact h.requestId_eq ((Roster.get?_eq_some_iff s.jobs).mpr hEntry)
  have hValues : (s.jobs.values.map FullRow.ofJob).Nodup := by
    apply List.Nodup.of_map FullRow.requestId
    rw [List.map_map]
    change (s.jobs.values.map Job.requestId).Nodup
    rw [hIds]
    exact s.jobs.nodup_keys
  have hRows : t.rows.Perm (s.jobs.values.map FullRow.ofJob) := by
    refine (List.perm_ext_iff_of_nodup t.nodup_ids.of_map hValues).mpr fun r => ?_
    rw [h.mem_rows_iff, List.mem_map]
    constructor
    · rintro ⟨id, j, hj, rfl⟩
      exact ⟨j, s.mem_values_iff.mpr ⟨id, hj⟩, rfl⟩
    · rintro ⟨j, hj, rfl⟩
      obtain ⟨id, hj⟩ := s.mem_values_iff.mp hj
      exact ⟨id, j, hj, rfl⟩
  obtain ⟨jobs, hJobs, hPerm⟩ := FullRow.exists_map_ofJob hRows
  refine ⟨jobs, ?_, hPerm⟩
  rw [hJobs, mapM_map_eq_ok FullRow.toJob_ofJob, List.map_id']

/-- The requests, served one after another from the empty table, lead to the server and gave the
signals. -/
inductive Reached (options : StoreOptions) : List Request → Server → List Signal → Prop
  | start : Reached options [] .empty []
  | next {requests : List Request} {server server' : Server} {signals : List Signal}
    {request : Request} {replies : List Reply}
    (hBefore : Reached options requests server signals)
    (hServes : server.Serves request.now (exchangeOf options request replies).sent replies
      server') :
    Reached options (requests ++ [request]) server'
      (signals ++ (exchangeOf options request replies).signals)

section

variable {requests : List Request}

theorem roomy_run (h : ∀ request ∈ requests, request.CeilingFits) :
    (Store.empty.run (requests.flatMap Request.calls)).Roomy := by
  apply (Store.sound_empty.run _).roomy
  intro id
  have hBound : ∀ c ∈ requests.flatMap Request.calls, ∀ ids ceiling,
      c.batch = .claim ids ceiling → ceiling.toNat ≤ greatestRetries := by
    intro c hc ids ceiling hBatch
    obtain ⟨request, hRequest, hc⟩ := List.mem_flatMap.mp hc
    exact h request hRequest c hc ceiling (by rw [hBatch]; rfl)
  exact Store.sound_empty.attempts_run_le hBound (Nat.zero_le _)

theorem Reached.mirrors {server : Server} {signals : List Signal}
    (h : Reached options requests server signals)
    (hCeilings : ∀ request ∈ requests, request.CeilingFits) :
    ∃ t, server = ⟨t, none⟩ ∧ t.Mirrors (Store.empty.run (requests.flatMap Request.calls)) ∧
      counts signals = counts (Store.empty.runSignals (requests.flatMap Request.calls)) := by
  induction h with
  | start => exact ⟨.empty, rfl, Table.mirrors_empty, rfl⟩
  | @next requests server server' signals request replies hBefore hServes ih =>
    have hFits : ∀ request ∈ requests, request.CeilingFits := fun request' hRequest =>
      hCeilings request' (List.mem_append_left _ hRequest)
    obtain ⟨t, rfl, hMirrors, hCounts⟩ := ih hFits
    obtain ⟨answer, t', rfl, _, _, hSignals, hMirrors'⟩ :=
      (attains_request options hMirrors (roomy_run hFits) request).2 replies server' hServes
    rw [List.flatMap_append, List.flatMap_singleton, Store.run_append, Store.runSignals_append,
      Signal.counts_append, Signal.counts_append, hCounts, hSignals]
    exact ⟨t', rfl, hMirrors', rfl⟩

theorem exists_reached (options : StoreOptions)
    (h : ∀ request ∈ requests, request.CeilingFits) :
    ∃ server signals, Reached options requests server signals := by
  -- The last request is served after the others.
  induction requests using List.reverseRecOn with
  | nil => exact ⟨.empty, [], .start⟩
  | append_singleton requests request ih =>
    have hFits : ∀ request ∈ requests, request.CeilingFits := fun request' hRequest =>
      h request' (List.mem_append_left _ hRequest)
    obtain ⟨server, signals, hBefore⟩ := ih hFits
    obtain ⟨t, rfl, hMirrors, _⟩ := hBefore.mirrors hFits
    obtain ⟨replies, server', hServes⟩ :=
      (attains_request options hMirrors (roomy_run hFits) request).1
    exact ⟨server', _, hBefore.next hServes⟩

end

/-- Whatever is requested, as long as the ceilings of all claims fit into the column of the
retries: the requests can be served, and however they are served, the rows are read back as the jobs
in memory, the counters are the same, and the next request is answered alike on both sides. -/
theorem stores_agree (options : StoreOptions) {requests : List Request}
    (hCeilings : ∀ request ∈ requests, request.CeilingFits) :
    (∃ server signals, Reached options requests server signals) ∧
    ∀ server signals, Reached options requests server signals →
      server.transaction = none ∧
      (∃ jobs, server.committed.rows.mapM FullRow.toJob = .ok jobs ∧
        jobs.Perm (Store.empty.run (requests.flatMap Request.calls)).jobs.values) ∧
      totals signals = totals (Store.empty.runSignals (requests.flatMap Request.calls)) ∧
      ∀ request : Request,
        (∃ replies server', server.Serves request.now
          (exchangeOf options request replies).sent replies server') ∧
        ∀ replies server', server.Serves request.now
            (exchangeOf options request replies).sent replies server' →
          ∃ answer, (exchangeOf options request replies).result = some answer ∧
            SameAnswer answer
              ((Store.empty.run (requests.flatMap Request.calls)).answer request) := by
  refine ⟨exists_reached options hCeilings, fun server signals hReached => ?_⟩
  obtain ⟨t, rfl, hMirrors, hCounts⟩ := hReached.mirrors hCeilings
  refine ⟨rfl, hMirrors.exists_read, Signal.totals_eq_of_counts_eq hCounts, fun request => ?_⟩
  obtain ⟨hServed, hAnswers⟩ :=
    attains_request options hMirrors (roomy_run hCeilings) request
  refine ⟨hServed, fun replies server' hServes => ?_⟩
  obtain ⟨answer, _, _, hResult, hSame, _⟩ := hAnswers replies server' hServes
  exact ⟨answer, hResult, hSame⟩

/-- A job is claimed, put back and claimed again in the database, and found there by its hash. -/
theorem stores_agree_twoAttempts :
    let j : Job := ⟨"a", "h", "org", newYear, newYear, .processing, some newYear, none, none, none,
      none, some "timeout", 1⟩
    ∃ server signals, Reached .default (twoAttempts.map .call) server signals ∧
      server.committed.rows.mapM FullRow.toJob = .ok [j] ∧
      totals signals = [(.inserted, 1), (.duplicate, 0), (.moved .received .processing, 2),
        (.moved .processing .received, 1)] ∧
      ∃ replies, (exchangeOf .default (.find newYear (.logHash "h")) replies).result =
        some (.ok (.job j)) := by
  intro j
  have hCeilings : ∀ request ∈ twoAttempts.map .call, Request.CeilingFits request := by
    intro request hRequest c hc ceiling hCeiling
    obtain ⟨d, hd, rfl⟩ := List.mem_map.mp hRequest
    cases List.mem_singleton.mp hc
    simp only [twoAttempts, List.mem_cons, List.not_mem_nil, or_false] at hd
    rcases hd with rfl | rfl | rfl | rfl <;> cases hCeiling <;> decide
  obtain ⟨⟨server, signals, hReached⟩, hAgree⟩ := stores_agree .default hCeilings
  obtain ⟨_, ⟨jobs, hRead, hJobs⟩, hTotals, hNext⟩ := hAgree server signals hReached
  obtain ⟨⟨replies, server', hServes⟩, hAnswers⟩ := hNext (.find newYear (.logHash "h"))
  obtain ⟨answer, hResult, hSame⟩ := hAnswers replies server' hServes
  have hStored : (Store.empty.run ((twoAttempts.map .call).flatMap Request.calls)).jobs.values =
      [j] := by decide
  have hFound : (Store.empty.run ((twoAttempts.map .call).flatMap Request.calls)).answer
      (.find newYear (.logHash "h")) = .ok (.job j) := by decide
  rw [hStored] at hJobs
  rw [hFound] at hSame
  refine ⟨server, signals, hReached, ?_, ?_, replies, ?_⟩
  · rw [hRead, List.perm_singleton.mp hJobs]
  · rw [hTotals]
    decide
  · rw [hResult]
    cases answer with
    | error e => cases hSame
    | ok outcome =>
      cases outcome with
      | batch r => cases hSame
      | job k =>
        cases hSame
        rfl

end Sql

end AnchorQueue
