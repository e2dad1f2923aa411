import AnchorQueue.Proofs.Sql.Command
import AnchorQueue.Proofs.Sql.Recordset
import AnchorQueue.Sql.Dialogue
import Mathlib.Data.List.Nodup

/-!
# The table and its commands

What the commands do to the table, as their texts say it, with the arguments in the places of the
parameters. The rows of a table obey the constraints of its schema, and a command that would break
one of them is not carried out. Of several objects that a join offers for a row any one may be used,
and rows come back in any order.
-/

namespace AnchorQueue

open AnchorQueue.Json (Object)
open AnchorQueue.Time (Instant)

namespace Sql

namespace FullRow

def toRow (r : FullRow) : Row where
  requestId := some r.requestId
  logHash := some r.logHash
  sourceOrg := some r.sourceOrg
  receivedAt := some r.receivedAt
  status := some r.status
  storedAt := some r.storedAt
  startedAt := r.startedAt
  finishedAt := r.finishedAt
  txHash := r.txHash
  blockHeight := r.blockHeight
  chainHash := r.chainHash
  errorMessage := r.errorMessage
  retries := some r.retries

theorem full_toRow (r : FullRow) : r.toRow.full = .ok r := rfl

theorem eq_some_of_notNull_bind {α β : Type} {column : Column} {x : Option α}
    {next : α → Except DatabaseError β} {b : β} (h : Row.notNull column x >>= next = .ok b) :
    ∃ a, x = some a ∧ next a = .ok b := by
  cases x with
  | none => cases h
  | some a => exact ⟨a, rfl, h⟩

theorem eq_toRow_of_full {r : Row} {f : FullRow} (h : r.full = .ok f) : r = f.toRow := by
  obtain ⟨requestId, hId, h⟩ := eq_some_of_notNull_bind h
  obtain ⟨logHash, hHash, h⟩ := eq_some_of_notNull_bind h
  obtain ⟨sourceOrg, hOrg, h⟩ := eq_some_of_notNull_bind h
  obtain ⟨receivedAt, hReceived, h⟩ := eq_some_of_notNull_bind h
  obtain ⟨status, hStatus, h⟩ := eq_some_of_notNull_bind h
  obtain ⟨storedAt, hStored, h⟩ := eq_some_of_notNull_bind h
  obtain ⟨retries, hRetries, h⟩ := eq_some_of_notNull_bind h
  cases r
  cases h
  subst hId hHash hOrg hReceived hStatus hStored hRetries
  rfl

def lockedRow (r : FullRow) : Row where
  requestId := some r.requestId
  logHash := none
  sourceOrg := none
  receivedAt := none
  status := none
  storedAt := none
  startedAt := none
  finishedAt := none
  txHash := none
  blockHeight := none
  chainHash := none
  errorMessage := none
  retries := some r.retries

theorem locked_lockedRow (r : FullRow) : r.lockedRow.locked = .ok (r.requestId, r.retries) := rfl

/-- The checks on single columns. -/
structure Allowed (r : FullRow) : Prop where
  status : r.status ∈ ["RECEIVED", "PROCESSING", "COMPLETED", "FAILED"]
  retries : 0 ≤ r.retries

/-- A new row, with the defaults of the columns that an insert leaves out. -/
def ofSubmission (now : Instant) (x : Submission) : FullRow where
  requestId := x.requestId
  logHash := x.logHash
  sourceOrg := x.sourceOrg
  receivedAt := x.receivedAt
  status := "RECEIVED"
  storedAt := now
  startedAt := none
  finishedAt := none
  txHash := none
  blockHeight := none
  chainHash := none
  errorMessage := none
  retries := 0

theorem allowed_ofSubmission (now : Instant) (x : Submission) : (ofSubmission now x).Allowed where
  status := List.mem_cons_self
  retries := Int32.le_refl 0

/-- The order of a search by hash. -/
def Before (r r' : FullRow) : Prop :=
  r.storedAt < r'.storedAt ∨ r.storedAt = r'.storedAt ∧ r.requestId < r'.requestId

end FullRow

structure Table where
  rows : List FullRow
  nodup_ids : (rows.map FullRow.requestId).Nodup
  allowed : ∀ r ∈ rows, r.Allowed

namespace Table

def empty : Table :=
  ⟨[], List.nodup_nil, fun _ h => absurd h List.not_mem_nil⟩

def get? (t : Table) (id : String) : Option FullRow :=
  t.rows.find? fun r => r.requestId = id

theorem get?_eq_some_iff {t : Table} {id : String} {r : FullRow} :
    t.get? id = some r ↔ r ∈ t.rows ∧ r.requestId = id := by
  obtain ⟨rows, hNodup, hAllowed⟩ := t
  rw [get?]
  induction rows with
  | nil => simp
  | cons x rows ih =>
    rw [List.map_cons, List.nodup_cons] at hNodup
    by_cases hx : x.requestId = id
    · rw [List.find?_cons_of_pos (by simpa using hx)]
      constructor
      · rintro ⟨⟩
        exact ⟨List.mem_cons_self, hx⟩
      · rintro ⟨hr, hid⟩
        rcases List.mem_cons.mp hr with rfl | hr
        · rfl
        · exact absurd (List.mem_map.mpr ⟨r, hr, hid.trans hx.symm⟩) hNodup.1
    · rw [List.find?_cons_of_neg (by simpa using hx),
        ih hNodup.2 fun r hr => hAllowed r (List.mem_cons_of_mem x hr), List.mem_cons]
      constructor
      · rintro ⟨hr, hid⟩
        exact ⟨Or.inr hr, hid⟩
      · rintro ⟨rfl | hr, hid⟩
        · exact absurd hid hx
        · exact ⟨hr, hid⟩

theorem not_mem_ids_of_get?_eq_none {t : Table} {id : String} (h : t.get? id = none) :
    id ∉ t.rows.map FullRow.requestId := by
  intro hid
  obtain ⟨r, hr, hrid⟩ := List.mem_map.mp hid
  cases h.symm.trans (get?_eq_some_iff.mpr ⟨hr, hrid⟩)

def add (t : Table) (now : Instant) (x : Submission) (h : t.get? x.requestId = none) : Table where
  rows := t.rows ++ [.ofSubmission now x]
  nodup_ids := by
    rw [List.map_append, List.nodup_append]
    refine ⟨t.nodup_ids, by simp, ?_⟩
    intro id hid k hk hEq
    cases List.mem_singleton.mp hk
    exact not_mem_ids_of_get?_eq_none h (by rwa [hEq] at hid)
  allowed := by
    intro r hr
    rcases List.mem_append.mp hr with hr | hr
    · exact t.allowed r hr
    · cases List.mem_singleton.mp hr
      exact FullRow.allowed_ofSubmission now x

theorem get?_add {t : Table} {now : Instant} {x : Submission} (h : t.get? x.requestId = none)
    (id : String) : (t.add now x h).get? id =
      if id = x.requestId then some (.ofSubmission now x) else t.get? id := by
  rw [get?, add, List.find?_append, ← get?]
  by_cases hid : id = x.requestId
  · rw [hid, h, if_pos rfl, Option.none_or]
    exact List.find?_cons_of_pos (by simp [FullRow.ofSubmission])
  · rw [if_neg hid, List.find?_cons_of_neg (by simp [FullRow.ofSubmission, Ne.symm hid]),
      List.find?_nil, Option.or_none]

/-- Adds the items in order, without those whose id is there already. -/
def insertAll (now : Instant) : Table → List Submission → Table × Nat
  | t, [] => (t, 0)
  | t, x :: xs =>
    if h : t.get? x.requestId = none then
      let (t', n) := insertAll now (t.add now x h) xs
      (t', n + 1)
    else insertAll now t xs

end Table

/-- The join gives a row one of the objects with its id, if there is any. -/
def Joins (ds : List Object) (join : FullRow → Option Object) : Prop :=
  ∀ r, (∀ d ∈ join r, d ∈ ds ∧ d.text "request_id" = some r.requestId) ∧
    (join r = none → ∀ d ∈ ds, d.text "request_id" ≠ some r.requestId)

theorem exists_joins (ds : List Object) : ∃ join, Joins ds join := by
  refine ⟨fun r => ds.find? fun d => d.text "request_id" = some r.requestId,
    fun r => ⟨fun d hd => ?_, ?_⟩⟩
  · exact ⟨List.mem_of_find?_eq_some hd, by simpa using List.find?_some hd⟩
  · intro hNone d hd
    simpa using List.find?_eq_none.mp hNone d hd

/-- Among the objects of items with distinct ids the join has no choice. -/
theorem Joins.eq_find? {α : Type} {key : α → String} {form : α → Object} {items : List α}
    {join : FullRow → Option Object} (h : Joins (items.map form) join)
    (hKey : ∀ x, (form x).text "request_id" = some (key x)) (hNodup : (items.map key).Nodup)
    (r : FullRow) : join r = (items.find? fun x => key x = r.requestId).map form := by
  obtain ⟨hSome, hNone⟩ := h r
  cases hJoin : join r with
  | none =>
    have hAbsent : (items.find? fun x => key x = r.requestId) = none := by
      rw [List.find?_eq_none]
      intro x hx
      simpa [hKey] using hNone hJoin (form x) (List.mem_map_of_mem hx)
    rw [hAbsent, Option.map_none]
  | some d =>
    obtain ⟨hd, hId⟩ := hSome d hJoin
    obtain ⟨x, hx, rfl⟩ := List.mem_map.mp hd
    rw [hKey, Option.some_inj] at hId
    cases hFind : items.find? fun x => key x = r.requestId with
    | none => exact absurd hId (by simpa using List.find?_eq_none.mp hFind x hx)
    | some y =>
      have hy : key y = r.requestId := by simpa using List.find?_some hFind
      rw [List.inj_on_of_nodup_map hNodup hx (List.mem_of_find?_eq_some hFind)
        (hId.trans hy.symm), Option.map_some]

namespace Command

/-- What an update with these arguments makes of a row that it changes. A height has to fit into its
column. -/
inductive Rewrites : Command → List Param → (FullRow → Option FullRow) → Prop
  | exhaust (message : String) (now : Instant) (ids : List String) :
    Rewrites .exhaust [.text message, .instant now, .texts ids] fun r =>
      if r.requestId ∈ ids ∧ r.status = "RECEIVED" then
        some { r with status := "FAILED", errorMessage := some message, finishedAt := some now }
      else none
  | markProcessing (now : Instant) (ids : List String) :
    Rewrites .markProcessing [.instant now, .texts ids] fun r =>
      if r.requestId ∈ ids ∧ r.status = "RECEIVED" then
        some { r with status := "PROCESSING", startedAt := some now }
      else none
  | complete {document : String} {ds : List Object} {join : FullRow → Option Object}
    (now : Instant) (hRead : recordset document = .ok ds)
    (hHeights : ∀ d ∈ ds, (d.bigint "block_height").isSome) (hJoin : Joins ds join) :
    Rewrites .complete [.document document, .instant now] fun r => (join r).bind fun d =>
      if r.status = "PROCESSING" then
        some { r with
          status := "COMPLETED"
          txHash := d.text "tx_hash"
          chainHash := d.text "log_hash_on_chain"
          blockHeight := d.bigint "block_height"
          errorMessage := none
          finishedAt := some now }
      else none
  | fail {document : String} {ds : List Object} {join : FullRow → Option Object} (now : Instant)
    (hRead : recordset document = .ok ds) (hJoin : Joins ds join) :
    Rewrites .fail [.document document, .instant now] fun r => (join r).bind fun d =>
      if r.status = "PROCESSING" then
        some { r with
          status := "FAILED", errorMessage := d.text "error_message", finishedAt := some now }
      else none
  | requeue (lastError : String) (ids : List String) :
    Rewrites .requeue [.text lastError, .texts ids] fun r =>
      if r.requestId ∈ ids ∧ r.status = "PROCESSING" then
        some { r with
          status := "RECEIVED"
          retries := r.retries + 1
          errorMessage := some lastError
          startedAt := none }
      else none

variable {c : Command} {params : List Param} {f : FullRow → Option FullRow} {r r' : FullRow}

theorem Rewrites.requestId_eq (h : c.Rewrites params f) (hr : f r = some r') :
    r'.requestId = r.requestId := by
  cases h with
  | exhaust | markProcessing | requeue =>
    obtain ⟨_, ⟨⟩⟩ := Option.ite_none_right_eq_some.mp hr
    rfl
  | complete | fail =>
    obtain ⟨_, _, hr⟩ := Option.bind_eq_some_iff.mp hr
    obtain ⟨_, ⟨⟩⟩ := Option.ite_none_right_eq_some.mp hr
    rfl

/-- Only putting back can break a check, as it alone changes the retries. -/
theorem Rewrites.allowed (h : c.Rewrites params f) (hAllowed : r.Allowed)
    (hRoom : c = .requeue → r.status = "PROCESSING" → 0 ≤ r.retries + 1) (hr : f r = some r') :
    r'.Allowed := by
  cases h with
  | exhaust | markProcessing =>
    obtain ⟨_, ⟨⟩⟩ := Option.ite_none_right_eq_some.mp hr
    exact ⟨by simp, hAllowed.retries⟩
  | complete | fail =>
    obtain ⟨_, _, hr⟩ := Option.bind_eq_some_iff.mp hr
    obtain ⟨_, ⟨⟩⟩ := Option.ite_none_right_eq_some.mp hr
    exact ⟨by simp, hAllowed.retries⟩
  | requeue =>
    obtain ⟨⟨_, hStatus⟩, ⟨⟩⟩ := Option.ite_none_right_eq_some.mp hr
    exact ⟨by simp, hRoom rfl hStatus⟩

def isReturning : Command → Bool
  | markProcessing => true
  | _ => false

end Command

namespace Table

def hits (t : Table) (f : FullRow → Option FullRow) : List FullRow :=
  t.rows.filterMap f

/-- The second table has the changed rows in the places of the old ones. As a table it obeys the
constraints, so that retries beyond the greatest number, which come out negative, are refused. -/
def Replaced (t : Table) (f : FullRow → Option FullRow) (t' : Table) : Prop :=
  t'.rows = t.rows.map fun r => (f r).getD r

section

variable {c : Command} {params : List Param} {f : FullRow → Option FullRow} {t t' : Table}

theorem requestId_getD (h : c.Rewrites params f) (r : FullRow) :
    ((f r).getD r).requestId = r.requestId := by
  cases hr : f r with
  | none => rfl
  | some r' => exact h.requestId_eq hr

theorem get?_replaced (h : c.Rewrites params f) (hReplaced : t.Replaced f t') (id : String) :
    t'.get? id = (t.get? id).map fun r => (f r).getD r := by
  have hKey : ((fun r : FullRow => decide (r.requestId = id)) ∘ fun r => (f r).getD r) =
      fun r => decide (r.requestId = id) := by
    funext r
    simp only [Function.comp_apply, requestId_getD h]
  rw [get?, hReplaced, List.find?_map, hKey, get?]

theorem exists_replaced (h : c.Rewrites params f) (t : Table)
    (hRoom : c = .requeue → ∀ r ∈ t.rows, r.status = "PROCESSING" → 0 ≤ r.retries + 1) :
    ∃ t', t.Replaced f t' := by
  refine ⟨⟨t.rows.map fun r => (f r).getD r, ?_, ?_⟩, rfl⟩
  · have hIds : (t.rows.map fun r => (f r).getD r).map FullRow.requestId =
        t.rows.map FullRow.requestId := by
      rw [List.map_map]
      exact List.map_congr_left fun r _ => requestId_getD h r
    rw [hIds]
    exact t.nodup_ids
  · intro r' hr'
    obtain ⟨r, hr, rfl⟩ := List.mem_map.mp hr'
    cases hf : f r with
    | none => exact t.allowed r hr
    | some r' =>
      exact h.allowed (t.allowed r hr) (fun hc => hRoom hc r hr) hf

theorem nodup_hits (h : c.Rewrites params f) (t : Table) : (t.hits f).Nodup := by
  have hIds : t.rows.Pairwise fun r r' => r.requestId ≠ r'.requestId :=
    List.pairwise_map.mp t.nodup_ids
  refine List.Pairwise.filterMap f ?_ hIds
  intro r r' hne x hx x' hx' hEq
  rw [← h.requestId_eq hx, ← h.requestId_eq hx', hEq] at hne
  exact hne rfl

end

/-- The command, carried out on the table with these arguments, gives the reply and leaves the
second table. -/
inductive Executes (now : Instant) (t : Table) : Command → List Param → Reply → Table → Prop
  | insert {document : String} {ds : List Object} {submissions : List Submission}
    (hRead : recordset document = .ok ds) (hRows : ds.mapM submission? = some submissions) :
    Executes now t .insert [.document document] (.done (t.insertAll now submissions).2)
      (t.insertAll now submissions).1
  | lock {ids : List String} {locked : List FullRow}
    (hLocked : locked.Perm (t.rows.filter fun r => r.requestId ∈ ids ∧ r.status = "RECEIVED")) :
    Executes now t .lock [.texts ids] (.rows (locked.map FullRow.lockedRow)) t
  | update {c : Command} {params : List Param} {f : FullRow → Option FullRow} {t' : Table}
    (hRewrites : c.Rewrites params f) (hReplaced : t.Replaced f t')
    (hSilent : c.isReturning = false) : Executes now t c params (.done (t.hits f).length) t'
  | returning {c : Command} {params : List Param} {f : FullRow → Option FullRow} {t' : Table}
    {returned : List FullRow} (hRewrites : c.Rewrites params f) (hReplaced : t.Replaced f t')
    (hReturning : c.isReturning = true) (hReturned : returned.Perm (t.hits f)) :
    Executes now t c params (.rows (returned.map FullRow.toRow)) t'
  | findId (id : String) :
    Executes now t .findId [.text id] (.rows ((t.get? id).toList.map FullRow.toRow)) t
  | findNone {hash : String} (hNone : ∀ r ∈ t.rows, r.logHash ≠ hash) :
    Executes now t .findHash [.text hash] (.rows []) t
  | findFirst {hash : String} {r : FullRow} (hr : r ∈ t.rows) (hHash : r.logHash = hash)
    (hFirst : ∀ r' ∈ t.rows, r'.logHash = hash → ¬r'.Before r) :
    Executes now t .findHash [.text hash] (.rows [r.toRow]) t

end Table

end Sql

end AnchorQueue
