import Macr.Canonical
import Macr.Errors
import Macr.Lib.Machine
import Macr.Lib.Sorting
import Macr.Lib.Table
import Mathlib.Data.String.Basic

/-!
# Dispatch leases

A run dispatches on a resource while it holds the resource's lease. Acquiring is re-entrant for
the run that holds the lease, and expiry is applied by whoever acquires or reaps next. Each new
lease takes the next token of the counter that the other stores of the database draw from too.
-/

namespace Macr

open Lib

/-- A row of `dispatch_leases`, which is also the permit a caller is handed. -/
structure DispatchPermit where
  /-- Primary key. -/
  resourceKey : String
  /-- The run that holds it. -/
  runId : Uuid
  /-- The token of its creation. -/
  fencingToken : Nat
  /-- When it was created. -/
  acquiredAt : Timestamp
  /-- When it expires. -/
  expiresAt : Timestamp
deriving DecidableEq, Repr

/-- The tables the store uses. -/
structure DispatchLeaseDb where
  /-- `fencing_counter`. -/
  fencingCounter : Nat
  /-- `dispatch_leases`. -/
  leases : Table DispatchPermit.resourceKey

namespace DispatchLeaseDb

/-- A new database. -/
def initial : DispatchLeaseDb := ⟨0, Table.empty⟩

/-- `_ttl`. -/
def ttl (seconds : Int) : Except MacrError Nat :=
  if 1 ≤ seconds ∧ seconds ≤ 86400 then .ok seconds.toNat
  else .error (.valueError "ttl_seconds must be between 1 and 86400")

/-- The lease of a resource that has not expired at a clock reading. -/
def live? (db : DispatchLeaseDb) (resourceKey : String) (now : Timestamp) :
    Option DispatchPermit :=
  (db.leases.find? resourceKey).filter (fun row => now < row.expiresAt)

/-- The leases after the expired one of a resource is deleted. -/
def clearExpired (db : DispatchLeaseDb) (resourceKey : String) (now : Timestamp) :
    Table DispatchPermit.resourceKey :=
  db.leases.delete (fun row => row.resourceKey = resourceKey ∧ row.expiresAt ≤ now)

/-- `DispatcherLeaseStore.acquire`. -/
def acquire (db : DispatchLeaseDb) (resourceKey : String) (runId : Uuid) (ttlSeconds : Int)
    (now : Timestamp) : Except MacrError (Committed DispatchLeaseDb DispatchPermit) := do
  let seconds ← ttl ttlSeconds
  match db.live? resourceKey now with
  | some row =>
    if row.runId = runId then commit db row
    else .error (.dispatchLease "dispatch resource is held by another run")
  | none =>
    let token := db.fencingCounter + 1
    let permit := ⟨resourceKey, runId, token, now, now.addSeconds seconds⟩
    let leases ← require ((db.clearExpired resourceKey now).insert? permit) .integrity
    commit ⟨token, leases⟩ permit

/-- The stored lease of a resource, when it is of a run and a token. -/
def held? (db : DispatchLeaseDb) (resourceKey : String) (runId : Uuid) (fencingToken : Nat) :
    Option DispatchPermit :=
  (db.leases.find? resourceKey).filter
    (fun row => row.runId = runId ∧ row.fencingToken = fencingToken)

/-- `DispatcherLeaseStore.renew`. -/
def renew (db : DispatchLeaseDb) (resourceKey : String) (runId : Uuid) (fencingToken : Nat)
    (ttlSeconds : Int) (now : Timestamp) :
    Except MacrError (Committed DispatchLeaseDb DispatchPermit) := do
  let seconds ← ttl ttlSeconds
  let row ← require ((db.held? resourceKey runId fencingToken).filter
      (fun row => now < row.expiresAt))
    (.dispatchLease "dispatch lease holder or fencing token is invalid")
  let expiresAt := now.addSeconds seconds
  commit
    { db with
      leases := db.leases.update (fun row => row.resourceKey = resourceKey)
        (fun row => { row with expiresAt := expiresAt }) }
    ⟨resourceKey, runId, fencingToken, row.acquiredAt, expiresAt⟩

/-- `DispatcherLeaseStore.release`. -/
def release (db : DispatchLeaseDb) (resourceKey : String) (runId : Uuid) (fencingToken : Nat) :
    Except MacrError (Committed DispatchLeaseDb Bool) := do
  let _ ← require (db.held? resourceKey runId fencingToken)
    (.dispatchLease "dispatch lease holder or fencing token is invalid")
  commit { db with leases := db.leases.delete (fun row => row.resourceKey = resourceKey) } true

/-- `DispatcherLeaseStore.list_for_run`. -/
def listForRun (db : DispatchLeaseDb) (runId : Uuid) : List DispatchPermit :=
  sortOn DispatchPermit.resourceKey (db.leases.rows.filter (fun row => row.runId = runId))

/-- `DispatcherLeaseStore.reap_expired_for_run`. -/
def reapExpiredForRun (db : DispatchLeaseDb) (runId : Uuid) (now : Timestamp) :
    Except MacrError (Committed DispatchLeaseDb (List DispatchPermit)) := do
  raiseIf (∃ row ∈ db.listForRun runId, now < row.expiresAt)
    (.dispatchLease "dispatch lease is not expired and cannot be reaped")
  commit { db with leases := db.leases.delete (fun row => row.runId = runId) }
    (db.listForRun runId)

/-- Another store of the database draws a token. -/
def drawToken (db : DispatchLeaseDb) : DispatchLeaseDb :=
  { db with fencingCounter := db.fencingCounter + 1 }

/-! ## What each operation does -/

variable {db next : DispatchLeaseDb}

/-- A live lease is stored under its resource. -/
theorem live?_eq_some {resourceKey : String} {now : Timestamp} {row : DispatchPermit} :
    db.live? resourceKey now = some row ↔
      (row ∈ db.leases.rows ∧ row.resourceKey = resourceKey) ∧ now < row.expiresAt := by
  rw [live?, Option.filter_eq_some_iff, Table.find?_eq_some, decide_eq_true_eq]

/-- A resource has no live lease exactly when every lease of it has expired. -/
theorem live?_eq_none {resourceKey : String} {now : Timestamp} :
    db.live? resourceKey now = none ↔
      ∀ row ∈ db.leases.rows, row.resourceKey = resourceKey → row.expiresAt ≤ now := by
  constructor
  · intro none row stored same
    by_contra unexpired
    have live : db.live? resourceKey now = some row :=
      live?_eq_some.mpr ⟨⟨stored, same⟩, Nat.lt_of_not_le unexpired⟩
    rw [none] at live
    cases live
  · intro expired
    cases found : db.live? resourceKey now with
    | none => rfl
    | some row =>
      obtain ⟨⟨stored, same⟩, unexpired⟩ := live?_eq_some.mp found
      exact absurd unexpired (Nat.not_lt.mpr (expired row stored same))

/-- A held lease is stored with its run and token. -/
theorem held?_eq_some {resourceKey : String} {runId : Uuid} {fencingToken : Nat}
    {row : DispatchPermit} :
    db.held? resourceKey runId fencingToken = some row ↔
      row ∈ db.leases.rows ∧ row.resourceKey = resourceKey ∧ row.runId = runId ∧
        row.fencingToken = fencingToken := by
  rw [held?, Option.filter_eq_some_iff, Table.find?_eq_some, decide_eq_true_eq, and_assoc]

/-- The lease `acquire` creates for a run on a resource without a live lease. -/
structure Creates (db next : DispatchLeaseDb) (resourceKey : String) (runId : Uuid)
    (now : Timestamp) (permit : DispatchPermit) : Prop where
  /-- The permit is of the resource and the run. -/
  named : permit.resourceKey = resourceKey ∧ permit.runId = runId
  /-- It has the next token. -/
  token : permit.fencingToken = db.fencingCounter + 1
  /-- The counter has moved on. -/
  counter : next.fencingCounter = db.fencingCounter + 1
  /-- Every earlier lease of the resource had expired. -/
  expired : ∀ row ∈ db.leases.rows, row.resourceKey = resourceKey → row.expiresAt ≤ now
  /-- The leases are those of the other resources, and the new one. -/
  rows : ∀ row, row ∈ next.leases.rows ↔
    (row ∈ db.leases.rows ∧ row.resourceKey ≠ resourceKey) ∨ row = permit

/-- A committed acquisition answers with the live lease the run holds already, or creates one. -/
theorem acquire_eq_ok {resourceKey : String} {runId : Uuid} {ttlSeconds : Int} {now : Timestamp}
    {result : Committed DispatchLeaseDb DispatchPermit}
    (done : db.acquire resourceKey runId ttlSeconds now = .ok result) :
    ∃ permit, result.2 = .ok permit ∧
      ((db.live? resourceKey now = some permit ∧ permit.runId = runId ∧ result.1 = db) ∨
        (db.live? resourceKey now = none ∧
          Creates db result.1 resourceKey runId now permit)) := by
  simp only [acquire, bind_eq_ok] at done
  obtain ⟨seconds, _, rest⟩ := done
  cases live : db.live? resourceKey now with
  | some row =>
    rw [live] at rest
    simp only at rest
    split at rest
    case isTrue same =>
      rw [commit_eq_ok] at rest
      subst rest
      exact ⟨row, rfl, .inl ⟨rfl, same, rfl⟩⟩
    case isFalse => cases rest
  | none =>
    rw [live] at rest
    simp only [bind_eq_ok, require_eq_ok, commit_eq_ok] at rest
    obtain ⟨leases, inserted, rfl⟩ := rest
    have expired := live?_eq_none.mp live
    refine ⟨_, rfl, .inr ⟨rfl, ⟨rfl, rfl⟩, rfl, rfl, expired, ?_⟩⟩
    intro row
    rw [Table.rows_of_insert? inserted, List.mem_append, List.mem_singleton]
    simp only [clearExpired, Table.mem_delete, decide_eq_false_iff_not, not_and]
    constructor
    · rintro (⟨stored, kept⟩ | new)
      · refine .inl ⟨stored, ?_⟩
        intro same
        exact kept same (expired row stored same)
      · exact .inr new
    · rintro (⟨stored, other⟩ | new)
      · exact .inl ⟨stored, fun same => absurd same other⟩
      · exact .inr new

/-- A committed renewal is of the stored, unexpired lease it names, and moves its expiry alone. -/
theorem renew_eq_ok {resourceKey : String} {runId : Uuid} {fencingToken : Nat} {ttlSeconds : Int}
    {now : Timestamp} {result : Committed DispatchLeaseDb DispatchPermit}
    (done : db.renew resourceKey runId fencingToken ttlSeconds now = .ok result) :
    ∃ row expiresAt, db.held? resourceKey runId fencingToken = some row ∧ now < row.expiresAt ∧
      result.2 = .ok { row with expiresAt := expiresAt } ∧
      result.1 = { db with
        leases := db.leases.update (fun row => row.resourceKey = resourceKey)
          (fun row => { row with expiresAt := expiresAt }) } := by
  simp only [renew, bind_eq_ok, require_eq_ok, Option.filter_eq_some_iff, decide_eq_true_eq,
    commit_eq_ok] at done
  obtain ⟨seconds, _, row, ⟨held, unexpired⟩, rfl⟩ := done
  obtain ⟨_, rfl, rfl, rfl⟩ := held?_eq_some.mp held
  exact ⟨row, _, held, unexpired, rfl, rfl⟩

/-- A committed release is of the stored lease it names, and removes it alone. -/
theorem release_eq_ok {resourceKey : String} {runId : Uuid} {fencingToken : Nat}
    {result : Committed DispatchLeaseDb Bool}
    (done : db.release resourceKey runId fencingToken = .ok result) :
    ∃ row, db.held? resourceKey runId fencingToken = some row ∧ result.2 = .ok true ∧
      result.1 =
        { db with leases := db.leases.delete (fun row => row.resourceKey = resourceKey) } := by
  simp only [release, bind_eq_ok, require_eq_ok, commit_eq_ok] at done
  obtain ⟨row, held, rfl⟩ := done
  exact ⟨row, held, rfl, rfl⟩

/-- A committed reaping is of a run all of whose leases have expired, and removes these. -/
theorem reapExpiredForRun_eq_ok {runId : Uuid} {now : Timestamp}
    {result : Committed DispatchLeaseDb (List DispatchPermit)}
    (done : db.reapExpiredForRun runId now = .ok result) :
    (∀ row ∈ db.leases.rows, row.runId = runId → row.expiresAt ≤ now) ∧
      result.2 = .ok (db.listForRun runId) ∧
      result.1 = { db with leases := db.leases.delete (fun row => row.runId = runId) } := by
  simp only [reapExpiredForRun, bind_eq_ok, raiseIf_eq_ok, exists_const, commit_eq_ok, not_exists,
    not_and, Nat.not_lt] at done
  obtain ⟨expired, rfl⟩ := done
  refine ⟨?_, rfl, rfl⟩
  intro row stored same
  exact expired row (by simp [listForRun, stored, same])

/-! ## One change of the store -/

/-- What one call may do to the tables. -/
inductive LeaseChange : DispatchLeaseDb → DispatchLeaseDb → Prop where
  /-- Nothing. -/
  | same (db : DispatchLeaseDb) : LeaseChange db db
  /-- A lease is created. -/
  | created {db next : DispatchLeaseDb} {resourceKey : String} {runId : Uuid} {now : Timestamp}
      {permit : DispatchPermit} (creates : Creates db next resourceKey runId now permit) :
      LeaseChange db next
  /-- The expiry of a resource's lease is moved. -/
  | renewed (db : DispatchLeaseDb) (resourceKey : String) (expiresAt : Timestamp) :
      LeaseChange db { db with
        leases := db.leases.update (fun row => row.resourceKey = resourceKey)
          (fun row => { row with expiresAt := expiresAt }) }
  /-- Leases are removed. -/
  | removed (db : DispatchLeaseDb) (condition : DispatchPermit → Bool) :
      LeaseChange db { db with leases := db.leases.delete condition }
  /-- Another store draws a token. -/
  | drawn (db : DispatchLeaseDb) : LeaseChange db db.drawToken

/-- A change never lowers the counter. -/
theorem LeaseChange.counter (change : LeaseChange db next) :
    db.fencingCounter ≤ next.fencingCounter := by
  cases change with
  | same | renewed | removed => exact Nat.le_refl _
  | created creates =>
    rw [creates.counter]
    exact Nat.le_succ _
  | drawn => exact Nat.le_succ _

/-- A lease after a change continues one of the same resource, run and token, or was created by
the change. -/
theorem LeaseChange.origin (change : LeaseChange db next) {row : DispatchPermit}
    (stored : row ∈ next.leases.rows) :
    (∃ old ∈ db.leases.rows, old.resourceKey = row.resourceKey ∧ old.runId = row.runId ∧
      old.fencingToken = row.fencingToken) ∨
    ∃ resourceKey runId now, Creates db next resourceKey runId now row := by
  cases change with
  | same | drawn => exact .inl ⟨row, stored, rfl, rfl, rfl⟩
  | created creates =>
    rcases (creates.rows row).mp stored with ⟨old, _⟩ | rfl
    · exact .inl ⟨row, old, rfl, rfl, rfl⟩
    · exact .inr ⟨_, _, _, creates⟩
  | renewed resourceKey expiresAt =>
    rw [Table.mem_update] at stored
    obtain ⟨old, held, rfl⟩ := stored
    exact .inl ⟨old, held, by split <;> exact ⟨rfl, rfl, rfl⟩⟩
  | removed condition =>
    rw [Table.mem_delete] at stored
    exact .inl ⟨row, stored.1, rfl, rfl, rfl⟩

end DispatchLeaseDb
end Macr
