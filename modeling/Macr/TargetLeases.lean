import Macr.Canonical
import Macr.Errors
import Macr.Lib.Machine
import Macr.Lib.Table

/-!
# Target leases

A plan holds a target of a repository through leases. Two leases of one target are held together
only within one plan and under one named alternative group, and at most one of them may
materialise automatically. A lease that is found expired keeps its target until it is reconciled.
-/

namespace Macr

open Lib

/-- `TargetLeaseState`. -/
inductive TargetLeaseState where
  | active
  | released
  | reconciliationRequired
deriving DecidableEq, Repr

/-- The states that keep a target from other plans. -/
def TargetLeaseState.held : TargetLeaseState → Bool
  | .active | .reconciliationRequired => true
  | .released => false

/-- The columns of a lease that its insertion fixes. -/
structure TargetLeaseIdentity where
  /-- Primary key. -/
  leaseId : Digest
  /-- The repository. -/
  repositoryId : Digest
  /-- The target within it. -/
  targetKey : Digest
  /-- The plan that holds it. -/
  planDigest : Digest
  /-- The plan's member. -/
  memberDigest : Digest
  /-- The named group of alternatives, if any. -/
  alternativeGroup : Option String
  /-- Whether the holder materialises without review. -/
  materializeAutomatically : Bool
  /-- The token of the acquisition. -/
  fencingToken : Nat
  /-- When it was acquired. -/
  acquiredAt : Timestamp
deriving DecidableEq

/-- A row of `target_path_leases`. -/
structure TargetLeaseRow extends TargetLeaseIdentity where
  /-- Its state. -/
  state : TargetLeaseState
  /-- When it expires. -/
  expiresAt : Timestamp
  /-- When it was released. -/
  releasedAt : Option Timestamp
  /-- The evidence of its reconciliation. -/
  reconciliationEvidenceDigest : Option Digest
deriving DecidableEq

/-- The unique columns of a lease besides its key. -/
def TargetLeaseIdentity.claimant (lease : TargetLeaseIdentity) :
    Digest × Digest × Digest × Digest :=
  (lease.repositoryId, lease.targetKey, lease.planDigest, lease.memberDigest)

/-- The target a lease is of. -/
def TargetLeaseIdentity.target (lease : TargetLeaseIdentity) : Digest × Digest :=
  (lease.repositoryId, lease.targetKey)

/-- The tables the store uses; other stores draw tokens from the same counter. -/
structure TargetLeaseDb where
  /-- `fencing_counter`. -/
  fencingCounter : Nat
  /-- `target_path_leases`. -/
  leases : Table (fun row : TargetLeaseRow => row.leaseId)

/-- A repository: its identity, and how a path is normalised to a target key. Normalisation
resolves the path in the file system and refuses what leaves the root. -/
structure RepositoryIdentity where
  /-- `repository_id`. -/
  repositoryId : Digest
  /-- `normalize_target`. -/
  normalizeTarget : String → Except MacrError Digest

/-- `_IDENTIFIER`. -/
def isIdentifier (text : String) : Bool :=
  match text.toList with
  | [] => false
  | first :: rest => first.isAlphanum && rest.length ≤ 127 &&
      rest.all (fun c => c.isAlphanum || c ∈ ['.', '_', ':', '-'])

namespace TargetLeaseDb

/-- A new database. -/
def initial : TargetLeaseDb := ⟨0, Table.empty⟩

/-- `TargetLeaseStore.read`. -/
def read (db : TargetLeaseDb) (leaseId : Digest) : Except MacrError TargetLeaseRow :=
  require (db.leases.find? leaseId) (.dispatchLease "target lease does not exist")

/-- The end of an operation that reads the lease back after its commit. -/
def commitRead (db : TargetLeaseDb) (leaseId : Digest) :
    Except MacrError (Committed TargetLeaseDb TargetLeaseRow) := .ok (db, db.read leaseId)

/-- `UPDATE target_path_leases SET ...` on the rows that meet a condition. -/
def updateLeases (db : TargetLeaseDb) (condition : TargetLeaseRow → Bool)
    (assign : TargetLeaseRow → TargetLeaseRow)
    (keeps : ∀ row, (assign row).leaseId = row.leaseId) : TargetLeaseDb :=
  { db with leases := db.leases.update condition assign keeps }

/-- `SET state = 'reconciliation_required'`. -/
def expireLeases (db : TargetLeaseDb) (condition : TargetLeaseRow → Bool) : TargetLeaseDb :=
  db.updateLeases condition (fun row => { row with state := .reconciliationRequired })
    (fun _ => rfl)

/-- The identifier of a claimant's lease. -/
def leaseIdOf (sha : Sha256) (repositoryId targetKey plan member : Digest) : Digest :=
  sha.sha256Id "target_path_lease_v1" (.obj
    [("repository_id", .hex repositoryId), ("target_key", .hex targetKey),
      ("plan_digest", .hex plan), ("member_digest", .hex member)])

/-- The leases that hold a target. -/
def holders (db : TargetLeaseDb) (target : Digest × Digest) : List TargetLeaseRow :=
  db.leases.rows.filter (fun row => row.target = target ∧ row.state.held)

/-- The refusals of a target that other leases hold, none of them expired. -/
def requireAlternative (active : List TargetLeaseRow) (plan : Digest)
    (alternativeGroup : Option String) (materializeAutomatically : Bool) :
    Except MacrError Unit := do
  raiseIf (∃ row ∈ active, row.state = .reconciliationRequired)
    (.dispatchLease "target ownership requires reconciliation")
  raiseIf (∃ row ∈ active, row.planDigest ≠ plan)
    (.dispatchLease "target ownership belongs to another plan")
  raiseIf (alternativeGroup = none ∨ ∃ row ∈ active, row.alternativeGroup ≠ alternativeGroup)
    (.dispatchLease "target is held without one named alternative group")
  raiseIf (1 < active.countP (·.materializeAutomatically) +
      (if materializeAutomatically then 1 else 0))
    (.dispatchLease "competing target alternatives cannot both be automatic")

/-- The insertion of a lease under the next token. -/
def insertLease (db : TargetLeaseDb) (lease : TargetLeaseRow) :
    Except MacrError (Committed TargetLeaseDb TargetLeaseRow) := do
  raiseIf (∃ row ∈ db.leases.rows, row.claimant = lease.claimant) .integrity
  let leases ← require (db.leases.insert? lease) .integrity
  commitRead { fencingCounter := db.fencingCounter + 1, leases := leases } lease.leaseId

/-- `TargetLeaseStore.acquire`. -/
def acquire (sha : Sha256) (repository : RepositoryIdentity) (db : TargetLeaseDb)
    (plan member : Digest) (targetPath : String) (alternativeGroup : Option String)
    (materializeAutomatically : Bool) (ttlSeconds : Nat) (now : Timestamp) :
    Except MacrError (Committed TargetLeaseDb TargetLeaseRow) := do
  let targetKey ← repository.normalizeTarget targetPath
  raiseIf (alternativeGroup.any (fun group => !isIdentifier group))
    (.valueError "alternative_group must be a bounded identifier")
  raiseIf (¬(1 ≤ ttlSeconds ∧ ttlSeconds ≤ 86400))
    (.valueError "ttl_seconds must be between 1 and 86400")
  let leaseId := leaseIdOf sha repository.repositoryId targetKey plan member
  match db.leases.find? leaseId with
  | some exact =>
    match exact.state with
    | .active =>
      if exact.expiresAt ≤ now then
        commitRaise (db.expireLeases (fun row => row.leaseId = leaseId))
          (.dispatchLease "expired target lease requires reconciliation")
      else if exact.alternativeGroup = alternativeGroup ∧
          exact.materializeAutomatically = materializeAutomatically then
        commit db exact
      else
        .error (.dispatchLease "target lease parameters conflict with active ownership")
    | .reconciliationRequired =>
      .error (.dispatchLease "target lease requires reconciliation before reuse")
    | .released =>
      .error (.dispatchLease "released target lease cannot be reused in the same plan")
  | none =>
    let active := db.holders (repository.repositoryId, targetKey)
    let expired := active.filter (fun row => row.state = .active ∧ row.expiresAt ≤ now)
    if ¬expired.isEmpty then
      commitRaise (db.expireLeases (fun row => row.leaseId ∈ expired.map (·.leaseId)))
        (.dispatchLease "expired target ownership requires reconciliation")
    else do
      if ¬active.isEmpty then
        requireAlternative active plan alternativeGroup materializeAutomatically
      db.insertLease
        { leaseId := leaseId
          repositoryId := repository.repositoryId
          targetKey := targetKey
          planDigest := plan
          memberDigest := member
          alternativeGroup := alternativeGroup
          materializeAutomatically := materializeAutomatically
          fencingToken := db.fencingCounter + 1
          acquiredAt := now
          state := .active
          expiresAt := now.addSeconds ttlSeconds
          releasedAt := none
          reconciliationEvidenceDigest := none }

/-- `TargetLeaseStore._assert_holder`, with the row it has checked. -/
def assertHolder (row : Option TargetLeaseRow) (member : Digest) (fencingToken : Nat) :
    Except MacrError TargetLeaseRow := do
  raiseIf (fencingToken < 1) (.valueError "fencing_token must be positive integer")
  let row ← require row (.dispatchLease "target lease does not exist")
  raiseIf (row.state ≠ .active) (.dispatchLease "target lease is not active")
  raiseIf (row.memberDigest ≠ member ∨ row.fencingToken ≠ fencingToken)
    (.dispatchLease "target lease holder or fencing token is invalid")
  pure row

/-- `TargetLeaseStore.renew`. -/
def renew (db : TargetLeaseDb) (leaseId member : Digest) (fencingToken ttlSeconds : Nat)
    (now : Timestamp) : Except MacrError (Committed TargetLeaseDb TargetLeaseRow) := do
  raiseIf (¬(1 ≤ ttlSeconds ∧ ttlSeconds ≤ 86400))
    (.valueError "ttl_seconds must be between 1 and 86400")
  let row ← assertHolder (db.leases.find? leaseId) member fencingToken
  if row.expiresAt ≤ now then
    commitRaise (db.expireLeases (fun other => other.leaseId = leaseId)) (.dispatchLease
      "expired target lease requires reconciliation and cannot renew")
  else
    commitRead (db.updateLeases (fun other => other.leaseId = leaseId)
      (fun other => { other with expiresAt := now.addSeconds ttlSeconds }) (fun _ => rfl)) leaseId

/-- `TargetLeaseStore.release`. -/
def release (db : TargetLeaseDb) (leaseId member : Digest) (fencingToken : Nat)
    (now : Timestamp) : Except MacrError (Committed TargetLeaseDb TargetLeaseRow) := do
  let row ← assertHolder (db.leases.find? leaseId) member fencingToken
  if row.expiresAt ≤ now then
    commitRaise (db.expireLeases (fun other => other.leaseId = leaseId))
      (.dispatchLease "expired target lease requires reconciliation")
  else
    commitRead (db.updateLeases (fun other => other.leaseId = leaseId)
      (fun other => { other with state := .released, releasedAt := some now }) (fun _ => rfl))
      leaseId

/-- `TargetLeaseStore.reconcile_release`. -/
def reconcileRelease (db : TargetLeaseDb) (leaseId evidence : Digest) (now : Timestamp) :
    Except MacrError (Committed TargetLeaseDb TargetLeaseRow) := do
  let _ ← require ((db.leases.find? leaseId).filter (fun row => row.state = .reconciliationRequired))
    (.dispatchLease "target lease is not awaiting reconciliation")
  commitRead (db.updateLeases (fun other => other.leaseId = leaseId)
    (fun other => { other with
      state := .released
      releasedAt := some now
      reconciliationEvidenceDigest := some evidence }) (fun _ => rfl)) leaseId

end TargetLeaseDb

end Macr
