import Macr.Queue.Contracts
import Mathlib.Data.List.Sort
import Mathlib.Algebra.Ring.Rat

/-!
# The plan queue

`PlanQueue` works in short write transactions of the runtime database. An operation of more than
one transaction is given as its transactions, since another operation may run between them: a
claim first marks the expired claims and then selects; a reconciliation reads the member, revokes
the batch authority and then writes. Each transaction reads the clock where the source does.
-/

namespace Macr

open Lib

/-- The tables the queue uses; other stores draw tokens from the same counter. The table of target
claims is written once and never read. -/
structure QueueDb where
  /-- `fencing_counter`. -/
  fencingCounter : Nat
  /-- `batch_authorities`. -/
  authorities : BatchAuthorities
  /-- `plan_queue_batches`. -/
  batches : Table (fun row : PlanQueueBatchRow => row.planDigest)
  /-- `plan_queue_members`. -/
  members : Table (fun row : QueueMemberRow => row.memberId)

namespace QueueDb

/-- A new database. -/
def initial : QueueDb := ⟨0, .empty, .empty, .empty⟩

/-- The row of a member. -/
def member? (db : QueueDb) (memberId : Digest) : Option QueueMemberRow := db.members.find? memberId

/-- `UPDATE plan_queue_members SET ...` on the rows that meet a condition. -/
def updateMembers (db : QueueDb) (condition : QueueMemberRow → Bool)
    (assign : QueueMemberRow → QueueMemberProgress) : QueueDb :=
  { db with
    members := db.members.update condition (fun row => row.write (assign row)) (fun _ => rfl) }

/-- `UPDATE plan_queue_members SET ... WHERE member_id = ?`. -/
def updateMember (db : QueueDb) (memberId : Digest)
    (assign : QueueMemberRow → QueueMemberProgress) : QueueDb :=
  db.updateMembers (fun row => row.memberId = memberId) assign

/-- `PlanQueue.read_member`. -/
def readMember (db : QueueDb) (memberId : Digest) : Except MacrError QueueMemberRow :=
  require (db.member? memberId) (.dispatchLease "queue member does not exist")

/-- The members of a plan in order. -/
def listMembers (db : QueueDb) (planDigest : Digest) : List QueueMemberRow :=
  (db.members.rows.filter (fun row => row.planDigest = planDigest)).insertionSort
    (fun left right => left.ordinal ≤ right.ordinal)

/-! ## Queueing a plan -/

/-- The refusals of one target that several members claim. -/
def validateTarget (claims : List TargetClaim) (targetKey : Digest) : Except MacrError Unit := do
  let targetClaims := claims.filter (fun claim => claim.targetKey = targetKey)
  if 2 ≤ targetClaims.length then
    let groups : List (Option String) := (targetClaims.map (·.alternativeGroup)).dedup
    raiseIf (none ∈ groups ∨ groups.length ≠ 1)
      (.dispatchLease "target collision requires one named competing alternative group")
    raiseIf (1 < targetClaims.countP (·.materializeAutomatically))
      (.dispatchLease "competing alternatives cannot both use automatic materialization")

/-- `PlanQueue._validate_collisions`. -/
def validateCollisions (members : List QueueMember) : Except MacrError Unit :=
  let claims := members.flatMap (·.targetClaims)
  (claims.map (·.targetKey)).eraseDups.forM (validateTarget claims)

/-- `PlanQueue._members_digest`. -/
def membersDigest (sha : Sha256) (members : List QueueMember) : Digest :=
  sha.sha256Id "plan_queue_members_v1" (.arr (members.map QueueMember.toDict))

/-- The identifier of a member of a plan. -/
def memberIdOf (sha : Sha256) (planDigest : Digest) (ordinal : Nat) (memberDigest : Digest) :
    Digest :=
  sha.sha256Id "plan_queue_member_v1" (.obj
    [("plan_digest", .hex planDigest), ("ordinal", .int ordinal),
      ("member_digest", .hex memberDigest)])

/-- The checks of `PlanQueue.enqueue` before its transaction, with the authority's scope. -/
def enqueueScope (sha : Sha256) (db : QueueDb) (plan : T1QueuePlan) (now : Timestamp) :
    Except MacrError BatchScope := do
  let scope ← BatchAuthorities.scope sha db.authorities plan.authority none now
  raiseIf (scope.planDigest ≠ plan.planDigest)
    (.dispatchAuthorization "batch authorization plan digest mismatch")
  raiseIf (scope.orderedMembers ≠ plan.members.map (·.authorityScope))
    (.dispatchAuthorization "batch authorization member scope mismatch")
  raiseIf (scope.aggregateCostCeilingUsd ≠ plan.aggregateCostCeilingUsd)
    (.dispatchAuthorization "batch authorization aggregate cost mismatch")
  validateCollisions plan.members
  pure scope

/-- The batch row of a plan. -/
def batchRow (sha : Sha256) (plan : T1QueuePlan) (scope : BatchScope) (now : Timestamp) :
    PlanQueueBatchRow where
  planDigest := plan.planDigest
  authorityId := plan.authority.authorityId
  authorityDigest := plan.authority.digest
  authorityRevision := plan.authority.revision
  aggregateCostCeilingUsd := plan.aggregateCostCeilingUsd
  authorizedDispatchers := scope.authorizedDispatchers
  expiresAt := scope.expiresAt
  membersSha256 := membersDigest sha plan.members
  enqueuedAt := now
  projectBindingDigest := plan.projectBindingDigest
  admissionLane := plan.admissionLane
  providerAdmissionPolicyDigest := plan.providerAdmissionPolicyDigest

/-- The row of a member of a plan. -/
def memberRow (sha : Sha256) (plan : T1QueuePlan) (ordinal : Nat) (member : QueueMember) :
    QueueMemberRow where
  memberId := memberIdOf sha plan.planDigest ordinal member.authorityScope.memberDigest
  planDigest := plan.planDigest
  ordinal := ordinal
  scope := member.authorityScope
  providerTierBindingDigest := member.providerTierBindingDigest
  toQueueMemberProgress := .waiting

/-- `INSERT INTO plan_queue_members`. -/
def insertMember (db : QueueDb) (row : QueueMemberRow) : Except MacrError QueueDb := do
  raiseIf (∃ other ∈ db.members.rows, other.planDigest = row.planDigest ∧
      (other.ordinal = row.ordinal ∨ other.scope.memberDigest = row.scope.memberDigest)) .integrity
  let members ← require (db.members.insert? row) .integrity
  pure { db with members := members }

/-- The transaction of `PlanQueue.enqueue`. -/
def enqueue (sha : Sha256) (db : QueueDb) (plan : T1QueuePlan) (scope : BatchScope)
    (now : Timestamp) : Except MacrError (Committed QueueDb (List Digest)) := do
  let batch := batchRow sha plan scope now
  match db.batches.find? plan.planDigest with
  | some existing =>
    raiseIf ({ existing with enqueuedAt := now } ≠ batch)
      (.dispatchLease "queued plan digest conflicts with existing batch")
    commit db ((db.listMembers plan.planDigest).map (·.memberId))
  | none =>
    raiseIf (db.authorities.find? batch.authorityId = none) .integrity
    let batches ← require (db.batches.insert? batch) .integrity
    let rows := plan.members.mapIdx (memberRow sha plan)
    let db ← rows.foldlM insertMember { db with batches := batches }
    commit db (rows.map (·.memberId))

/-! ## Claiming a member -/

/-- `_ttl`. -/
def checkTtl (leaseSeconds : Int) : Except MacrError Nat := do
  raiseIf (¬(1 ≤ leaseSeconds ∧ leaseSeconds ≤ 86400))
    (.valueError "lease_seconds must be between 1 and 86400")
  pure leaseSeconds.toNat

/-- `_identifier` of a dispatcher. -/
def checkDispatcher (dispatcherId : String) : Except MacrError String := do
  raiseIf (¬isIdentifier dispatcherId) (.valueError "dispatcher_id must be a bounded identifier")
  pure dispatcherId

/-- A claim whose lease has run out. -/
def expired (now : Timestamp) (row : QueueMemberRow) : Bool :=
  row.state = .claimed && row.leaseExpiresAt.any (· ≤ now)

/-- `PlanQueue._mark_expired_claims`. -/
def markExpiredClaims (db : QueueDb) (now : Timestamp) : QueueDb :=
  db.updateMembers (expired now) (fun row =>
    { row.toQueueMemberProgress with state := .reconciliationRequired, terminalAt := some now })

/-- The queued members in claim order, each with its batch. -/
def queuedRows (db : QueueDb) (planDigest : Option Digest) :
    List (QueueMemberRow × PlanQueueBatchRow) :=
  ((db.members.rows.filter (fun row => row.state = .queued ∧
      planDigest.all (· = row.planDigest))).insertionSort (fun left right =>
        left.planDigest < right.planDigest ∨
          left.planDigest = right.planDigest ∧ left.ordinal ≤ right.ordinal)).filterMap
    (fun row => (db.batches.find? row.planDigest).map (fun batch => (row, batch)))

/-- `PlanQueue._reference_from_row`. -/
def referenceFromRow (batch : PlanQueueBatchRow) : BatchAuthorityReference :=
  ⟨batch.authorityId, batch.authorityDigest, batch.authorityRevision, batch.planDigest⟩

/-- The first member in claim order whose authority permits the dispatcher. The authority store
reads the clock at each row; a row that is not authorised is passed over, and its error is raised
when no row is left. -/
def selectRow (sha : Sha256) (db : QueueDb) (dispatcherId : String) (clock : Nat → Timestamp) :
    MacrError → Nat → List (QueueMemberRow × PlanQueueBatchRow) →
      Except MacrError (QueueMemberRow × PlanQueueBatchRow)
  | last, _, [] => .error last
  | _, reading, (row, batch) :: rest =>
    match BatchAuthorities.scope sha db.authorities (referenceFromRow batch) (some dispatcherId)
        (clock reading) with
    | .error (.dispatchAuthorization message) =>
      selectRow sha db dispatcherId clock (.dispatchAuthorization message) (reading + 1) rest
    | .error error => .error error
    | .ok scope => do
      raiseIf (scope.aggregateCostCeilingUsd ≠ batch.aggregateCostCeilingUsd)
        (.dispatchAuthorization "batch authorization aggregate cost mismatch")
      raiseIf (scope.orderedMembers[row.ordinal]? ≠ some row.scope)
        (.dispatchAuthorization "batch authorization member scope mismatch")
      pure (row, batch)

/-- The amount the members of a plan count against its ceiling. -/
def reservedOf (db : QueueDb) (planDigest : Digest) : ℚ :=
  ((db.members.rows.filter (fun row => row.planDigest = planDigest)).map
    QueueMemberRow.reserved).sum

/-- The columns of a member under a new claim. -/
def claimedColumns (row : QueueMemberRow) (dispatcherId : String) (token : Nat)
    (expiresAt : Timestamp) : QueueMemberProgress :=
  { row.toQueueMemberProgress with
    state := .claimed
    leaseHolder := some dispatcherId
    fencingToken := some token
    leaseExpiresAt := some expiresAt
    attempts := 1 }

/-- The update of `PlanQueue.claim` on the selected member. -/
def claimRow (db : QueueDb) (row : QueueMemberRow) (dispatcherId : String)
    (expiresAt : Timestamp) : Except MacrError (Committed QueueDb (Option QueueClaim)) := do
  let token := db.fencingCounter + 1
  raiseIf (db.members.rows.countP (fun other => other.memberId = row.memberId ∧
      other.state = .queued ∧ other.attempts = 0) ≠ 1)
    (.dispatchLease "queue member claim lost atomic admission")
  commit { db.updateMember row.memberId (claimedColumns · dispatcherId token expiresAt) with
      fencingCounter := token }
    (some ⟨row.toQueueMemberIdentity, dispatcherId, token, expiresAt, 1⟩)

/-- The second transaction of `PlanQueue.claim`; the first is `markExpiredClaims` at the same
reading of the clock. -/
def claim (sha : Sha256) (db : QueueDb) (dispatcherId : String) (leaseSeconds : Int)
    (planDigest expectedMemberId : Option Digest) (now : Timestamp) (clock : Nat → Timestamp) :
    Except MacrError (Committed QueueDb (Option QueueClaim)) := do
  let dispatcher ← checkDispatcher dispatcherId
  let ttl ← checkTtl leaseSeconds
  let rows := db.queuedRows planDigest
  if rows.isEmpty then
    commit db none
  else
    let (row, batch) ← selectRow sha db dispatcher clock .assertionError 0 rows
    if expectedMemberId.any (· ≠ row.memberId) then
      commit db none
    else
      raiseIf (db.reservedOf row.planDigest + row.scope.costCeilingUsd >
          batch.aggregateCostCeilingUsd + costTolerance)
        (.dispatchLease "batch aggregate cost ceiling would be exceeded")
      db.claimRow row dispatcher (now.addSeconds ttl)

/-! ## Working under a claim -/

/-- The stored row of a claim's member, which must be claimed under the key. -/
def claimedRow (db : QueueDb) (key : ClaimKey) (notClaimed : String) :
    Except MacrError QueueMemberRow := do
  raiseIf (key.fencingToken < 1) (.valueError "fencing_token must be positive integer")
  let row ← db.readMember key.memberId
  raiseIf (row.state ≠ .claimed) (.dispatchLease notClaimed)
  raiseIf (row.leaseHolder ≠ some key.dispatcherId ∨ row.fencingToken ≠ some key.fencingToken)
    (.dispatchLease "queue lease holder or fencing token is invalid")
  pure row

/-- `_aware` of the expiry of a claimed row. -/
def leaseExpiry (row : QueueMemberRow) : Except MacrError Timestamp :=
  require row.leaseExpiresAt (.valueError "queue timestamp must be ISO 8601")

/-- `SET state = 'reconciliation_required', terminal_at = ?` on one member. -/
def expireMember (db : QueueDb) (memberId : Digest) (now : Timestamp) : QueueDb :=
  db.updateMember memberId (fun row =>
    { row.toQueueMemberProgress with state := .reconciliationRequired, terminalAt := some now })

/-- `PlanQueue.renew`. -/
def renew (db : QueueDb) (key : ClaimKey) (leaseSeconds : Int) (now : Timestamp) :
    Except MacrError (Committed QueueDb QueueClaim) := do
  let dispatcher ← checkDispatcher key.dispatcherId
  let ttl ← checkTtl leaseSeconds
  let row ← db.claimedRow key "queue member is terminal or not claimed"
  let expiresAt ← leaseExpiry row
  if expiresAt ≤ now then
    commitRaise (db.expireMember key.memberId now)
      (.dispatchLease "expired queue lease requires reconciliation and cannot renew")
  else
    commit (db.updateMember key.memberId (fun row =>
        { row.toQueueMemberProgress with leaseExpiresAt := some (now.addSeconds ttl) }))
      ⟨row.toQueueMemberIdentity, dispatcher, key.fencingToken, now.addSeconds ttl, row.attempts⟩

/-- The transaction of `PlanQueue.release_before_dispatch`. -/
def releaseBeforeDispatch (db : QueueDb) (key : ClaimKey) (now : Timestamp) :
    Except MacrError (Committed QueueDb Unit) := do
  let _ ← checkDispatcher key.dispatcherId
  let row ← db.claimedRow key "queue member is not claimed"
  let expiresAt ← leaseExpiry row
  if expiresAt ≤ now then
    commitRaise (db.expireMember key.memberId now)
      (.dispatchLease "expired queue lease requires reconciliation")
  else
    commit (db.updateMember key.memberId (fun row =>
      { row.toQueueMemberProgress with
        state := .queued
        leaseHolder := none
        fencingToken := none
        leaseExpiresAt := none
        attempts := 0 })) ()

/-- The columns of a member whose attempt has ended. -/
def endedColumns (row : QueueMemberRow) (state : QueueMemberState) (evidence : Digest)
    (cost : Option ℚ) (now : Timestamp) : QueueMemberProgress :=
  { row.toQueueMemberProgress with
    state := state
    terminalAt := some now
    terminalEvidenceDigest := some evidence
    observedCostUsd := cost }

/-- `_cost` of an amount that may be missing. -/
def checkOptionalCost : Option CostArgument → Except MacrError (Option ℚ)
  | none => .ok none
  | some argument => (checkCost "observed_cost_usd" argument).map some

/-- The transaction of `PlanQueue._terminal`. A missing amount is compared with the ceiling like
any other. -/
def terminal (db : QueueDb) (state : QueueMemberState) (key : ClaimKey) (evidence : Digest)
    (observedCost : Option CostArgument) (now : Timestamp) :
    Except MacrError (Committed QueueDb Unit) := do
  raiseIf (¬state.terminal) (.valueError "terminal state is invalid")
  let _ ← checkDispatcher key.dispatcherId
  let cost ← checkOptionalCost observedCost
  let row ← db.claimedRow key "queue member is terminal or not claimed"
  let expiresAt ← leaseExpiry row
  if expiresAt ≤ now then
    commitRaise
      (db.updateMember key.memberId (endedColumns · .reconciliationRequired evidence cost now))
      (.dispatchLease "expired queue lease requires reconciliation")
  else
    let amount ← require cost
      (.typeError "'>' not supported between instances of 'NoneType' and 'float'")
    if amount > row.scope.costCeilingUsd + costTolerance then
      commitRaise
        (db.updateMember key.memberId (endedColumns · .reconciliationRequired evidence cost now))
        (.dispatchAuthorization "observed cost exceeds member hard ceiling")
    else
      commit (db.updateMember key.memberId (endedColumns · state evidence cost now)) ()

/-- The transaction of `PlanQueue.complete`. -/
def complete (db : QueueDb) (key : ClaimKey) (evidence : Digest)
    (observedCost : Option CostArgument) (now : Timestamp) :
    Except MacrError (Committed QueueDb Unit) :=
  db.terminal .completed key evidence observedCost now

/-- The transaction of `PlanQueue.fail`. -/
def fail (db : QueueDb) (key : ClaimKey) (evidence : Digest) (observedCost : Option CostArgument)
    (now : Timestamp) : Except MacrError (Committed QueueDb Unit) :=
  db.terminal .failed key evidence observedCost now

/-- The transaction of `PlanQueue.require_reconciliation`. -/
def requireReconciliation (db : QueueDb) (key : ClaimKey) (evidence : Digest)
    (observedCost : Option CostArgument) (now : Timestamp) :
    Except MacrError (Committed QueueDb Unit) := do
  let _ ← checkDispatcher key.dispatcherId
  let cost ← checkOptionalCost observedCost
  let row ← db.claimedRow key "queue member is terminal or not claimed"
  let expiresAt ← leaseExpiry row
  let after := db.updateMember key.memberId (endedColumns · .reconciliationRequired evidence cost now)
  if expiresAt ≤ now then
    commitRaise after
      (.dispatchLease "expired queue lease requires reconciliation but was not active")
  else
    commit after ()

/-! ## Resolving a reconciliation -/

/-- The first transaction of `PlanQueue.resolve_reconciliation`: its refusals, and the reference
of the batch authority to be revoked. -/
def resolutionTarget (db : QueueDb) (memberId : Digest) (terminalState : QueueMemberState)
    (observedCost : CostArgument) : Except MacrError BatchAuthorityReference := do
  raiseIf (¬terminalState.terminal) (.valueError "reconciliation terminal_state is invalid")
  let cost ← checkCost "observed_cost_usd" observedCost
  let row ← db.readMember memberId
  let batch ← require (db.batches.find? row.planDigest)
    (.dispatchLease "queue member does not exist")
  raiseIf (row.state ≠ .reconciliationRequired)
    (.dispatchLease "queue member does not require reconciliation")
  raiseIf (terminalState = .completed ∧ cost > row.scope.costCeilingUsd + costTolerance)
    (.dispatchAuthorization "over-ceiling reconciliation cannot complete successfully")
  pure (referenceFromRow batch)

/-- The last transaction of `PlanQueue.resolve_reconciliation`; between the two the batch
authority is revoked. -/
def resolveMember (db : QueueDb) (memberId : Digest) (terminalState : QueueMemberState)
    (evidence : Digest) (observedCost : CostArgument) (now : Timestamp) :
    Except MacrError (Committed QueueDb Unit) := do
  raiseIf (¬terminalState.terminal) (.valueError "reconciliation terminal_state is invalid")
  let cost ← checkCost "observed_cost_usd" observedCost
  raiseIf (db.members.rows.countP (fun row => row.memberId = memberId ∧
      row.state = .reconciliationRequired) ≠ 1)
    (.dispatchLease "queue reconciliation lost atomic resolution")
  commit (db.updateMember memberId (endedColumns · terminalState evidence (some cost) now)) ()

end QueueDb

/-! ## The queue as a machine -/

/-- The transactions that write, with what their caller supplies. -/
inductive QueueCall where
  /-- `BatchAuthorityStore.issue`. -/
  | issueAuthority (scope : BatchScope) (authorityId : Uuid)
  /-- `BatchAuthorityStore.revoke`, also within `resolve_reconciliation`. -/
  | revokeAuthority (reference : BatchAuthorityReference)
  /-- `enqueue`, with the scope its checks have read. -/
  | enqueue (plan : T1QueuePlan) (scope : BatchScope)
  /-- The expiry that `claim`, `peek_claimable`, `state_counts` and `list_by_state` begin with. -/
  | markExpiredClaims
  /-- `claim` after its expiry. -/
  | claim (dispatcherId : String) (leaseSeconds : Int)
      (planDigest expectedMemberId : Option Digest) (clock : Nat → Timestamp)
  /-- `renew`. -/
  | renew (key : ClaimKey) (leaseSeconds : Int)
  /-- `release_before_dispatch`. -/
  | releaseBeforeDispatch (key : ClaimKey)
  /-- `complete`. -/
  | complete (key : ClaimKey) (evidence : Digest) (observedCost : Option CostArgument)
  /-- `fail`. -/
  | fail (key : ClaimKey) (evidence : Digest) (observedCost : Option CostArgument)
  /-- `require_reconciliation`. -/
  | requireReconciliation (key : ClaimKey) (evidence : Digest)
      (observedCost : Option CostArgument)
  /-- The write of `resolve_reconciliation`. -/
  | resolveMember (memberId : Digest) (terminalState : QueueMemberState) (evidence : Digest)
      (observedCost : CostArgument)
  /-- Another store draws a token. -/
  | drawToken

/-- A transaction at a time, which may fail before its commit. -/
structure QueueAction where
  /-- The clock. -/
  now : Timestamp
  /-- Something fails inside the transaction. -/
  interrupted : Bool
  /-- The transaction. -/
  call : QueueCall

namespace QueueDb

/-- A transaction whose caller learns nothing that matters here. -/
def quiet {α : Type} (result : Except MacrError (Committed QueueDb α)) :
    Except MacrError (Committed QueueDb (Option QueueClaim)) :=
  result.map (fun committed => (committed.1, committed.2.map (fun _ => none)))

/-- A transaction on the authorities alone. -/
def onAuthorities {α : Type} (db : QueueDb)
    (result : Except MacrError (Committed BatchAuthorities α)) :
    Except MacrError (Committed QueueDb α) :=
  result.map (fun committed => ({ db with authorities := committed.1 }, committed.2))

/-- One transaction, with the claim it hands out. -/
def perform (sha : Sha256) (db : QueueDb) (now : Timestamp) :
    QueueCall → Except MacrError (Committed QueueDb (Option QueueClaim))
  | .issueAuthority scope authorityId =>
    quiet (db.onAuthorities (BatchAuthorities.issue sha db.authorities scope now authorityId))
  | .revokeAuthority reference =>
    quiet (db.onAuthorities (BatchAuthorities.revoke db.authorities reference now))
  | .enqueue plan scope => quiet (db.enqueue sha plan scope now)
  | .markExpiredClaims => commit (db.markExpiredClaims now) none
  | .claim dispatcherId leaseSeconds planDigest expectedMemberId clock =>
    db.claim sha dispatcherId leaseSeconds planDigest expectedMemberId now clock
  | .renew key leaseSeconds => quiet (db.renew key leaseSeconds now)
  | .releaseBeforeDispatch key => quiet (db.releaseBeforeDispatch key now)
  | .complete key evidence observedCost => quiet (db.complete key evidence observedCost now)
  | .fail key evidence observedCost => quiet (db.fail key evidence observedCost now)
  | .requireReconciliation key evidence observedCost =>
    quiet (db.requireReconciliation key evidence observedCost now)
  | .resolveMember memberId terminalState evidence observedCost =>
    quiet (db.resolveMember memberId terminalState evidence observedCost now)
  | .drawToken => commit { db with fencingCounter := db.fencingCounter + 1 } none

/-- The state after a transaction and what its caller gets. An error before the commit, and a
failure inside the transaction, roll back. -/
def execute (sha : Sha256) (db : QueueDb) (action : QueueAction) :
    Committed QueueDb (Option QueueClaim) :=
  if action.interrupted then (db, .error (.other "OperationalError"))
  else settle db (db.perform sha action.now action.call)

/-- The plan queue as a machine. -/
def machine (sha : Sha256) : Machine QueueDb QueueAction :=
  ⟨fun db action => (db.execute sha action).1⟩

end QueueDb

end Macr
