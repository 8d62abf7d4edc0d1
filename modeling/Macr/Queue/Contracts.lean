import Macr.Authority
import Macr.Queue.BatchAuthority

/-!
# Queue contracts

A plan is queued as an ordered batch of members under one batch authority. A member is claimed by
one dispatcher at a time under a fencing token and a lease; its claim ends in a terminal state, in
a reconciliation, or in a release before any dispatch. Amounts are exact rationals.
-/

namespace Macr

open Lib

/-- `QueueMemberState`. -/
inductive QueueMemberState where
  | queued
  | claimed
  | completed
  | failed
  | reconciliationRequired
deriving DecidableEq, Repr

/-- The states a member ends in. -/
def QueueMemberState.terminal : QueueMemberState → Bool
  | .completed | .failed => true
  | .queued | .claimed | .reconciliationRequired => false

/-- A floating-point argument. -/
inductive CostArgument where
  /-- A finite number. -/
  | finite (value : ℚ)
  /-- An infinity or not a number. -/
  | nonFinite
deriving DecidableEq

/-- `_cost`. -/
def checkCost (name : String) : CostArgument → Except MacrError ℚ
  | .finite value => do
    raiseIf (value < 0) (.valueError s!"{name} must be finite non-negative")
    pure value
  | .nonFinite => .error (.valueError s!"{name} must be finite non-negative")

/-- The slack every comparison of amounts allows. -/
def costTolerance : ℚ := 1 / 1000000000000

/-- `TargetClaim`. -/
structure TargetClaim where
  /-- The target. -/
  targetKey : Digest
  /-- The named group of alternatives, if any. -/
  alternativeGroup : Option String
  /-- Whether the member materialises without review. -/
  materializeAutomatically : Bool
  /-- A group is a bounded identifier. -/
  group_valid : ∀ group ∈ alternativeGroup, isIdentifier group
deriving DecidableEq

/-- `TargetClaim.to_dict`. -/
def TargetClaim.toDict (claim : TargetClaim) : Json :=
  .obj [("target_key", .hex claim.targetKey),
    ("alternative_group", .optStr claim.alternativeGroup),
    ("materialize_automatically", .bool claim.materializeAutomatically)]

/-- `QueueMember`; its authority scope is its first seven fields. -/
structure QueueMember where
  /-- `authority_scope`. -/
  authorityScope : BatchMemberScope
  /-- The provider tier binding, where one applies. -/
  providerTierBindingDigest : Option Digest
  /-- The targets the member works on. -/
  targetClaims : List TargetClaim
  /-- No target occurs twice. -/
  targets_distinct : (targetClaims.map (·.targetKey)).Nodup
deriving DecidableEq

/-- `QueueMember.to_dict`. -/
def QueueMember.toDict (member : QueueMember) : Json :=
  .obj (member.authorityScope.toDict ++
    [("provider_tier_binding_digest", .optHex member.providerTierBindingDigest),
      ("target_claims", .arr (member.targetClaims.map TargetClaim.toDict))])

/-- `T1QueuePlan`. -/
structure T1QueuePlan where
  /-- The plan. -/
  planDigest : Digest
  /-- Its members in order. -/
  members : List QueueMember
  /-- What the batch may cost. -/
  aggregateCostCeilingUsd : ℚ
  /-- The batch authority. -/
  authority : BatchAuthorityReference
  /-- The project binding, where admission applies. -/
  projectBindingDigest : Option Digest
  /-- The admission lane, where admission applies. -/
  admissionLane : Option AdmissionLane
  /-- The admission policy, where admission applies. -/
  providerAdmissionPolicyDigest : Option Digest
  /-- There is a member. -/
  members_required : members ≠ []
  /-- No member occurs twice. -/
  members_distinct : (members.map (·.authorityScope.memberDigest)).Nodup
  /-- A ceiling is not negative. -/
  aggregate_nonneg : 0 ≤ aggregateCostCeilingUsd
  /-- The authority is of the plan. -/
  authority_matches : authority.planDigest = planDigest

/-- A row of `plan_queue_batches`. -/
structure PlanQueueBatchRow where
  /-- Primary key. -/
  planDigest : Digest
  /-- The batch authority's identifier. -/
  authorityId : Uuid
  /-- Its digest. -/
  authorityDigest : Digest
  /-- Its revision. -/
  authorityRevision : Nat
  /-- What the batch may cost. -/
  aggregateCostCeilingUsd : ℚ
  /-- `authorized_dispatchers_json`. -/
  authorizedDispatchers : List String
  /-- When the authority expires. -/
  expiresAt : Timestamp
  /-- The digest of the queued members. -/
  membersSha256 : Digest
  /-- When the plan was queued. -/
  enqueuedAt : Timestamp
  /-- The project binding. -/
  projectBindingDigest : Option Digest
  /-- The admission lane. -/
  admissionLane : Option AdmissionLane
  /-- The admission policy. -/
  providerAdmissionPolicyDigest : Option Digest
deriving DecidableEq

/-- The columns of a member that its insertion fixes. -/
structure QueueMemberIdentity where
  /-- Primary key. -/
  memberId : Digest
  /-- The plan. -/
  planDigest : Digest
  /-- The member's place in the plan. -/
  ordinal : Nat
  /-- The seven columns of the member's authority scope. -/
  scope : BatchMemberScope
  /-- The provider tier binding. -/
  providerTierBindingDigest : Option Digest
deriving DecidableEq

/-- The columns of a member that its operations write. -/
structure QueueMemberProgress where
  /-- Its state. -/
  state : QueueMemberState
  /-- Who claimed it. -/
  leaseHolder : Option String
  /-- The token of the claim. -/
  fencingToken : Option Nat
  /-- When the claim expires. -/
  leaseExpiresAt : Option Timestamp
  /-- Attempts used. -/
  attempts : Nat
  /-- When it ended. -/
  terminalAt : Option Timestamp
  /-- The evidence of its end. -/
  terminalEvidenceDigest : Option Digest
  /-- What the attempt cost. -/
  observedCostUsd : Option ℚ
deriving DecidableEq

/-- A row of `plan_queue_members`. -/
structure QueueMemberRow extends QueueMemberIdentity, QueueMemberProgress
deriving DecidableEq

/-- A row with its written columns replaced. -/
def QueueMemberRow.write (row : QueueMemberRow) (progress : QueueMemberProgress) :
    QueueMemberRow :=
  ⟨row.toQueueMemberIdentity, progress⟩

@[simp] theorem QueueMemberRow.write_identity (row : QueueMemberRow)
    (progress : QueueMemberProgress) :
    (row.write progress).toQueueMemberIdentity = row.toQueueMemberIdentity := rfl

@[simp] theorem QueueMemberRow.write_progress (row : QueueMemberRow)
    (progress : QueueMemberProgress) : (row.write progress).toQueueMemberProgress = progress := rfl

/-- The columns of a member that waits for a claim. -/
def QueueMemberProgress.waiting : QueueMemberProgress :=
  ⟨.queued, none, none, none, 0, none, none, none⟩

/-- `QueueClaim`. -/
structure QueueClaim extends QueueMemberIdentity where
  /-- Who claimed. -/
  dispatcherId : String
  /-- The token of the claim. -/
  fencingToken : Nat
  /-- When the claim expires. -/
  leaseExpiresAt : Timestamp
  /-- Attempts used. -/
  attempts : Nat
deriving DecidableEq

/-- What a dispatcher presents to work under its claim. -/
structure ClaimKey where
  /-- The member. -/
  memberId : Digest
  /-- Who claimed it. -/
  dispatcherId : String
  /-- The token of the claim. -/
  fencingToken : Nat
deriving DecidableEq

/-- The key of a claim. -/
def QueueClaim.key (claim : QueueClaim) : ClaimKey :=
  ⟨claim.memberId, claim.dispatcherId, claim.fencingToken⟩

/-- What a member counts against the aggregate ceiling when a claim is checked. -/
def QueueMemberRow.reserved (row : QueueMemberRow) : ℚ :=
  match row.state with
  | .claimed | .reconciliationRequired => row.scope.costCeilingUsd
  | .completed | .failed => row.observedCostUsd.getD row.scope.costCeilingUsd
  | .queued => 0

end Macr
