import Macr.Queue.Effects
import Mathlib.Algebra.Order.Ring.Rat

/-!
# The aggregate budget of a batch

A claim is checked against the aggregate ceiling of its batch with every member that is claimed or
awaits reconciliation counted at its own ceiling, and with a fixed slack. What the members may
cost in the end is within the ceiling and the slack as long as no member that awaits
reconciliation has been observed above its ceiling.
-/

namespace Macr

open Lib

/-- What a member may have cost in the end. -/
def QueueMemberRow.exposure (row : QueueMemberRow) : ℚ :=
  match row.state with
  | .queued => 0
  | .claimed => row.scope.costCeilingUsd
  | .reconciliationRequired =>
    max row.scope.costCeilingUsd (row.observedCostUsd.getD row.scope.costCeilingUsd)
  | .completed | .failed => row.observedCostUsd.getD row.scope.costCeilingUsd

/-- A member that awaits reconciliation has not been observed above its ceiling. -/
def QueueMemberRow.WithinCeiling (row : QueueMemberRow) : Prop :=
  row.state = .reconciliationRequired → ∀ cost ∈ row.observedCostUsd,
    cost ≤ row.scope.costCeilingUsd

/-- Such a member counts what it is checked with. -/
theorem QueueMemberRow.exposure_eq_reserved {row : QueueMemberRow} (within : row.WithinCeiling) :
    row.exposure = row.reserved := by
  unfold exposure reserved
  cases state : row.state with
  | reconciliationRequired =>
    cases observed : row.observedCostUsd with
    | none => exact max_self _
    | some cost => exact max_eq_left (within state cost observed)
  | queued => rfl
  | claimed => rfl
  | completed => rfl
  | failed => rfl

namespace QueueDb

variable {db after : QueueDb} {now : Timestamp} {planDigest : Digest}

/-- What the members of a plan may have cost in the end. -/
def exposureOf (db : QueueDb) (planDigest : Digest) : ℚ :=
  ((db.members.rows.filter (fun row => row.planDigest = planDigest)).map
    QueueMemberRow.exposure).sum

/-- No member of the plan that awaits reconciliation has been observed above its ceiling. -/
def NoOverrun (db : QueueDb) (planDigest : Digest) : Prop :=
  ∀ row ∈ db.members.rows, row.planDigest = planDigest → row.WithinCeiling

/-- Without an overrun a plan's exposure is what its claims are checked with. -/
theorem exposureOf_eq_reservedOf (within : db.NoOverrun planDigest) :
    db.exposureOf planDigest = db.reservedOf planDigest := by
  unfold exposureOf reservedOf
  congr 1
  apply List.map_congr_left
  intro row member
  rw [List.mem_filter] at member
  simp only [decide_eq_true_eq] at member
  exact QueueMemberRow.exposure_eq_reserved (within row member.1 member.2)

/-- A claim adds the ceiling of its member to the exposure of the plan. -/
theorem exposureOf_claim {row : QueueMemberRow} {batch : PlanQueueBatchRow} {claim : QueueClaim}
    (made : ClaimMade db after now row batch claim) :
    after.exposureOf row.planDigest = db.exposureOf row.planDigest + row.scope.costCeilingUsd := by
  let amount := fun other : QueueMemberRow =>
    if decide (other.planDigest = row.planDigest) then other.exposure else 0
  have moved := sum_update_key db.members
    (fun other => other.write
      (claimedColumns other claim.dispatcherId claim.fencingToken claim.leaseExpiresAt))
    (fun _ => rfl) amount (mem_of_member made.stored)
  have before : amount row = 0 := by
    simp [amount, QueueMemberRow.exposure, made.queued]
  have next : amount (row.write
      (claimedColumns row claim.dispatcherId claim.fencingToken claim.leaseExpiresAt)) =
      row.scope.costCeilingUsd := by
    simp [amount, QueueMemberRow.exposure, claimedColumns]
  rw [before, next, add_zero] at moved
  unfold exposureOf
  rw [sum_filter_eq_sum_ite, sum_filter_eq_sum_ite, made.written]
  exact moved

/-- A step that hands out a claim keeps its batch within the ceiling and the slack. -/
theorem exposure_of_claimOf {sha : Sha256} {action : QueueAction} {claim : QueueClaim}
    (handed : claimOf sha db action = some claim) (within : db.NoOverrun claim.planDigest) :
    ∃ batch, db.batches.find? claim.planDigest = some batch ∧
      ((machine sha).step db action).exposureOf claim.planDigest ≤
        batch.aggregateCostCeilingUsd + costTolerance := by
  have effect := effect_of_step sha db action
  rw [handed] at effect
  cases effect with
  | claimed row batch claim made =>
    have plan : claim.planDigest = row.planDigest := by
      rw [made.handed.1]
    rw [plan] at within ⊢
    refine ⟨batch, made.batched, ?_⟩
    rw [exposureOf_claim made, exposureOf_eq_reservedOf within]
    exact made.fits

/-- A step hands out a claim that takes its batch over the aggregate ceiling. -/
def claimExceeds (sha : Sha256) (db : QueueDb) (action : QueueAction) : Bool :=
  match claimOf sha db action with
  | none => false
  | some claim => (db.batches.find? claim.planDigest).any (fun batch =>
      batch.aggregateCostCeilingUsd <
        ((machine sha).step db action).exposureOf claim.planDigest)

end QueueDb

/-! ## Sample batches -/

private theorem oneDollar_nonneg : (0 : ℚ) ≤ 1 := by decide +kernel

private theorem twoDollars_nonneg : (0 : ℚ) ≤ 2 := by decide +kernel

/-- The scope of a sample member. -/
def sampleMemberScope (memberDigest : Digest) (ceiling : ℚ) (nonneg : 0 ≤ ceiling) :
    BatchMemberScope where
  memberDigest := memberDigest
  providerId := "glm_flash_worker"
  routeId := 3
  roleDigest := 4
  privacy := "public_text"
  contextClass := "non_sensitive_routine"
  costCeilingUsd := ceiling
  identifiers := by decide
  ceiling_nonneg := nonneg

/-- A batch of two members, each of ceiling one. -/
def sampleBatchScope : BatchScope where
  planDigest := 1
  orderedMembers :=
    [sampleMemberScope 10 1 oneDollar_nonneg, sampleMemberScope 11 1 oneDollar_nonneg]
  aggregateCostCeilingUsd := 2
  expiresAt := 1000000000
  authorizedDispatchers := ["dispatcher-a"]
  members_required := by simp
  members_distinct := by decide
  aggregate_nonneg := twoDollars_nonneg
  dispatchers_required := by simp
  dispatchers_distinct := by decide
  dispatchers_valid := by decide

/-- A batch of one member that may cost less than the slack, under a ceiling of zero. -/
def sampleFreeScope : BatchScope where
  planDigest := 1
  orderedMembers := [sampleMemberScope 10 (1 / 10000000000000) (by decide +kernel)]
  aggregateCostCeilingUsd := 0
  expiresAt := 1000000000
  authorizedDispatchers := ["dispatcher-a"]
  members_required := by simp
  members_distinct := by decide
  aggregate_nonneg := by decide +kernel
  dispatchers_required := by simp
  dispatchers_distinct := by decide
  dispatchers_valid := by decide

/-- The plan of a batch whose authority was issued at time one. -/
def samplePlan (scope : BatchScope) : T1QueuePlan where
  planDigest := scope.planDigest
  members := scope.orderedMembers.map (fun member => ⟨member, none, [], List.nodup_nil⟩)
  aggregateCostCeilingUsd := scope.aggregateCostCeilingUsd
  authority := BatchAuthorities.referenceOf
    (BatchAuthorities.issuedRow foldDigest .empty scope 1 7)
  projectBindingDigest := none
  admissionLane := none
  providerAdmissionPolicyDigest := none
  members_required := by simpa using scope.members_required
  members_distinct := by simpa [Function.comp_def] using scope.members_distinct
  aggregate_nonneg := scope.aggregate_nonneg
  authority_matches := rfl

namespace QueueDb

/-- A batch is queued under its authority. -/
def sampleQueued (scope : BatchScope) : List QueueAction :=
  [⟨1, false, .issueAuthority scope 7⟩, ⟨2, false, .enqueue (samplePlan scope) scope⟩]

/-- A member of the plan is claimed for a minute. -/
def sampleClaim (now : Timestamp) : QueueAction :=
  ⟨now, false, .claim "dispatcher-a" 60 (some 1) none (fun _ => now)⟩

/-- The claim of the first member. -/
def firstClaim : QueueClaim where
  memberId := memberIdOf foldDigest 1 0 10
  planDigest := 1
  ordinal := 0
  scope := sampleMemberScope 10 1 oneDollar_nonneg
  providerTierBindingDigest := none
  dispatcherId := "dispatcher-a"
  fencingToken := 1
  leaseExpiresAt := 60000003
  attempts := 1

/-- The first member is claimed and ends above its ceiling. -/
def overspent : List QueueAction :=
  sampleQueued sampleBatchScope ++ [sampleClaim 3,
    ⟨4, false, .complete firstClaim.key 9 (some (.finite 5))⟩]

end QueueDb

end Macr
