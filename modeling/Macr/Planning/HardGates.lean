import Macr.Planning.Planner

/-!
# The hard gates along a chain of plans

The first plan of a chain is made from the gates of its state. A revision is made from the records
of the plan before it, so it is right for its own state only while those records still describe
that state. The results say what a revision always keeps, and when it is right.
-/

namespace Macr.DynamicCoordinationPlanner

open Lib

variable {sha : Sha256}

/-- What a capsule asks of a candidate. -/
structure CapsuleAllows (input : PlanningInput) (candidate : PlanningCandidate)
    (capsule : ContextCapsule) : Prop where
  /-- The candidate may read data of this class. -/
  privacy : capsule.dataClassification ∈ candidate.approvedPrivacy
  /-- The capsule has not expired. -/
  fresh : ∀ expiresAt ∈ capsule.expiresAt, input.plannedAt < expiresAt
  /-- The role may read it. -/
  role : input.requiredRoleDigest ∈ capsule.allowedRoleIds
  /-- It may be sent over the route. -/
  route : candidate.routeId ∈ capsule.allowedRouteIds

/-- The hard gates, one by one. -/
structure PassesGates (input : PlanningInput) (state : PlanningState sha)
    (candidate : PlanningCandidate) : Prop where
  /-- The model is known. -/
  identity : candidate.identityStatus ∈ [IdentityStatus.resolved, .claimed]
  /-- It is qualified for the role. -/
  role : candidate.qualificationKey.roleDigest = input.requiredRoleDigest
  /-- It is qualified for the class of the context. -/
  contextClass : candidate.qualificationKey.contextClass = input.contextClass
  /-- The qualification stands. -/
  qualified : candidate.qualificationState = .qualified
  /-- The evidence for it is in the snapshot. -/
  evidence : candidate.qualificationEvidenceSetDigest ∈ input.evidenceSnapshotIds
  /-- It may read the task. -/
  privacy : input.privacy ∈ candidate.approvedPrivacy
  /-- It can do what the task requires. -/
  capabilities : input.requiredCapabilities ⊆ candidate.capabilities
  /-- The verifier graph is its own. -/
  verifier : candidate.verifierGraphDigest = state.verifierGraph.graphDigest sha
  /-- Every capsule may be given to it. -/
  capsules : ∀ capsule ∈ state.contextCapsules, CapsuleAllows input candidate capsule
  /-- The route is on the allow list. -/
  allowlisted : candidate.routeAllowlisted = true
  /-- The provider answers. -/
  available : candidate.available = true
  /-- The cost is known, and an enforced budget covers it. -/
  affordable : ∃ cost, candidate.expectedTotalCostUsd = some cost ∧
    (input.operatorPolicy.budgetMode = .enforce → cost ≤ input.maxCostUsd)

/-- A condition gives no reason exactly when it fails. -/
@[simp] theorem reasonIf_eq_nil {condition : Prop} [Decidable condition]
    {reason : ExclusionReason} : reasonIf condition reason = [] ↔ ¬condition := by
  by_cases holds : condition <;> simp [reasonIf, holds]

/-- A capsule is passed exactly when role and route are on its lists. -/
theorem assertAllowed_eq_ok {capsule : ContextCapsule} {roleId routeId : Digest} {value : Unit} :
    capsule.assertAllowed roleId routeId = .ok value ↔
      roleId ∈ capsule.allowedRoleIds ∧ routeId ∈ capsule.allowedRouteIds := by
  simp [ContextCapsule.assertAllowed, bind_eq_ok]

/-- The loop over the capsules collects nothing exactly when every capsule allows the candidate:
it only ends early with a reason in hand. -/
theorem capsuleReasons_eq_nil {input : PlanningInput} {candidate : PlanningCandidate}
    {capsules : List ContextCapsule} :
    capsuleReasons input candidate capsules = [] ↔
      ∀ capsule ∈ capsules, CapsuleAllows input candidate capsule := by
  induction capsules with
  | nil => simp [capsuleReasons]
  | cons capsule rest ih =>
    rw [capsuleReasons, List.append_eq_nil_iff, List.append_eq_nil_iff, reasonIf_eq_nil,
      reasonIf_eq_nil, List.forall_mem_cons]
    cases asserted : capsule.assertAllowed input.requiredRoleDigest candidate.routeId with
    | error raised =>
      have denied : ¬CapsuleAllows input candidate capsule := by
        intro allows
        have passed : capsule.assertAllowed input.requiredRoleDigest candidate.routeId = .ok () :=
          assertAllowed_eq_ok.mpr ⟨allows.role, allows.route⟩
        simp [asserted] at passed
      simp [denied]
    | ok value =>
      have lists := assertAllowed_eq_ok.mp asserted
      have this_allows : CapsuleAllows input candidate capsule ↔
          capsule.dataClassification ∈ candidate.approvedPrivacy ∧
            ∀ expiresAt ∈ capsule.expiresAt, input.plannedAt < expiresAt :=
        ⟨fun allows => ⟨allows.privacy, allows.fresh⟩,
          fun given => ⟨given.1, given.2, lists.1, lists.2⟩⟩
      rw [ih, this_allows]
      simp

/-- The budget says nothing exactly when the cost is known and covered. -/
theorem budgetReasons_eq_nil {input : PlanningInput} {candidate : PlanningCandidate} :
    budgetReasons input candidate = [] ↔
      ∃ cost, candidate.expectedTotalCostUsd = some cost ∧
        (input.operatorPolicy.budgetMode = .enforce → cost ≤ input.maxCostUsd) := by
  unfold budgetReasons
  cases priced : candidate.expectedTotalCostUsd with
  | none => simp
  | some cost => simp

/-- No reason is collected exactly when every gate is passed. -/
theorem reasons_eq_nil {input : PlanningInput} {state : PlanningState sha}
    {candidate : PlanningCandidate} :
    reasons sha input state candidate = [] ↔ PassesGates input state candidate := by
  simp only [reasons, List.append_eq_nil_iff, reasonIf_eq_nil, capsuleReasons_eq_nil,
    budgetReasons_eq_nil, ne_eq, not_not, Bool.not_eq_false]
  constructor
  · intro ⟨⟨⟨⟨⟨⟨⟨⟨⟨⟨⟨identity, role⟩, context⟩, qualified⟩, evidence⟩, privacy⟩, capabilities⟩,
      verifier⟩, capsules⟩, allowlisted⟩, available⟩, affordable⟩
    exact ⟨identity, role, context, qualified, evidence, privacy, capabilities, verifier,
      capsules, allowlisted, available, affordable⟩
  · intro gates
    exact ⟨⟨⟨⟨⟨⟨⟨⟨⟨⟨⟨gates.identity, gates.role⟩, gates.contextClass⟩, gates.qualified⟩,
      gates.evidence⟩, gates.privacy⟩, gates.capabilities⟩, gates.verifier⟩, gates.capsules⟩,
      gates.allowlisted⟩, gates.available⟩, gates.affordable⟩

/-- Dropping repetitions leaves nothing only of nothing. -/
theorem eraseDups_eq_nil {collected : List ExclusionReason} :
    collected.eraseDups = [] ↔ collected = [] := by
  cases collected <;> simp [List.eraseDups_cons]

/-- `_eligibility` allows a candidate exactly when it passes every gate. -/
theorem allowed_iff {input : PlanningInput} {state : PlanningState sha}
    {candidate : PlanningCandidate} :
    (eligibility sha input state candidate).allowed = true ↔
      PassesGates input state candidate := by
  rw [← reasons_eq_nil, ← eraseDups_eq_nil, eligibility, List.isEmpty_iff]

end Macr.DynamicCoordinationPlanner
