import Macr.Coordinator.Contracts
import Macr.CanonicalCode
import Mathlib.Algebra.Order.BigOperators.Group.List

/-!
# Compiling a coordinator proposal

A proposal becomes a revision of its parent plan when it asks for nothing that the constraints do
not allow. The revision is a shadow: it issues no authority.
-/

namespace Macr.Coordinator

open Lib Lib.JsonText

/-- `CoordinatorConstraints`. -/
structure CoordinatorConstraints where
  /-- `parent_plan_digest`. -/
  parentPlanDigest : Sha256Text
  /-- `parent_plan_revision`. -/
  parentPlanRevision : Nat
  /-- `allowed_role_template_digests`. -/
  allowedRoleTemplateDigests : TextSet isSha256
  /-- `allowed_task_digests`. -/
  allowedTaskDigests : TextSet isSha256
  /-- `allowed_context_capsule_ids`. -/
  allowedContextCapsuleIds : TextSet isSha256
  /-- `allowed_capabilities`. -/
  allowedCapabilities : TextSet isIdentifier
  /-- `max_children`. -/
  maxChildren : Nat
  /-- `per_child_cost_ceiling_usd`. -/
  perChildCostCeilingUsd : Cost
  /-- `aggregate_cost_ceiling_usd`. -/
  aggregateCostCeilingUsd : Cost
  /-- The revision is bounded. -/
  revision_range : 1 ≤ parentPlanRevision ∧ parentPlanRevision ≤ 2147483647
  /-- So is the number of children. -/
  children_range : 1 ≤ maxChildren ∧ maxChildren ≤ 32

/-- `CoordinatorConstraints.to_dict`. -/
def CoordinatorConstraints.toDict (constraints : CoordinatorConstraints) : Json :=
  .obj [("parent_plan_digest", .str constraints.parentPlanDigest.val),
    ("parent_plan_revision", .int constraints.parentPlanRevision),
    ("allowed_role_template_digests", TextSet.toJson constraints.allowedRoleTemplateDigests),
    ("allowed_task_digests", TextSet.toJson constraints.allowedTaskDigests),
    ("allowed_context_capsule_ids", TextSet.toJson constraints.allowedContextCapsuleIds),
    ("allowed_capabilities", TextSet.toJson constraints.allowedCapabilities),
    ("max_children", .int constraints.maxChildren),
    ("per_child_cost_ceiling_usd", .num constraints.perChildCostCeilingUsd.val),
    ("aggregate_cost_ceiling_usd", .num constraints.aggregateCostCeilingUsd.val)]

/-- `ProposedCoordinatorMember`: the fields of a child, which its checks accept again, and the
digest. -/
structure ProposedCoordinatorMember extends CoordinatorChildRequest where
  /-- `member_digest`. -/
  memberDigest : Digest
deriving DecidableEq

/-- `PlanRevisionProposal`; what its checks leave no choice for is left out. -/
structure PlanRevisionProposal where
  /-- `parent_plan_digest`. -/
  parentPlanDigest : Sha256Text
  /-- `parent_plan_revision`. -/
  parentPlanRevision : Nat
  /-- `proposed_revision`. -/
  proposedRevision : Nat
  /-- `source_proposal_digest`. -/
  sourceProposalDigest : Digest
  /-- `constraint_digest`. -/
  constraintDigest : Digest
  /-- `members`. -/
  members : List ProposedCoordinatorMember
  /-- `aggregate_cost_ceiling_usd`. -/
  aggregateCostCeilingUsd : ℚ
deriving DecidableEq

/-- `1e-12`. -/
def tolerance : ℚ := 1 / 10 ^ 12

/-- The sum of the ceilings of members. -/
def memberCosts (members : List ProposedCoordinatorMember) : ℚ :=
  (members.map (·.costCeilingUsd.val)).sum

/-- `_positive_integer`. -/
def positiveInteger (name : String) (value maximum : Nat) : Except MacrError Unit :=
  raiseIf (¬(1 ≤ value ∧ value ≤ maximum))
    (.valueError (name ++ " must be between 1 and " ++ toString maximum))

/-- `PlanRevisionProposal.__post_init__`. -/
def PlanRevisionProposal.make (revision : PlanRevisionProposal) :
    Except MacrError PlanRevisionProposal := do
  positiveInteger "parent_plan_revision" revision.parentPlanRevision 2147483647
  positiveInteger "proposed_revision" revision.proposedRevision 2147483647
  raiseIf (revision.proposedRevision ≠ revision.parentPlanRevision + 1)
    (.valueError "proposed revision must immediately follow parent")
  raiseIf (revision.members = []) (.valueError "coordinator revision must contain valid members")
  let members := sortOn (·.childId.val) revision.members
  raiseIf (¬(members.map (·.childId.val)).Nodup ∨ ¬(members.map (·.memberDigest)).Nodup)
    (.valueError "coordinator revision members must be unique")
  raiseIf (revision.aggregateCostCeilingUsd < 0)
    (.valueError "aggregate_cost_ceiling_usd must be finite non-negative")
  raiseIf (tolerance < |revision.aggregateCostCeilingUsd - memberCosts members|)
    (.valueError "aggregate cost must equal exact member cost ceilings")
  return { revision with members := members }

/-- `CoordinatorPolicyError`. -/
def coordinatorPolicyError (message : String) : MacrError := .named "CoordinatorPolicyError" message

/-- `_FORBIDDEN_CONTROL_WORDS`. -/
def forbiddenControlWords : List String :=
  ["authority", "authorization", "accept", "merge", "deploy", "resident", "provider", "route",
    "model", "credential", "prompt", "answer", "path", "tool"]

/-- A word in a text. -/
def mentions (text word : String) : Bool := text.toList.tails.any word.toList.isPrefixOf

/-- `_reject_requested_controls`. -/
def rejectRequestedControls (fields : List String) : Except MacrError Unit :=
  match fields with
  | [] => .ok ()
  | first :: _ =>
    match (fields.flatMap fun field =>
        forbiddenControlWords.filter (fun word => mentions (lower field) word)).head? with
    | some word => .error (coordinatorPolicyError
        ("coordinator proposal requests forbidden " ++ word ++ " control"))
    | none => .error (coordinatorPolicyError
        ("coordinator proposal contains unknown field " ++ first))

section Compile

variable (sha : Sha256) (constraints : CoordinatorConstraints)

/-- The digest of the member of a child. -/
def memberDigest (child : CoordinatorChildRequest) : Digest :=
  sha.sha256Id "coordinator_member_v1" (.obj [
    ("parent_plan_digest", .str constraints.parentPlanDigest.val),
    ("proposed_revision", .int (constraints.parentPlanRevision + 1)), ("child", child.toDict)])

/-- The loop of `compile_coordinator_proposal` for one child. -/
def compileChild (state : ℚ × List ProposedCoordinatorMember) (child : CoordinatorChildRequest) :
    Except MacrError (ℚ × List ProposedCoordinatorMember) := do
  raiseIf (child.roleTemplateDigest ∉ constraints.allowedRoleTemplateDigests.val)
    (coordinatorPolicyError "coordinator proposal role template is not allowed")
  raiseIf (child.taskDigest ∉ constraints.allowedTaskDigests.val)
    (coordinatorPolicyError "coordinator proposal task digest is not allowed")
  raiseIf (¬∀ item ∈ child.contextCapsuleIds.val, item ∈ constraints.allowedContextCapsuleIds.val)
    (coordinatorPolicyError "coordinator proposal context expansion is not allowed")
  raiseIf (¬∀ item ∈ child.requiredCapabilities.val, item ∈ constraints.allowedCapabilities.val)
    (coordinatorPolicyError "coordinator proposal capability expansion is not allowed")
  raiseIf (constraints.perChildCostCeilingUsd.val + tolerance < child.costCeilingUsd.val)
    (coordinatorPolicyError "coordinator proposal child cost exceeds hard ceiling")
  return (state.1 + child.costCeilingUsd.val,
    state.2 ++ [⟨child, memberDigest sha constraints child⟩])

/-- `compile_coordinator_proposal`. -/
def compileCoordinatorProposal (proposal : CoordinatorProposal) :
    Except MacrError PlanRevisionProposal := do
  rejectRequestedControls proposal.rejectedFields
  raiseIf (proposal.parentPlanDigest ≠ constraints.parentPlanDigest)
    (coordinatorPolicyError "coordinator proposal parent plan does not match constraints")
  raiseIf (constraints.maxChildren < proposal.children.length)
    (coordinatorPolicyError "coordinator proposal exceeds maximum child count")
  let (total, members) ← proposal.children.foldlM (compileChild sha constraints) (0, [])
  raiseIf (constraints.aggregateCostCeilingUsd.val + tolerance < total)
    (coordinatorPolicyError "coordinator proposal aggregate cost exceeds hard ceiling")
  PlanRevisionProposal.make {
    parentPlanDigest := constraints.parentPlanDigest
    parentPlanRevision := constraints.parentPlanRevision
    proposedRevision := constraints.parentPlanRevision + 1
    sourceProposalDigest := sha.sha256Id "coordinator_proposal_v1" proposal.toDict
    constraintDigest := sha.sha256Id "coordinator_constraints_v1" constraints.toDict
    members := members
    aggregateCostCeilingUsd := total }

end Compile

/-! ## Containment -/

variable {sha : Sha256} {constraints : CoordinatorConstraints}

/-- A child asks for nothing that is not allowed. -/
structure ChildContained (constraints : CoordinatorConstraints)
    (child : CoordinatorChildRequest) : Prop where
  /-- Its role. -/
  role : child.roleTemplateDigest ∈ constraints.allowedRoleTemplateDigests.val
  /-- Its task. -/
  task : child.taskDigest ∈ constraints.allowedTaskDigests.val
  /-- Its contexts. -/
  contexts : ∀ item ∈ child.contextCapsuleIds.val, item ∈ constraints.allowedContextCapsuleIds.val
  /-- Its capabilities. -/
  capabilities : ∀ item ∈ child.requiredCapabilities.val,
    item ∈ constraints.allowedCapabilities.val
  /-- Its ceiling. -/
  ceiling : child.costCeilingUsd.val ≤ constraints.perChildCostCeilingUsd.val + tolerance

/-- The sum of the ceilings of children. -/
def childCosts (children : List CoordinatorChildRequest) : ℚ :=
  (children.map (·.costCeilingUsd.val)).sum

/-- A proposal stays inside the constraints. -/
structure Contained (constraints : CoordinatorConstraints) (proposal : CoordinatorProposal) :
    Prop where
  /-- It has no unknown field. -/
  known : proposal.rejectedFields = []
  /-- It is for the parent. -/
  parent : proposal.parentPlanDigest = constraints.parentPlanDigest
  /-- It has not too many children. -/
  count : proposal.children.length ≤ constraints.maxChildren
  /-- Every child stays inside. -/
  children : ∀ child ∈ proposal.children, ChildContained constraints child
  /-- The ceilings stay inside together. -/
  total : childCosts proposal.children ≤ constraints.aggregateCostCeilingUsd.val + tolerance

/-- The member of a child. -/
def memberOf (sha : Sha256) (constraints : CoordinatorConstraints)
    (child : CoordinatorChildRequest) : ProposedCoordinatorMember :=
  ⟨child, memberDigest sha constraints child⟩

/-- The revision of a proposal. -/
def revisionOf (sha : Sha256) (constraints : CoordinatorConstraints)
    (proposal : CoordinatorProposal) : PlanRevisionProposal where
  parentPlanDigest := constraints.parentPlanDigest
  parentPlanRevision := constraints.parentPlanRevision
  proposedRevision := constraints.parentPlanRevision + 1
  sourceProposalDigest := sha.sha256Id "coordinator_proposal_v1" proposal.toDict
  constraintDigest := sha.sha256Id "coordinator_constraints_v1" constraints.toDict
  members := proposal.children.map (memberOf sha constraints)
  aggregateCostCeilingUsd := childCosts proposal.children

/-- A child is taken when it stays inside. -/
theorem compileChild_eq_ok {total total' : ℚ} {members members' : List ProposedCoordinatorMember}
    {child : CoordinatorChildRequest} :
    compileChild sha constraints (total, members) child = .ok (total', members') ↔
      ChildContained constraints child ∧ total' = total + child.costCeilingUsd.val ∧
        members' = members ++ [memberOf sha constraints child] := by
  simp only [compileChild, bind_eq_ok, raiseIf_eq_ok, exists_const, pure_eq_ok, not_not,
    Prod.mk.injEq, not_lt]
  constructor
  · rintro ⟨role, task, contexts, capabilities, ceiling, rfl, rfl⟩
    exact ⟨⟨role, task, contexts, capabilities, ceiling⟩, rfl, rfl⟩
  · rintro ⟨⟨role, task, contexts, capabilities, ceiling⟩, rfl, rfl⟩
    exact ⟨role, task, contexts, capabilities, ceiling, rfl, rfl⟩

/-- The children are taken when each stays inside. -/
theorem compileChildren_eq_ok {children : List CoordinatorChildRequest} {total total' : ℚ}
    {members members' : List ProposedCoordinatorMember} :
    children.foldlM (compileChild sha constraints) (total, members) = .ok (total', members') ↔
      (∀ child ∈ children, ChildContained constraints child) ∧
        total' = total + childCosts children ∧
        members' = members ++ children.map (memberOf sha constraints) := by
  induction children generalizing total members with
  | nil =>
    simp only [List.foldlM_nil, pure_eq_ok, Prod.mk.injEq, childCosts]
    simp [eq_comm]
  | cons child rest ih =>
    rw [List.foldlM_cons, bind_eq_ok]
    constructor
    · rintro ⟨⟨between, taken⟩, first, later⟩
      obtain ⟨inside, rfl, rfl⟩ := compileChild_eq_ok.mp first
      obtain ⟨others, rfl, rfl⟩ := ih.mp later
      refine ⟨List.forall_mem_cons.mpr ⟨inside, others⟩, ?_, ?_⟩
      · simp only [childCosts, List.map_cons, List.sum_cons, add_assoc]
      · simp only [List.map_cons, List.append_assoc, List.singleton_append]
    · rintro ⟨inside, rfl, rfl⟩
      obtain ⟨first, others⟩ := List.forall_mem_cons.mp inside
      refine ⟨_, compileChild_eq_ok.mpr ⟨first, rfl, rfl⟩, ih.mpr ⟨others, ?_, ?_⟩⟩
      · simp only [childCosts, List.map_cons, List.sum_cons, add_assoc]
      · simp only [List.map_cons, List.append_assoc, List.singleton_append]

/-- The ceilings of the members are those of the children. -/
theorem memberCosts_map (children : List CoordinatorChildRequest) :
    memberCosts (children.map (memberOf sha constraints)) = childCosts children := by
  unfold memberCosts childCosts
  rw [List.map_map]
  rfl

/-- Ceilings are not negative together. -/
theorem childCosts_nonneg (children : List CoordinatorChildRequest) : 0 ≤ childCosts children := by
  unfold childCosts
  refine List.sum_nonneg fun cost member => ?_
  obtain ⟨child, -, rfl⟩ := List.mem_map.mp member
  exact child.costCeilingUsd.property

/-- Nothing is unknown when nothing was rejected. -/
theorem rejectRequestedControls_eq_ok {fields : List String} {value : Unit} :
    rejectRequestedControls fields = .ok value ↔ fields = [] := by
  unfold rejectRequestedControls
  cases fields with
  | nil => simp
  | cons first rest =>
    dsimp only
    split <;> simp

/-- The revisions that are well formed. -/
theorem PlanRevisionProposal.make_eq_ok {revision made : PlanRevisionProposal} :
    revision.make = .ok made ↔
      (1 ≤ revision.parentPlanRevision ∧ revision.parentPlanRevision ≤ 2147483647) ∧
      (1 ≤ revision.proposedRevision ∧ revision.proposedRevision ≤ 2147483647) ∧
      revision.proposedRevision = revision.parentPlanRevision + 1 ∧ revision.members ≠ [] ∧
      (((sortOn (·.childId.val) revision.members).map (·.childId.val)).Nodup ∧
        ((sortOn (·.childId.val) revision.members).map (·.memberDigest)).Nodup) ∧
      0 ≤ revision.aggregateCostCeilingUsd ∧
      |revision.aggregateCostCeilingUsd -
        memberCosts (sortOn (·.childId.val) revision.members)| ≤ tolerance ∧
      { revision with members := sortOn (·.childId.val) revision.members } = made := by
  simp only [make, positiveInteger, bind_eq_ok, raiseIf_eq_ok, exists_const, pure_eq_ok, not_not,
    not_or, not_lt, ne_eq]

/-- The revision of a proposal is well formed when the parent can be followed and the digests of
the members are distinct. -/
theorem make_revisionOf {proposal : CoordinatorProposal} {revision : PlanRevisionProposal} :
    (revisionOf sha constraints proposal).make = .ok revision ↔
      constraints.parentPlanRevision < 2147483647 ∧
      (proposal.children.map (memberDigest sha constraints)).Nodup ∧
      revision = revisionOf sha constraints proposal := by
  have ascending : (proposal.children.map (memberOf sha constraints)).Pairwise
      (·.childId.val < ·.childId.val) := List.pairwise_map.mpr proposal.ordered
  have sorted := sortOn_eq_self_of_ascending ascending
  have ids : ((proposal.children.map (memberOf sha constraints)).map (·.childId.val)).Nodup :=
    (List.pairwise_map.mpr ascending).imp ne_of_lt
  have digests : (proposal.children.map (memberOf sha constraints)).map (·.memberDigest) =
      proposal.children.map (memberDigest sha constraints) := by
    rw [List.map_map]
    rfl
  have exactly : |childCosts proposal.children -
      memberCosts (proposal.children.map (memberOf sha constraints))| ≤ tolerance := by
    rw [memberCosts_map, sub_self, abs_zero]
    unfold tolerance
    norm_num
  have inhabited : proposal.children.map (memberOf sha constraints) ≠ [] := by
    rw [ne_eq, List.map_eq_nil_iff]
    exact proposal.inhabited
  have first := constraints.revision_range
  rw [PlanRevisionProposal.make_eq_ok]
  dsimp only [revisionOf]
  rw [sorted, digests]
  constructor
  · rintro ⟨_, next, _, _, ⟨_, distinct⟩, _, _, rfl⟩
    exact ⟨next.2, distinct, rfl⟩
  · rintro ⟨below, distinct, rfl⟩
    exact ⟨first, ⟨Nat.le_add_left 1 _, below⟩, rfl, inhabited, ⟨ids, distinct⟩,
      childCosts_nonneg _, exactly, rfl⟩

/-- A proposal compiles to its revision when it stays inside the constraints, the parent can be
followed, and the digests of the members are distinct. -/
theorem compile_eq_ok {proposal : CoordinatorProposal} {revision : PlanRevisionProposal} :
    compileCoordinatorProposal sha constraints proposal = .ok revision ↔
      Contained constraints proposal ∧ constraints.parentPlanRevision < 2147483647 ∧
      (proposal.children.map (memberDigest sha constraints)).Nodup ∧
      revision = revisionOf sha constraints proposal := by
  simp only [compileCoordinatorProposal, bind_eq_ok, raiseIf_eq_ok, exists_const,
    rejectRequestedControls_eq_ok, not_not, not_lt, Prod.exists, compileChildren_eq_ok, ne_eq]
  constructor
  · rintro ⟨known, parent, count, total, members, ⟨inside, rfl, rfl⟩, ceiling, made⟩
    rw [zero_add] at ceiling made
    rw [List.nil_append] at made
    exact ⟨⟨known, parent, count, inside, ceiling⟩, make_revisionOf.mp made⟩
  · rintro ⟨⟨known, parent, count, inside, ceiling⟩, made⟩
    refine ⟨known, parent, count, _, _, ⟨inside, rfl, rfl⟩, ?_, ?_⟩
    · rw [zero_add]
      exact ceiling
    · rw [zero_add, List.nil_append]
      exact make_revisionOf.mpr made

end Macr.Coordinator
