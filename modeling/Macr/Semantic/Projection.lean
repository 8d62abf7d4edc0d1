import Mathlib.Data.Finset.Dedup
import Mathlib.Data.Finset.Lattice.Lemmas
import Mathlib.Data.String.Basic
import Macr.Lib.Sorting
import Macr.Semantic.Typing

/-!
# The projection of a graph into a context

A request names the nodes a context must have, and bounds how many nodes and relations it may
have. The projector takes the mandatory nodes and the relations between them, fills up with others
in the order of their identifiers, and lists what it leaves out. Where the mandatory records do not
fit it refuses.
-/

namespace Macr

open Lib

namespace SemanticContextProjector

/-- `SemanticProjectionIncompleteError`. -/
def projectionIncomplete (message : String) : MacrError :=
  .semanticState "SEMANTIC_PROJECTION_INCOMPLETE" message

/-- `SemanticProjectionConflictError`. -/
def projectionConflict (message : String) : MacrError :=
  .semanticState "SEMANTIC_PROJECTION_CONFLICT" message

/-- `MAX_PROJECTION_NODES`. -/
def maxProjectionNodes : Nat := 128

/-- `MAX_PROJECTION_RELATIONS`. -/
def maxProjectionRelations : Nat := 128

/-! ## Profiles and requests -/

/-- `SemanticProjectionProfile`. -/
structure SemanticProjectionProfile where
  /-- Its identifier. -/
  profileId : String
  /-- Its version. -/
  profileVersion : String
  /-- A required goal must be related to a required plan. -/
  requireGoalPlanConnection : Bool
  /-- Unresolved obligations are mandatory. -/
  includeUnresolvedObligations : Bool
  /-- Unresolved ambiguities that block a mandatory node are mandatory. -/
  includeBlockingAmbiguities : Bool
deriving DecidableEq

namespace SemanticProjectionProfile

/-- `_identity_dict`. -/
def identityFields (profile : SemanticProjectionProfile) : List (String × Json) :=
  [("schema_version", .str "macr-semantic-projection-profile/v1"),
    ("profile_id", .str profile.profileId), ("profile_version", .str profile.profileVersion),
    ("require_goal_plan_connection", .bool profile.requireGoalPlanConnection),
    ("include_unresolved_obligations", .bool profile.includeUnresolvedObligations),
    ("include_blocking_ambiguities", .bool profile.includeBlockingAmbiguities)]

/-- `profile_digest`. -/
def profileDigest (sha : Sha256) (profile : SemanticProjectionProfile) : Digest :=
  sha.sha256Id "macr.semantic.projection-profile.v1" (.obj profile.identityFields)

/-- `to_public_dict`. -/
def toPublicDict (sha : Sha256) (profile : SemanticProjectionProfile) : Json :=
  .obj (profile.identityFields ++ [("profile_digest", .hex (profile.profileDigest sha))])

end SemanticProjectionProfile

/-- `SemanticContextRequest`, with the fields by which the projector selects. -/
structure SemanticContextRequest where
  /-- The run the context is for. -/
  agentRunId : Uuid
  /-- The graph. -/
  graphId : Uuid
  /-- Its revision. -/
  graphRevision : Nat
  /-- The digest of the revision. -/
  graphDigest : Digest
  /-- The profile. -/
  profile : SemanticProjectionProfile
  /-- The nodes the context must have. -/
  requiredRootNodeIds : List String
  /-- The types its nodes may have. -/
  allowedNodeTypes : List SemanticNodeType
  /-- How many nodes it may have. -/
  maxNodes : Nat
  /-- How many relations it may have. -/
  maxRelations : Nat
  /-- Revisions are positive. -/
  positive : 0 < graphRevision
  /-- There are required nodes, without duplicates. -/
  roots : requiredRootNodeIds ≠ [] ∧ requiredRootNodeIds.Nodup
  /-- There are allowed types, without duplicates. -/
  allowed : allowedNodeTypes ≠ [] ∧ allowedNodeTypes.Nodup
  /-- The bounds are positive and within the hard limits. -/
  bounded : (0 < maxNodes ∧ maxNodes ≤ maxProjectionNodes) ∧
    0 < maxRelations ∧ maxRelations ≤ maxProjectionRelations

/-- `request_digest`. -/
def SemanticContextRequest.requestDigest (sha : Sha256) (request : SemanticContextRequest) :
    Digest :=
  sha.sha256Id "macr.semantic.context-request.v1" (.obj
    [("schema_version", .str "macr-semantic-context-request/v1"),
      ("agent_run_id", .hex request.agentRunId), ("graph_id", .hex request.graphId),
      ("graph_revision", .int request.graphRevision), ("graph_digest", .hex request.graphDigest),
      ("profile", request.profile.toPublicDict sha),
      ("required_root_node_ids", .arr (request.requiredRootNodeIds.map .str)),
      ("allowed_node_types", .arr (request.allowedNodeTypes.map (fun type => .str type.value))),
      ("max_nodes", .int request.maxNodes), ("max_relations", .int request.maxRelations)])

/-! ## Projections -/

/-- `SemanticContextProjection`. -/
structure SemanticContextProjection where
  /-- The digest of the request. -/
  requestDigest : Digest
  /-- The run. -/
  agentRunId : Uuid
  /-- The graph. -/
  graphId : Uuid
  /-- Its revision. -/
  graphRevision : Nat
  /-- The digest of the revision. -/
  graphDigest : Digest
  /-- The profile. -/
  profile : SemanticProjectionProfile
  /-- The selected nodes, in the order of their identifiers. -/
  nodes : List SemanticNode
  /-- The selected relations, in the order of their identifiers. -/
  relations : List SemanticRelation
  /-- The nodes left out, in the order of their digests. -/
  omittedNodeRecordDigests : List Digest
  /-- The relations left out, in the order of their digests. -/
  omittedRelationDigests : List Digest
deriving DecidableEq

namespace SemanticContextProjection

/-- `SemanticContextProjection.__post_init__` of what is selected and omitted for a request. -/
def create (sha : Sha256) (request : SemanticContextRequest) (nodes : List SemanticNode)
    (relations : List SemanticRelation) (omittedNodes omittedRelations : List Digest) :
    Except MacrError SemanticContextProjection := do
  raiseIf (maxProjectionNodes < nodes.length ∨ maxProjectionRelations < relations.length)
    (.valueError "semantic context projection exceeds hard limits")
  pure
    { requestDigest := request.requestDigest sha
      agentRunId := request.agentRunId
      graphId := request.graphId
      graphRevision := request.graphRevision
      graphDigest := request.graphDigest
      profile := request.profile
      nodes := sortOn (·.nodeId) nodes
      relations := sortOn (·.relationId) relations
      omittedNodeRecordDigests := sortOn id omittedNodes
      omittedRelationDigests := sortOn id omittedRelations }

end SemanticContextProjection

/-! ## The selection -/

/-- An obligation that is not resolved. -/
def IsUnresolvedObligation (node : SemanticNode) : Prop :=
  node.nodeType = .obligation ∧ node.status = .resolution "unresolved"

/-- An ambiguity that is not resolved. -/
def IsUnresolvedAmbiguity (node : SemanticNode) : Prop :=
  node.nodeType = .ambiguity ∧ node.status = .resolution "unresolved"

instance : DecidablePred IsUnresolvedObligation := fun node =>
  inferInstanceAs (Decidable (node.nodeType = .obligation ∧ node.status = .resolution "unresolved"))

instance : DecidablePred IsUnresolvedAmbiguity := fun node =>
  inferInstanceAs (Decidable (node.nodeType = .ambiguity ∧ node.status = .resolution "unresolved"))

namespace SemanticContextRequest

variable (sha : Sha256) (request : SemanticContextRequest) (nodes : List SemanticNode)
  (relations : List SemanticRelation)

/-- The set `mandatory` with the roots and the obligations. -/
def requiredIds : Finset String :=
  request.requiredRootNodeIds.toFinset ∪
    if request.profile.includeUnresolvedObligations then
      ((nodes.filter (fun node => decide (IsUnresolvedObligation node))).map (·.nodeId)).toFinset
    else ∅

/-- `blocking_sources`. -/
def blockingSources (required : Finset String) : Finset String :=
  ((relations.filter (fun relation => decide (relation.relationType = .blocks ∧
    relation.targetRef ∈ required))).map (·.sourceRef)).toFinset

/-- The set `mandatory` with the ambiguities too. -/
def mandatoryIds : Finset String :=
  let required := request.requiredIds nodes
  required ∪
    if request.profile.includeBlockingAmbiguities then
      ((nodes.filter (fun node => decide (node.nodeId ∈ blockingSources relations required ∧
        IsUnresolvedAmbiguity node))).map (·.nodeId)).toFinset
    else ∅

/-- A required goal has a relation to a required plan. -/
def GoalPlanConnected : Prop :=
  ∃ relation ∈ relations,
    (∃ goal ∈ nodes, goal.nodeId ∈ request.requiredRootNodeIds ∧ goal.nodeType = .goal ∧
      goal.nodeId = relation.sourceRef) ∧
    ∃ plan ∈ nodes, plan.nodeId ∈ request.requiredRootNodeIds ∧ plan.nodeType = .plan ∧
      plan.nodeId = relation.targetRef

instance : Decidable (request.GoalPlanConnected nodes relations) :=
  inferInstanceAs (Decidable (∃ relation ∈ relations,
    (∃ goal ∈ nodes, goal.nodeId ∈ request.requiredRootNodeIds ∧ goal.nodeType = .goal ∧
      goal.nodeId = relation.sourceRef) ∧
    ∃ plan ∈ nodes, plan.nodeId ∈ request.requiredRootNodeIds ∧ plan.nodeType = .plan ∧
      plan.nodeId = relation.targetRef))

/-- `mandatory_nodes`: the nodes of the mandatory identifiers. -/
def mandatoryNodes : List SemanticNode :=
  sortOn (·.nodeId)
    (nodes.filter (fun node => decide (node.nodeId ∈ request.mandatoryIds nodes relations)))

/-- `optional_nodes`. -/
def optionalNodes : List SemanticNode :=
  sortOn (·.nodeId)
    (nodes.filter (fun node => decide (node.nodeId ∉ request.mandatoryIds nodes relations ∧
      node.nodeType ∈ request.allowedNodeTypes)))

/-- `selected_nodes`. -/
def selectedNodes : List SemanticNode :=
  let mandatory := request.mandatoryNodes nodes relations
  mandatory ++
    (request.optionalNodes nodes relations).take (request.maxNodes - mandatory.length)

/-- `selected_ids`. -/
def selectedIds : Finset String :=
  ((request.selectedNodes nodes relations).map (·.nodeId)).toFinset

/-- `eligible_relations`. -/
def eligibleRelations : List SemanticRelation :=
  let selected := request.selectedIds nodes relations
  sortOn (·.relationId)
    (relations.filter (fun relation => decide (relation.sourceRef ∈ selected ∧
      relation.targetRef ∈ selected)))

/-- `mandatory_relations`. -/
def mandatoryRelations : List SemanticRelation :=
  let mandatory := request.mandatoryIds nodes relations
  (request.eligibleRelations nodes relations).filter (fun relation =>
    decide (relation.sourceRef ∈ mandatory ∧ relation.targetRef ∈ mandatory))

/-- `optional_relations`. -/
def optionalRelations : List SemanticRelation :=
  let mandatory := (request.mandatoryRelations nodes relations).map (·.relationDigest sha)
  (request.eligibleRelations nodes relations).filter (fun relation =>
    decide (relation.relationDigest sha ∉ mandatory))

/-- `selected_relations`. -/
def selectedRelations : List SemanticRelation :=
  let mandatory := request.mandatoryRelations nodes relations
  mandatory ++
    (request.optionalRelations sha nodes relations).take (request.maxRelations - mandatory.length)

/-- `_select`. -/
def select : Except MacrError SemanticContextProjection := do
  raiseIf (¬(nodes.map (·.nodeId)).Nodup) (projectionConflict "semantic node IDs are ambiguous")
  raiseIf (∃ root ∈ request.requiredRootNodeIds, root ∉ nodes.map (·.nodeId))
    (projectionIncomplete "required semantic root is absent")
  raiseIf (∃ node ∈ nodes, node.nodeId ∈ request.mandatoryIds nodes relations ∧
      node.nodeType ∉ request.allowedNodeTypes)
    (projectionIncomplete "required semantic node type is not allowed")
  raiseIf (request.profile.requireGoalPlanConnection = true ∧
      ¬request.GoalPlanConnected nodes relations)
    (projectionIncomplete "required Goal-to-Plan connection is absent")
  raiseIf (request.maxNodes < (request.mandatoryNodes nodes relations).length)
    (projectionIncomplete "required semantic nodes exceed projection limit")
  raiseIf (request.maxRelations < (request.mandatoryRelations nodes relations).length)
    (projectionIncomplete "required semantic relations exceed projection limit")
  let selectedNodes := request.selectedNodes nodes relations
  let selectedRelations := request.selectedRelations sha nodes relations
  SemanticContextProjection.create sha request selectedNodes selectedRelations
    ((nodes.map (·.recordDigest sha)).filter
      (fun digest => decide (digest ∉ selectedNodes.map (·.recordDigest sha))))
    ((relations.map (·.relationDigest sha)).filter
      (fun digest => decide (digest ∉ selectedRelations.map (·.relationDigest sha))))

/-! ## What is mandatory -/

/-- A node is asked for as a root, or as an unresolved obligation that the profile includes. -/
def Required (nodeId : String) : Prop :=
  nodeId ∈ request.requiredRootNodeIds ∨
    request.profile.includeUnresolvedObligations = true ∧
      ∃ node ∈ nodes, IsUnresolvedObligation node ∧ node.nodeId = nodeId

/-- An unresolved ambiguity directly blocks a node that is asked for. -/
def DirectlyBlocks (nodeId : String) : Prop :=
  ∃ node ∈ nodes, IsUnresolvedAmbiguity node ∧ node.nodeId = nodeId ∧
    ∃ relation ∈ relations, relation.relationType = .blocks ∧ relation.sourceRef = nodeId ∧
      request.Required nodes relation.targetRef

/-- A node is asked for, or directly blocks one that is and the profile includes such nodes. -/
def Mandatory (nodeId : String) : Prop :=
  request.Required nodes nodeId ∨
    request.profile.includeBlockingAmbiguities = true ∧
      request.DirectlyBlocks nodes relations nodeId

variable {sha : Sha256} {request : SemanticContextRequest} {nodes nodes' : List SemanticNode}
  {relations relations' : List SemanticRelation} {nodeId : String}

/-- The set of required identifiers holds them. -/
theorem mem_requiredIds : nodeId ∈ request.requiredIds nodes ↔ request.Required nodes nodeId := by
  unfold requiredIds Required
  cases request.profile.includeUnresolvedObligations
  · simp
  · simp [and_assoc]

/-- The set of mandatory identifiers holds them. -/
theorem mem_mandatoryIds :
    nodeId ∈ request.mandatoryIds nodes relations ↔ request.Mandatory nodes relations nodeId := by
  unfold mandatoryIds Mandatory DirectlyBlocks blockingSources
  simp only [Finset.mem_union, mem_requiredIds]
  refine or_congr Iff.rfl ?_
  cases request.profile.includeBlockingAmbiguities
  · simp
  · simp only [if_true, List.mem_toFinset, List.mem_map, List.mem_filter, decide_eq_true_eq,
      mem_requiredIds, true_and]
    constructor
    · rintro ⟨node, ⟨member, ⟨relation, ⟨held, blocks, target⟩, source⟩, unresolved⟩, rfl⟩
      exact ⟨node, member, unresolved, rfl, relation, held, blocks, source, target⟩
    · rintro ⟨node, member, unresolved, rfl, relation, held, blocks, source, target⟩
      exact ⟨node, ⟨member, ⟨relation, ⟨held, blocks, target⟩, source⟩, unresolved⟩, rfl⟩

/-! ## The order of the records -/

/-- What is mandatory does not depend on the order of the records. -/
theorem mandatoryIds_perm (nodePerm : nodes.Perm nodes')
    (relationPerm : relations.Perm relations') :
    request.mandatoryIds nodes relations = request.mandatoryIds nodes' relations' := by
  ext nodeId
  rw [mem_mandatoryIds, mem_mandatoryIds]
  unfold Mandatory DirectlyBlocks Required
  simp only [nodePerm.mem_iff, relationPerm.mem_iff]

/-- Sorted nodes that a filter keeps do not depend on the order they come in. -/
theorem sortOn_filter_perm {p : SemanticNode → Bool} (perm : nodes.Perm nodes')
    (distinct : (nodes.map (·.nodeId)).Nodup) :
    sortOn (·.nodeId) (nodes.filter p) = sortOn (·.nodeId) (nodes'.filter p) :=
  sortOn_eq_of_perm (perm.filter p) fun _ first _ second same =>
    List.inj_on_of_nodup_map distinct (List.mem_of_mem_filter first)
      (List.mem_of_mem_filter second) same

/-- Sorted digests that a filter keeps do not depend on the order they come in. -/
theorem sortOn_filter_digests {p : Digest → Bool} {digests others : List Digest}
    (perm : digests.Perm others) :
    sortOn id (digests.filter p) = sortOn id (others.filter p) :=
  sortOn_eq_of_perm (perm.filter p) fun _ _ _ _ same => same

/-- The selected nodes do not depend on the order of the records. -/
theorem selectedNodes_perm (nodePerm : nodes.Perm nodes')
    (relationPerm : relations.Perm relations') (distinct : (nodes.map (·.nodeId)).Nodup) :
    request.mandatoryNodes nodes relations = request.mandatoryNodes nodes' relations' ∧
      request.selectedNodes nodes relations = request.selectedNodes nodes' relations' := by
  have ids : request.mandatoryIds nodes relations = request.mandatoryIds nodes' relations' :=
    mandatoryIds_perm nodePerm relationPerm
  have mandatory : request.mandatoryNodes nodes relations =
      request.mandatoryNodes nodes' relations' := by
    unfold mandatoryNodes
    rw [ids]
    exact sortOn_filter_perm nodePerm distinct
  have rest : request.optionalNodes nodes relations = request.optionalNodes nodes' relations' := by
    unfold optionalNodes
    rw [ids]
    exact sortOn_filter_perm nodePerm distinct
  refine ⟨mandatory, ?_⟩
  unfold selectedNodes
  rw [mandatory, rest]

/-- The selected relations do not depend on the order of the records. -/
theorem selectedRelations_perm (nodePerm : nodes.Perm nodes')
    (relationPerm : relations.Perm relations') (distinct : (nodes.map (·.nodeId)).Nodup)
    (relationIds : (relations.map (·.relationId)).Nodup) :
    request.mandatoryRelations nodes relations = request.mandatoryRelations nodes' relations' ∧
      request.selectedRelations sha nodes relations =
        request.selectedRelations sha nodes' relations' := by
  have ids : request.mandatoryIds nodes relations = request.mandatoryIds nodes' relations' :=
    mandatoryIds_perm nodePerm relationPerm
  have selected : request.selectedIds nodes relations = request.selectedIds nodes' relations' := by
    unfold selectedIds
    rw [(selectedNodes_perm nodePerm relationPerm distinct).2]
  have eligible : request.eligibleRelations nodes relations =
      request.eligibleRelations nodes' relations' := by
    unfold eligibleRelations
    rw [selected]
    exact sortOn_eq_of_perm (relationPerm.filter _) fun _ first _ second same =>
      List.inj_on_of_nodup_map relationIds (List.mem_of_mem_filter first)
        (List.mem_of_mem_filter second) same
  have mandatory : request.mandatoryRelations nodes relations =
      request.mandatoryRelations nodes' relations' := by
    unfold mandatoryRelations
    rw [ids, eligible]
  refine ⟨mandatory, ?_⟩
  unfold selectedRelations optionalRelations
  rw [mandatory, eligible]

/-- What is selected does not depend on the order of the records, and neither does a refusal. -/
theorem select_perm (nodePerm : nodes.Perm nodes') (relationPerm : relations.Perm relations')
    (relationIds : (relations.map (·.relationId)).Nodup) :
    request.select sha nodes relations = request.select sha nodes' relations' := by
  have ambiguous : (nodes.map (·.nodeId)).Nodup ↔ (nodes'.map (·.nodeId)).Nodup :=
    (nodePerm.map _).nodup_iff
  by_cases distinct : (nodes.map (·.nodeId)).Nodup
  · have ids : request.mandatoryIds nodes relations = request.mandatoryIds nodes' relations' :=
      mandatoryIds_perm nodePerm relationPerm
    obtain ⟨mandatory, selected⟩ : request.mandatoryNodes nodes relations =
        request.mandatoryNodes nodes' relations' ∧ request.selectedNodes nodes relations =
          request.selectedNodes nodes' relations' :=
      selectedNodes_perm nodePerm relationPerm distinct
    obtain ⟨between, related⟩ : request.mandatoryRelations nodes relations =
        request.mandatoryRelations nodes' relations' ∧
          request.selectedRelations sha nodes relations =
            request.selectedRelations sha nodes' relations' :=
      selectedRelations_perm nodePerm relationPerm distinct relationIds
    have roots : ∀ root, root ∈ nodes.map (·.nodeId) ↔ root ∈ nodes'.map (·.nodeId) :=
      fun root => (nodePerm.map _).mem_iff
    have connected : request.GoalPlanConnected nodes relations ↔
        request.GoalPlanConnected nodes' relations' := by
      unfold GoalPlanConnected
      simp only [nodePerm.mem_iff, relationPerm.mem_iff]
    unfold select
    refine raiseIf_bind_congr (not_congr ambiguous) fun _ => ?_
    refine raiseIf_bind_congr (by simp only [roots]) fun _ => ?_
    refine raiseIf_bind_congr (by simp only [nodePerm.mem_iff, ids]) fun _ => ?_
    refine raiseIf_bind_congr (by simp only [connected]) fun _ => ?_
    refine raiseIf_bind_congr (by rw [mandatory]) fun _ => ?_
    refine raiseIf_bind_congr (by rw [between]) fun _ => ?_
    rw [selected, related]
    unfold SemanticContextProjection.create
    refine raiseIf_bind_congr Iff.rfl fun _ => ?_
    rw [sortOn_filter_digests (nodePerm.map (·.recordDigest sha)),
      sortOn_filter_digests (relationPerm.map (·.relationDigest sha))]
  · have distinct' : ¬(nodes'.map (·.nodeId)).Nodup := fun other => distinct (ambiguous.mpr other)
    unfold select
    rw [raiseIf_bind_of distinct, raiseIf_bind_of distinct']

/-! ## What is selected -/

/-- A selected node is one of the nodes. -/
theorem mem_of_selectedNodes {node : SemanticNode}
    (selected : node ∈ request.selectedNodes nodes relations) : node ∈ nodes := by
  unfold selectedNodes at selected
  rcases List.mem_append.mp selected with mandatory | rest
  · exact List.mem_of_mem_filter (mem_sortOn.mp mandatory)
  · exact List.mem_of_mem_filter (mem_sortOn.mp (List.mem_of_mem_take rest))

/-- A node of a mandatory identifier is selected. -/
theorem selected_of_mandatory {node : SemanticNode} (member : node ∈ nodes)
    (mandatory : request.Mandatory nodes relations node.nodeId) :
    node ∈ request.mandatoryNodes nodes relations ∧
      node ∈ request.selectedNodes nodes relations := by
  have listed : node ∈ request.mandatoryNodes nodes relations := by
    unfold mandatoryNodes
    rw [mem_sortOn, List.mem_filter, decide_eq_true_eq, mem_mandatoryIds]
    exact ⟨member, mandatory⟩
  exact ⟨listed, List.mem_append_left _ listed⟩

/-- No node is selected twice. -/
theorem nodup_selectedNodes (distinct : (nodes.map (·.nodeId)).Nodup) :
    (request.selectedNodes nodes relations).Nodup := by
  have nodup : nodes.Nodup := distinct.of_map
  have sorted : ∀ p : SemanticNode → Bool, (sortOn (·.nodeId) (nodes.filter p)).Nodup :=
    fun p => (sortOn_perm _ _).nodup_iff.mpr (nodup.filter p)
  unfold selectedNodes
  refine List.nodup_append.mpr ⟨sorted _, (sorted _).sublist (List.take_sublist _ _), ?_⟩
  intro node mandatory other rest same
  have isMandatory := (List.mem_filter.mp (mem_sortOn.mp mandatory)).2
  have isOptional := (List.mem_filter.mp (mem_sortOn.mp (List.mem_of_mem_take rest))).2
  rw [decide_eq_true_eq] at isMandatory isOptional
  exact isOptional.1 (same ▸ isMandatory)

/-- An eligible relation joins selected nodes. -/
theorem mem_eligibleRelations {relation : SemanticRelation} :
    relation ∈ request.eligibleRelations nodes relations ↔ relation ∈ relations ∧
      (∃ source ∈ request.selectedNodes nodes relations, source.nodeId = relation.sourceRef) ∧
      ∃ target ∈ request.selectedNodes nodes relations, target.nodeId = relation.targetRef := by
  unfold eligibleRelations selectedIds
  rw [mem_sortOn, List.mem_filter, decide_eq_true_eq]
  simp only [List.mem_toFinset, List.mem_map]

/-- A selected relation is eligible. -/
theorem eligible_of_selected {relation : SemanticRelation}
    (selected : relation ∈ request.selectedRelations sha nodes relations) :
    relation ∈ request.eligibleRelations nodes relations := by
  unfold selectedRelations at selected
  rcases List.mem_append.mp selected with mandatory | rest
  · exact List.mem_of_mem_filter mandatory
  · exact List.mem_of_mem_filter (List.mem_of_mem_take rest)

/-- No relation is selected twice. -/
theorem nodup_selectedRelations (nodup : relations.Nodup) :
    (request.selectedRelations sha nodes relations).Nodup := by
  have eligible : (request.eligibleRelations nodes relations).Nodup :=
    (sortOn_perm _ _).nodup_iff.mpr (nodup.filter _)
  unfold selectedRelations
  refine List.nodup_append.mpr
    ⟨eligible.filter _, (eligible.filter _).sublist (List.take_sublist _ _), ?_⟩
  intro relation mandatory other rest same
  have isOptional := (List.mem_filter.mp (List.mem_of_mem_take rest)).2
  rw [decide_eq_true_eq] at isOptional
  exact isOptional (List.mem_map.mpr ⟨relation, mandatory, by rw [same]⟩)

/-- What is selected of distinct items, and what is omitted of them by digest, are all of them. -/
theorem partition_of_selected {α : Type} [DecidableEq α] {digest : α → Digest}
    {items selected : List α} (distinct : (items.map digest).Nodup) (nodup : selected.Nodup)
    (within : ∀ item ∈ selected, item ∈ items) :
    ∃ omitted, (selected ++ omitted).Perm items ∧
      (items.map digest).filter (fun value => decide (value ∉ selected.map digest)) =
        omitted.map digest := by
  refine ⟨items.filter (fun item => decide (item ∉ selected)), ?_, ?_⟩
  · have kept : selected.Perm (items.filter (fun item => decide (item ∈ selected))) := by
      rw [List.perm_ext_iff_of_nodup nodup (distinct.of_map.filter _)]
      intro item
      rw [List.mem_filter, decide_eq_true_eq]
      exact ⟨fun member => ⟨within item member, member⟩, fun both => both.2⟩
    have split := List.filter_append_perm (fun item => decide (item ∈ selected)) items
    simp only [← decide_not] at split
    exact (kept.append_right _).trans split
  · rw [List.filter_map]
    congr 1
    apply List.filter_congr
    intro item member
    rw [Function.comp_apply, decide_eq_decide, not_iff_not, List.mem_map]
    constructor
    · rintro ⟨other, chosen, same⟩
      exact List.inj_on_of_nodup_map distinct (within other chosen) member same ▸ chosen
    · intro chosen
      exact ⟨item, chosen, rfl⟩

/-- What a selection has checked, and what it returns. -/
theorem select_eq_ok {projection : SemanticContextProjection}
    (done : request.select sha nodes relations = .ok projection) :
    (nodes.map (·.nodeId)).Nodup ∧
      (∀ root ∈ request.requiredRootNodeIds, root ∈ nodes.map (·.nodeId)) ∧
      (request.mandatoryNodes nodes relations).length ≤ request.maxNodes ∧
      (request.mandatoryRelations nodes relations).length ≤ request.maxRelations ∧
      projection.nodes.Perm (request.selectedNodes nodes relations) ∧
      projection.relations.Perm (request.selectedRelations sha nodes relations) ∧
      projection.omittedNodeRecordDigests.Perm ((nodes.map (·.recordDigest sha)).filter (fun digest =>
        decide (digest ∉ (request.selectedNodes nodes relations).map (·.recordDigest sha)))) ∧
      projection.omittedRelationDigests.Perm ((relations.map (·.relationDigest sha)).filter
        (fun digest => decide (digest ∉
          (request.selectedRelations sha nodes relations).map (·.relationDigest sha)))) := by
  simp only [select, SemanticContextProjection.create, bind_eq_ok, raiseIf_eq_ok, exists_const,
    pure_eq_ok, not_not, not_lt] at done
  obtain ⟨distinct, present, _, _, nodesFit, relationsFit, _, rfl⟩ := done
  refine ⟨distinct, ?_, nodesFit, relationsFit, sortOn_perm _ _, sortOn_perm _ _, sortOn_perm _ _,
    sortOn_perm _ _⟩
  intro root required
  by_contra absent
  exact present ⟨root, required, absent⟩

/-- Mandatory identifiers are identifiers of nodes when the roots are. -/
theorem exists_of_mandatory
    (roots : ∀ root ∈ request.requiredRootNodeIds, root ∈ nodes.map (·.nodeId))
    (mandatory : request.Mandatory nodes relations nodeId) :
    ∃ node ∈ nodes, node.nodeId = nodeId := by
  rcases mandatory with (root | ⟨_, node, member, _, same⟩) | ⟨_, node, member, _, same, _⟩
  · exact List.mem_map.mp (roots nodeId root)
  · exact ⟨node, member, same⟩
  · exact ⟨node, member, same⟩

/-- A relation between mandatory nodes is a mandatory relation. -/
theorem mem_mandatoryRelations
    (roots : ∀ root ∈ request.requiredRootNodeIds, root ∈ nodes.map (·.nodeId))
    {relation : SemanticRelation} (member : relation ∈ relations)
    (source : request.Mandatory nodes relations relation.sourceRef)
    (target : request.Mandatory nodes relations relation.targetRef) :
    relation ∈ request.mandatoryRelations nodes relations := by
  obtain ⟨first, firstMember, firstNamed⟩ := exists_of_mandatory roots source
  obtain ⟨second, secondMember, secondNamed⟩ := exists_of_mandatory roots target
  unfold mandatoryRelations
  rw [List.mem_filter, decide_eq_true_eq, mem_eligibleRelations, mem_mandatoryIds, mem_mandatoryIds]
  refine ⟨⟨member, ⟨first, ?_, firstNamed⟩, second, ?_, secondNamed⟩, source, target⟩
  · exact (selected_of_mandatory firstMember (firstNamed ▸ source)).2
  · exact (selected_of_mandatory secondMember (secondNamed ▸ target)).2

/-! ## Complete selections -/

/-- The records of a graph revision: no record is listed twice, and relations have distinct
identifiers. -/
structure GraphRecords (sha : Sha256) (nodes : List SemanticNode)
    (relations : List SemanticRelation) : Prop where
  /-- The nodes have distinct digests. -/
  nodeDigests : (nodes.map (·.recordDigest sha)).Nodup
  /-- The relations have distinct digests. -/
  relationDigests : (relations.map (·.relationDigest sha)).Nodup
  /-- The relations have distinct identifiers. -/
  relationIds : (relations.map (·.relationId)).Nodup

/-- A projection has what its request makes mandatory, within its bounds, and lists the rest. -/
structure Complete (sha : Sha256) (request : SemanticContextRequest) (nodes : List SemanticNode)
    (relations : List SemanticRelation) (projection : SemanticContextProjection) : Prop where
  /-- The roots are selected. -/
  roots : ∀ root ∈ request.requiredRootNodeIds, ∃ node ∈ projection.nodes, node.nodeId = root
  /-- The unresolved obligations are selected if the profile includes them. -/
  obligations : request.profile.includeUnresolvedObligations = true →
    ∀ node ∈ nodes, IsUnresolvedObligation node → node ∈ projection.nodes
  /-- The directly blocking ambiguities are selected if the profile includes them. -/
  ambiguities : request.profile.includeBlockingAmbiguities = true →
    ∀ node ∈ nodes, request.DirectlyBlocks nodes relations node.nodeId → node ∈ projection.nodes
  /-- A selected relation has both ends selected. -/
  endpoints : ∀ relation ∈ projection.relations,
    (∃ source ∈ projection.nodes, source.nodeId = relation.sourceRef) ∧
      ∃ target ∈ projection.nodes, target.nodeId = relation.targetRef
  /-- The relations between mandatory nodes are selected. -/
  between : ∀ relation ∈ relations, request.Mandatory nodes relations relation.sourceRef →
    request.Mandatory nodes relations relation.targetRef → relation ∈ projection.relations
  /-- The bounds are respected. -/
  limits : projection.nodes.length ≤ request.maxNodes ∧
    projection.relations.length ≤ request.maxRelations
  /-- The selected and the omitted nodes are those of the graph. -/
  nodePartition : ∃ omitted, (projection.nodes ++ omitted).Perm nodes ∧
    projection.omittedNodeRecordDigests.Perm (omitted.map (·.recordDigest sha))
  /-- The selected and the omitted relations are those of the graph. -/
  relationPartition : ∃ omitted, (projection.relations ++ omitted).Perm relations ∧
    projection.omittedRelationDigests.Perm (omitted.map (·.relationDigest sha))

/-- A selection that succeeds is complete. -/
theorem complete_of_select (records : GraphRecords sha nodes relations)
    {projection : SemanticContextProjection}
    (done : request.select sha nodes relations = .ok projection) :
    Complete sha request nodes relations projection := by
  obtain ⟨distinct, roots, nodesFit, relationsFit, chosen, related, omittedNodes,
    omittedRelations⟩ := select_eq_ok done
  have mandatory : ∀ node ∈ nodes, request.Mandatory nodes relations node.nodeId →
      node ∈ projection.nodes :=
    fun node member asked => chosen.mem_iff.mpr (selected_of_mandatory member asked).2
  constructor
  · intro root required
    obtain ⟨node, member, rfl⟩ := List.mem_map.mp (roots root required)
    exact ⟨node, mandatory node member (.inl (.inl required)), rfl⟩
  · intro included node member unresolved
    exact mandatory node member (.inl (.inr ⟨included, node, member, unresolved, rfl⟩))
  · intro included node member blocks
    exact mandatory node member (.inr ⟨included, blocks⟩)
  · intro relation member
    have eligible := eligible_of_selected (related.mem_iff.mp member)
    simpa only [chosen.mem_iff] using (mem_eligibleRelations.mp eligible).2
  · intro relation member source target
    apply related.mem_iff.mpr
    exact List.mem_append_left _ (mem_mandatoryRelations roots member source target)
  · rw [chosen.length_eq, related.length_eq]
    unfold selectedNodes selectedRelations
    simp only [List.length_append, List.length_take]
    omega
  · obtain ⟨omitted, all, listed⟩ := partition_of_selected records.nodeDigests
      (nodup_selectedNodes distinct) (fun _ selected => mem_of_selectedNodes selected)
    refine ⟨omitted, (chosen.append_right _).trans all, ?_⟩
    rw [← listed]
    exact omittedNodes
  · obtain ⟨omitted, all, listed⟩ := partition_of_selected records.relationDigests
      (nodup_selectedRelations records.relationDigests.of_map)
      (fun relation selected => (mem_eligibleRelations.mp (eligible_of_selected selected)).1)
    refine ⟨omitted, (related.append_right _).trans all, ?_⟩
    rw [← listed]
    exact omittedRelations

/-- A request with more mandatory nodes than it allows is refused. -/
theorem refused_of_mandatoryNodes {listed : List SemanticNode} (nodup : listed.Nodup)
    (mandatory : ∀ node ∈ listed, node ∈ nodes ∧ request.Mandatory nodes relations node.nodeId)
    (exceeds : request.maxNodes < listed.length) :
    ∃ error, request.select sha nodes relations = .error error := by
  cases done : request.select sha nodes relations with
  | error error => exact ⟨error, rfl⟩
  | ok projection =>
    have fits := (select_eq_ok done).2.2.1
    have within : listed ⊆ request.mandatoryNodes nodes relations :=
      fun node member => (selected_of_mandatory (mandatory node member).1
        (mandatory node member).2).1
    have shorter := (List.subperm_of_subset nodup within).length_le
    omega

/-- A request with more relations between mandatory nodes than it allows is refused. -/
theorem refused_of_mandatoryRelations {listed : List SemanticRelation} (nodup : listed.Nodup)
    (mandatory : ∀ relation ∈ listed, relation ∈ relations ∧
      request.Mandatory nodes relations relation.sourceRef ∧
      request.Mandatory nodes relations relation.targetRef)
    (exceeds : request.maxRelations < listed.length) :
    ∃ error, request.select sha nodes relations = .error error := by
  cases done : request.select sha nodes relations with
  | error error => exact ⟨error, rfl⟩
  | ok projection =>
    obtain ⟨_, roots, _, fits, _⟩ := select_eq_ok done
    have within : listed ⊆ request.mandatoryRelations nodes relations :=
      fun relation member => mem_mandatoryRelations roots (mandatory relation member).1
        (mandatory relation member).2.1 (mandatory relation member).2.2
    have shorter := (List.subperm_of_subset nodup within).length_le
    omega

/-- A selection of the records of a graph has what the request and its profile make mandatory,
whatever order the records come in; where that does not fit, the request is refused. -/
theorem selection_complete (sha : Sha256) (request : SemanticContextRequest)
    (nodes : List SemanticNode) (relations : List SemanticRelation)
    (records : GraphRecords sha nodes relations) :
    (∀ projection, request.select sha nodes relations = .ok projection →
        Complete sha request nodes relations projection) ∧
      (∀ nodes' relations', nodes.Perm nodes' → relations.Perm relations' →
        request.select sha nodes' relations' = request.select sha nodes relations) ∧
      (∀ listed : List SemanticNode, listed.Nodup →
        (∀ node ∈ listed, node ∈ nodes ∧ request.Mandatory nodes relations node.nodeId) →
        request.maxNodes < listed.length →
          ∃ error, request.select sha nodes relations = .error error) ∧
      ∀ listed : List SemanticRelation, listed.Nodup →
        (∀ relation ∈ listed, relation ∈ relations ∧
          request.Mandatory nodes relations relation.sourceRef ∧
          request.Mandatory nodes relations relation.targetRef) →
        request.maxRelations < listed.length →
          ∃ error, request.select sha nodes relations = .error error := by
  refine ⟨fun projection done => complete_of_select records done, ?_, ?_, ?_⟩
  · intro nodes' relations' nodePerm relationPerm
    exact (select_perm nodePerm relationPerm records.relationIds).symm
  · intro listed nodup mandatory exceeds
    exact refused_of_mandatoryNodes nodup mandatory exceeds
  · intro listed nodup mandatory exceeds
    exact refused_of_mandatoryRelations nodup mandatory exceeds

/-! ### A profile without obligations -/

/-- An obligation that is not resolved. -/
def sampleObligation : SemanticNode :=
  { AgentSystem.sampleTask with
    nodeId := "obligation"
    nodeType := .obligation
    status := .resolution "unresolved"
    statusFits := by decide }

/-- A request for the task alone, whose profile may include obligations. -/
def requestTask (obligations : Bool) : SemanticContextRequest where
  agentRunId := 1
  graphId := 9
  graphRevision := 2
  graphDigest := AgentSystem.sampleGraphDigest [AgentSystem.sampleTask, sampleObligation] []
  profile := ⟨"profile", "v1", false, obligations, true⟩
  requiredRootNodeIds := ["node"]
  allowedNodeTypes := [.obligation, .task]
  maxNodes := 1
  maxRelations := 1
  positive := Nat.two_pos
  roots := by decide
  allowed := by decide
  bounded := by decide

/-- The graph of the task and the obligation. -/
theorem selection_complete_of_task :
    GraphRecords foldDigest [AgentSystem.sampleTask, sampleObligation] [] ∧
      ∀ projection, (requestTask false).select foldDigest
          [AgentSystem.sampleTask, sampleObligation] [] = .ok projection →
        Complete foldDigest (requestTask false) [AgentSystem.sampleTask, sampleObligation] []
          projection := by
  have records : GraphRecords foldDigest [AgentSystem.sampleTask, sampleObligation] [] :=
    ⟨by decide +kernel, by decide, by decide⟩
  exact ⟨records, (selection_complete foldDigest (requestTask false) _ _ records).1⟩

/-- The selection leaves an unresolved obligation out. -/
theorem obligation_not_selected : ∃ projection,
    (requestTask false).select foldDigest [AgentSystem.sampleTask, sampleObligation] [] =
        .ok projection ∧
      IsUnresolvedObligation sampleObligation ∧ sampleObligation ∉ projection.nodes := by
  have left : ((requestTask false).select foldDigest
      [AgentSystem.sampleTask, sampleObligation] []).toOption.any
        (fun projection => decide (sampleObligation ∉ projection.nodes)) = true := by
    decide +kernel
  cases done : (requestTask false).select foldDigest
      [AgentSystem.sampleTask, sampleObligation] [] with
  | ok projection =>
    rw [done] at left
    exact ⟨projection, rfl, by decide, of_decide_eq_true left⟩
  | error raised =>
    rw [done] at left
    cases left

end SemanticContextRequest

end SemanticContextProjector

end Macr
