import Macr.Lib.Table
import Macr.Semantic.Patch

/-!
# What a compiled patch leads to

The compiler keeps node and relation identifiers distinct, keeps the scope of the graph and lets no
relation dangle. It checks the direction of the relations it adds and of no other: a node may be
superseded under its identifier by one of another type, and a relation that was there before then
joins types it was not checked for. The types a patch leaves behind are known before it is
compiled, so the patches that keep a graph well typed are known too.
-/

namespace Macr

open Lib

/-! ## Nodes by identifier -/

/-- Among distinct identifiers, a node is found exactly where it is stored. -/
theorem nodeAt_eq_some {nodes : List SemanticNode}
    (distinct : (nodes.map (fun node => node.nodeId)).Nodup) {nodeId : String}
    {node : SemanticNode} :
    nodeAt nodes nodeId = some node ↔ node ∈ nodes ∧ node.nodeId = nodeId := by
  let table : Table fun node : SemanticNode => node.nodeId := ⟨nodes, distinct⟩
  exact table.find?_eq_some nodeId node

/-- A lookup finds a node of the identifier. -/
theorem nodeId_of_nodeAt {nodes : List SemanticNode} {nodeId : String} {node : SemanticNode}
    (found : nodeAt nodes nodeId = some node) : node ∈ nodes ∧ node.nodeId = nodeId :=
  ⟨List.mem_of_find?_eq_some found, by simpa using List.find?_some found⟩

/-- A lookup in front of which a node is put. -/
theorem nodeAt_cons (node : SemanticNode) (nodes : List SemanticNode) (nodeId : String) :
    nodeAt (node :: nodes) nodeId =
      if node.nodeId = nodeId then some node else nodeAt nodes nodeId := by
  by_cases same : node.nodeId = nodeId <;> simp [nodeAt, same]

/-- A node after an assignment is the assigned one or one before. -/
theorem mem_assignNode {nodes : List SemanticNode} {node other : SemanticNode}
    (member : other ∈ assignNode nodes node) : other = node ∨ other ∈ nodes := by
  unfold assignNode at member
  split at member
  · obtain ⟨old, held, rfl⟩ := List.mem_map.mp member
    by_cases same : old.nodeId = node.nodeId
    · left
      exact if_pos same
    · right
      rw [if_neg same]
      exact held
  · rcases List.mem_append.mp member with held | new
    · exact .inr held
    · exact .inl (List.mem_singleton.mp new)

/-- An assignment keeps identifiers distinct. -/
theorem nodup_assignNode {nodes : List SemanticNode}
    (distinct : (nodes.map (fun node => node.nodeId)).Nodup) (node : SemanticNode) :
    ((assignNode nodes node).map (fun node => node.nodeId)).Nodup := by
  by_cases known : nodes.any (fun other => other.nodeId = node.nodeId) = true
  · have same : ((assignNode nodes node).map (fun node => node.nodeId)) =
        nodes.map (fun node => node.nodeId) := by
      unfold assignNode
      rw [if_pos known, List.map_map]
      apply List.map_congr_left
      intro other _
      by_cases own : other.nodeId = node.nodeId <;> simp [own]
    rw [same]
    exact distinct
  · have absent : node.nodeId ∉ nodes.map (fun node => node.nodeId) := by
      intro present
      obtain ⟨other, held, same⟩ := List.mem_map.mp present
      apply known
      exact List.any_eq_true.mpr ⟨other, held, by simpa using same⟩
    unfold assignNode
    rw [if_neg known, List.map_append]
    exact List.nodup_append_comm.mp (List.nodup_cons.mpr ⟨absent, distinct⟩)

/-- An assigned node is found under its identifier, and every other node as before. -/
theorem nodeAt_assignNode (nodes : List SemanticNode) (node : SemanticNode) (nodeId : String) :
    nodeAt (assignNode nodes node) nodeId =
      if node.nodeId = nodeId then some node else nodeAt nodes nodeId := by
  by_cases known : nodes.any (fun other => other.nodeId = node.nodeId) = true
  · have kept : ∀ other : SemanticNode,
        (if other.nodeId = node.nodeId then node else other).nodeId = other.nodeId := by
      intro other
      by_cases own : other.nodeId = node.nodeId <;> simp [own]
    have found : nodeAt (assignNode nodes node) nodeId = (nodeAt nodes nodeId).map
        (fun other => if other.nodeId = node.nodeId then node else other) := by
      unfold nodeAt assignNode
      rw [if_pos known, List.find?_map]
      simp only [Function.comp_def, kept]
    rw [found]
    by_cases own : node.nodeId = nodeId
    · obtain ⟨other, held, same⟩ := List.any_eq_true.mp known
      have present : nodeAt nodes nodeId ≠ none := by
        unfold nodeAt
        rw [ne_eq, List.find?_eq_none]
        intro absent
        exact absent other held (by simpa [← own] using same)
      rw [if_pos own]
      cases stored : nodeAt nodes nodeId with
      | none => exact absurd stored present
      | some old =>
        have key : old.nodeId = node.nodeId := (nodeId_of_nodeAt stored).2.trans own.symm
        simp [key]
    · rw [if_neg own]
      cases stored : nodeAt nodes nodeId with
      | none => rfl
      | some old =>
        have apart : old.nodeId ≠ node.nodeId :=
          fun same => own (same.symm.trans (nodeId_of_nodeAt stored).2)
        simp [apart]
  · have absent : nodeAt nodes node.nodeId = none := by
      unfold nodeAt
      rw [List.find?_eq_none]
      intro other held same
      exact known (List.any_eq_true.mpr ⟨other, held, same⟩)
    unfold assignNode
    rw [if_neg known]
    unfold nodeAt at absent ⊢
    rw [List.find?_append]
    by_cases own : node.nodeId = nodeId
    · rw [if_pos own, ← own, absent]
      simp
    · rw [if_neg own]
      simp [own]

/-! ## The types a patch leaves behind -/

/-- The type under an identifier after nodes are added: the last added node of the identifier, or
the node that was there. -/
def typeAfter (nodes added : List SemanticNode) (nodeId : String) : Option SemanticNodeType :=
  (nodeAt (added.reverse ++ nodes) nodeId).map (·.nodeType)

/-- One more added node replaces the type under its identifier. -/
theorem typeAfter_concat (nodes added : List SemanticNode) (node : SemanticNode)
    (nodeId : String) : typeAfter nodes (added ++ [node]) nodeId =
      if node.nodeId = nodeId then some node.nodeType else typeAfter nodes added nodeId := by
  unfold typeAfter
  rw [List.reverse_append, List.reverse_singleton, List.append_assoc, List.singleton_append,
    nodeAt_cons]
  by_cases same : node.nodeId = nodeId <;> simp [same]

/-- The registry allows every relation between the types a patch leaves at its ends. -/
def RetypesSafely (registry : SemanticRegistry) (nodes : List SemanticNode)
    (relations : List SemanticRelation) (patch : SemanticPatch) : Prop :=
  ∀ relation ∈ relations,
    ∀ source ∈ typeAfter nodes patch.addNodes relation.sourceRef,
      ∀ target ∈ typeAfter nodes patch.addNodes relation.targetRef,
        registry.allows source relation.relationType target = true

instance (registry : SemanticRegistry) (nodes : List SemanticNode)
    (relations : List SemanticRelation) (patch : SemanticPatch) :
    Decidable (RetypesSafely registry nodes relations patch) :=
  inferInstanceAs (Decidable (∀ relation ∈ relations,
    ∀ source ∈ typeAfter nodes patch.addNodes relation.sourceRef,
      ∀ target ∈ typeAfter nodes patch.addNodes relation.targetRef,
        registry.allows source relation.relationType target = true))

/-- The nodes of a graph while a patch replaces them. -/
structure NodesReplaced (nodes added : List SemanticNode) (scopeRef : String)
    (state : NodeReplacement) : Prop where
  /-- Identifiers are distinct. -/
  distinct : (state.nodes.map (fun node => node.nodeId)).Nodup
  /-- A node was there or is new. -/
  origin : ∀ node ∈ state.nodes, node ∈ nodes ∨ node ∈ state.added
  /-- Nodes are in the scope. -/
  inScope : ∀ node ∈ state.nodes, node.scopeRef = scopeRef
  /-- The types are those the added nodes leave. -/
  types : ∀ nodeId, (nodeAt state.nodes nodeId).map (·.nodeType) = typeAfter nodes added nodeId

/-- The relations of a graph while a patch adds to them. -/
structure RelationsAdded (registry : SemanticRegistry) (nodes : List SemanticNode)
    (relations added related : List SemanticRelation) : Prop where
  /-- Identifiers are distinct. -/
  distinct : (related.map (fun relation => relation.relationId)).Nodup
  /-- A relation was there or is added. -/
  origin : ∀ relation ∈ related, relation ∈ relations ∨ relation ∈ added
  /-- An added relation joins types that the registry allows. -/
  allowed : ∀ relation ∈ added, ∀ source ∈ nodeAt nodes relation.sourceRef,
    ∀ target ∈ nodeAt nodes relation.targetRef,
      registry.allows source.nodeType relation.relationType target.nodeType = true

namespace SemanticKernel

variable {kernel : SemanticKernel} {head : SemanticGraphHead} {nodes added : List SemanticNode}
  {state next : NodeReplacement} {supersession : List Digest}

/-- An assignment of a node in scope replaces the type under its identifier. -/
theorem nodesReplaced_assign {added later : List SemanticNode} {scopeRef : String}
    {node : SemanticNode} (held : NodesReplaced nodes added scopeRef state)
    (inside : node.scopeRef = scopeRef)
    (assigned : next.nodes = assignNode state.nodes node)
    (grown : next.added = state.added ++ [node])
    (types : ∀ nodeId, typeAfter nodes later nodeId =
      if node.nodeId = nodeId then some node.nodeType else typeAfter nodes added nodeId) :
    NodesReplaced nodes later scopeRef next := by
  constructor
  · rw [assigned]
    exact nodup_assignNode held.distinct node
  · intro other member
    rw [assigned] at member
    rw [grown]
    rcases mem_assignNode member with rfl | old
    · exact .inr (by simp)
    · rcases held.origin other old with base | new
      · exact .inl base
      · exact .inr (List.mem_append_left _ new)
  · intro other member
    rw [assigned] at member
    rcases mem_assignNode member with rfl | old
    · exact inside
    · exact held.inScope other old
  · intro nodeId
    rw [assigned, nodeAt_assignNode, types]
    by_cases own : node.nodeId = nodeId
    · rw [if_pos own, if_pos own]
      rfl
    · rw [if_neg own, if_neg own]
      exact held.types nodeId

/-- A turn of the loop over `add_nodes`. -/
theorem nodesReplaced_addNode {node : SemanticNode}
    (held : NodesReplaced nodes added head.scopeRef state)
    (turned : kernel.addNode head supersession state node = .ok next) :
    NodesReplaced nodes (added ++ [node]) head.scopeRef next := by
  simp only [addNode, validateNode, bind_eq_ok, raiseIf_eq_ok, exists_const, ne_eq,
    not_not] at turned
  obtain ⟨⟨_, inside⟩, turned⟩ := turned
  have types := typeAfter_concat nodes added node
  split at turned
  · simp only [bind_eq_ok, raiseIf_eq_ok, exists_const, pure_eq_ok] at turned
    obtain ⟨_, rfl⟩ := turned
    exact nodesReplaced_assign held inside rfl rfl types
  · rw [pure_eq_ok] at turned
    subst turned
    exact nodesReplaced_assign held inside rfl rfl types

/-- An updated node is one of the nodes. -/
theorem mem_of_updatedNode {update : List (String × Json)} {old : SemanticNode}
    (found : updatedNode nodes update = .ok old) : nodeAt nodes old.nodeId = some old := by
  simp only [updatedNode, bind_eq_ok, raiseIf_eq_ok, exists_const, require_eq_ok] at found
  obtain ⟨_, found⟩ := found
  split at found
  · rw [(nodeId_of_nodeAt found).2]
    exact found
  · cases found

/-- A turn of the loop over `status_updates`. -/
theorem nodesReplaced_updateStatus {scopeRef : String} {update : List (String × Json)}
    (held : NodesReplaced nodes added scopeRef state)
    (turned : kernel.updateStatus supersession state update = .ok next) :
    NodesReplaced nodes added scopeRef next := by
  simp only [updateStatus, bind_eq_ok, raiseIf_eq_ok, exists_const, pure_eq_ok] at turned
  obtain ⟨old, found, status, _, _, replacement, made, rfl⟩ := turned
  have stored := mem_of_updatedNode found
  obtain ⟨sameId, sameType, sameScope⟩ := SemanticNode.withStatus_eq_ok made
  have inside : replacement.scopeRef = scopeRef := by
    rw [sameScope]
    exact held.inScope old (nodeId_of_nodeAt stored).1
  apply nodesReplaced_assign held inside rfl rfl
  intro nodeId
  by_cases own : replacement.nodeId = nodeId
  · rw [if_pos own, ← held.types nodeId, ← own, sameId, stored, sameType]
    rfl
  · rw [if_neg own]

/-- The nodes when both loops have ended. -/
theorem nodesReplaced_of_loops {patch : SemanticPatch} {replaced : NodeReplacement}
    (distinct : (nodes.map (fun node => node.nodeId)).Nodup)
    (inScope : ∀ node ∈ nodes, node.scopeRef = head.scopeRef)
    (addedLoop : patch.addNodes.foldlM (kernel.addNode head supersession) ⟨nodes, [], [], []⟩ =
      .ok state)
    (statusLoop : patch.statusUpdates.foldlM (kernel.updateStatus supersession) state =
      .ok replaced) : NodesReplaced nodes patch.addNodes head.scopeRef replaced := by
  -- The nodes turned so far, with the rest, are those of the patch.
  have afterAdds : ∃ turned, patch.addNodes = turned ++ [] ∧
      NodesReplaced nodes turned head.scopeRef state := by
    apply foldlM_invariant (fun acc rest => ∃ turned, patch.addNodes = turned ++ rest ∧
      NodesReplaced nodes turned head.scopeRef acc) _ _ addedLoop
    · rintro acc node rest next ⟨turned, same, held⟩ step
      refine ⟨turned ++ [node], ?_, nodesReplaced_addNode held step⟩
      rw [same, List.append_assoc, List.singleton_append]
    · refine ⟨[], rfl, distinct, fun node member => .inl member, inScope, ?_⟩
      intro nodeId
      rfl
  obtain ⟨turned, same, held⟩ := afterAdds
  rw [List.append_nil] at same
  subst same
  apply foldlM_invariant (fun acc _ => NodesReplaced nodes patch.addNodes head.scopeRef acc) _ held
    statusLoop
  intro acc update rest next before step
  exact nodesReplaced_updateStatus before step

/-- A turn of the loop over `add_relations`. -/
theorem relationsAdded_addRelation {relations turned related after : List SemanticRelation}
    {relation : SemanticRelation}
    (held : RelationsAdded kernel.registry nodes relations turned related)
    (step : kernel.addRelation nodes related relation = .ok after) :
    RelationsAdded kernel.registry nodes relations (turned ++ [relation]) after := by
  simp only [addRelation, bind_eq_ok, raiseIf_eq_ok, exists_const, require_eq_ok] at step
  obtain ⟨fresh, source, sourceFound, target, targetFound, step⟩ := step
  split at step
  · rename_i allowed
    rw [pure_eq_ok] at step
    subst step
    rw [SemanticRegistry.requireRelation_eq_ok] at allowed
    constructor
    · have absent : relation.relationId ∉ related.map (fun relation => relation.relationId) := by
        intro present
        obtain ⟨other, member, same⟩ := List.mem_map.mp present
        exact fresh ⟨other, member, same⟩
      rw [List.map_append]
      exact List.nodup_append_comm.mp (List.nodup_cons.mpr ⟨absent, held.distinct⟩)
    · intro other member
      rcases List.mem_append.mp member with old | new
      · rcases held.origin other old with base | earlier
        · exact .inl base
        · exact .inr (List.mem_append_left _ earlier)
      · exact .inr (List.mem_append_right _ new)
    · intro other member first firstFound second secondFound
      rcases List.mem_append.mp member with old | new
      · exact held.allowed other old first firstFound second secondFound
      · rw [List.mem_singleton.mp new] at firstFound secondFound ⊢
        rw [Option.mem_def, sourceFound, Option.some.injEq] at firstFound
        rw [Option.mem_def, targetFound, Option.some.injEq] at secondFound
        rw [← firstFound, ← secondFound]
        exact allowed
  · cases step

/-- The relations when the loop has ended. -/
theorem relationsAdded_of_loop {added relations related : List SemanticRelation}
    (distinct : (relations.map (fun relation => relation.relationId)).Nodup)
    (loop : added.foldlM (kernel.addRelation nodes) relations = .ok related) :
    RelationsAdded kernel.registry nodes relations added related := by
  have ended : ∃ turned, added = turned ++ [] ∧
      RelationsAdded kernel.registry nodes relations turned related := by
    apply foldlM_invariant (fun acc rest => ∃ turned, added = turned ++ rest ∧
      RelationsAdded kernel.registry nodes relations turned acc) _ _ loop
    · rintro acc relation rest next ⟨turned, same, held⟩ step
      refine ⟨turned ++ [relation], ?_, relationsAdded_addRelation held step⟩
      rw [same, List.append_assoc, List.singleton_append]
    · exact ⟨[], rfl, distinct, fun relation member => .inl member, by simp⟩
  obtain ⟨turned, same, held⟩ := ended
  rw [List.append_nil] at same
  rw [same]
  exact held

end SemanticKernel

/-! ## Formed and typed graphs -/

/-- Active nodes and relations make a graph of the scope. -/
structure GraphFormed (scopeRef : String) (nodes : List SemanticNode)
    (relations : List SemanticRelation) : Prop where
  /-- Node identifiers are unique. -/
  nodeIds : (nodes.map (fun node => node.nodeId)).Nodup
  /-- Relation identifiers are unique. -/
  relationIds : (relations.map (fun relation => relation.relationId)).Nodup
  /-- Every node has the scope. -/
  inScope : ∀ node ∈ nodes, node.scopeRef = scopeRef
  /-- A relation has both ends. -/
  endpoints : ∀ relation ∈ relations,
    (∃ source ∈ nodes, source.nodeId = relation.sourceRef) ∧
      ∃ target ∈ nodes, target.nodeId = relation.targetRef

/-- Every active relation joins types that the registry allows. -/
def GraphTyped (registry : SemanticRegistry) (nodes : List SemanticNode)
    (relations : List SemanticRelation) : Prop :=
  ∀ relation ∈ relations, ∀ source ∈ nodes, ∀ target ∈ nodes,
    source.nodeId = relation.sourceRef → target.nodeId = relation.targetRef →
      registry.requireRelation source.nodeType relation.relationType target.nodeType = .ok ()

/-- What a compiled patch leads to from the active records it was compiled against. -/
structure PatchApplied (kernel : SemanticKernel) (scopeRef : String) (nodes : List SemanticNode)
    (relations : List SemanticRelation) (patch : SemanticPatch)
    (compiled : CompiledSemanticPatch) : Prop where
  /-- The active records make a graph. -/
  formed : GraphFormed scopeRef compiled.activeNodes compiled.activeRelations
  /-- An active node was there or is added. -/
  nodeOrigin : ∀ node ∈ compiled.activeNodes, node ∈ nodes ∨ node ∈ compiled.addedNodes
  /-- An active relation was there or is added. -/
  relationOrigin : ∀ relation ∈ compiled.activeRelations,
    relation ∈ relations ∨ relation ∈ compiled.addedRelations
  /-- The graph is typed when the relations that were there stay so. -/
  typed : RetypesSafely kernel.registry nodes relations patch →
    GraphTyped kernel.registry compiled.activeNodes compiled.activeRelations

/-- What the compiler accepts it applies. -/
theorem SemanticKernel.patchApplied_of_compile {kernel : SemanticKernel} {head : SemanticGraphHead}
    {proposal : SemanticPatchProposalRequest} {nodes : List SemanticNode}
    {relations : List SemanticRelation} {compiled : CompiledSemanticPatch}
    (inScope : ∀ node ∈ nodes, node.scopeRef = head.scopeRef)
    (made : kernel.compile head proposal nodes relations = .ok compiled) :
    PatchApplied kernel head.scopeRef nodes relations proposal.patch compiled := by
  simp only [compile, requireBase, bind_eq_ok, raiseIf_eq_ok, exists_const, not_not,
    pure_eq_ok] at made
  obtain ⟨⟨_, _, _, nodeIds, relationIds⟩, supersession, _, state, addedLoop, replaced, statusLoop,
    _, related, relationLoop, attached, _, _, rfl⟩ := made
  have nodesDone := nodesReplaced_of_loops nodeIds inScope addedLoop statusLoop
  have relationsDone := relationsAdded_of_loop relationIds relationLoop
  have nodePerm : (sortNodes kernel.sha replaced.nodes).Perm replaced.nodes :=
    List.mergeSort_perm _ _
  have addedPerm : (sortNodes kernel.sha replaced.added).Perm replaced.added :=
    List.mergeSort_perm _ _
  have relationPerm : (sortRelations kernel.sha related).Perm related :=
    List.mergeSort_perm _ _
  have ends : ∀ relation ∈ related, (∃ source ∈ replaced.nodes,
      source.nodeId = relation.sourceRef) ∧ ∃ target ∈ replaced.nodes,
        target.nodeId = relation.targetRef := by
    intro relation member
    have present : ¬(nodeAt replaced.nodes relation.sourceRef = none ∨
        nodeAt replaced.nodes relation.targetRef = none) :=
      fun dangling => attached ⟨relation, member, dangling⟩
    rw [not_or] at present
    obtain ⟨source, sourceFound⟩ := Option.ne_none_iff_exists'.mp present.1
    obtain ⟨target, targetFound⟩ := Option.ne_none_iff_exists'.mp present.2
    exact ⟨⟨source, nodeId_of_nodeAt sourceFound⟩, target, nodeId_of_nodeAt targetFound⟩
  constructor
  · constructor
    · exact (nodePerm.map _).nodup_iff.mpr nodesDone.distinct
    · exact (relationPerm.map _).nodup_iff.mpr relationsDone.distinct
    · intro node member
      exact nodesDone.inScope node (nodePerm.mem_iff.mp member)
    · intro relation member
      have both := ends relation (relationPerm.mem_iff.mp member)
      simpa only [nodePerm.mem_iff] using both
  · intro node member
    rcases nodesDone.origin node (nodePerm.mem_iff.mp member) with base | new
    · exact .inl base
    · exact .inr (addedPerm.mem_iff.mpr new)
  · intro relation member
    exact relationsDone.origin relation (relationPerm.mem_iff.mp member)
  · intro safe relation member source sourceMember target targetMember sourceNamed targetNamed
    have sourceFound : nodeAt replaced.nodes relation.sourceRef = some source :=
      (nodeAt_eq_some nodesDone.distinct).mpr ⟨nodePerm.mem_iff.mp sourceMember, sourceNamed⟩
    have targetFound : nodeAt replaced.nodes relation.targetRef = some target :=
      (nodeAt_eq_some nodesDone.distinct).mpr ⟨nodePerm.mem_iff.mp targetMember, targetNamed⟩
    rw [SemanticRegistry.requireRelation_eq_ok]
    rcases relationsDone.origin relation (relationPerm.mem_iff.mp member) with base | new
    · apply safe relation base
      · rw [← nodesDone.types, sourceFound]
        rfl
      · rw [← nodesDone.types, targetFound]
        rfl
    · exact relationsDone.allowed relation new source sourceFound target targetFound

end Macr
