import Macr.Semantic.Typing

/-!
# The delta of a patch

A compiled patch is a ledger: the records that were active, those it adds and those it supersedes
determine the records that are active after it. Adds and status updates write records under
identifiers, one after the other, and the record written over is superseded; what stands under an
identifier at the end is the record written last. The ledger is exact unless such a record had
been superseded before it was written again.
-/

namespace Macr

open Lib

/-! ## The record a patch leaves under an identifier -/

/-- A status update names the node of an identifier. -/
def UpdateNames (nodeId : String) (update : List (String × Json)) : Prop :=
  fieldOf update "node_id" = some (.str nodeId)

instance (nodeId : String) : DecidablePred (UpdateNames nodeId) := fun update =>
  inferInstanceAs (Decidable (fieldOf update "node_id" = some (.str nodeId)))

/-- The node in the status that an update names. -/
def restated (node : SemanticNode) (update : List (String × Json)) : Option SemanticNode := do
  let status ← (parseSemanticStatus node.nodeType (fieldOf update "to_status")).toOption
  (node.withStatus status).toOption

/-- The record a patch leaves under an identifier: the node added last under it, or else the one
that was there, in the status that the last update for it names. -/
def recordAfter (nodes added : List SemanticNode) (updates : List (List (String × Json)))
    (nodeId : String) : Option SemanticNode := do
  let node ← nodeAt (added.reverse ++ nodes) nodeId
  match updates.reverse.find? (fun update => decide (UpdateNames nodeId update)) with
  | some update => restated node update
  | none => some node

/-- Without updates the record is the one added last or there before. -/
@[simp] theorem recordAfter_nil (nodes added : List SemanticNode) (nodeId : String) :
    recordAfter nodes added [] nodeId = nodeAt (added.reverse ++ nodes) nodeId := by
  unfold recordAfter
  cases nodeAt (added.reverse ++ nodes) nodeId <;> rfl

/-- One more update restates the record it names and no other. -/
theorem recordAfter_concat (nodes added : List SemanticNode)
    (updates : List (List (String × Json))) (update : List (String × Json)) (nodeId : String) :
    recordAfter nodes added (updates ++ [update]) nodeId =
      if UpdateNames nodeId update then
        (nodeAt (added.reverse ++ nodes) nodeId).bind (restated · update)
      else recordAfter nodes added updates nodeId := by
  unfold recordAfter
  rw [List.reverse_append, List.reverse_singleton, List.singleton_append, List.find?_cons]
  by_cases named : UpdateNames nodeId update
  · simp only [named, decide_true, if_true]
    rfl
  · simp only [named, decide_false, if_false]

/-- A status given last is the one that stays. -/
theorem withStatus_withStatus {node first : SemanticNode} {before status : SemanticStatus}
    (made : node.withStatus before = .ok first) :
    first.withStatus status = node.withStatus status := by
  unfold SemanticNode.withStatus at made
  split at made
  · rw [← Except.ok.inj made]
    rfl
  · exact absurd made (by simp)

/-- The record under an identifier has the type of the node it was made from, and is restated as
that node is. -/
theorem recordAfter_eq_some {nodes added : List SemanticNode}
    {updates : List (List (String × Json))} {nodeId : String} {record : SemanticNode}
    (stands : recordAfter nodes added updates nodeId = some record) :
    ∃ node, nodeAt (added.reverse ++ nodes) nodeId = some node ∧
      record.nodeType = node.nodeType ∧
        ∀ status, record.withStatus status = node.withStatus status := by
  unfold recordAfter at stands
  obtain ⟨node, found, last⟩ := Option.bind_eq_some_iff.mp stands
  refine ⟨node, found, ?_⟩
  split at last
  · obtain ⟨status, _, made⟩ := Option.bind_eq_some_iff.mp last
    have changed : node.withStatus status = .ok record := by
      cases given : node.withStatus status with
      | ok other =>
        rw [given] at made
        exact congrArg Except.ok (Option.some.inj made)
      | error raised =>
        rw [given] at made
        cases made
    exact ⟨(SemanticNode.withStatus_eq_ok changed).2.1,
      fun later => withStatus_withStatus changed⟩
  · rw [← Option.some.inj last]
    exact ⟨rfl, fun _ => rfl⟩

/-! ## The ledger of the two loops -/

/-- A digest is that of a record that was there, or written, before another record was written
under its identifier. -/
def SupersededBy (sha : Sha256) (nodes writes : List SemanticNode) (digest : Digest) : Prop :=
  ∃ before new after old, writes = before ++ new :: after ∧ old.nodeId = new.nodeId ∧
    (old ∈ nodes ∨ old ∈ before) ∧ old.recordDigest sha = digest

/-- A record that is superseded stays so when more is written. -/
theorem SupersededBy.append {sha : Sha256} {nodes writes : List SemanticNode} {digest : Digest}
    (superseded : SupersededBy sha nodes writes digest) (later : List SemanticNode) :
    SupersededBy sha nodes (writes ++ later) digest := by
  obtain ⟨before, new, after, old, rfl, same, origin, stated⟩ := superseded
  exact ⟨before, new, after ++ later, old, by simp, same, origin, stated⟩

/-- The variables of `compile` account for every record written. -/
structure Ledger (sha : Sha256) (nodes : List SemanticNode) (state : NodeReplacement) :
    Prop where
  /-- Identifiers are distinct. -/
  distinct : (state.nodes.map (fun node => node.nodeId)).Nodup
  /-- Under an identifier stands the record written last. -/
  stands : ∀ nodeId, nodeAt state.nodes nodeId = nodeAt (state.added.reverse ++ nodes) nodeId
  /-- A consumed digest is that of a record written over. -/
  origin : ∀ digest ∈ state.consumed, SupersededBy sha nodes state.added digest
  /-- A record that is not there any more is consumed. -/
  balanced : ∀ node, node ∈ nodes ∨ node ∈ state.added →
    nodeAt state.nodes node.nodeId = some node ∨ node.recordDigest sha ∈ state.consumed

/-- What stands under an identifier was there or is written. -/
theorem Ledger.mem_of_stands {sha : Sha256} {nodes : List SemanticNode} {state : NodeReplacement}
    (ledger : Ledger sha nodes state) {nodeId : String} {node : SemanticNode}
    (found : nodeAt state.nodes nodeId = some node) : node ∈ nodes ∨ node ∈ state.added := by
  rw [ledger.stands] at found
  rcases List.mem_append.mp (nodeId_of_nodeAt found).1 with new | base
  · exact .inr (List.mem_reverse.mp new)
  · exact .inl base

/-- A record is written: the one that stands under its identifier is consumed. -/
theorem Ledger.write {sha : Sha256} {nodes : List SemanticNode} {state next : NodeReplacement}
    {node : SemanticNode} (ledger : Ledger sha nodes state)
    (assigned : next.nodes = assignNode state.nodes node)
    (grown : next.added = state.added ++ [node])
    (consumed : ∀ digest, digest ∈ next.consumed ↔ digest ∈ state.consumed ∨
      ∃ old, nodeAt state.nodes node.nodeId = some old ∧ old.recordDigest sha = digest) :
    Ledger sha nodes next := by
  constructor
  · rw [assigned]
    exact nodup_assignNode ledger.distinct node
  · intro nodeId
    rw [assigned, grown, nodeAt_assignNode, List.reverse_append, List.reverse_singleton,
      List.append_assoc, List.singleton_append, nodeAt_cons, ledger.stands]
  · intro digest member
    rw [grown]
    rcases (consumed digest).mp member with earlier | ⟨old, found, stated⟩
    · exact (ledger.origin digest earlier).append [node]
    · exact ⟨state.added, node, [], old, rfl, (nodeId_of_nodeAt found).2,
        ledger.mem_of_stands found, stated⟩
  · intro other written
    rw [assigned, nodeAt_assignNode]
    have known : other = node ∨ other ∈ nodes ∨ other ∈ state.added := by
      rw [grown] at written
      rcases written with base | new
      · exact .inr (.inl base)
      · rcases List.mem_append.mp new with earlier | own
        · exact .inr (.inr earlier)
        · exact .inl (List.mem_singleton.mp own)
    rcases known with rfl | before
    · exact .inl (if_pos rfl)
    · rcases ledger.balanced other before with there | gone
      · by_cases own : node.nodeId = other.nodeId
        · right
          rw [consumed]
          right
          exact ⟨other, own ▸ there, rfl⟩
        · left
          rw [if_neg own]
          exact there
      · right
        rw [consumed]
        exact .inl gone

/-- The variables of `compile` while it applies the updates of a patch. -/
structure Updating (sha : Sha256) (nodes added : List SemanticNode)
    (turned : List (List (String × Json))) (state : NodeReplacement) : Prop where
  /-- The records are accounted for. -/
  ledger : Ledger sha nodes state
  /-- The nodes of the patch were written, then those restated. -/
  writes : state.added = added ++ state.statusNodes
  /-- Each update has restated the node it names. -/
  named : List.Forall₂ (fun update node => UpdateNames node.nodeId update) turned
    state.statusNodes
  /-- What stands is what the patch leaves. -/
  left : ∀ nodeId, nodeAt state.nodes nodeId = recordAfter nodes added turned nodeId

namespace SemanticKernel

variable {kernel : SemanticKernel} {head : SemanticGraphHead} {nodes : List SemanticNode}
  {state next : NodeReplacement} {supersession : List Digest}

/-- A turn of the loop over `add_nodes` writes its node. -/
theorem ledger_addNode {node : SemanticNode} (ledger : Ledger kernel.sha nodes state)
    (turned : kernel.addNode head supersession state node = .ok next) :
    Ledger kernel.sha nodes next ∧ next.added = state.added ++ [node] ∧
      next.statusNodes = state.statusNodes := by
  simp only [addNode, bind_eq_ok] at turned
  obtain ⟨_, _, turned⟩ := turned
  split at turned
  · rename_i old found
    simp only [bind_eq_ok, raiseIf_eq_ok, exists_const, pure_eq_ok] at turned
    obtain ⟨_, rfl⟩ := turned
    refine ⟨ledger.write rfl rfl ?_, rfl, rfl⟩
    intro digest
    simp only [List.mem_insert_iff, found, Option.some.injEq, exists_eq_left']
    constructor
    · rintro (rfl | member)
      · exact .inr rfl
      · exact .inl member
    · rintro (member | rfl)
      · exact .inr member
      · exact .inl rfl
  · rename_i absent
    rw [pure_eq_ok] at turned
    subst turned
    refine ⟨ledger.write rfl rfl ?_, rfl, rfl⟩
    intro digest
    simp [absent]

/-- What a turn of the loop over `status_updates` reads and writes. -/
theorem updateStatus_eq_ok {update : List (String × Json)}
    (turned : kernel.updateStatus supersession state update = .ok next) :
    ∃ old status replacement, nodeAt state.nodes old.nodeId = some old ∧
      UpdateNames old.nodeId update ∧
      parseSemanticStatus old.nodeType (fieldOf update "to_status") = .ok status ∧
      old.withStatus status = .ok replacement ∧
      next = ⟨assignNode state.nodes replacement,
        state.consumed.insert (old.recordDigest kernel.sha), state.added ++ [replacement],
        state.statusNodes ++ [replacement]⟩ := by
  simp only [updateStatus, bind_eq_ok, raiseIf_eq_ok, exists_const, pure_eq_ok] at turned
  obtain ⟨old, found, status, parsed, _, replacement, made, rfl⟩ := turned
  simp only [parseStatusUpdate, bind_eq_ok, raiseIf_eq_ok, exists_const, pure_eq_ok, ne_eq,
    not_not] at parsed
  obtain ⟨_, _, named, _, _, _, _, read, _, _, _, _, _, _, rfl⟩ := parsed
  exact ⟨old, _, replacement, mem_of_updatedNode found, named, read, made, rfl⟩

/-- A turn of the loop over `status_updates` writes the record it restates. -/
theorem ledger_updateStatus {update : List (String × Json)}
    (ledger : Ledger kernel.sha nodes state)
    (turned : kernel.updateStatus supersession state update = .ok next) :
    Ledger kernel.sha nodes next := by
  obtain ⟨old, status, replacement, found, _, _, made, rfl⟩ := updateStatus_eq_ok turned
  have same := (SemanticNode.withStatus_eq_ok made).1
  refine ledger.write rfl rfl ?_
  intro digest
  simp only [List.mem_insert_iff, same, found, Option.some.injEq, exists_eq_left']
  constructor
  · rintro (rfl | member)
    · exact .inr rfl
    · exact .inl member
  · rintro (member | rfl)
    · exact .inr member
    · exact .inl rfl

/-! ## What the loops have written -/

/-- A turn of the loop over `status_updates`. -/
theorem updating_updateStatus {added : List SemanticNode} {turned : List (List (String × Json))}
    {update : List (String × Json)} (held : Updating kernel.sha nodes added turned state)
    (step : kernel.updateStatus supersession state update = .ok next) :
    Updating kernel.sha nodes added (turned ++ [update]) next := by
  have ledger := ledger_updateStatus held.ledger step
  obtain ⟨old, status, replacement, found, names, read, made, rfl⟩ := updateStatus_eq_ok step
  have sameId := (SemanticNode.withStatus_eq_ok made).1
  constructor
  · exact ledger
  · show state.added ++ [replacement] = added ++ (state.statusNodes ++ [replacement])
    rw [held.writes, List.append_assoc]
  · refine List.rel_append held.named ?_
    refine .cons ?_ .nil
    rw [sameId]
    exact names
  · intro nodeId
    show nodeAt (assignNode state.nodes replacement) nodeId = _
    rw [nodeAt_assignNode, recordAfter_concat, sameId]
    by_cases own : old.nodeId = nodeId
    · subst own
      have stood := found
      rw [held.left] at stood
      obtain ⟨node, base, sameType, sameStatus⟩ := recordAfter_eq_some stood
      rw [if_pos rfl, if_pos names, base, Option.bind_some]
      unfold restated
      rw [← sameType, read]
      show some replacement = (node.withStatus status).toOption
      rw [← sameStatus, made]
      rfl
    · have other : ¬UpdateNames nodeId update := by
        intro alsoNamed
        have same := names.symm.trans alsoNamed
        exact own (by simpa using same)
      rw [if_neg own, if_neg other]
      exact held.left nodeId

/-- The variables when both loops have ended. -/
theorem updating_of_loops {patch : SemanticPatch} {replaced : NodeReplacement}
    (distinct : (nodes.map (fun node => node.nodeId)).Nodup)
    (addedLoop : patch.addNodes.foldlM (kernel.addNode head supersession) ⟨nodes, [], [], []⟩ =
      .ok state)
    (statusLoop : patch.statusUpdates.foldlM (kernel.updateStatus supersession) state =
      .ok replaced) : Updating kernel.sha nodes patch.addNodes patch.statusUpdates replaced := by
  have afterAdds : patch.addNodes = state.added ++ [] ∧ Ledger kernel.sha nodes state ∧
      state.statusNodes = [] := by
    apply foldlM_invariant (fun acc rest => patch.addNodes = acc.added ++ rest ∧
      Ledger kernel.sha nodes acc ∧ acc.statusNodes = []) _ _ addedLoop
    · rintro acc node rest next ⟨same, held, none⟩ step
      obtain ⟨ledger, grown, kept⟩ := ledger_addNode held step
      refine ⟨?_, ledger, kept.trans none⟩
      rw [same, grown, List.append_assoc, List.singleton_append]
    · refine ⟨rfl, ⟨distinct, fun nodeId => rfl, ?_, ?_⟩, rfl⟩
      · intro digest member
        cases member
      · intro node present
        rcases present with base | new
        · exact .inl ((nodeAt_eq_some distinct).mpr ⟨base, rfl⟩)
        · cases new
  obtain ⟨same, ledger, none⟩ := afterAdds
  rw [List.append_nil] at same
  have started : Updating kernel.sha nodes patch.addNodes [] state := by
    refine ⟨ledger, ?_, ?_, ?_⟩
    · rw [none, same, List.append_nil]
    · rw [none]
      exact .nil
    · intro nodeId
      rw [recordAfter_nil, ledger.stands, same]
  have ended : ∃ turned, patch.statusUpdates = turned ++ [] ∧
      Updating kernel.sha nodes patch.addNodes turned replaced := by
    apply foldlM_invariant (fun acc rest => ∃ turned, patch.statusUpdates = turned ++ rest ∧
      Updating kernel.sha nodes patch.addNodes turned acc) _ ⟨[], rfl, started⟩ statusLoop
    rintro acc update rest next ⟨turned, split, held⟩ step
    refine ⟨turned ++ [update], ?_, updating_updateStatus held step⟩
    rw [split, List.append_assoc, List.singleton_append]
  obtain ⟨turned, split, held⟩ := ended
  rw [List.append_nil] at split
  rw [split]
  exact held

/-- The loop over `add_relations` appends the relations of the patch. -/
theorem related_of_loop {relations added related : List SemanticRelation}
    (loop : added.foldlM (kernel.addRelation nodes) relations = .ok related) :
    related = relations ++ added := by
  have ended : relations ++ added = related ++ [] := by
    apply foldlM_invariant (fun acc rest => relations ++ added = acc ++ rest) _ rfl loop
    intro acc relation rest next same step
    simp only [addRelation, bind_eq_ok, raiseIf_eq_ok, exists_const, require_eq_ok] at step
    obtain ⟨_, source, _, target, _, step⟩ := step
    split at step
    · rw [pure_eq_ok] at step
      rw [← step, same, List.append_assoc, List.singleton_append]
    · cases step
  rw [List.append_nil] at ended
  exact ended.symm

/-- The supersession references of an accepted patch are digests, in their order. -/
theorem mem_supersessionOf {patch : SemanticPatch} {references : List Digest}
    (read : supersessionOf patch = .ok references) :
    patch.supersessionRefs = references.map .hex := by
  unfold supersessionOf at read
  generalize patch.supersessionRefs = given at read
  induction given generalizing references with
  | nil =>
    cases read
    rfl
  | cons reference rest ih =>
    rw [List.mapM_cons] at read
    simp only [bind_eq_ok, pure_eq_ok] at read
    obtain ⟨digest, first, digests, later, rfl⟩ := read
    rw [List.map_cons, ← ih later]
    congr 1
    cases reference with
    | hex value =>
      have same : value = digest := Except.ok.inj first
      rw [same]
    | _ => cases first

end SemanticKernel

/-! ## The delta law -/

/-- The records a compiled patch leads to are those before it, less the superseded and with the
added ones. -/
structure DeltaLaw (sha : Sha256) (head : SemanticGraphHead) (nodes : List SemanticNode)
    (relations : List SemanticRelation) (patch : SemanticPatch)
    (compiled : CompiledSemanticPatch) : Prop where
  /-- No superseded digest is that of an active node. -/
  apart : ∀ digest ∈ compiled.supersededRecordDigests,
    digest ∉ compiled.activeNodes.map (·.recordDigest sha)
  /-- The active nodes are those of the base and those added, without the superseded. -/
  active : ∀ digest, digest ∈ compiled.activeNodes.map (·.recordDigest sha) ↔
    digest ∈ head.activeNodeRecordDigests ∧ digest ∉ compiled.supersededRecordDigests ∨
      digest ∈ compiled.addedNodes.map (·.recordDigest sha) ∧
        digest ∉ compiled.supersededRecordDigests
  /-- The active relations are those of the base and those added. -/
  related : compiled.addedRelations = patch.addRelations ∧
    compiled.activeRelations.Perm (relations ++ patch.addRelations)
  /-- A superseded digest is that of a node of the base, or of one written before it was written
  over: first the nodes of the patch are written, then those its updates name. -/
  origin : ∃ updated,
    List.Forall₂ (fun update node => UpdateNames node.nodeId update) patch.statusUpdates updated ∧
      compiled.addedNodes.Perm (patch.addNodes ++ updated) ∧
      ∀ digest ∈ compiled.supersededRecordDigests,
        SupersededBy sha nodes (patch.addNodes ++ updated) digest
  /-- The next digest is that of the active records. -/
  digest : calculateGraphDigest sha head.registryVersion head.registryDigest
    (compiled.activeNodes.map (·.recordDigest sha))
    (compiled.activeRelations.map (·.relationDigest sha)) = .ok compiled.nextGraphDigest

/-- No record that a patch leaves under an identifier is one that the patch supersedes. -/
def NothingReturns (sha : Sha256) (nodes : List SemanticNode) (patch : SemanticPatch) : Prop :=
  ∀ nodeId, ∀ node ∈ recordAfter nodes patch.addNodes patch.statusUpdates nodeId,
    Json.hex (node.recordDigest sha) ∉ patch.supersessionRefs

/-- What the compiler has read and computed of nodes when it accepts a patch. -/
structure NodesCompiled (sha : Sha256) (head : SemanticGraphHead) (nodes : List SemanticNode)
    (patch : SemanticPatch) (replaced : NodeReplacement) (compiled : CompiledSemanticPatch) :
    Prop where
  /-- The head lists the nodes. -/
  base : ∀ digest, digest ∈ head.activeNodeRecordDigests ↔
    ∃ node ∈ nodes, node.recordDigest sha = digest
  /-- The loops have ended. -/
  updating : Updating sha nodes patch.addNodes patch.statusUpdates replaced
  /-- The active nodes are those of the map. -/
  active : compiled.activeNodes.Perm replaced.nodes
  /-- The added nodes are those written. -/
  added : compiled.addedNodes.Perm replaced.added
  /-- The superseded records are those the patch refers to. -/
  referred : ∀ digest, digest ∈ compiled.supersededRecordDigests ↔
    Json.hex digest ∈ patch.supersessionRefs
  /-- They are those consumed. -/
  consumed : compiled.supersededRecordDigests.Perm replaced.consumed

namespace SemanticKernel

variable {kernel : SemanticKernel} {head : SemanticGraphHead}
  {proposal : SemanticPatchProposalRequest} {nodes : List SemanticNode}
  {relations : List SemanticRelation} {compiled : CompiledSemanticPatch}

/-- The nodes of an accepted patch. -/
theorem nodesCompiled_of_compile
    (made : kernel.compile head proposal nodes relations = .ok compiled) :
    ∃ replaced, NodesCompiled kernel.sha head nodes proposal.patch replaced compiled := by
  simp only [compile, requireBase, bind_eq_ok, raiseIf_eq_ok, exists_const, not_not,
    pure_eq_ok] at made
  obtain ⟨⟨_, _, ⟨listed, held, _⟩, nodeIds, _⟩, supersession, read, state, addedLoop, replaced,
    statusLoop, exact, related, _, _, _, _, rfl⟩ := made
  have updating := updating_of_loops nodeIds addedLoop statusLoop
  have consumed : (replaced.consumed.mergeSort (fun left right => decide (left ≤ right))).Perm
      replaced.consumed := List.mergeSort_perm _ _
  refine ⟨replaced, ?_, updating, List.mergeSort_perm _ _, List.mergeSort_perm _ _, ?_,
    consumed⟩
  · intro digest
    constructor
    · exact held digest
    · rintro ⟨node, member, rfl⟩
      exact listed node member
  · intro digest
    rw [consumed.mem_iff, mem_supersessionOf read]
    constructor
    · intro member
      exact List.mem_map.mpr ⟨digest, exact.1 digest member, rfl⟩
    · intro member
      obtain ⟨other, referred, same⟩ := List.mem_map.mp member
      rw [← Json.hex.inj same]
      exact exact.2 other referred

/-- Every record of the base and every added one is active or superseded, and the active ones are
among them. -/
theorem active_or_superseded {replaced : NodeReplacement} {patch : SemanticPatch} {sha : Sha256}
    (parts : NodesCompiled sha head nodes patch replaced compiled) (digest : Digest) :
    (digest ∈ compiled.activeNodes.map (·.recordDigest sha) ∨
        digest ∈ compiled.supersededRecordDigests) ↔
      digest ∈ head.activeNodeRecordDigests ∨
        digest ∈ compiled.addedNodes.map (·.recordDigest sha) := by
  have ledger := parts.updating.ledger
  rw [parts.base, (parts.active.map _).mem_iff, (parts.added.map _).mem_iff,
    parts.consumed.mem_iff]
  have placed : ∀ node, node ∈ nodes ∨ node ∈ replaced.added →
      node.recordDigest sha ∈ replaced.nodes.map (·.recordDigest sha) ∨
        node.recordDigest sha ∈ replaced.consumed := by
    intro node written
    rcases ledger.balanced node written with there | gone
    · exact .inl (List.mem_map.mpr ⟨node, (nodeId_of_nodeAt there).1, rfl⟩)
    · exact .inr gone
  have sorted : ∀ node, node ∈ nodes ∨ node ∈ replaced.added →
      (∃ other ∈ nodes, other.recordDigest sha = node.recordDigest sha) ∨
        node.recordDigest sha ∈ replaced.added.map (·.recordDigest sha) := by
    intro node written
    rcases written with base | new
    · exact .inl ⟨node, base, rfl⟩
    · exact .inr (List.mem_map.mpr ⟨node, new, rfl⟩)
  constructor
  · rintro (active | gone)
    · obtain ⟨node, member, rfl⟩ := List.mem_map.mp active
      exact sorted node (ledger.mem_of_stands
        ((nodeAt_eq_some ledger.distinct).mpr ⟨member, rfl⟩))
    · obtain ⟨before, new, after, old, writes, _, origin, rfl⟩ := ledger.origin digest gone
      apply sorted old
      rcases origin with base | earlier
      · exact .inl base
      · right
        rw [writes]
        exact List.mem_append_left _ earlier
  · rintro (⟨node, base, rfl⟩ | new)
    · exact placed node (.inl base)
    · obtain ⟨node, member, rfl⟩ := List.mem_map.mp new
      exact placed node (.inr member)

/-- The active records are those a patch leaves under their identifiers. -/
theorem mem_activeNodes {replaced : NodeReplacement} {patch : SemanticPatch} {sha : Sha256}
    (parts : NodesCompiled sha head nodes patch replaced compiled) (node : SemanticNode) :
    node ∈ compiled.activeNodes ↔
      recordAfter nodes patch.addNodes patch.statusUpdates node.nodeId = some node := by
  rw [parts.active.mem_iff, ← parts.updating.left, nodeAt_eq_some parts.updating.ledger.distinct]
  exact ⟨fun member => ⟨member, rfl⟩, fun both => both.1⟩

/-- A compiled patch obeys the delta law exactly when no record that it leaves under an identifier
is one that it supersedes. -/
theorem compile_deltaLaw_iff
    (made : kernel.compile head proposal nodes relations = .ok compiled) :
    DeltaLaw kernel.sha head nodes relations proposal.patch compiled ↔
      NothingReturns kernel.sha nodes proposal.patch := by
  obtain ⟨replaced, parts⟩ := nodesCompiled_of_compile made
  constructor
  · intro law nodeId node left referred
    have stands := left
    rw [Option.mem_def, ← parts.updating.left] at stands
    have member : node ∈ compiled.activeNodes :=
      parts.active.mem_iff.mpr (nodeId_of_nodeAt stands).1
    exact law.apart _ ((parts.referred _).mpr referred) (List.mem_map.mpr ⟨node, member, rfl⟩)
  · intro returns
    have apart : ∀ digest ∈ compiled.supersededRecordDigests,
        digest ∉ compiled.activeNodes.map (·.recordDigest kernel.sha) := by
      intro digest superseded active
      obtain ⟨node, member, rfl⟩ := List.mem_map.mp active
      have left := (mem_activeNodes parts node).mp member
      exact returns node.nodeId node left ((parts.referred _).mp superseded)
    constructor
    · exact apart
    · intro digest
      have ledger := active_or_superseded parts digest
      by_cases superseded : digest ∈ compiled.supersededRecordDigests
      · have inactive := apart digest superseded
        simp only [inactive, superseded, not_true, and_false, or_false]
      · simp only [superseded, or_false] at ledger
        simp only [superseded, not_false_eq_true, and_true]
        exact ledger
    · simp only [compile, bind_eq_ok, raiseIf_eq_ok, exists_const, pure_eq_ok] at made
      obtain ⟨_, _, _, _, _, _, _, _, _, related, loop, _, _, _, rfl⟩ := made
      refine ⟨rfl, ?_⟩
      rw [← related_of_loop loop]
      exact List.mergeSort_perm _ _
    · refine ⟨replaced.statusNodes, parts.updating.named, ?_, ?_⟩
      · rw [← parts.updating.writes]
        exact parts.added
      · intro digest superseded
        rw [← parts.updating.writes]
        exact parts.updating.ledger.origin digest (parts.consumed.mem_iff.mp superseded)
    · exact (nextGraphDigest_of_compile made).2

/-! ### A record that supersedes itself -/

/-- The head of the graph of the task. -/
def taskHead : SemanticGraphHead :=
  ⟨9, "scope", 2, "macr-semantic-registry/v1", 7,
    [AgentSystem.sampleTask.recordDigest foldDigest], [], 1, 1, 2, Nat.two_pos⟩

/-- A patch of the graph of the task that adds a node and supersedes the task. -/
def replaceTask (node : SemanticNode) : SemanticPatchProposalRequest :=
  AgentSystem.sampleProposal 82 2 (taskHead.graphDigest foldDigest) [node] []
    [AgentSystem.sampleTask.recordDigest foldDigest]

/-- A superseded digest is that of an active node. -/
def returnsIn (compiled : CompiledSemanticPatch) : Bool :=
  decide (∃ digest ∈ compiled.supersededRecordDigests,
    digest ∈ compiled.activeNodes.map (·.recordDigest foldDigest))

/-- The goal that supersedes the task obeys the delta law. -/
theorem compile_deltaLaw_of_goal : ∃ compiled,
    AgentSystem.sampleSemanticKernel.compile taskHead (replaceTask AgentSystem.sampleGoal)
        [AgentSystem.sampleTask] [] = .ok compiled ∧
      (DeltaLaw foldDigest taskHead [AgentSystem.sampleTask] []
          (replaceTask AgentSystem.sampleGoal).patch compiled ↔
        NothingReturns foldDigest [AgentSystem.sampleTask]
          (replaceTask AgentSystem.sampleGoal).patch) := by
  have accepted : (AgentSystem.sampleSemanticKernel.compile taskHead
      (replaceTask AgentSystem.sampleGoal) [AgentSystem.sampleTask] []).isOk = true := by
    decide +kernel
  cases made : AgentSystem.sampleSemanticKernel.compile taskHead
      (replaceTask AgentSystem.sampleGoal) [AgentSystem.sampleTask] [] with
  | ok compiled => exact ⟨compiled, rfl, compile_deltaLaw_iff made⟩
  | error raised =>
    rw [made] at accepted
    cases accepted

/-- The task that supersedes itself is active and superseded. -/
theorem not_deltaLaw_of_same : ∃ compiled,
    AgentSystem.sampleSemanticKernel.compile taskHead (replaceTask AgentSystem.sampleTask)
        [AgentSystem.sampleTask] [] = .ok compiled ∧
      ¬DeltaLaw foldDigest taskHead [AgentSystem.sampleTask] []
        (replaceTask AgentSystem.sampleTask).patch compiled := by
  have returns : (AgentSystem.sampleSemanticKernel.compile taskHead
      (replaceTask AgentSystem.sampleTask) [AgentSystem.sampleTask] []).toOption.any returnsIn =
        true := by
    decide +kernel
  cases made : AgentSystem.sampleSemanticKernel.compile taskHead
      (replaceTask AgentSystem.sampleTask) [AgentSystem.sampleTask] [] with
  | ok compiled =>
    rw [made] at returns
    obtain ⟨digest, superseded, active⟩ := of_decide_eq_true returns
    exact ⟨compiled, rfl, fun law => law.apart digest superseded active⟩
  | error raised =>
    rw [made] at returns
    cases returns

end SemanticKernel

end Macr
