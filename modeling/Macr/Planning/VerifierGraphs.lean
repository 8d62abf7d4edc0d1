import Macr.Lib.Dependencies
import Macr.Planning.Contracts
import Mathlib.Data.String.Basic

/-!
# Canonical verifier graphs

A verifier graph keeps its nodes in one canonical topology order, a layer of independent nodes at
a time. The order is computed with a dictionary of what each node still waits for; that is the
layers of the nodes, so there is one order for every arrangement of them, and none exactly when a
dependency is missing or circular. A composition of graphs searches for what a node depends on.
-/

namespace Macr

open Lib

/-! ## Nodes -/

/-- `_identifier`. -/
def verifierIdentifier (name : String) (value : Json) :
    Except MacrError {text : String // isIdentifier text} :=
  let checked (text : String) :=
    if valid : isIdentifier text then Except.ok ⟨text, valid⟩
    else .error (.valueError s!"{name} must be a bounded versioned identifier")
  match value with
  | .str text => checked text
  | .hex digest => checked (hexText 64 digest)
  | _ => .error (.valueError s!"{name} must be a bounded versioned identifier")

/-- `_digest`. -/
def verifierDigest (name : String) : Json → Except MacrError Digest
  | .hex digest => .ok digest
  | _ => .error (.valueError s!"{name} must be a lowercase SHA-256 digest")

/-- `_digest_set`. -/
def verifierDigestSet (name : String) (values : List Json) :
    Except MacrError {digests : List Digest // digests ≠ [] ∧ Ascending digests} := do
  let normalized ← values.mapM (verifierDigest s!"{name} item")
  if inhabited : normalized = [] then .error (.valueError s!"{name} must not be empty")
  else if distinct : normalized.Nodup then
    .ok ⟨sortOn id normalized, by
      rw [ne_eq, ← List.length_eq_zero_iff, length_sortOn]
      simpa using inhabited, sortOn_strict (by simpa using distinct)⟩
  else .error (.valueError s!"{name} must not contain duplicates")

/-- `_identifier_set`. -/
def verifierIdentifierSet (name : String) (values : List Json) :
    Except MacrError {texts : List String //
      Ascending texts ∧ ∀ text ∈ texts, isIdentifier text} := do
  let normalized ← values.mapM (verifierIdentifier s!"{name} item")
  if distinct : (normalized.map (·.1)).Nodup then
    .ok ⟨sortOn id (normalized.map (·.1)), sortOn_strict (by simpa using distinct), by
      intro text member
      obtain ⟨item, _, rfl⟩ := List.mem_map.mp (mem_sortOn.mp member)
      exact item.2⟩
  else .error (.valueError s!"{name} must not contain duplicates")

/-- `tuple(...)` of a value that was read from JSON. -/
def tupleOf : Json → Except MacrError (List Json)
  | .arr items => .ok items
  | .obj fields => .ok (fields.map (fun field => .str field.1))
  | .str text => .ok (text.toList.map (fun c => .str (String.singleton c)))
  | .hex digest => .ok ((hexText 64 digest).toList.map (fun c => .str (String.singleton c)))
  | _ => .error (.typeError "object is not iterable")

/-- The fields of `VerifierNode.to_dict`. -/
def verifierNodeKeys : List String :=
  ["node_id", "tool", "version", "input_digests", "depends_on", "config_digest", "required"]

/-- The value of a field that is there. -/
def fieldValue (fields : List (String × Json)) (name : String) : Json :=
  ((fields.find? (fun field => field.1 = name)).map (·.2)).getD .null

/-- The keys are the expected ones, in any order. -/
def HasExactly (fields : List (String × Json)) (expected : List String) : Prop :=
  (∀ field ∈ fields, field.1 ∈ expected) ∧ ∀ name ∈ expected, name ∈ fields.map (·.1)

instance (fields : List (String × Json)) (expected : List String) :
    Decidable (HasExactly fields expected) := inferInstanceAs (Decidable (_ ∧ _))

/-- A `config_digest` that may be missing. -/
def verifierConfigDigest : Json → Except MacrError (Option Digest)
  | .null => .ok none
  | value => (verifierDigest "config_digest" value).map some

/-- `required` must be a truth value. -/
def verifierRequired : Json → Except MacrError Bool
  | .bool value => .ok value
  | _ => .error (.valueError "required must be boolean")

/-- `VerifierNode(...)`, on values that were read from JSON. -/
def VerifierNode.make (nodeId tool version : Json) (inputDigests dependsOn : List Json)
    (configDigest required : Json) : Except MacrError VerifierNode := do
  let nodeId ← verifierIdentifier "node_id" nodeId
  let tool ← verifierIdentifier "tool" tool
  let version ← verifierIdentifier "version" version
  let inputDigests ← verifierDigestSet "input_digests" inputDigests
  let dependsOn ← verifierIdentifierSet "depends_on" dependsOn
  if self : nodeId.1 ∈ dependsOn.1 then
    .error (.valueError "verifier node may not depend on itself")
  else do
    let configDigest ← verifierConfigDigest configDigest
    let required ← verifierRequired required
    pure
      { nodeId := nodeId.1
        tool := tool.1
        version := version.1
        inputDigests := inputDigests.1
        dependsOn := dependsOn.1
        configDigest := configDigest
        required := required
        identifiers := ⟨nodeId.2, tool.2, version.2⟩
        inputs_required := inputDigests.2.1
        sets_ascending := ⟨inputDigests.2.2, dependsOn.2.1⟩
        dependencies_valid := dependsOn.2.2
        not_self := self }

/-- A node of `verifier_graph_from_dict`. -/
def VerifierNode.fromDict (raw : Json) : Except MacrError VerifierNode :=
  match raw with
  | .obj fields => do
    raiseIf (¬HasExactly fields verifierNodeKeys)
      (.valueError "verifier graph node fields must be exact")
    let inputDigests ← tupleOf (fieldValue fields "input_digests")
    let dependsOn ← tupleOf (fieldValue fields "depends_on")
    VerifierNode.make (fieldValue fields "node_id") (fieldValue fields "tool")
      (fieldValue fields "version") inputDigests dependsOn (fieldValue fields "config_digest")
      (fieldValue fields "required")
  | _ => .error (.valueError "verifier graph node fields must be exact")

/-! ## The order of the nodes -/

/-- The node of a name. -/
def nodeOf (nodes : List VerifierNode) (name : String) : Option VerifierNode :=
  nodes.find? (fun node => node.nodeId = name)

/-- The first dependency, in the order of the nodes, that no node has as its name. -/
def missingDependency (nodes : List VerifierNode) : Option String :=
  nodes.findSome? (fun item =>
    (item.dependsOn.filter (fun name => name ∉ nodes.map (·.nodeId))).head?)

/-- The names that wait for nothing, in order. -/
def readyNames (remaining : List (String × List String)) : List String :=
  sortOn id ((remaining.filter (fun entry => entry.2 = [])).map (·.1))

/-- The entries that stay when the ready names are deleted. -/
def withoutReady (remaining : List (String × List String)) : List (String × List String) :=
  (remaining.filter (fun entry => entry.1 ∉ readyNames remaining)).map
    (fun entry => (entry.1, entry.2.filter (fun name => name ∉ readyNames remaining)))

/-- Fewer entries stay when a name is ready. -/
theorem length_withoutReady_lt {remaining : List (String × List String)}
    (some_ready : readyNames remaining ≠ []) :
    (withoutReady remaining).length < remaining.length := by
  obtain ⟨name, rest, same⟩ := List.exists_cons_of_ne_nil some_ready
  have listed : name ∈ readyNames remaining := same ▸ List.mem_cons_self
  obtain ⟨entry, kept, named⟩ := List.mem_map.mp (mem_sortOn.mp listed)
  rw [withoutReady, List.length_map]
  apply List.length_filter_lt_length_iff_exists.mpr
  exact ⟨entry, List.mem_of_mem_filter kept, by simpa [named] using listed⟩

/-- The loop of `_topological_nodes`. -/
def topologicalLoop (nodes : List VerifierNode) (remaining : List (String × List String)) :
    Except MacrError (List VerifierNode) :=
  if remaining = [] then .ok []
  else if _ready : readyNames remaining = [] then
    .error (.valueError "verifier graph contains a cycle")
  else do
    let later ← topologicalLoop nodes (withoutReady remaining)
    .ok ((readyNames remaining).filterMap (nodeOf nodes) ++ later)
termination_by remaining.length
decreasing_by exact length_withoutReady_lt _ready

/-- `VerifierGraph._topological_nodes`. -/
def topologicalNodes (nodes : List VerifierNode) : Except MacrError (List VerifierNode) := do
  raiseIf (nodes.isEmpty) (.valueError "verifier graph must not be empty")
  raiseIf (¬(nodes.map (·.nodeId)).Nodup) (.valueError "verifier graph contains duplicate node_id")
  match missingDependency nodes with
  | some missing => .error (.valueError s!"verifier graph missing dependency: {missing}")
  | none => topologicalLoop nodes (nodes.map (fun item => (item.nodeId, item.dependsOn)))

/-- One name depends on another. -/
abbrev DependsOn (nodes : List VerifierNode) : String → String → Prop :=
  Needs VerifierNode.nodeId VerifierNode.dependsOn nodes

section Order

variable {nodes items others out : List VerifierNode}

/-- The names of the nodes that are ready, in order. -/
abbrev readyNodes (items : List VerifierNode) : List VerifierNode :=
  ready VerifierNode.nodeId VerifierNode.dependsOn items

/-- The nodes that wait. -/
abbrev waitingNodes (items : List VerifierNode) : List VerifierNode :=
  waiting VerifierNode.nodeId VerifierNode.dependsOn items

/-- What nodes that are still ahead wait for. -/
def remainingOf (items : List VerifierNode) : List (String × List String) :=
  items.map (fun item =>
    (item.nodeId, item.dependsOn.filter (fun name => name ∈ items.map (·.nodeId))))

/-- The names that wait for nothing are those of the ready nodes. -/
theorem readyNames_remainingOf (items : List VerifierNode) :
    readyNames (remainingOf items) = (sortOn (·.nodeId) (readyNodes items)).map (·.nodeId) := by
  rw [map_sortOn, readyNames, remainingOf, List.filter_map, List.map_map]
  congr 1
  have same : ∀ item : VerifierNode, decide (item.dependsOn.filter
      (fun name => name ∈ items.map (·.nodeId)) = []) =
        decide (¬Blocked VerifierNode.nodeId VerifierNode.dependsOn items item) := by
    intro item
    rw [decide_eq_decide, List.filter_eq_nil_iff]
    simp only [decide_eq_true_eq, Blocked, not_exists, not_and]
  rw [readyNodes, ready, List.filter_congr fun item _ => (same item).symm]
  rfl

/-- The entries that stay are those of the waiting nodes. -/
theorem withoutReady_remainingOf (distinct : (items.map (·.nodeId)).Nodup) :
    withoutReady (remainingOf items) = remainingOf (waitingNodes items) := by
  have listed : ∀ name, name ∈ readyNames (remainingOf items) ↔
      name ∈ (readyNodes items).map (·.nodeId) := by
    intro name
    rw [readyNames_remainingOf]
    exact ((sortOn_perm _ _).map _).mem_iff
  -- A name of the items is either ready or waits.
  have apart : ∀ item ∈ items, item.nodeId ∉ (readyNodes items).map (·.nodeId) ↔
      Blocked VerifierNode.nodeId VerifierNode.dependsOn items item := by
    intro item member
    by_cases blocked : Blocked VerifierNode.nodeId VerifierNode.dependsOn items item
    · refine iff_of_true (fun early => ?_) blocked
      obtain ⟨other, kept, named⟩ := List.mem_map.mp early
      obtain ⟨there, free⟩ := List.mem_filter.mp kept
      have same : other = item := List.inj_on_of_nodup_map distinct there member named
      exact of_decide_eq_true free (same ▸ blocked)
    · refine iff_of_false (fun late => late ?_) blocked
      exact List.mem_map.mpr ⟨item, List.mem_filter.mpr ⟨member, by simpa using blocked⟩, rfl⟩
  have names : ∀ name, (name ∈ items.map (·.nodeId) ∧ name ∉ (readyNodes items).map (·.nodeId)) ↔
      name ∈ (waitingNodes items).map (·.nodeId) := by
    intro name
    constructor
    · rintro ⟨among, late⟩
      obtain ⟨item, member, rfl⟩ := List.mem_map.mp among
      have blocked := (apart item member).mp late
      exact List.mem_map.mpr ⟨item, List.mem_filter.mpr ⟨member, by simpa using blocked⟩, rfl⟩
    · intro waits
      obtain ⟨item, kept, rfl⟩ := List.mem_map.mp waits
      obtain ⟨member, blocked⟩ := List.mem_filter.mp kept
      exact ⟨List.mem_map.mpr ⟨item, member, rfl⟩,
        (apart item member).mpr (of_decide_eq_true blocked)⟩
  have kept : items.filter (fun item => item.nodeId ∉ readyNames (remainingOf items)) =
      waitingNodes items := by
    apply List.filter_congr
    intro item member
    rw [decide_eq_decide, listed]
    exact apart item member
  have rows : (remainingOf items).filter
      (fun entry => entry.1 ∉ readyNames (remainingOf items)) =
        (waitingNodes items).map (fun item =>
          (item.nodeId, item.dependsOn.filter (fun name => name ∈ items.map (·.nodeId)))) := by
    rw [← kept, remainingOf, List.filter_map]
    rfl
  rw [withoutReady, rows, List.map_map, remainingOf]
  apply List.map_congr_left
  intro item _
  have left : (item.dependsOn.filter (fun name => name ∈ items.map (·.nodeId))).filter
      (fun name => name ∉ readyNames (remainingOf items)) =
        item.dependsOn.filter (fun name => name ∈ (waitingNodes items).map (·.nodeId)) := by
    rw [List.filter_filter]
    apply List.filter_congr
    intro name _
    rw [← Bool.decide_and, decide_eq_decide, listed, ← names name, and_comm]
  exact congrArg (Prod.mk item.nodeId) left

/-- A node is found under its name. -/
theorem nodeOf_self {node : VerifierNode} (distinct : (nodes.map (·.nodeId)).Nodup)
    (member : node ∈ nodes) : nodeOf nodes node.nodeId = some node := by
  obtain ⟨found, stored⟩ := Option.isSome_iff_exists.mp
    (show (nodeOf nodes node.nodeId).isSome by simpa [nodeOf] using ⟨node, member, rfl⟩)
  have named : found.nodeId = node.nodeId := by simpa using List.find?_some stored
  rw [stored, List.inj_on_of_nodup_map distinct (List.mem_of_find?_eq_some stored) member named]

/-- The nodes of the names of some nodes are those nodes. -/
theorem filterMap_nodeOf (distinct : (nodes.map (·.nodeId)).Nodup) (subset : items ⊆ nodes) :
    (items.map (·.nodeId)).filterMap (nodeOf nodes) = items := by
  have same : items.filterMap (nodeOf nodes ∘ (·.nodeId)) = items.filterMap some :=
    List.filterMap_congr fun item member => nodeOf_self distinct (subset member)
  rw [List.filterMap_map, same, List.filterMap_some]

/-- The loop ends on an empty dictionary. -/
theorem topologicalLoop_nil : topologicalLoop nodes [] = .ok [] := by
  rw [topologicalLoop, if_pos rfl]

/-- The loop puts the nodes that are ahead in layers. -/
theorem topologicalLoop_remainingOf {fuel : Nat} (known : (nodes.map (·.nodeId)).Nodup)
    (distinct : (items.map (·.nodeId)).Nodup) (subset : items ⊆ nodes)
    (enough : items.length ≤ fuel) :
    topologicalLoop nodes (remainingOf items) =
      require (layered VerifierNode.nodeId VerifierNode.dependsOn fuel items)
        (.valueError "verifier graph contains a cycle") := by
  induction fuel generalizing items with
  | zero =>
    have none : items = [] := List.length_eq_zero_iff.mp (Nat.le_zero.mp enough)
    subst none
    exact topologicalLoop_nil
  | succ fuel ih =>
    by_cases none : items = []
    · subst none
      rw [layered_nil]
      exact topologicalLoop_nil
    rw [topologicalLoop, if_neg (by simpa [remainingOf] using none), readyNames_remainingOf,
      layered,
      if_neg (by simpa using none)]
    by_cases stuck : readyNodes items = []
    · have noNames : (sortOn (·.nodeId) (readyNodes items)).map (·.nodeId) = [] := by
        rw [stuck]
        rfl
      rw [dif_pos noNames, if_pos (by simpa using stuck)]
      rfl
    · have fewer := length_waiting_lt stuck
      have part : waitingNodes items ⊆ items := List.filter_subset_self _
      have apart : ((waitingNodes items).map (·.nodeId)).Nodup :=
        distinct.sublist (List.filter_sublist.map _)
      have later := ih apart (List.Subset.trans part subset)
        (Nat.le_of_lt_succ (Nat.lt_of_lt_of_le fewer enough))
      have layer : sortOn (·.nodeId) (readyNodes items) ⊆ nodes :=
        fun node member => subset (List.mem_of_mem_filter (mem_sortOn.mp member))
      rw [dif_neg (by simpa [← List.length_eq_zero_iff] using stuck), if_neg (by simpa using stuck),
        withoutReady_remainingOf distinct, later, filterMap_nodeOf known layer]
      cases layered VerifierNode.nodeId VerifierNode.dependsOn fuel (waitingNodes items) <;> rfl

/-- No dependency is missing exactly when every one is the name of a node. -/
theorem missingDependency_eq_none : missingDependency nodes = none ↔
    Closed VerifierNode.nodeId VerifierNode.dependsOn nodes := by
  simp only [missingDependency, List.findSome?_eq_none_iff, List.head?_eq_none_iff,
    List.filter_eq_nil_iff, decide_eq_true_eq, not_not]
  rfl

/-- The nodes of a graph: some, with distinct names, every dependency among them, none circular. -/
structure Orderable (nodes : List VerifierNode) : Prop where
  /-- There is a node. -/
  inhabited : nodes ≠ []
  /-- No name occurs twice. -/
  distinct : (nodes.map (·.nodeId)).Nodup
  /-- No dependency is missing. -/
  closed : Closed VerifierNode.nodeId VerifierNode.dependsOn nodes
  /-- No node depends on itself, directly or not. -/
  acyclic : Acyclic VerifierNode.nodeId VerifierNode.dependsOn nodes

/-- The order of the nodes is their layers, when no check refuses them. -/
theorem topologicalNodes_eq_ok : topologicalNodes nodes = .ok out ↔ nodes ≠ [] ∧
    (nodes.map (·.nodeId)).Nodup ∧ Closed VerifierNode.nodeId VerifierNode.dependsOn nodes ∧
      layered VerifierNode.nodeId VerifierNode.dependsOn nodes.length nodes = some out := by
  simp only [topologicalNodes, bind_eq_ok, raiseIf_eq_ok, exists_const, not_not,
    List.isEmpty_iff, ne_eq]
  refine and_congr_right fun _ => and_congr_right fun distinct => ?_
  rw [← missingDependency_eq_none]
  cases found : missingDependency nodes with
  | some missing => simp
  | none =>
    have closed := missingDependency_eq_none.mp found
    have whole : nodes.map (fun item => (item.nodeId, item.dependsOn)) = remainingOf nodes := by
      apply List.map_congr_left
      intro item member
      have all : item.dependsOn.filter (fun name => name ∈ nodes.map (·.nodeId)) =
          item.dependsOn :=
        List.filter_eq_self.mpr fun name needed => decide_eq_true (closed item member name needed)
      rw [all]
    rw [whole, topologicalLoop_remainingOf distinct distinct (List.Subset.refl _) (le_refl _),
      require_eq_ok]
    simp

/-- There is an order exactly when the nodes are those of a graph. -/
theorem topologicalNodes_succeeds_iff :
    (∃ out, topologicalNodes nodes = .ok out) ↔ Orderable nodes := by
  constructor
  · rintro ⟨out, done⟩
    obtain ⟨inhabited, distinct, closed, done⟩ := topologicalNodes_eq_ok.mp done
    exact ⟨inhabited, distinct, closed, acyclic_of_follows distinct closed (layered_perm done)
      (layered_follows done)⟩
  · rintro ⟨inhabited, distinct, closed, acyclic⟩
    obtain ⟨out, done⟩ := layered_of_acyclic acyclic (le_refl _)
    exact ⟨out, topologicalNodes_eq_ok.mpr ⟨inhabited, distinct, closed, done⟩⟩

/-- The order is an arrangement of the nodes. -/
theorem topologicalNodes_perm (done : topologicalNodes nodes = .ok out) : out.Perm nodes :=
  layered_perm (topologicalNodes_eq_ok.mp done).2.2.2

/-- Every node comes after all its dependencies. -/
theorem topologicalNodes_after (done : topologicalNodes nodes = .ok out)
    {before after : List VerifierNode} {item : VerifierNode}
    (split : out = before ++ item :: after) :
    ∀ dependency ∈ item.dependsOn, dependency ∈ before.map (·.nodeId) := by
  intro dependency needed
  obtain ⟨_, _, closed, layers⟩ := topologicalNodes_eq_ok.mp done
  have member : item ∈ nodes := (layered_perm layers).mem_iff.mp (split ▸ by simp)
  exact layered_follows layers before item after split dependency needed
    (closed item member dependency needed)

/-- The order is the same for every arrangement of the nodes. -/
theorem topologicalNodes_of_perm (perm : others.Perm nodes)
    (done : topologicalNodes nodes = .ok out) : topologicalNodes others = .ok out := by
  obtain ⟨inhabited, distinct, closed, layers⟩ := topologicalNodes_eq_ok.mp done
  have same : ∀ name, name ∈ others.map (·.nodeId) ↔ name ∈ nodes.map (·.nodeId) :=
    fun _ => (perm.map (·.nodeId)).mem_iff
  have apart : (others.map (·.nodeId)).Nodup := (perm.map (·.nodeId)).nodup_iff.mpr distinct
  refine topologicalNodes_eq_ok.mpr ⟨?_, apart, ?_, ?_⟩
  · rintro rfl
    exact inhabited perm.nil_eq.symm
  · exact fun item member need needed =>
      (same need).mpr (closed item (perm.mem_iff.mp member) need needed)
  · rw [perm.length_eq, layered_of_perm perm apart]
    exact layers

end Order

/-! ## Graphs -/

deriving instance DecidableEq for VerifierNode

/-- A `VerifierGraph`, whose nodes are in canonical topology order. Its digest is computed from the
nodes, since the constructor compares the given one with them. -/
structure CanonicalVerifierGraph extends VerifierGraph where
  /-- The order is the canonical one. -/
  canonical : topologicalNodes nodes = .ok nodes

namespace CanonicalVerifierGraph

variable {sha : Sha256} {nodes out : List VerifierNode}

/-- `VerifierGraph(...)`. -/
def make (sha : Sha256) (nodes : List VerifierNode) (graphDigest : Json) :
    Except MacrError CanonicalVerifierGraph :=
  match ordered : topologicalNodes nodes with
  | .error raised => .error raised
  | .ok expectedNodes =>
    if same : nodes = expectedNodes then do
      let graph : CanonicalVerifierGraph :=
        { nodes := nodes
          nodes_required := (topologicalNodes_eq_ok.mp ordered).1
          nodes_distinct := (topologicalNodes_eq_ok.mp ordered).2.1
          canonical := ordered.trans (congrArg _ same.symm) }
      raiseIf (graphDigest ≠ .hex (graph.graphDigest sha))
        (.valueError "verifier graph digest does not match graph")
      pure graph
    else .error (.valueError "verifier graph nodes are not in canonical topology order")

/-- `VerifierGraph.build`. -/
def build (sha : Sha256) (nodes : List VerifierNode) : Except MacrError CanonicalVerifierGraph := do
  let canonical ← topologicalNodes nodes
  make sha canonical
    (.hex (sha.sha256Id "verifier_graph_v1" (.obj [("nodes", .arr (canonical.map (·.toDict)))])))

/-- `verifier_graph_from_dict`. -/
def fromDict (sha : Sha256) (data : Json) : Except MacrError CanonicalVerifierGraph :=
  match data with
  | .obj fields => do
    raiseIf (¬HasExactly fields ["graph_digest", "nodes"])
      (.valueError "verifier graph fields must be exact")
    match fieldValue fields "nodes" with
    | .arr rawNodes => do
      let nodes ← rawNodes.mapM VerifierNode.fromDict
      make sha nodes (fieldValue fields "graph_digest")
    | _ => .error (.valueError "verifier graph nodes must be an array")
  | _ => .error (.valueError "verifier graph fields must be exact")

/-- The constructor accepts the nodes of a graph with its digest. -/
theorem make_nodes (sha : Sha256) (graph : CanonicalVerifierGraph) :
    make sha graph.nodes (.hex (graph.graphDigest sha)) = .ok graph := by
  unfold make
  split
  · rename_i raised ordered
    rw [graph.canonical] at ordered
    exact absurd ordered (by simp)
  · rename_i expectedNodes ordered
    rw [graph.canonical, Except.ok.injEq] at ordered
    rw [dif_pos ordered]
    simp only [VerifierGraph.graphDigest, ne_eq, not_true_eq_false]
    rfl

/-- The graph of nodes that can be ordered has them in that order. -/
theorem build_of_ordered (done : topologicalNodes nodes = .ok out) :
    ∃ graph, build sha nodes = .ok graph ∧ graph.nodes = out := by
  obtain ⟨_, distinct, _, _⟩ := topologicalNodes_eq_ok.mp done
  have perm := topologicalNodes_perm done
  have again := topologicalNodes_of_perm perm done
  let graph : CanonicalVerifierGraph :=
    { nodes := out
      nodes_required := (topologicalNodes_eq_ok.mp again).1
      nodes_distinct := (topologicalNodes_eq_ok.mp again).2.1
      canonical := again }
  refine ⟨graph, ?_, rfl⟩
  rw [build, done, ok_bind]
  exact make_nodes sha graph

end CanonicalVerifierGraph

/-! ## Documents -/

section Documents

variable {nodes : List VerifierNode} {sha : Sha256}

/-- A list that a check accepts item by item is what the accepted values are. -/
theorem mapM_map_eq_ok {α β γ : Type} {encode : α → β} {decode : β → Except MacrError γ}
    {result : α → γ} {items : List α}
    (each : ∀ item ∈ items, decode (encode item) = .ok (result item)) :
    (items.map encode).mapM decode = .ok (items.map result) := by
  induction items with
  | nil => rfl
  | cons first rest ih =>
    have tail := ih fun item member => each item (List.mem_cons_of_mem _ member)
    rw [List.map_cons, List.mapM_cons, each first List.mem_cons_self, tail]
    rfl

/-- The digests of a node are read back. -/
theorem verifierDigestSet_hexes (name : String) {digests : List Digest} (inhabited : digests ≠ [])
    (ascending : Ascending digests) :
    verifierDigestSet name (digests.map .hex) = .ok ⟨digests, inhabited, ascending⟩ := by
  have read : (digests.map Json.hex).mapM (verifierDigest s!"{name} item") =
      .ok (digests.map id) := mapM_map_eq_ok fun _ _ => rfl
  have distinct : digests.Nodup := ascending.imp ne_of_lt
  rw [List.map_id] at read
  rw [verifierDigestSet, read, ok_bind, dif_neg inhabited, dif_pos distinct]
  congr 2
  exact sortOn_eq_self_of_ascending ascending

/-- A bounded identifier is read back. -/
theorem verifierIdentifier_str (name : String) {text : String} (valid : isIdentifier text) :
    verifierIdentifier name (.str text) = .ok ⟨text, valid⟩ := by
  simp only [verifierIdentifier]
  rw [dif_pos valid]

/-- The dependencies of a node are read back. -/
theorem verifierIdentifierSet_strs (name : String) {texts : List String}
    (ascending : Ascending texts) (valid : ∀ text ∈ texts, isIdentifier text) :
    verifierIdentifierSet name (texts.map .str) = .ok ⟨texts, ascending, valid⟩ := by
  have read : (texts.attach.map (fun text => Json.str text.1)).mapM
      (verifierIdentifier s!"{name} item") =
        .ok (texts.attach.map (fun text => ⟨text.1, valid text.1 text.2⟩)) :=
    mapM_map_eq_ok fun text _ => verifierIdentifier_str _ _
  have given : texts.attach.map (fun text => Json.str text.1) = texts.map .str := by
    rw [← List.attach_map_subtype_val texts, List.map_map, List.attach_map_subtype_val]
    rfl
  have names : (texts.attach.map (fun text => (⟨text.1, valid text.1 text.2⟩ :
      {text : String // isIdentifier text}))).map (·.1) = texts := by
    rw [List.map_map]
    exact List.attach_map_subtype_val texts
  have distinct : texts.Nodup := ascending.imp ne_of_lt
  rw [given] at read
  rw [verifierIdentifierSet, read, ok_bind]
  simp only [names]
  rw [dif_pos distinct]
  congr 2
  exact sortOn_eq_self_of_ascending ascending

/-- The document of a node is read back as the node. -/
theorem VerifierNode.fromDict_toDict (node : VerifierNode) :
    VerifierNode.fromDict node.toDict = .ok node := by
  have keys : HasExactly [("node_id", .str node.nodeId), ("tool", .str node.tool),
      ("version", .str node.version), ("input_digests", .hexes node.inputDigests),
      ("depends_on", .strs node.dependsOn), ("config_digest", .optHex node.configDigest),
      ("required", .bool node.required)] verifierNodeKeys := by
    simp [HasExactly, verifierNodeKeys]
  have config : verifierConfigDigest (.optHex node.configDigest) = .ok node.configDigest := by
    cases node.configDigest <;> rfl
  refine (raiseIf_bind_of_not (not_not.mpr keys)).trans ?_
  show VerifierNode.make (.str node.nodeId) (.str node.tool) (.str node.version)
    (node.inputDigests.map .hex) (node.dependsOn.map .str) (.optHex node.configDigest)
    (.bool node.required) = .ok node
  rw [VerifierNode.make, verifierIdentifier_str _ node.identifiers.1, ok_bind,
    verifierIdentifier_str _ node.identifiers.2.1, ok_bind,
    verifierIdentifier_str _ node.identifiers.2.2, ok_bind,
    verifierDigestSet_hexes _ node.inputs_required node.sets_ascending.1, ok_bind,
    verifierIdentifierSet_strs _ node.sets_ascending.2 node.dependencies_valid, ok_bind,
    dif_neg node.not_self, config]
  rfl

/-- The document of a graph is read back as the graph. -/
theorem CanonicalVerifierGraph.fromDict_toDict (sha : Sha256) (graph : CanonicalVerifierGraph) :
    fromDict sha (graph.toDict sha) = .ok graph := by
  have keys : HasExactly [("graph_digest", .hex (graph.graphDigest sha)),
      ("nodes", .arr (graph.nodes.map (·.toDict)))] ["graph_digest", "nodes"] := by
    simp [HasExactly]
  have read : (graph.nodes.map (·.toDict)).mapM VerifierNode.fromDict =
      .ok (graph.nodes.map id) := mapM_map_eq_ok fun node _ => node.fromDict_toDict
  rw [List.map_id] at read
  refine (raiseIf_bind_of_not (not_not.mpr keys)).trans ?_
  show ((graph.nodes.map (·.toDict)).mapM VerifierNode.fromDict >>= fun nodes =>
    make sha nodes (.hex (graph.graphDigest sha))) = .ok graph
  rw [read, ok_bind, make_nodes]

end Documents

/-! ## Compositions -/

/-- `CrossFileVerifierComposition._depends_on`. The search pops what was put last. -/
def dependsOn (nodes : List VerifierNode) (nodeId ancestorId : String) :
    Except MacrError Bool := do
  let node ← require (nodeOf nodes nodeId) (.other "KeyError")
  require (search VerifierNode.nodeId VerifierNode.dependsOn nodes ancestorId
    node.dependsOn.reverse []) (.other "KeyError")

/-- A node of a graph is found to depend on a name exactly when a path of dependencies leads to
it. -/
theorem dependsOn_spec (graph : CanonicalVerifierGraph) {node : VerifierNode}
    (member : node ∈ graph.nodes) (ancestorId : String) :
    ∃ answer, dependsOn graph.nodes node.nodeId ancestorId = .ok answer ∧
      (answer = true ↔ Relation.TransGen (DependsOn graph.nodes) node.nodeId ancestorId) := by
  obtain ⟨_, distinct, closed, _⟩ := topologicalNodes_succeeds_iff.mp ⟨_, graph.canonical⟩
  have found := nodeOf_self distinct member
  have own : ∀ name, DependsOn graph.nodes node.nodeId name ↔ name ∈ node.dependsOn := by
    intro name
    constructor
    · rintro ⟨other, listed, same, needed⟩
      exact List.inj_on_of_nodup_map distinct listed member same ▸ needed
    · exact fun needed => ⟨node, member, rfl, needed⟩
  obtain ⟨answer, result, exact_answer⟩ := search_spec distinct closed
    (fun name pending => closed node member name (List.mem_reverse.mp pending))
    (fun name seen => absurd seen List.not_mem_nil) (List.not_mem_nil (a := ancestorId))
  refine ⟨answer, ?_, exact_answer.trans ?_⟩
  · rw [dependsOn, found, require_some_bind, result]
    rfl
  · rw [Relation.TransGen.head'_iff]
    constructor
    · rintro ⟨name, pending, path⟩
      exact ⟨name, (own name).mpr (List.mem_reverse.mp pending), path⟩
    · rintro ⟨name, edge, path⟩
      exact ⟨name, List.mem_reverse.mpr ((own name).mp edge), path⟩

/-- What a node depends on, directly or not, comes before it in the canonical order. -/
theorem ancestors_before {nodes : List VerifierNode} (ordered : topologicalNodes nodes = .ok nodes)
    {before after : List VerifierNode} {node : VerifierNode} (split : nodes = before ++ node :: after)
    {name : String} (path : Relation.TransGen (DependsOn nodes) node.nodeId name) :
    name ∈ before.map (·.nodeId) := by
  obtain ⟨_, distinct, _, _⟩ := topologicalNodes_succeeds_iff.mp ⟨_, ordered⟩
  have own : ∀ {item : VerifierNode} {early late : List VerifierNode},
      nodes = early ++ item :: late → ∀ {needed : String},
        DependsOn nodes item.nodeId needed → needed ∈ early.map (·.nodeId) := by
    rintro item early late place needed ⟨other, listed, same, needs⟩
    have member : item ∈ nodes := place ▸ List.mem_append_right _ List.mem_cons_self
    obtain rfl := List.inj_on_of_nodup_map distinct listed member same
    exact topologicalNodes_after ordered place _ needs
  induction path with
  | single edge => exact own split edge
  | tail _ edge ih =>
    -- The node before the last edge has its own place in front, and what it needs is before that.
    obtain ⟨middle, held, rfl⟩ := List.mem_map.mp ih
    obtain ⟨early, late, rfl⟩ := List.append_of_mem held
    have needed := own (split.trans (List.append_assoc early (middle :: late) _)) edge
    exact List.map_append ▸ List.mem_append_left _ needed

/-- `CrossFileVerifierComposition`. -/
structure CrossFileVerifierComposition where
  /-- The graph of each file. -/
  individualGraph : CanonicalVerifierGraph
  /-- The graph of the whole. -/
  integrationGraph : CanonicalVerifierGraph
  /-- The node that compiles. -/
  compilerNodeId : String
  /-- The node that runs the vectors. -/
  vectorNodeId : String
  /-- The node that compares. -/
  diffNodeId : String
  /-- The three nodes are there and required. -/
  nodes_required : ∀ name ∈ [compilerNodeId, vectorNodeId, diffNodeId],
    ∃ node ∈ nodeOf integrationGraph.nodes name, node.required = true
  /-- The vectors and the comparison wait for the compiler. -/
  compiled_first : ∀ name ∈ [vectorNodeId, diffNodeId],
    dependsOn integrationGraph.nodes name compilerNodeId = .ok true

namespace CrossFileVerifierComposition

/-- A node that a composition names. -/
def requireNode (nodes : List VerifierNode) (label name : String) :
    Except MacrError {name : String // ∃ node ∈ nodeOf nodes name, node.required = true} :=
  match found : nodeOf nodes name with
  | none => .error (.valueError s!"{label} verifier node is missing")
  | some node =>
    if required : node.required = true then .ok ⟨name, node, found, required⟩
    else .error (.valueError s!"{label} verifier node must be required")

/-- A node that must wait for the compiler. -/
def requireCompiled (nodes : List VerifierNode) (label name compiler : String) :
    Except MacrError (PLift (dependsOn nodes name compiler = .ok true)) :=
  if compiled : dependsOn nodes name compiler = .ok true then .ok ⟨compiled⟩
  else do
    let _ ← dependsOn nodes name compiler
    .error (.valueError s!"{label} verifier must depend on compiler verifier")

/-- `CrossFileVerifierComposition(...)`. -/
def make (individualGraph integrationGraph : CanonicalVerifierGraph)
    (compilerNodeId vectorNodeId diffNodeId : Json) :
    Except MacrError CrossFileVerifierComposition := do
  let nodes := integrationGraph.nodes
  let compiler ← verifierIdentifier "compiler_node_id" compilerNodeId
  let vector ← verifierIdentifier "vector_node_id" vectorNodeId
  let diff ← verifierIdentifier "diff_node_id" diffNodeId
  let compiler ← requireNode nodes "compiler" compiler.1
  let vector ← requireNode nodes "vector" vector.1
  let diff ← requireNode nodes "diff" diff.1
  let vectorCompiled ← requireCompiled nodes "vector" vector.1 compiler.1
  let diffCompiled ← requireCompiled nodes "diff" diff.1 compiler.1
  pure
    { individualGraph := individualGraph
      integrationGraph := integrationGraph
      compilerNodeId := compiler.1
      vectorNodeId := vector.1
      diffNodeId := diff.1
      nodes_required := by
        intro name listed
        simp only [List.mem_cons, List.not_mem_nil, or_false] at listed
        rcases listed with rfl | rfl | rfl
        · exact compiler.2
        · exact vector.2
        · exact diff.2
      compiled_first := by
        intro name listed
        simp only [List.mem_cons, List.not_mem_nil, or_false] at listed
        rcases listed with rfl | rfl
        · exact vectorCompiled.down
        · exact diffCompiled.down }

/-- A path of dependencies leads from a node to the compiler, which comes before it. -/
def WaitsForCompiler (composition : CrossFileVerifierComposition) (name : String) : Prop :=
  Relation.TransGen (DependsOn composition.integrationGraph.nodes) name
      composition.compilerNodeId ∧
    ∃ before node after, composition.integrationGraph.nodes = before ++ node :: after ∧
      node.nodeId = name ∧ composition.compilerNodeId ∈ before.map (·.nodeId)

/-- The nodes that are required to depend on the compiler wait for it. -/
theorem waits_of_listed (composition : CrossFileVerifierComposition) {name : String}
    (listed : name ∈ [composition.vectorNodeId, composition.diffNodeId]) :
    composition.WaitsForCompiler name := by
  have waits := composition.compiled_first name listed
  have there : name ∈ [composition.compilerNodeId, composition.vectorNodeId,
      composition.diffNodeId] := List.mem_cons_of_mem _ listed
  obtain ⟨node, found, _⟩ := composition.nodes_required name there
  have member := List.mem_of_find?_eq_some found
  have named : node.nodeId = name := by simpa using List.find?_some found
  obtain ⟨answer, result, exact_answer⟩ :=
    dependsOn_spec composition.integrationGraph member composition.compilerNodeId
  rw [named, waits, Except.ok.injEq] at result
  rw [named] at exact_answer
  have path := exact_answer.mp result.symm
  obtain ⟨before, after, split⟩ := List.append_of_mem member
  exact ⟨path, before, node, after, split, named,
    ancestors_before composition.integrationGraph.canonical split (named ▸ path)⟩

/-- In a composition that can be made the vectors and the comparison wait for the compiler. -/
theorem compiler_first (composition : CrossFileVerifierComposition) :
    composition.WaitsForCompiler composition.vectorNodeId ∧
      composition.WaitsForCompiler composition.diffNodeId :=
  ⟨composition.waits_of_listed (.head _), composition.waits_of_listed (.tail _ (.head _))⟩

end CrossFileVerifierComposition

/-! ## The canonical order -/

/-- There is an order exactly when there is a node, no name occurs twice, no dependency is missing
and none is circular. It is an arrangement of the nodes with every node after its dependencies, the
same for every arrangement of the nodes and for itself; the graph built from it is read back from
its document, and the search on it finds what is reached by dependencies. -/
theorem verifier_graphs_canonical (sha : Sha256) (nodes : List VerifierNode) :
    ((∃ out, topologicalNodes nodes = .ok out) ↔ Orderable nodes) ∧
      ∀ out, topologicalNodes nodes = .ok out →
        out.Perm nodes ∧
        (∀ before item after, out = before ++ item :: after →
          ∀ dependency ∈ item.dependsOn, dependency ∈ before.map (·.nodeId)) ∧
        (∀ others : List VerifierNode, others.Perm nodes → topologicalNodes others = .ok out) ∧
        topologicalNodes out = .ok out ∧
        ∃ graph, CanonicalVerifierGraph.build sha nodes = .ok graph ∧ graph.nodes = out ∧
          CanonicalVerifierGraph.fromDict sha (graph.toDict sha) = .ok graph ∧
          ∀ node ∈ out, ∀ ancestorId,
            ∃ answer, dependsOn graph.nodes node.nodeId ancestorId = .ok answer ∧
              (answer = true ↔ Relation.TransGen (DependsOn out) node.nodeId ancestorId) := by
  refine ⟨topologicalNodes_succeeds_iff, fun out done => ?_⟩
  have perm := topologicalNodes_perm done
  obtain ⟨graph, built, ordered⟩ := @CanonicalVerifierGraph.build_of_ordered sha _ _ done
  refine ⟨perm, fun _ _ _ split => topologicalNodes_after done split,
    fun _ arranged => topologicalNodes_of_perm arranged done, topologicalNodes_of_perm perm done,
    graph, built, ordered, graph.fromDict_toDict sha, ?_⟩
  subst ordered
  exact fun node member ancestorId => dependsOn_spec graph member ancestorId

/-- No nodes have distinct names and no missing or circular dependency, but no order. -/
theorem no_nodes_refused :
    ((([] : List VerifierNode).map (·.nodeId)).Nodup ∧
      Closed VerifierNode.nodeId VerifierNode.dependsOn [] ∧
      Acyclic VerifierNode.nodeId VerifierNode.dependsOn []) ∧
      ¬∃ out, topologicalNodes [] = .ok out := by
  refine ⟨⟨List.nodup_nil, fun item member => absurd member List.not_mem_nil, ?_⟩, ?_⟩
  · intro name path
    obtain ⟨_, ⟨item, member, _⟩, _⟩ := Relation.TransGen.head'_iff.mp path
    exact List.not_mem_nil member
  · exact fun ordered => (topologicalNodes_succeeds_iff.mp ordered).inhabited rfl

end Macr
