import Macr.Semantic.Compile
import Macr.Semantic.Fencing
import Macr.Semantic.History

/-!
# The graphs of the stored revisions

A revision's active records are what its memberships name. The rows of a stored revision do not
change, and those of a new one are the compiled records, so every stored revision holds a graph of
the compiler's making: formed in every run, and typed in every run whose commits leave the
relations that were there between types the registry allows.
-/

namespace Macr

open Lib

/-! ## Active records -/

section Records

variable {α : Type}

/-- The active records of a revision. -/
def activeRecords (memberships : Table MembershipRow.key) (records : Table (RecordRow.key (α := α)))
    (graphId : Uuid) (graphRevision : Nat) : List α :=
  (SemanticTables.membersOf memberships graphId graphRevision).filterMap
    (fun row => (records.find? (graphId, row.recordDigest)).map (·.record))

/-- Memberships name stored revisions and stored records, and records lie under their digests. -/
structure MembersStored (revisions : List SemanticGraphRevision)
    (memberships : Table MembershipRow.key) (records : Table (RecordRow.key (α := α)))
    (digestOf : α → Digest) : Prop where
  /-- A record lies under its digest. -/
  digests : ∀ row ∈ records.rows, row.recordDigest = digestOf row.record
  /-- The record of a membership is stored. -/
  found : ∀ member ∈ memberships.rows,
    records.find? (member.graphId, member.recordDigest) ≠ none
  /-- So is its revision. -/
  revised : ∀ member ∈ memberships.rows, ∃ revision ∈ revisions,
    revision.key = (member.graphId, member.graphRevision)

variable {revisions : List SemanticGraphRevision} {memberships grown : Table MembershipRow.key}
  {records stored : Table (RecordRow.key (α := α))} {digestOf : α → Digest} {graphId : Uuid}
  {graphRevision : Nat}

/-- A membership is one of a revision's. -/
theorem mem_membersOf {member : MembershipRow} :
    member ∈ SemanticTables.membersOf memberships graphId graphRevision ↔
      member ∈ memberships.rows ∧ member.graphId = graphId ∧
        member.graphRevision = graphRevision := by
  simp [SemanticTables.membersOf, List.mem_mergeSort]

/-- A record that was found is found when more are stored. -/
theorem find?_of_kept (kept : ∀ row ∈ records.rows, row ∈ stored.rows) {key : Uuid × Digest}
    {row : RecordRow α} (found : records.find? key = some row) : stored.find? key = some row := by
  have held := (records.find?_eq_some key row).mp found
  exact (stored.find?_eq_some key row).mpr ⟨kept row held.1, held.2⟩

/-- A stored record is found. -/
theorem find?_of_recordStored {digest : Digest} {item : α}
    (held : RecordStored records graphId digest item) :
    (records.find? (graphId, digest)).map (·.record) = some item := by
  obtain ⟨row, member, graph, same, record⟩ := held
  have key : row.key = (graphId, digest) := Prod.ext graph same
  rw [(records.find?_eq_some _ row).mpr ⟨member, key⟩, Option.map_some, record]

/-- An active record is stored under its digest. -/
theorem recordStored_of_active (members : MembersStored revisions memberships records digestOf)
    {item : α} (active : item ∈ activeRecords memberships records graphId graphRevision) :
    RecordStored records graphId (digestOf item) item := by
  obtain ⟨member, _, found⟩ := List.mem_filterMap.mp active
  rw [Option.map_eq_some_iff] at found
  obtain ⟨row, found, rfl⟩ := found
  have held := (records.find?_eq_some _ row).mp found
  exact ⟨row, held.1, congrArg (·.1) held.2, members.digests row held.1, rfl⟩

/-- The memberships of a revision that gains none stay. -/
theorem membersOf_kept {items : List MembershipRow}
    (appended : grown.rows = memberships.rows ++ items)
    (other : ∀ item ∈ items, ¬(item.graphId = graphId ∧ item.graphRevision = graphRevision)) :
    SemanticTables.membersOf grown graphId graphRevision =
      SemanticTables.membersOf memberships graphId graphRevision := by
  have none_new : items.filter
      (fun row => row.graphId = graphId ∧ row.graphRevision = graphRevision) = [] := by
    rw [List.filter_eq_nil_iff]
    intro item member same
    exact other item member (of_decide_eq_true same)
  unfold SemanticTables.membersOf
  rw [appended, List.filter_append, none_new, List.append_nil]

/-- The memberships of a revision that had none are those it gains. -/
theorem membersOf_new {items : List MembershipRow}
    (fresh : ∀ member ∈ memberships.rows,
      ¬(member.graphId = graphId ∧ member.graphRevision = graphRevision))
    (appended : grown.rows = memberships.rows ++ items)
    (own : ∀ item ∈ items, item.graphId = graphId ∧ item.graphRevision = graphRevision) :
    (SemanticTables.membersOf grown graphId graphRevision).Perm items := by
  have none_old : memberships.rows.filter
      (fun row => row.graphId = graphId ∧ row.graphRevision = graphRevision) = [] := by
    rw [List.filter_eq_nil_iff]
    intro member inside same
    exact fresh member inside (of_decide_eq_true same)
  have all_new : items.filter
      (fun row => row.graphId = graphId ∧ row.graphRevision = graphRevision) = items :=
    List.filter_eq_self.mpr fun item member => decide_eq_true (own item member)
  unfold SemanticTables.membersOf
  rw [appended, List.filter_append, none_old, List.nil_append, all_new]
  exact List.mergeSort_perm _ _

/-- The active records of a revision that gains no membership stay. -/
theorem activeRecords_kept {items : List MembershipRow}
    (members : MembersStored revisions memberships records digestOf)
    (kept : ∀ row ∈ records.rows, row ∈ stored.rows)
    (appended : grown.rows = memberships.rows ++ items)
    (other : ∀ item ∈ items, ¬(item.graphId = graphId ∧ item.graphRevision = graphRevision)) :
    activeRecords grown stored graphId graphRevision =
      activeRecords memberships records graphId graphRevision := by
  have same : SemanticTables.membersOf grown graphId graphRevision =
      SemanticTables.membersOf memberships graphId graphRevision := membersOf_kept appended other
  unfold activeRecords
  rw [same]
  apply List.filterMap_congr
  intro member inside
  have listed := mem_membersOf.mp inside
  obtain ⟨row, found⟩ := Option.ne_none_iff_exists'.mp (members.found member listed.1)
  rw [listed.2.1] at found
  rw [found, find?_of_kept kept found]

/-- The active records of a revision without memberships. -/
theorem activeRecords_empty
    (none_of : ∀ member ∈ memberships.rows,
      ¬(member.graphId = graphId ∧ member.graphRevision = graphRevision)) :
    activeRecords memberships records graphId graphRevision = [] := by
  have empty : SemanticTables.membersOf memberships graphId graphRevision = [] := by
    apply List.eq_nil_iff_forall_not_mem.mpr
    intro member inside
    have listed := mem_membersOf.mp inside
    exact none_of member listed.1 listed.2
  unfold activeRecords
  rw [empty]
  rfl

/-- The active records of a revision that gains the memberships of stored records are these
records. -/
theorem activeRecords_new {items : List α} {idOf : α → String}
    (fresh : ∀ member ∈ memberships.rows,
      ¬(member.graphId = graphId ∧ member.graphRevision = graphRevision))
    (appended : grown.rows = memberships.rows ++ items.map (fun item =>
      (⟨graphId, graphRevision, idOf item, digestOf item⟩ : MembershipRow)))
    (held : ∀ item ∈ items, RecordStored stored graphId (digestOf item) item) :
    (activeRecords grown stored graphId graphRevision).Perm items := by
  have listed : (SemanticTables.membersOf grown graphId graphRevision).Perm
      (items.map (fun item => ⟨graphId, graphRevision, idOf item, digestOf item⟩)) := by
    apply membersOf_new fresh appended
    intro new member
    obtain ⟨item, _, rfl⟩ := List.mem_map.mp member
    exact ⟨rfl, rfl⟩
  have looked : (items.map (fun item =>
      (⟨graphId, graphRevision, idOf item, digestOf item⟩ : MembershipRow))).filterMap
        (fun row => (stored.find? (graphId, row.recordDigest)).map (·.record)) = items := by
    rw [List.filterMap_map]
    conv_rhs => rw [← List.filterMap_some (l := items)]
    apply List.filterMap_congr
    intro item member
    exact find?_of_recordStored (held item member)
  have perm := listed.filterMap
    (fun row => (stored.find? (graphId, row.recordDigest)).map (·.record))
  rw [looked] at perm
  exact perm

/-- New memberships of stored records of a stored revision keep memberships stored. -/
theorem MembersStored.appended {items : List α} {idOf : α → String}
    {revision : SemanticGraphRevision}
    (members : MembersStored revisions memberships records digestOf)
    (kept : ∀ row ∈ records.rows, row ∈ stored.rows)
    (origin : ∀ row ∈ stored.rows, row ∈ records.rows ∨ row.recordDigest = digestOf row.record)
    (key : revision.key = (graphId, graphRevision))
    (appended : grown.rows = memberships.rows ++ items.map (fun item =>
      (⟨graphId, graphRevision, idOf item, digestOf item⟩ : MembershipRow)))
    (held : ∀ item ∈ items, RecordStored stored graphId (digestOf item) item) :
    MembersStored (revisions ++ [revision]) grown stored digestOf := by
  constructor
  · intro row member
    rcases origin row member with old | new
    · exact members.digests row old
    · exact new
  · intro member inside
    rw [appended] at inside
    rcases List.mem_append.mp inside with old | new
    · obtain ⟨row, found⟩ := Option.ne_none_iff_exists'.mp (members.found member old)
      rw [find?_of_kept kept found]
      simp
    · obtain ⟨item, listed, rfl⟩ := List.mem_map.mp new
      intro absent
      have found := find?_of_recordStored (held item listed)
      rw [absent] at found
      exact absurd found (by simp)
  · intro member inside
    rw [appended] at inside
    rcases List.mem_append.mp inside with old | new
    · obtain ⟨earlier, listed, same⟩ := members.revised member old
      exact ⟨earlier, List.mem_append_left _ listed, same⟩
    · obtain ⟨item, _, rfl⟩ := List.mem_map.mp new
      exact ⟨revision, by simp, key⟩

/-- More revisions keep memberships stored. -/
theorem MembersStored.of_revisions {more : List SemanticGraphRevision}
    (members : MembersStored revisions memberships records digestOf) :
    MembersStored (revisions ++ more) memberships records digestOf := by
  refine ⟨members.digests, members.found, ?_⟩
  intro member inside
  obtain ⟨revision, listed, same⟩ := members.revised member inside
  exact ⟨revision, List.mem_append_left _ listed, same⟩

/-- No membership is of a revision that is not stored. -/
theorem MembersStored.fresh (members : MembersStored revisions memberships records digestOf)
    (absent : ∀ revision ∈ revisions, revision.key ≠ (graphId, graphRevision)) :
    ∀ member ∈ memberships.rows,
      ¬(member.graphId = graphId ∧ member.graphRevision = graphRevision) := by
  rintro member inside ⟨rfl, rfl⟩
  obtain ⟨revision, listed, same⟩ := members.revised member inside
  exact absent revision listed same

end Records

/-! ## Graphs of revisions -/

/-- The order of the records does not matter to a graph. -/
theorem GraphFormed.perm {scopeRef : String} {nodes others : List SemanticNode}
    {relations otherRelations : List SemanticRelation}
    (formed : GraphFormed scopeRef nodes relations) (nodePerm : others.Perm nodes)
    (relationPerm : otherRelations.Perm relations) :
    GraphFormed scopeRef others otherRelations := by
  constructor
  · exact (nodePerm.map _).nodup_iff.mpr formed.nodeIds
  · exact (relationPerm.map _).nodup_iff.mpr formed.relationIds
  · intro node member
    exact formed.inScope node (nodePerm.mem_iff.mp member)
  · intro relation member
    have both := formed.endpoints relation (relationPerm.mem_iff.mp member)
    simpa only [nodePerm.mem_iff] using both

/-- Nor to its typing. -/
theorem GraphTyped.perm {registry : SemanticRegistry} {nodes others : List SemanticNode}
    {relations otherRelations : List SemanticRelation}
    (typed : GraphTyped registry nodes relations) (nodePerm : others.Perm nodes)
    (relationPerm : otherRelations.Perm relations) :
    GraphTyped registry others otherRelations := by
  intro relation member source sourceMember target targetMember
  exact typed relation (relationPerm.mem_iff.mp member) source (nodePerm.mem_iff.mp sourceMember)
    target (nodePerm.mem_iff.mp targetMember)

namespace SemanticTables

/-- The revision holds a formed graph of its graph's scope. -/
def FormedAt (db : SemanticTables) (revision : SemanticGraphRevision) : Prop :=
  ∃ graph ∈ db.graphs.rows, graph.graphId = revision.graphId ∧
    GraphFormed graph.scopeRef (db.activeNodes revision.graphId revision.graphRevision)
      (db.activeRelations revision.graphId revision.graphRevision)

/-- The revision holds a typed graph. -/
def TypedAt (registry : SemanticRegistry) (db : SemanticTables)
    (revision : SemanticGraphRevision) : Prop :=
  GraphTyped registry (db.activeNodes revision.graphId revision.graphRevision)
    (db.activeRelations revision.graphId revision.graphRevision)

/-- Every stored revision holds a well-typed graph: unique identifiers, one scope, relations with
both ends, and only relations the registry requires of their ends' types. -/
def WellTyped (registry : SemanticRegistry) (db : SemanticTables) : Prop :=
  ∀ revision ∈ db.revisions.rows, db.FormedAt revision ∧ db.TypedAt registry revision

/-- The rows behind the graphs of the revisions. -/
structure GraphsStored (sha : Sha256) (db : SemanticTables) : Prop where
  /-- The nodes. -/
  nodes : MembersStored db.revisions.rows db.revisionNodes db.nodes (·.recordDigest sha)
  /-- The relations. -/
  relations : MembersStored db.revisions.rows db.revisionRelations db.relations
    (·.relationDigest sha)
  /-- Every revision holds a formed graph. -/
  formed : ∀ revision ∈ db.revisions.rows, db.FormedAt revision

/-- The tables that hold graphs have not changed. -/
structure SameGraphs (before after : SemanticTables) : Prop where
  /-- `semantic_graphs`. -/
  graphs : after.graphs = before.graphs
  /-- `semantic_graph_revisions`. -/
  revisions : after.revisions = before.revisions
  /-- `semantic_graph_revision_nodes`. -/
  revisionNodes : after.revisionNodes = before.revisionNodes
  /-- `semantic_graph_revision_relations`. -/
  revisionRelations : after.revisionRelations = before.revisionRelations
  /-- `semantic_nodes`. -/
  nodes : after.nodes = before.nodes
  /-- `semantic_relations`. -/
  relations : after.relations = before.relations

variable {sha : Sha256} {registry : SemanticRegistry} {before after : SemanticTables}

/-- A new database stores no graph. -/
theorem graphsStored_initial : initial.GraphsStored sha := by
  constructor
  · constructor <;> intro row member <;> exact absurd member (by simp [initial])
  · constructor <;> intro row member <;> exact absurd member (by simp [initial])
  · intro revision member
    exact absurd member (by simp [initial])

/-- A revision whose active records and graph stay is formed and typed as before. -/
theorem formedAt_of_same {revision : SemanticGraphRevision} (formed : before.FormedAt revision)
    (graphs : ∀ graph ∈ before.graphs.rows, graph ∈ after.graphs.rows)
    (nodes : after.activeNodes revision.graphId revision.graphRevision =
      before.activeNodes revision.graphId revision.graphRevision)
    (relations : after.activeRelations revision.graphId revision.graphRevision =
      before.activeRelations revision.graphId revision.graphRevision) :
    after.FormedAt revision := by
  obtain ⟨graph, member, named, made⟩ := formed
  refine ⟨graph, graphs graph member, named, ?_⟩
  rw [nodes, relations]
  exact made

/-- The graphs stay when their tables do. -/
theorem SameGraphs.active (same : SameGraphs before after) (graphId : Uuid) (graphRevision : Nat) :
    after.activeNodes graphId graphRevision = before.activeNodes graphId graphRevision ∧
      after.activeRelations graphId graphRevision =
        before.activeRelations graphId graphRevision := by
  unfold activeNodes activeRelations
  rw [same.revisionNodes, same.revisionRelations, same.nodes, same.relations]
  exact ⟨rfl, rfl⟩

/-- Stored graphs stay stored when their tables stay. -/
theorem SameGraphs.graphsStored (same : SameGraphs before after)
    (stored : before.GraphsStored sha) : after.GraphsStored sha := by
  constructor
  · rw [same.revisions, same.revisionNodes, same.nodes]
    exact stored.nodes
  · rw [same.revisions, same.revisionRelations, same.relations]
    exact stored.relations
  · intro revision member
    rw [same.revisions] at member
    have active := same.active revision.graphId revision.graphRevision
    apply formedAt_of_same (stored.formed revision member) _ active.1 active.2
    rw [same.graphs]
    exact fun _ held => held

/-- Typed graphs stay typed when their tables stay. -/
theorem SameGraphs.typed (same : SameGraphs before after)
    (typed : ∀ revision ∈ before.revisions.rows, before.TypedAt registry revision) :
    ∀ revision ∈ after.revisions.rows, after.TypedAt registry revision := by
  intro revision member
  rw [same.revisions] at member
  have active := same.active revision.graphId revision.graphRevision
  unfold TypedAt
  rw [active.1, active.2]
  exact typed revision member

/-! ### A created graph -/

/-- The first revision of a new graph has no active record, and the others keep theirs. -/
theorem active_of_created {before after : AgentDb} {graph : SemanticGraphRow}
    {headRow : SemanticGraphHeadRow} {revision : SemanticGraphRevision}
    (stored : before.semantic.GraphsStored sha)
    (creation : GraphCreated sha before after graph headRow revision) :
    (∀ graphId graphRevision,
      after.semantic.activeNodes graphId graphRevision =
          before.semantic.activeNodes graphId graphRevision ∧
        after.semantic.activeRelations graphId graphRevision =
          before.semantic.activeRelations graphId graphRevision) ∧
      after.semantic.activeNodes revision.graphId revision.graphRevision = [] ∧
      after.semantic.activeRelations revision.graphId revision.graphRevision = [] := by
  have kept : ∀ graphId graphRevision,
      after.semantic.activeNodes graphId graphRevision =
          before.semantic.activeNodes graphId graphRevision ∧
        after.semantic.activeRelations graphId graphRevision =
          before.semantic.activeRelations graphId graphRevision := by
    intro graphId graphRevision
    rw [creation.others]
    exact ⟨rfl, rfl⟩
  refine ⟨kept, ?_, ?_⟩
  · rw [(kept _ _).1]
    exact activeRecords_empty (stored.nodes.fresh creation.freshRevision)
  · rw [(kept _ _).2]
    exact activeRecords_empty (stored.relations.fresh creation.freshRevision)

/-- A new graph is stored. -/
theorem graphsStored_of_created {before after : AgentDb} {graph : SemanticGraphRow}
    {headRow : SemanticGraphHeadRow} {revision : SemanticGraphRevision}
    (stored : before.semantic.GraphsStored sha)
    (creation : GraphCreated sha before after graph headRow revision) :
    after.semantic.GraphsStored sha := by
  obtain ⟨kept, noNodes, noRelations⟩ := active_of_created stored creation
  have sameNodes : after.semantic.revisionNodes = before.semantic.revisionNodes ∧
      after.semantic.nodes = before.semantic.nodes := by
    rw [creation.others]
    exact ⟨rfl, rfl⟩
  have sameRelations : after.semantic.revisionRelations = before.semantic.revisionRelations ∧
      after.semantic.relations = before.semantic.relations := by
    rw [creation.others]
    exact ⟨rfl, rfl⟩
  constructor
  · rw [creation.revisions, sameNodes.1, sameNodes.2]
    exact stored.nodes.of_revisions
  · rw [creation.revisions, sameRelations.1, sameRelations.2]
    exact stored.relations.of_revisions
  · intro other member
    rw [creation.revisions] at member
    rcases List.mem_append.mp member with old | new
    · have active := kept other.graphId other.graphRevision
      apply formedAt_of_same (stored.formed other old) _ active.1 active.2
      rw [creation.graphs]
      exact fun _ held => List.mem_append_left _ held
    · rw [List.mem_singleton.mp new]
      have named : graph.graphId = revision.graphId :=
        creation.named.2.1.trans (congrArg (·.1) creation.revisionKey).symm
      refine ⟨graph, by rw [creation.graphs]; simp, named, ?_⟩
      rw [noNodes, noRelations]
      constructor <;> simp

/-- A new graph is typed. -/
theorem typed_of_created {before after : AgentDb} {graph : SemanticGraphRow}
    {headRow : SemanticGraphHeadRow} {revision : SemanticGraphRevision}
    (stored : before.semantic.GraphsStored sha)
    (creation : GraphCreated sha before after graph headRow revision)
    (typed : ∀ revision ∈ before.semantic.revisions.rows,
      before.semantic.TypedAt registry revision) :
    ∀ revision ∈ after.semantic.revisions.rows, after.semantic.TypedAt registry revision := by
  obtain ⟨kept, noNodes, noRelations⟩ := active_of_created stored creation
  intro other member
  rw [creation.revisions] at member
  unfold TypedAt
  rcases List.mem_append.mp member with old | new
  · have active := kept other.graphId other.graphRevision
    rw [active.1, active.2]
    exact typed other old
  · rw [List.mem_singleton.mp new, noNodes, noRelations]
    intro relation member
    exact absurd member (by simp)

/-! ### A committed patch -/

/-- A stored record stays stored. -/
theorem recordStored_of_kept {α : Type} {records stored : Table (RecordRow.key (α := α))}
    {graphId : Uuid} {digest : Digest} {item : α}
    (kept : ∀ row ∈ records.rows, row ∈ stored.rows)
    (held : RecordStored records graphId digest item) : RecordStored stored graphId digest item := by
  obtain ⟨row, member, facts⟩ := held
  exact ⟨row, kept row member, facts⟩

/-- What a commit makes of the active records: those of the new revision are the compiled ones,
those of the others stay, and the compiled patch applies the request's. -/
structure CommitApplied (kernel : SemanticKernel) (before after : SemanticTables)
    (request : SemanticCommitRequest) (head : SemanticGraphHead)
    (compiled : CompiledSemanticPatch) (revision : SemanticGraphRevision) : Prop where
  /-- The nodes of the new revision. -/
  newNodes : (after.activeNodes revision.graphId revision.graphRevision).Perm compiled.activeNodes
  /-- Its relations. -/
  newRelations : (after.activeRelations revision.graphId revision.graphRevision).Perm
    compiled.activeRelations
  /-- The other revisions. -/
  kept : ∀ other ∈ before.revisions.rows,
    after.activeNodes other.graphId other.graphRevision =
        before.activeNodes other.graphId other.graphRevision ∧
      after.activeRelations other.graphId other.graphRevision =
        before.activeRelations other.graphId other.graphRevision
  /-- The nodes are stored. -/
  nodes : MembersStored after.revisions.rows after.revisionNodes after.nodes
    (·.recordDigest kernel.sha)
  /-- The relations are stored. -/
  relations : MembersStored after.revisions.rows after.revisionRelations after.relations
    (·.relationDigest kernel.sha)
  /-- The patch is applied. -/
  applied : PatchApplied kernel head.scopeRef
    (before.activeNodes head.graphId head.graphRevision)
    (before.activeRelations head.graphId head.graphRevision) request.proposal.patch compiled

/-- The nodes of a head are in its scope. -/
theorem inScope_of_head {headRow : SemanticGraphHeadRow} (linear : before.Linear sha)
    (stored : before.GraphsStored sha) (held : headRow ∈ before.heads.rows) :
    ∀ node ∈ before.activeNodes headRow.head.graphId headRow.head.graphRevision,
      node.scopeRef = headRow.head.scopeRef := by
  have name := linear.named headRow held
  obtain ⟨current, _, base, at_end, number, _⟩ := linear.last headRow held
  obtain ⟨baseStored, baseGraph⟩ := mem_revisionsOf.mp (List.mem_of_getLast? at_end)
  obtain ⟨graph, graphStored, graphName, formed⟩ := stored.formed base baseStored
  obtain ⟨other, otherStored, otherName, scope⟩ := linear.graphs headRow held
  have same : graph = other := by
    apply before.graphs.eq_of_key graphStored otherStored
    rw [graphName, baseGraph, otherName]
  have place : base.graphId = headRow.head.graphId ∧
      base.graphRevision = headRow.head.graphRevision :=
    ⟨baseGraph.trans name.symm, number.trans current⟩
  rw [place.1, place.2] at formed
  intro node member
  rw [formed.inScope node member, same, scope]

/-- The compiled records are stored. -/
theorem recordsHeld_of_committed {kernel : SemanticKernel} {before after : AgentDb}
    {request : SemanticCommitRequest} {permit : AgentOwnershipPermit} {now : Timestamp}
    {receipt : SemanticCommitReceipt} {parts : CommitParts}
    (linear : before.semantic.Linear kernel.sha) (stored : before.semantic.GraphsStored kernel.sha)
    (commit : PatchCommitted kernel before after request permit now receipt parts) :
    (∀ node ∈ parts.compiled.activeNodes, RecordStored after.semantic.nodes
        parts.headRow.head.graphId (node.recordDigest kernel.sha) node) ∧
      ∀ relation ∈ parts.compiled.activeRelations, RecordStored after.semantic.relations
        parts.headRow.head.graphId (relation.relationDigest kernel.sha) relation := by
  have inScope := inScope_of_head linear stored commit.held.1
  have applied := SemanticKernel.patchApplied_of_compile inScope commit.compiles
  obtain ⟨mid, written, same⟩ := commit.written
  rw [same]
  constructor
  · intro node member
    rcases applied.nodeOrigin node member with base | new
    · exact recordStored_of_kept written.nodes.kept (recordStored_of_active stored.nodes base)
    · exact written.nodes.stored node new
  · intro relation member
    rcases applied.relationOrigin relation member with base | new
    · exact recordStored_of_kept written.relations.kept
        (recordStored_of_active stored.relations base)
    · exact written.relations.stored relation new

/-- A commit applies its patch. -/
theorem commitApplied_of_committed {kernel : SemanticKernel} {before after : AgentDb}
    {request : SemanticCommitRequest} {permit : AgentOwnershipPermit} {now : Timestamp}
    {receipt : SemanticCommitReceipt} {parts : CommitParts}
    (linear : before.semantic.Linear kernel.sha) (stored : before.semantic.GraphsStored kernel.sha)
    (commit : PatchCommitted kernel before after request permit now receipt parts) :
    CommitApplied kernel before.semantic after.semantic request parts.headRow.head parts.compiled
      parts.revision := by
  have inScope := inScope_of_head linear stored commit.held.1
  have applied := SemanticKernel.patchApplied_of_compile inScope commit.compiles
  rw [commit.proposed.2.2.2.2] at applied
  have grown := commit.revisions
  obtain ⟨heldNodes, heldRelations⟩ := recordsHeld_of_committed linear stored commit
  obtain ⟨mid, written, same⟩ := commit.written
  rw [same] at heldNodes heldRelations
  have graph : parts.revision.graphId = parts.headRow.head.graphId :=
    congrArg (·.1) written.revisionKey
  have number : parts.revision.graphRevision = parts.compiled.nextGraphRevision :=
    congrArg (·.2) written.revisionKey
  have absent : ∀ revision ∈ before.semantic.revisions.rows,
      revision.key ≠ (parts.headRow.head.graphId, parts.compiled.nextGraphRevision) := by
    rw [← written.revisionKey]
    exact written.freshRevision
  have nodesAfter : ∀ graphId graphRevision, after.semantic.activeNodes graphId graphRevision =
      activeRecords mid.revisionNodes mid.nodes graphId graphRevision := by
    intro graphId graphRevision
    rw [same]
    rfl
  have relationsAfter : ∀ graphId graphRevision,
      after.semantic.activeRelations graphId graphRevision =
        activeRecords mid.revisionRelations mid.relations graphId graphRevision := by
    intro graphId graphRevision
    rw [same]
    rfl
  constructor
  · rw [nodesAfter, graph, number]
    exact activeRecords_new (stored.nodes.fresh absent) written.revisionNodes heldNodes
  · rw [relationsAfter, graph, number]
    exact activeRecords_new (stored.relations.fresh absent) written.revisionRelations heldRelations
  · intro other member
    have apart : ¬(parts.headRow.head.graphId = other.graphId ∧
        parts.compiled.nextGraphRevision = other.graphRevision) := by
      rintro ⟨sameGraph, sameNumber⟩
      exact absent other member (Prod.ext sameGraph.symm sameNumber.symm)
    rw [nodesAfter, relationsAfter]
    constructor
    · apply activeRecords_kept stored.nodes written.nodes.kept written.revisionNodes
      intro item listed
      obtain ⟨node, _, rfl⟩ := List.mem_map.mp listed
      exact apart
    · apply activeRecords_kept stored.relations written.relations.kept written.revisionRelations
      intro item listed
      obtain ⟨relation, _, rfl⟩ := List.mem_map.mp listed
      exact apart
  · rw [grown, same]
    exact stored.nodes.appended written.nodes.kept written.nodes.origin written.revisionKey
      written.revisionNodes heldNodes
  · rw [grown, same]
    exact stored.relations.appended written.relations.kept written.relations.origin
      written.revisionKey written.revisionRelations heldRelations
  · exact applied

/-- A committed graph is stored. -/
theorem graphsStored_of_committed {kernel : SemanticKernel} {before after : AgentDb}
    {request : SemanticCommitRequest} {permit : AgentOwnershipPermit} {now : Timestamp}
    {receipt : SemanticCommitReceipt} {parts : CommitParts}
    (linear : before.semantic.Linear kernel.sha) (stored : before.semantic.GraphsStored kernel.sha)
    (commit : PatchCommitted kernel before after request permit now receipt parts) :
    after.semantic.GraphsStored kernel.sha := by
  have result := commitApplied_of_committed linear stored commit
  refine ⟨result.nodes, result.relations, ?_⟩
  intro revision member
  rw [commit.revisions] at member
  rcases List.mem_append.mp member with old | new
  · have active := result.kept revision old
    apply formedAt_of_same (stored.formed revision old) _ active.1 active.2
    rw [commit.graphs]
    exact fun _ held => held
  · rw [List.mem_singleton.mp new]
    obtain ⟨mid, written, _⟩ := commit.written
    obtain ⟨graph, graphStored, graphName, scope⟩ := linear.graphs parts.headRow commit.held.1
    have named : graph.graphId = parts.revision.graphId := by
      rw [graphName, ← linear.named parts.headRow commit.held.1]
      exact (congrArg (·.1) written.revisionKey).symm
    refine ⟨graph, by rw [commit.graphs]; exact graphStored, named, ?_⟩
    rw [scope]
    exact result.applied.formed.perm result.newNodes result.newRelations

/-- A committed graph is typed when the patch leaves the relations between allowed types. -/
theorem typed_of_committed {kernel : SemanticKernel} {before after : AgentDb}
    {request : SemanticCommitRequest} {permit : AgentOwnershipPermit} {now : Timestamp}
    {receipt : SemanticCommitReceipt} {parts : CommitParts}
    (linear : before.semantic.Linear kernel.sha) (stored : before.semantic.GraphsStored kernel.sha)
    (commit : PatchCommitted kernel before after request permit now receipt parts)
    (safe : RetypesSafely kernel.registry
      (before.semantic.activeNodes parts.headRow.head.graphId parts.headRow.head.graphRevision)
      (before.semantic.activeRelations parts.headRow.head.graphId parts.headRow.head.graphRevision)
      request.proposal.patch)
    (typed : ∀ revision ∈ before.semantic.revisions.rows,
      before.semantic.TypedAt kernel.registry revision) :
    ∀ revision ∈ after.semantic.revisions.rows,
      after.semantic.TypedAt kernel.registry revision := by
  have result := commitApplied_of_committed linear stored commit
  intro revision member
  rw [commit.revisions] at member
  unfold TypedAt
  rcases List.mem_append.mp member with old | new
  · have active := result.kept revision old
    rw [active.1, active.2]
    exact typed revision old
  · rw [List.mem_singleton.mp new]
    exact (result.applied.typed safe).perm result.newNodes result.newRelations

end SemanticTables

/-! ## Runs -/

namespace AgentDb

variable {kernel : SemanticKernel} {db after : AgentDb}

/-- A committed call commits a patch, creates a graph or leaves the graphs alone. -/
theorem graphs_of_perform {call : AgentCall} {outcome : Except MacrError AgentOutcome}
    (named : db.semantic.HeadsNamed) (done : db.perform kernel call = .ok (after, outcome)) :
    (∃ fault request permit semanticEventId agentEventId now receipt parts,
        call = .commitPatch fault request permit semanticEventId agentEventId now ∧
          PatchCommitted kernel db after request permit now receipt parts) ∨
      (∃ graph headRow revision, GraphCreated kernel.sha db after graph headRow revision) ∨
      SemanticTables.SameGraphs db.semantic after.semantic := by
  cases call with
  | commitPatch fault request permit semanticEventId agentEventId now =>
    obtain ⟨_, made, _⟩ := onDb_eq_ok done
    obtain ⟨_, receipt, _, ⟨rfl, _⟩ | ⟨parts, commit⟩⟩ := commitPatch_eq_ok named made
    · exact .inr (.inr ⟨rfl, rfl, rfl, rfl, rfl, rfl⟩)
    · exact .inl ⟨fault, request, permit, semanticEventId, agentEventId, now, receipt, parts, rfl,
        commit⟩
  | createGraph graphId scopeRef createdByAgentRunId createdAt =>
    obtain ⟨_, made, _⟩ := onDb_eq_ok done
    obtain ⟨graph, headRow, revision, creation, _⟩ := createGraph_eq_ok made
    exact .inr (.inl ⟨graph, headRow, revision, creation⟩)
  | attachGraph fault request now =>
    obtain ⟨_, made, _⟩ := onDb_eq_ok done
    obtain ⟨_, _, ⟨rfl, _⟩ | attachment⟩ := attachGraph_eq_ok made
    · exact .inr (.inr ⟨rfl, rfl, rfl, rfl, rfl, rfl⟩)
    · right
      right
      rw [attachment.others]
      exact ⟨rfl, rfl, rfl, rfl, rfl, rfl⟩
  | createAgentRun | transitionUnowned | acquireOwnership | renewOwnership | releaseOwnership
  | transitionOwned =>
    obtain ⟨_, _, _, rfl, _⟩ := onAgent_eq_ok done
    exact .inr (.inr ⟨rfl, rfl, rfl, rfl, rfl, rfl⟩)

end AgentDb

namespace AgentSystem

variable {kernel : SemanticKernel}

/-- A new commit request on the current head leaves the relations that are active there between
types the registry allows; another action does anything. -/
def KeepsTypes (kernel : SemanticKernel) (system : AgentSystem) : AgentAction → Prop
  | .call (.commitPatch _ request _ _ _ _) =>
    system.db.semantic.commitReceipts.find? request.commitId = none →
    ∀ headRow ∈ system.db.semantic.heads.rows, headRow.graphId = request.proposal.graphId →
      headRow.head.graphRevision = request.proposal.baseGraphRevision →
      headRow.head.graphDigest kernel.sha = request.proposal.baseGraphDigest →
      RetypesSafely kernel.registry
        (system.db.semantic.activeNodes headRow.head.graphId headRow.head.graphRevision)
        (system.db.semantic.activeRelations headRow.head.graphId headRow.head.graphRevision)
        request.proposal.patch
  | _ => True

instance (kernel : SemanticKernel) (system : AgentSystem) (action : AgentAction) :
    Decidable (KeepsTypes kernel system action) := by
  unfold KeepsTypes
  split <;> infer_instance

/-- A step commits a patch, creates a graph or leaves the graphs alone. -/
theorem graphs_of_step (kernel : SemanticKernel) {system : AgentSystem} (formed : system.Formed)
    (action : AgentAction) :
    (∃ fault request permit semanticEventId agentEventId now receipt parts,
        action = .call (.commitPatch fault request permit semanticEventId agentEventId now) ∧
          PatchCommitted kernel system.db ((machine kernel).step system action).db request permit
            now receipt parts) ∨
      (∃ graph headRow revision, GraphCreated kernel.sha system.db
        ((machine kernel).step system action).db graph headRow revision) ∨
      SemanticTables.SameGraphs system.db.semantic
        ((machine kernel).step system action).db.semantic := by
  have unchanged : ∀ {after : AgentDb}, after = system.db →
      SemanticTables.SameGraphs system.db.semantic after.semantic := by
    rintro after rfl
    exact ⟨rfl, rfl, rfl, rfl, rfl, rfl⟩
  cases action with
  | call call =>
    show _ ∨ _ ∨ SemanticTables.SameGraphs _ (settle system.db (system.db.perform kernel call)).1.semantic
    cases done : system.db.perform kernel call with
    | error raised => exact .inr (.inr (unchanged rfl))
    | ok result =>
      obtain ⟨after, outcome⟩ := result
      have reached : ((machine kernel).step system (.call call)).db = after := by
        show (settle system.db (system.db.perform kernel call)).1 = after
        rw [done]
        rfl
      rw [reached]
      rcases AgentDb.graphs_of_perform formed.named done with
        ⟨fault, request, permit, semanticEventId, agentEventId, now, receipt, parts, rfl, commit⟩ |
          other
      · exact .inl ⟨fault, request, permit, semanticEventId, agentEventId, now, receipt, parts, rfl,
          commit⟩
      · exact .inr other
  | propose proposal now =>
    right
    right
    have same := (turned_beginPropose system.db.semantic proposal).1
    show SemanticTables.SameGraphs _ (turned system.db.semantic
      (beginPropose system.db.semantic proposal)).1
    rw [same]
    exact ⟨rfl, rfl, rfl, rfl, rfl, rfl⟩
  | proceed index =>
    right
    right
    simp only [machine, step]
    split
    · rename_i proposal now stage found
      have uncommitted : stage.Uncommitted :=
        formed.uncommitted _ (List.mem_of_getElem? found) stage rfl
      have turn := effect_of_stepPropose kernel system.db.semantic proposal now uncommitted
      rcases turn.1 with same | ⟨record, save⟩
      · rw [same]
        exact ⟨rfl, rfl, rfl, rfl, rfl, rfl⟩
      · rw [save.others]
        exact ⟨rfl, rfl, rfl, rfl, rfl, rfl⟩
    · exact ⟨rfl, rfl, rfl, rfl, rfl, rfl⟩

/-- The system is formed, its histories are linear and its graphs stored. -/
structure Graphical (kernel : SemanticKernel) (system : AgentSystem) : Prop where
  /-- Formed. -/
  formed : system.Formed
  /-- Linear. -/
  linear : system.db.semantic.Linear kernel.sha
  /-- Stored. -/
  stored : system.db.semantic.GraphsStored kernel.sha

/-- A new system is. -/
theorem graphical_initial : Graphical kernel initial :=
  ⟨formed_initial, SemanticTables.linear_initial, SemanticTables.graphsStored_initial⟩

/-- Every step keeps it so. -/
theorem graphical_step (system : AgentSystem) (action : AgentAction)
    (held : Graphical kernel system) : Graphical kernel ((machine kernel).step system action) := by
  have effect : AgentDb.Effect kernel system.db ((machine kernel).step system action).db :=
    effect_of_step held.formed action
  refine ⟨formed_step held.formed action, held.linear.step effect, ?_⟩
  rcases graphs_of_step kernel held.formed action with
    ⟨_, _, _, _, _, _, _, _, _, commit⟩ | ⟨_, _, _, creation⟩ | same
  · exact SemanticTables.graphsStored_of_committed held.linear held.stored commit
  · exact SemanticTables.graphsStored_of_created held.stored creation
  · exact same.graphsStored held.stored

/-- A step under the condition keeps every revision typed. -/
theorem typed_step {system : AgentSystem} {action : AgentAction} (held : Graphical kernel system)
    (keeps : KeepsTypes kernel system action)
    (typed : ∀ revision ∈ system.db.semantic.revisions.rows,
      system.db.semantic.TypedAt kernel.registry revision) :
    ∀ revision ∈ ((machine kernel).step system action).db.semantic.revisions.rows,
      ((machine kernel).step system action).db.semantic.TypedAt kernel.registry revision := by
  rcases graphs_of_step kernel held.formed action with
    ⟨fault, request, permit, semanticEventId, agentEventId, now, receipt, parts, rfl, commit⟩ |
      ⟨_, _, _, creation⟩ | same
  · have absent : system.db.semantic.commitReceipts.find? request.commitId = none :=
      (system.db.semantic.commitReceipts.find?_eq_none _).mpr commit.fresh
    have safe := keeps absent parts.headRow commit.held.1 commit.held.2 commit.based.1
      commit.based.2
    exact SemanticTables.typed_of_committed held.linear held.stored commit safe typed
  · exact SemanticTables.typed_of_created held.stored creation typed
  · exact same.typed typed

/-- In every run whose new commit requests on a current head leave the relations that are active
there between types the registry allows, every stored revision holds a well-typed graph. -/
theorem committed_graphs_well_typed (kernel : SemanticKernel) (actions : List AgentAction)
    (keeps : (machine kernel).Obeys (KeepsTypes kernel) initial actions) :
    ((machine kernel).run initial actions).db.semantic.WellTyped kernel.registry := by
  have keep : ∀ system action,
      (Graphical kernel system ∧ ∀ revision ∈ system.db.semantic.revisions.rows,
        system.db.semantic.TypedAt kernel.registry revision) →
      KeepsTypes kernel system action →
      Graphical kernel ((machine kernel).step system action) ∧
        ∀ revision ∈ ((machine kernel).step system action).db.semantic.revisions.rows,
          ((machine kernel).step system action).db.semantic.TypedAt kernel.registry revision :=
    fun system action held allowed =>
      ⟨graphical_step system action held.1, typed_step held.1 allowed held.2⟩
  have start : ∀ revision ∈ initial.db.semantic.revisions.rows,
      initial.db.semantic.TypedAt kernel.registry revision :=
    fun _ member => absurd member List.not_mem_nil
  have held := (machine kernel).run_invariant keep ⟨graphical_initial, start⟩ keeps
  intro revision member
  exact ⟨held.1.stored.formed revision member, held.2 revision member⟩

/-! ### A retyped node -/

/-- An active node under one identifier. -/
def sampleNode (nodeType : SemanticNodeType)
    (fits : SemanticStatus.ofText nodeType "active" = some (.lifecycle "active")) :
    SemanticNode where
  nodeId := "node"
  nodeType := nodeType
  payload := .obj []
  scopeRef := "scope"
  status := .lifecycle "active"
  effects := []
  constraints := []
  policy := .obj []
  provenance := ⟨"host", "origin", [], none, "agent", 1⟩
  temporal := .obj []
  externalBindings := []
  statusFits := fits

/-- A task. -/
def sampleTask : SemanticNode := sampleNode .task (by decide)

/-- A goal under its identifier. -/
def sampleGoal : SemanticNode := sampleNode .goal (by decide)

/-- The task targets itself. -/
def sampleTarget : SemanticRelation :=
  ⟨"relation", "node", .targets, "node", .obj [], ⟨"host", "origin", [], none, "agent", 1⟩⟩

/-- The digest of the sample graph with some nodes and relations. -/
def sampleGraphDigest (nodes : List SemanticNode) (relations : List SemanticRelation) : Digest :=
  graphContentDigest foldDigest "macr-semantic-registry/v1" 7
    ((sortNodes foldDigest nodes).map (·.recordDigest foldDigest))
    ((sortRelations foldDigest relations).map (·.relationDigest foldDigest))

/-- A proposal of a patch that adds nodes and relations and supersedes records. -/
def sampleProposal (proposalId : Uuid) (baseGraphRevision : Nat) (baseGraphDigest : Digest)
    (nodes : List SemanticNode) (relations : List SemanticRelation) (superseded : List Digest) :
    SemanticPatchProposalRequest where
  proposalId := proposalId
  graphId := 9
  agentRunId := 1
  baseGraphRevision := baseGraphRevision
  baseGraphDigest := baseGraphDigest
  registryVersion := "macr-semantic-registry/v1"
  registryDigest := 7
  patch := ⟨"patch", baseGraphDigest, sortNodes foldDigest nodes,
    sortRelations foldDigest relations, [], superseded.map .hex, "agent"⟩
  based := rfl

/-- The request that commits a proposal. -/
def sampleCommit (commitId : Uuid) (proposal : SemanticPatchProposalRequest)
    (expectedAgentRevision : Nat) : SemanticCommitRequest :=
  ⟨commitId, proposal, expectedAgentRevision, 1, samplePermit.digest foldDigest,
    sampleHeader.authority⟩

/-- The task and its relation. -/
def firstProposal : SemanticPatchProposalRequest :=
  sampleProposal 81 1 (sampleGraphDigest [] []) [sampleTask] [sampleTarget] []

/-- The goal, which supersedes the task. -/
def secondProposal : SemanticPatchProposalRequest :=
  sampleProposal 82 2 (sampleGraphDigest [sampleTask] [sampleTarget]) [sampleGoal] []
    [sampleTask.recordDigest foldDigest]

/-- A graph is attached, and the first proposal is made and committed. -/
def firstCommit : List AgentAction :=
  attachActions ++ [.propose firstProposal 6] ++ List.replicate 6 (.proceed 0) ++
    [.call (.commitPatch noFault (sampleCommit 91 firstProposal 5) samplePermit 61 62 7)]

/-- The second is made and committed on it. -/
def secondCommit : List AgentAction :=
  firstCommit ++ [.propose secondProposal 8] ++ List.replicate 6 (.proceed 1) ++
    [.call (.commitPatch noFault (sampleCommit 92 secondProposal 6) samplePermit 63 64 9)]

/-- The run of the first commit meets the condition and leaves well-typed graphs. -/
theorem committed_graphs_well_typed_of_firstCommit :
    (machine sampleSemanticKernel).Obeys (KeepsTypes sampleSemanticKernel) initial firstCommit ∧
      ((machine sampleSemanticKernel).run initial firstCommit).db.semantic.WellTyped
        sampleSemanticKernel.registry := by
  have keeps : (machine sampleSemanticKernel).Obeys (KeepsTypes sampleSemanticKernel) initial
      firstCommit := by decide +kernel
  exact ⟨keeps, committed_graphs_well_typed sampleSemanticKernel firstCommit keeps⟩

/-- After the second commit a goal targets, which the registry refuses. -/
theorem not_well_typed_of_secondCommit :
    ¬((machine sampleSemanticKernel).run initial secondCommit).db.semantic.WellTyped
      sampleSemanticKernel.registry := by
  intro wellTyped
  have retyped : ∃ revision ∈
      ((machine sampleSemanticKernel).run initial secondCommit).db.semantic.revisions.rows,
      sampleTarget ∈ ((machine sampleSemanticKernel).run initial
          secondCommit).db.semantic.activeRelations revision.graphId revision.graphRevision ∧
        sampleGoal ∈ ((machine sampleSemanticKernel).run initial
          secondCommit).db.semantic.activeNodes revision.graphId revision.graphRevision := by
    decide +kernel
  have refused : sampleSemanticKernel.registry.requireRelation .goal .targets .goal ≠ .ok () := by
    decide
  obtain ⟨revision, stored, targets, goal⟩ := retyped
  have typed := (wellTyped revision stored).2
  exact refused (typed sampleTarget targets sampleGoal goal sampleGoal goal rfl rfl)

end AgentSystem

end Macr
