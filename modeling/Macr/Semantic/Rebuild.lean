import Macr.Semantic.Typing

/-!
# Rebuilding the head of a graph

A head can be deleted and derived again from the graph's row and its last revision. In every run
the head is what they make of it: the graph keeps what never changes, the last revision has the
head's content and time, and the memberships of a revision list its content.
-/

namespace Macr

open Lib

namespace SemanticTables

/-- The record a membership names has the name and the digest. -/
def memberMatches {α : Type} (records : Table (RecordRow.key (α := α))) (idOf : α → String)
    (digestOf : α → Digest) (member : MembershipRow) : Bool :=
  (records.find? (member.graphId, member.recordDigest)).any (fun row =>
    decide (idOf row.record = member.recordId ∧ digestOf row.record = member.recordDigest))

/-- `_revision_on_connection`. -/
def revisionOnConnection (sha : Sha256) (db : SemanticTables) (graphId : Uuid)
    (graphRevision : Nat) : Except MacrError SemanticGraphRevision := do
  let observed ← require (db.revisions.find? (graphId, graphRevision))
    (.semanticState "SEMANTIC_GRAPH_NOT_FOUND" "semantic graph revision was not found")
  let nodeRows := membersOf db.revisionNodes graphId graphRevision
  let relationRows := membersOf db.revisionRelations graphId graphRevision
  let invalid : MacrError := graphDigestMismatch "semantic graph revision record is invalid"
  raiseIf (nodeRows.map (·.recordDigest) ≠ observed.activeNodeRecordDigests) invalid
  raiseIf (relationRows.map (·.recordDigest) ≠ observed.activeRelationDigests) invalid
  raiseIf (∃ member ∈ nodeRows,
    memberMatches db.nodes (·.nodeId) (·.recordDigest sha) member = false) invalid
  raiseIf (∃ member ∈ relationRows,
    memberMatches db.relations (·.relationId) (·.relationDigest sha) member = false) invalid
  pure observed

/-- The last revision of a graph, by number. -/
def latestRevision (db : SemanticTables) (graphId : Uuid) : Option Nat :=
  ((db.revisionsOf graphId).map (·.graphRevision)).max?

/-- `rebuild_graph_head`. -/
def rebuildGraphHead (sha : Sha256) (db : SemanticTables) (graphId : Uuid) :
    Except MacrError (Committed SemanticTables SemanticGraphHead) := do
  let graph ← require (db.graphs.find? graphId)
    (.semanticState "SEMANTIC_GRAPH_NOT_FOUND" "semantic graph was not found")
  let latest ← require (db.latestRevision graphId)
    (.semanticState "SEMANTIC_GRAPH_NOT_FOUND" "semantic graph has no immutable revision")
  let revision ← db.revisionOnConnection sha graphId latest
  let head ← SemanticGraphHead.create graph.graphId graph.scopeRef revision.graphRevision
    graph.registryVersion graph.registryDigest revision.activeNodeRecordDigests
    revision.activeRelationDigests graph.createdByAgentRunId graph.createdAt revision.committedAt
  raiseIf (head.graphDigest sha ≠ revision.graphDigest)
    (graphDigestMismatch "semantic graph revision cannot rebuild head")
  let heads ← require ((db.heads.delete (fun row => row.graphId = graphId)).insert?
    ⟨head.graphId, head.graphRevision, head.graphDigest sha, head⟩) .integrity
  commit { db with heads := heads } head

/-! ## Listed memberships -/

/-- The memberships of a revision list its content, and name records of their name and digest. -/
structure MembersListed {α : Type} (revisions : List SemanticGraphRevision)
    (memberships : Table MembershipRow.key) (records : Table (RecordRow.key (α := α)))
    (contentOf : SemanticGraphRevision → List Digest) (idOf : α → String)
    (digestOf : α → Digest) : Prop where
  /-- The content is listed. -/
  listed : ∀ revision ∈ revisions,
    (membersOf memberships revision.graphId revision.graphRevision).map (·.recordDigest) =
      contentOf revision
  /-- The records are named. -/
  named : ∀ member ∈ memberships.rows, memberMatches records idOf digestOf member = true

section Listed

variable {α : Type} {revisions : List SemanticGraphRevision} {revision : SemanticGraphRevision}
  {memberships grown : Table MembershipRow.key}
  {records stored : Table (RecordRow.key (α := α))}
  {contentOf : SemanticGraphRevision → List Digest} {idOf : α → String} {digestOf : α → Digest}
  {graphId : Uuid} {graphRevision : Nat}

/-- The digests of a revision's memberships are in order. -/
theorem pairwise_membersOf : ((membersOf memberships graphId graphRevision).map
    (·.recordDigest)).Pairwise (· ≤ ·) := by
  rw [List.pairwise_map]
  have sorted := @List.pairwise_mergeSort _ (fun left right : MembershipRow =>
      decide (left.recordDigest ≤ right.recordDigest))
    (fun _ _ _ before after => decide_eq_true
      (le_trans (of_decide_eq_true before) (of_decide_eq_true after)))
    (fun left right => by simpa using le_total left.recordDigest right.recordDigest)
    (memberships.rows.filter
      (fun row => row.graphId = graphId ∧ row.graphRevision = graphRevision))
  exact sorted.imp of_decide_eq_true

/-- Ordered digests are the tuple of any arrangement of them. -/
theorem eq_of_digestTuple {name : String} {values tuple digests : List Digest}
    (made : digestTuple name values = .ok tuple) (perm : digests.Perm values)
    (ordered : digests.Pairwise (· ≤ ·)) : digests = tuple := by
  simp only [digestTuple, bind_eq_ok, raiseIf_eq_ok, exists_const, pure_eq_ok] at made
  obtain ⟨_, _, rfl⟩ := made
  have sorted := @List.pairwise_mergeSort _ (fun left right : Digest => decide (left ≤ right))
    (fun _ _ _ before after => decide_eq_true
      (le_trans (of_decide_eq_true before) (of_decide_eq_true after)))
    (fun left right => by simpa using le_total left right) values
  apply (perm.trans (List.mergeSort_perm values _).symm).eq_of_pairwise _ ordered
    (sorted.imp of_decide_eq_true)
  intro left right _ _ before after
  exact le_antisymm before after

/-- A membership that names its record names it when more are stored. -/
theorem memberMatches_kept {member : MembershipRow}
    (kept : ∀ row ∈ records.rows, row ∈ stored.rows)
    (matched : memberMatches records idOf digestOf member = true) :
    memberMatches stored idOf digestOf member = true := by
  unfold memberMatches at matched ⊢
  cases found : records.find? (member.graphId, member.recordDigest) with
  | none =>
    rw [found] at matched
    cases matched
  | some row =>
    rw [found] at matched
    rw [find?_of_kept kept found]
    exact matched

/-- The memberships of a revision that is stored without any list nothing. -/
theorem MembersListed.blank (listed : MembersListed revisions memberships records contentOf idOf
      digestOf)
    (members : MembersStored revisions memberships records digestOf)
    (absent : ∀ other ∈ revisions, other.key ≠ revision.key)
    (empty : contentOf revision = []) :
    MembersListed (revisions ++ [revision]) memberships records contentOf idOf digestOf := by
  refine ⟨?_, listed.named⟩
  intro other member
  rcases List.mem_append.mp member with old | new
  · exact listed.listed other old
  · rw [List.mem_singleton.mp new, empty, List.map_eq_nil_iff]
    apply List.eq_nil_iff_forall_not_mem.mpr
    intro row inside
    have found := mem_membersOf.mp inside
    exact members.fresh absent row found.1 found.2

/-- The memberships of stored records of a new revision list its content. -/
theorem MembersListed.appended {items : List α} {name : String}
    (listed : MembersListed revisions memberships records contentOf idOf digestOf)
    (members : MembersStored revisions memberships records digestOf)
    (absent : ∀ other ∈ revisions, other.key ≠ revision.key)
    (kept : ∀ row ∈ records.rows, row ∈ stored.rows)
    (grows : grown.rows = memberships.rows ++ items.map (fun item =>
      (⟨revision.graphId, revision.graphRevision, idOf item, digestOf item⟩ : MembershipRow)))
    (held : ∀ item ∈ items, RecordStored stored revision.graphId (digestOf item) item)
    (content : digestTuple name (items.map digestOf) = .ok (contentOf revision)) :
    MembersListed (revisions ++ [revision]) grown stored contentOf idOf digestOf := by
  constructor
  · intro other member
    rcases List.mem_append.mp member with old | new
    · rw [membersOf_kept grows, listed.listed other old]
      intro row inside same
      obtain ⟨item, _, rfl⟩ := List.mem_map.mp inside
      exact absent other old (Prod.ext same.1.symm same.2.symm)
    · rw [List.mem_singleton.mp new]
      have perm := membersOf_new (members.fresh absent) grows (by
        intro row inside
        obtain ⟨item, _, rfl⟩ := List.mem_map.mp inside
        exact ⟨rfl, rfl⟩)
      apply eq_of_digestTuple content _ pairwise_membersOf
      have digests := perm.map (·.recordDigest)
      rw [List.map_map] at digests
      exact digests
  · intro member inside
    rw [grows] at inside
    rcases List.mem_append.mp inside with old | new
    · exact memberMatches_kept kept (listed.named member old)
    · obtain ⟨item, chosen, rfl⟩ := List.mem_map.mp new
      obtain ⟨row, stays, graph, digest, record⟩ := held item chosen
      have found : stored.find? (revision.graphId, digestOf item) = some row :=
        (stored.find?_eq_some _ row).mpr ⟨stays, Prod.ext graph digest⟩
      unfold memberMatches
      rw [found]
      simp [record]

end Listed

/-! ## Rebuildable heads -/

/-- A head is what the graph's row and its last revision make. -/
structure HeadFounded (head : SemanticGraphHead) (graph : SemanticGraphRow)
    (revision : SemanticGraphRevision) : Prop where
  /-- The graph. -/
  graphId : graph.graphId = head.graphId
  /-- Its scope. -/
  scopeRef : graph.scopeRef = head.scopeRef
  /-- Its registry. -/
  registry : graph.registryVersion = head.registryVersion ∧
    graph.registryDigest = head.registryDigest
  /-- Its creation. -/
  creation : graph.createdByAgentRunId = head.createdByAgentRunId ∧
    graph.createdAt = head.createdAt
  /-- The number of the revision. -/
  graphRevision : revision.graphRevision = head.graphRevision
  /-- Its content. -/
  content : revision.activeNodeRecordDigests = head.activeNodeRecordDigests ∧
    revision.activeRelationDigests = head.activeRelationDigests
  /-- The content is in order and without duplicates. -/
  tuples : digestTuple "active_node_record_digests" head.activeNodeRecordDigests =
      .ok head.activeNodeRecordDigests ∧
    digestTuple "active_relation_digests" head.activeRelationDigests =
      .ok head.activeRelationDigests
  /-- The time of the revision, not before the graph's. -/
  updatedAt : revision.committedAt = head.updatedAt ∧ ¬head.updatedAt < head.createdAt

/-- Every head is founded, and the memberships list the revisions. -/
structure Rebuildable (sha : Sha256) (db : SemanticTables) : Prop where
  /-- The heads. -/
  heads : ∀ headRow ∈ db.heads.rows, ∃ graph ∈ db.graphs.rows, ∃ revision,
    (db.revisionsOf headRow.graphId).getLast? = some revision ∧
      HeadFounded headRow.head graph revision
  /-- The nodes. -/
  nodes : MembersListed db.revisions.rows db.revisionNodes db.nodes
    (·.activeNodeRecordDigests) (·.nodeId) (·.recordDigest sha)
  /-- The relations. -/
  relations : MembersListed db.revisions.rows db.revisionRelations db.relations
    (·.activeRelationDigests) (·.relationId) (·.relationDigest sha)

variable {sha : Sha256} {before after : SemanticTables}

/-- A new database has no head. -/
theorem rebuildable_initial : initial.Rebuildable sha := by
  refine ⟨?_, ⟨?_, ?_⟩, ⟨?_, ?_⟩⟩ <;> intro row member <;> exact absurd member (by simp [initial])

/-- The heads and the tables of the graphs decide whether heads are founded. -/
theorem Rebuildable.of_same (held : before.Rebuildable sha) (same : SameGraphs before after)
    (heads : after.heads.rows.Perm before.heads.rows) : after.Rebuildable sha := by
  have revisions : ∀ graphId, after.revisionsOf graphId = before.revisionsOf graphId := by
    intro graphId
    unfold revisionsOf
    rw [same.revisions]
  constructor
  · intro headRow member
    rw [same.graphs, revisions]
    exact held.heads headRow (heads.mem_iff.mp member)
  · rw [same.revisions, same.revisionNodes, same.nodes]
    exact held.nodes
  · rw [same.revisions, same.revisionRelations, same.relations]
    exact held.relations

/-- A new graph's head is founded. -/
theorem Rebuildable.created {before after : AgentDb} {graph : SemanticGraphRow}
    {headRow : SemanticGraphHeadRow} {revision : SemanticGraphRevision}
    (held : before.semantic.Rebuildable sha) (linear : before.semantic.Linear sha)
    (stored : before.semantic.GraphsStored sha)
    (creation : GraphCreated sha before after graph headRow revision) :
    after.semantic.Rebuildable sha := by
  obtain ⟨name, graphName, number, digest⟩ := creation.named
  have own : revision.graphId = headRow.graphId := congrArg (·.1) creation.revisionKey
  have first : revision.graphRevision = 1 := congrArg (·.2) creation.revisionKey
  have unheaded : ∀ row ∈ before.semantic.heads.rows, row.graphId ≠ headRow.graphId := by
    intro row member same
    obtain ⟨known, present, knownName, _⟩ := linear.graphs row member
    exact creation.fresh known present (knownName.trans same)
  have nodes : after.semantic.revisionNodes = before.semantic.revisionNodes ∧
      after.semantic.nodes = before.semantic.nodes := by
    rw [creation.others]
    exact ⟨rfl, rfl⟩
  have relations : after.semantic.revisionRelations = before.semantic.revisionRelations ∧
      after.semantic.relations = before.semantic.relations := by
    rw [creation.others]
    exact ⟨rfl, rfl⟩
  constructor
  · intro row member
    rw [creation.heads] at member
    rw [creation.graphs, revisionsOf_append creation.revisions]
    rcases List.mem_append.mp member with old | new
    · obtain ⟨known, present, last, atEnd, founded⟩ := held.heads row old
      refine ⟨known, List.mem_append_left _ present, last, ?_, founded⟩
      rw [if_neg fun same => unheaded row old (same.symm.trans own)]
      exact atEnd
    · rw [List.mem_singleton.mp new, if_pos own]
      refine ⟨graph, by simp, revision, by simp, ?_⟩
      obtain ⟨noNodes, noRelations, blankNodes, blankRelations⟩ := creation.empty
      exact
        { graphId := graphName.trans name.symm
          scopeRef := creation.scopeRef
          registry := creation.registry
          creation := ⟨creation.columns.1, creation.columns.2.1⟩
          graphRevision := first.trans creation.first.symm
          content := ⟨blankNodes.trans noNodes.symm, blankRelations.trans noRelations.symm⟩
          tuples := by
            rw [noNodes, noRelations]
            exact ⟨digestTuple_nil _, digestTuple_nil _⟩
          updatedAt := by
            rw [creation.committedAt, creation.columns.2.2]
            exact ⟨rfl, Nat.lt_irrefl _⟩ }
  · rw [creation.revisions, nodes.1, nodes.2]
    exact held.nodes.blank stored.nodes creation.freshRevision creation.empty.2.2.1
  · rw [creation.revisions, relations.1, relations.2]
    exact held.relations.blank stored.relations creation.freshRevision creation.empty.2.2.2

/-- The head of a committed graph is founded. -/
theorem Rebuildable.committed {kernel : SemanticKernel} {before after : AgentDb}
    {request : SemanticCommitRequest} {permit : AgentOwnershipPermit} {now : Timestamp}
    {receipt : SemanticCommitReceipt} {parts : CommitParts}
    (held : before.semantic.Rebuildable kernel.sha) (linear : before.semantic.Linear kernel.sha)
    (stored : before.semantic.GraphsStored kernel.sha)
    (commit : PatchCommitted kernel before after request permit now receipt parts) :
    after.semantic.Rebuildable kernel.sha := by
  obtain ⟨heldNodes, heldRelations⟩ := recordsHeld_of_committed linear stored commit
  obtain ⟨mid, written, same⟩ := commit.written
  rw [same] at heldNodes heldRelations
  have name := linear.named parts.headRow commit.held.1
  have graphKey : parts.revision.graphId = parts.headRow.head.graphId :=
    congrArg (·.1) written.revisionKey
  have numberKey : parts.revision.graphRevision = parts.compiled.nextGraphRevision :=
    congrArg (·.2) written.revisionKey
  have own : parts.revision.graphId = parts.headRow.graphId := graphKey.trans name
  constructor
  · intro row member
    rw [commit.graphs, revisionsOf_append commit.revisions]
    rcases commit.mem_heads member with ⟨old, other⟩ | rfl
    · rw [if_neg fun same => other (same.symm.trans own)]
      exact held.heads row old
    · obtain ⟨graph, present, last, _, founded⟩ := held.heads parts.headRow commit.held.1
      refine ⟨graph, present, parts.revision, ?_, ?_⟩
      · rw [if_pos own]
        simp
      · exact
          { graphId := founded.graphId.trans written.graphId.symm
            scopeRef := founded.scopeRef.trans written.scopeRef.symm
            registry := ⟨founded.registry.1.trans written.registry.1.symm,
              founded.registry.2.trans written.registry.2.symm⟩
            creation := ⟨founded.creation.1.trans written.creation.1.symm,
              founded.creation.2.trans written.creation.2.1.symm⟩
            graphRevision := numberKey.trans written.graphRevision.symm
            content := ⟨written.revised.1, written.revised.2.1⟩
            tuples := ⟨digestTuple_digestTuple written.content.1,
              digestTuple_digestTuple written.content.2⟩
            updatedAt := ⟨written.revised.2.2, written.creation.2.2⟩ }
  · have grows := written.revisionNodes
    rw [← graphKey, ← numberKey] at grows
    rw [commit.revisions, same]
    apply held.nodes.appended stored.nodes written.freshRevision written.nodes.kept grows
    · rw [graphKey]
      exact heldNodes
    · rw [written.revised.1]
      exact written.content.1
  · have grows := written.revisionRelations
    rw [← graphKey, ← numberKey] at grows
    rw [commit.revisions, same]
    apply held.relations.appended stored.relations written.freshRevision written.relations.kept
      grows
    · rw [graphKey]
      exact heldRelations
    · rw [written.revised.2.1]
      exact written.content.2

/-- Every effect keeps the heads rebuildable. -/
theorem Rebuildable.step {kernel : SemanticKernel} {before after : AgentDb}
    (held : before.semantic.Rebuildable kernel.sha) (linear : before.semantic.Linear kernel.sha)
    (stored : before.semantic.GraphsStored kernel.sha)
    (effect : AgentDb.Effect kernel before after) : after.semantic.Rebuildable kernel.sha := by
  cases effect with
  | call _ semantic =>
    cases semantic with
    | idle same => rw [same]; exact held
    | created creation => exact held.created linear stored creation
    | attached attachment =>
      rw [attachment.others]
      exact held.of_same ⟨rfl, rfl, rfl, rfl, rfl, rfl⟩ (.refl _)
    | committed commit => exact held.committed linear stored commit
  | saved _ save =>
    rw [save.others]
    exact held.of_same ⟨rfl, rfl, rfl, rfl, rfl, rfl⟩ (.refl _)

/-- A founded head is what the graph's row and the revision make. -/
theorem HeadFounded.create {head : SemanticGraphHead} {graph : SemanticGraphRow}
    {revision : SemanticGraphRevision} (founded : HeadFounded head graph revision) :
    SemanticGraphHead.create graph.graphId graph.scopeRef revision.graphRevision
      graph.registryVersion graph.registryDigest revision.activeNodeRecordDigests
      revision.activeRelationDigests graph.createdByAgentRunId graph.createdAt
      revision.committedAt = .ok head := by
  obtain ⟨graphId, scopeRef, registry, creation, number, content, tuples, updatedAt⟩ := founded
  rw [graphId, scopeRef, registry.1, registry.2, creation.1, creation.2, number, content.1,
    content.2, updatedAt.1]
  exact SemanticGraphHead.create_self head tuples.1 tuples.2 updatedAt.2

/-- The last revision of a linear history has the greatest number. -/
theorem latestRevision_of_last {db : SemanticTables} {graphId : Uuid}
    {revision : SemanticGraphRevision} (linked : revisionSpec.Linked (db.revisionsOf graphId))
    (last : (db.revisionsOf graphId).getLast? = some revision) :
    db.latestRevision graphId = some revision.graphRevision := by
  have numbers : (db.revisionsOf graphId).map (·.graphRevision) =
      List.range' 1 (db.revisionsOf graphId).length := linked.revisions
  have count : revision.graphRevision = (db.revisionsOf graphId).length :=
    linked.revision_getLast last
  have some_revision := List.mem_of_getLast? last
  unfold latestRevision
  rw [List.max?_eq_some_iff]
  constructor
  · exact List.mem_map.mpr ⟨revision, some_revision, rfl⟩
  · intro number member
    rw [numbers, List.mem_range'_1] at member
    omega

/-- The last revision of a linear history is read back. -/
theorem revisionOnConnection_of_listed {db : SemanticTables} {revision : SemanticGraphRevision}
    (held : db.Rebuildable sha) (stored : revision ∈ db.revisions.rows) :
    db.revisionOnConnection sha revision.graphId revision.graphRevision = .ok revision := by
  have found : db.revisions.find? (revision.graphId, revision.graphRevision) = some revision :=
    (db.revisions.find?_eq_some _ _).mpr ⟨stored, rfl⟩
  have nodes := held.nodes.listed revision stored
  have relations := held.relations.listed revision stored
  have namedNodes : ¬∃ member ∈ membersOf db.revisionNodes revision.graphId
      revision.graphRevision, memberMatches db.nodes (·.nodeId) (·.recordDigest sha) member =
        false := by
    rintro ⟨member, listed, apart⟩
    rw [held.nodes.named member (mem_membersOf.mp listed).1] at apart
    cases apart
  have namedRelations : ¬∃ member ∈ membersOf db.revisionRelations revision.graphId
      revision.graphRevision, memberMatches db.relations (·.relationId) (·.relationDigest sha)
        member = false := by
    rintro ⟨member, listed, apart⟩
    rw [held.relations.named member (mem_membersOf.mp listed).1] at apart
    cases apart
  rw [revisionOnConnection, found, require_some_bind]
  simp only [raiseIf_bind_of_not (not_not.mpr nodes), raiseIf_bind_of_not (not_not.mpr relations),
    raiseIf_bind_of_not namedNodes, raiseIf_bind_of_not namedRelations]
  rfl

/-- The head of a linear and rebuildable graph is rebuilt as it was. -/
theorem rebuildGraphHead_of_headed {db : SemanticTables} (linear : db.Linear sha)
    (held : db.Rebuildable sha) {headRow : SemanticGraphHeadRow}
    (stored : headRow ∈ db.heads.rows) :
    ∃ heads, db.rebuildGraphHead sha headRow.graphId =
        .ok ({ db with heads := heads }, .ok headRow.head) ∧
      heads.rows.Perm db.heads.rows := by
  obtain ⟨graph, present, revision, last, founded⟩ := held.heads headRow stored
  obtain ⟨number, digest, same, last', revisionNumber, revisionDigest⟩ :=
    linear.last headRow stored
  obtain rfl : same = revision := Option.some.inj (last'.symm.trans last)
  obtain ⟨revisionStored, revisionGraph⟩ := mem_revisionsOf.mp (List.mem_of_getLast? last)
  have name := linear.named headRow stored
  have graphFound : db.graphs.find? headRow.graphId = some graph :=
    (db.graphs.find?_eq_some _ _).mpr ⟨present, founded.graphId.trans name⟩
  have latest := latestRevision_of_last (linear.linked headRow.graphId) last
  have readable := revisionOnConnection_of_listed held revisionStored
  rw [revisionGraph] at readable
  have consistent : ¬headRow.head.graphDigest sha ≠ same.graphDigest :=
    not_not.mpr (digest.symm.trans revisionDigest.symm)
  have row : (⟨headRow.head.graphId, headRow.head.graphRevision, headRow.head.graphDigest sha,
      headRow.head⟩ : SemanticGraphHeadRow) = headRow := by
    rw [name, ← number, ← digest]
  obtain ⟨heads, inserted, perm⟩ := db.heads.insert?_of_delete stored
  refine ⟨heads, ?_, perm⟩
  rw [rebuildGraphHead, graphFound, require_some_bind, latest, require_some_bind, readable, ok_bind,
    founded.create, ok_bind, raiseIf_bind_of_not consistent, row, inserted, require_some_bind]
  rfl

end SemanticTables

end Macr
