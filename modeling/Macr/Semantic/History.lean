import Macr.Lib.Chain
import Macr.Semantic.Effects

/-!
# The history of a graph

The revisions of a graph are a chain whose last is the head. A committed proposal has one receipt,
one event and one revision, and each of these has its committed proposal; the base of a commit is
the head it moves, so no two commits share a base.
-/

namespace Macr

open Lib

/-- How a revision names its place and its predecessor. -/
def revisionSpec : ChainSpec SemanticGraphRevision (Option (Nat × Digest)) where
  revision := (·.graphRevision)
  prior := (·.parent)
  digest := fun revision => some (revision.graphRevision, revision.graphDigest)
  zero := none

/-- The revisions of a graph, in the order of their insertion. -/
def SemanticTables.revisionsOf (db : SemanticTables) (graphId : Uuid) :
    List SemanticGraphRevision :=
  db.revisions.rows.filter (fun revision => revision.graphId = graphId)

/-- The revisions of every graph are a chain, and its head is the last. -/
structure SemanticTables.Linear (sha : Sha256) (db : SemanticTables) : Prop where
  /-- Heads are stored under their graphs. -/
  named : db.HeadsNamed
  /-- A graph with a head is a stored graph of the head's scope. -/
  graphs : ∀ headRow ∈ db.heads.rows, ∃ graph ∈ db.graphs.rows,
    graph.graphId = headRow.graphId ∧ graph.scopeRef = headRow.head.scopeRef
  /-- A graph with a revision has a head. -/
  headed : ∀ revision ∈ db.revisions.rows, ∃ headRow ∈ db.heads.rows,
    headRow.graphId = revision.graphId
  /-- Revisions are numbered from one and name their predecessors. -/
  linked : ∀ graphId, revisionSpec.Linked (db.revisionsOf graphId)
  /-- The head is the last revision. -/
  last : ∀ headRow ∈ db.heads.rows, headRow.currentRevision = headRow.head.graphRevision ∧
    headRow.currentGraphDigest = headRow.head.graphDigest sha ∧
    ∃ revision, (db.revisionsOf headRow.graphId).getLast? = some revision ∧
      revision.graphRevision = headRow.currentRevision ∧
      revision.graphDigest = headRow.currentGraphDigest

/-- A committed proposal with its receipt, event and revision. -/
structure Commits (sha : Sha256) (record : SemanticProposalRecord)
    (receipt : SemanticCommitReceipt) (event : SemanticCommitEvent)
    (revision : SemanticGraphRevision) : Prop where
  /-- The receipt is the proposal's. -/
  proposalId : receipt.proposalId = record.proposal.proposalId
  /-- It has its digest. -/
  proposalDigest : receipt.proposalDigest = record.proposal.proposalDigest sha
  /-- It names the event. -/
  semanticEventId : receipt.semanticEventId = event.semanticEventId
  /-- The event has the proposal's digest. -/
  eventDigest : event.proposalDigest = record.proposal.proposalDigest sha
  /-- All name the revision after the proposal's base. -/
  graphRevision : revision.key =
      (record.proposal.graphId, record.proposal.baseGraphRevision + 1) ∧
    (receipt.graphId, receipt.graphRevision) = revision.key ∧
    (event.graphId, event.graphRevision) = revision.key
  /-- And its digest. -/
  graphDigest : receipt.graphDigest = revision.graphDigest ∧
    event.graphDigest = revision.graphDigest
  /-- The revision's parent is the base. -/
  parent : revision.parent =
    some (record.proposal.baseGraphRevision, record.proposal.baseGraphDigest)

/-- Committed proposals, receipts, events and later revisions belong together. -/
structure SemanticTables.Accounted (sha : Sha256) (db : SemanticTables) : Prop where
  /-- Proposals differ in their digests. -/
  digests : ∀ first ∈ db.patches.rows, ∀ second ∈ db.patches.rows,
    first.proposal.proposalDigest sha = second.proposal.proposalDigest sha → first = second
  /-- A committed proposal has a receipt, an event and a revision. -/
  committed : ∀ record ∈ db.patches.rows, record.state = .committed →
    ∃ receipt ∈ db.commitReceipts.rows, ∃ event ∈ db.events.rows,
      ∃ revision ∈ db.revisions.rows, Commits sha record receipt event revision
  /-- A receipt is a committed proposal's. -/
  receipts : ∀ receipt ∈ db.commitReceipts.rows, ∃ record ∈ db.patches.rows,
    record.state = .committed ∧ receipt.proposalId = record.proposal.proposalId
  /-- So is an event. -/
  events : ∀ event ∈ db.events.rows, ∃ record ∈ db.patches.rows,
    record.state = .committed ∧ event.proposalDigest = record.proposal.proposalDigest sha
  /-- So is a revision after the first. -/
  revisions : ∀ revision ∈ db.revisions.rows, revision.parent ≠ none → ∃ record ∈ db.patches.rows,
    record.state = .committed ∧
      revision.key = (record.proposal.graphId, record.proposal.baseGraphRevision + 1)
  /-- A proposal has one receipt. -/
  oneReceipt : ∀ first ∈ db.commitReceipts.rows, ∀ second ∈ db.commitReceipts.rows,
    first.proposalId = second.proposalId → first = second
  /-- And one event. -/
  oneEvent : ∀ first ∈ db.events.rows, ∀ second ∈ db.events.rows,
    first.proposalDigest = second.proposalDigest → first = second
  /-- Two committed proposals have different bases. -/
  oneBase : ∀ first ∈ db.patches.rows, ∀ second ∈ db.patches.rows, first.state = .committed →
    second.state = .committed → first.proposal.graphId = second.proposal.graphId →
      first.proposal.baseGraphRevision = second.proposal.baseGraphRevision → first = second

namespace SemanticTables

variable {sha : Sha256} {before after : SemanticTables}

/-- The new tables have no history. -/
theorem linear_initial : initial.Linear sha := by
  refine ⟨?_, ?_, ?_, ?_, ?_⟩
  · intro row member
    exact absurd member (by simp [initial])
  · intro row member
    exact absurd member (by simp [initial])
  · intro row member
    exact absurd member (by simp [initial])
  · intro graphId
    exact revisionSpec.linked_nil
  · intro row member
    exact absurd member (by simp [initial])

/-- Nor any proposal. -/
theorem accounted_initial : initial.Accounted sha := by
  constructor <;> intro row member <;> exact absurd member (by simp [initial])

/-- The revisions of a graph after one is stored. -/
theorem revisionsOf_append {revision : SemanticGraphRevision}
    (revisions : after.revisions.rows = before.revisions.rows ++ [revision]) (graphId : Uuid) :
    after.revisionsOf graphId =
      if revision.graphId = graphId then before.revisionsOf graphId ++ [revision]
      else before.revisionsOf graphId := by
  by_cases same : revision.graphId = graphId <;>
    simp [revisionsOf, revisions, List.filter_append, same]

/-- A stored revision is among its graph's. -/
theorem mem_revisionsOf {db : SemanticTables} {revision : SemanticGraphRevision} {graphId : Uuid} :
    revision ∈ db.revisionsOf graphId ↔
      revision ∈ db.revisions.rows ∧ revision.graphId = graphId := by
  simp [revisionsOf]

/-- The heads and revisions decide whether the histories are linear. -/
theorem Linear.of_same (held : before.Linear sha) (graphs : after.graphs = before.graphs)
    (heads : after.heads = before.heads) (revisions : after.revisions = before.revisions) :
    after.Linear sha := by
  have same : ∀ graphId, after.revisionsOf graphId = before.revisionsOf graphId := by
    intro graphId
    rw [revisionsOf, revisions]
    rfl
  refine ⟨?_, ?_, ?_, ?_, ?_⟩
  · rw [HeadsNamed, heads]
    exact held.named
  · rw [heads, graphs]
    exact held.graphs
  · rw [heads, revisions]
    exact held.headed
  · intro graphId
    rw [same]
    exact held.linked graphId
  · simp only [heads, same]
    exact held.last

/-- No revision of a linear history is after the head. -/
theorem Linear.revision_le (held : before.Linear sha) {headRow : SemanticGraphHeadRow}
    (member : headRow ∈ before.heads.rows) {revision : SemanticGraphRevision}
    (stored : revision ∈ before.revisions.rows) (own : revision.graphId = headRow.graphId) :
    revision.graphRevision ≤ headRow.head.graphRevision := by
  obtain ⟨current, _, last, at_end, number, _⟩ := held.last headRow member
  have length : revisionSpec.revision last = (before.revisionsOf headRow.graphId).length :=
    (held.linked headRow.graphId).revision_getLast at_end
  have listed := mem_revisionsOf.mpr ⟨stored, own⟩
  obtain ⟨i, bound, found⟩ := List.getElem_of_mem listed
  have place := (held.linked headRow.graphId i revision
    (List.getElem?_eq_some_iff.mpr ⟨bound, found⟩)).1
  have numbered : revision.graphRevision = i + 1 := place
  have length' : last.graphRevision = (before.revisionsOf headRow.graphId).length := length
  omega

/-- A new graph starts a history. -/
theorem Linear.created {before after : AgentDb} {graph : SemanticGraphRow}
    {headRow : SemanticGraphHeadRow} {revision : SemanticGraphRevision}
    (held : before.semantic.Linear sha)
    (creation : GraphCreated sha before after graph headRow revision) :
    after.semantic.Linear sha := by
  obtain ⟨name, graphName, number, digest⟩ := creation.named
  have own : revision.graphId = headRow.graphId := congrArg (·.1) creation.revisionKey
  have first : revision.graphRevision = 1 := congrArg (·.2) creation.revisionKey
  have unheaded : ∀ row ∈ before.semantic.heads.rows, row.graphId ≠ headRow.graphId := by
    intro row member same
    obtain ⟨stored, present, stored_name, _⟩ := held.graphs row member
    exact creation.fresh stored present (stored_name.trans same)
  have empty : before.semantic.revisionsOf headRow.graphId = [] := by
    rw [revisionsOf, List.filter_eq_nil_iff]
    intro other member same
    obtain ⟨row, present, row_name⟩ := held.headed other member
    exact unheaded row present (row_name.trans (of_decide_eq_true same))
  have grown : after.semantic.revisionsOf headRow.graphId = [revision] := by
    rw [revisionsOf_append creation.revisions, if_pos own, empty, List.nil_append]
  have kept : ∀ graphId, graphId ≠ headRow.graphId →
      after.semantic.revisionsOf graphId = before.semantic.revisionsOf graphId := by
    intro graphId other
    rw [revisionsOf_append creation.revisions, if_neg]
    exact fun same => other (same.symm.trans own)
  have placed : ∀ {row}, row ∈ after.semantic.heads.rows →
      row ∈ before.semantic.heads.rows ∨ row = headRow := by
    intro row member
    rw [creation.heads] at member
    rcases List.mem_append.mp member with earlier | new
    · exact .inl earlier
    · exact .inr (List.mem_singleton.mp new)
  refine ⟨?_, ?_, ?_, ?_, ?_⟩
  · intro row member
    rcases placed member with earlier | rfl
    · exact held.named row earlier
    · exact name
  · intro row member
    rw [creation.graphs]
    rcases placed member with earlier | rfl
    · obtain ⟨stored, present, facts⟩ := held.graphs row earlier
      exact ⟨stored, List.mem_append_left _ present, facts⟩
    · exact ⟨graph, by simp, graphName, creation.scopeRef⟩
  · intro other member
    rw [creation.revisions] at member
    rw [creation.heads]
    rcases List.mem_append.mp member with earlier | new
    · obtain ⟨row, present, row_name⟩ := held.headed other earlier
      exact ⟨row, List.mem_append_left _ present, row_name⟩
    · rw [List.mem_singleton.mp new]
      exact ⟨headRow, by simp, own.symm⟩
  · intro graphId
    by_cases same : graphId = headRow.graphId
    · subst same
      rw [grown]
      show revisionSpec.Linked ([] ++ [revision])
      exact revisionSpec.linked_concat.mpr ⟨revisionSpec.linked_nil, first, creation.parent⟩
    · rw [kept graphId same]
      exact held.linked graphId
  · intro row member
    rcases placed member with earlier | rfl
    · rw [kept row.graphId (unheaded row earlier)]
      exact held.last row earlier
    · refine ⟨number, digest, revision, by rw [grown]; rfl, ?_, ?_⟩
      · rw [first, number, creation.first]
      · rw [creation.revisionDigest, digest]

/-- A commit adds the next revision to the history of its graph. -/
theorem Linear.committed {kernel : SemanticKernel} {before after : AgentDb}
    {request : SemanticCommitRequest} {permit : AgentOwnershipPermit} {now : Timestamp}
    {receipt : SemanticCommitReceipt} {parts : CommitParts}
    (held : before.semantic.Linear kernel.sha)
    (commit : PatchCommitted kernel before after request permit now receipt parts) :
    after.semantic.Linear kernel.sha := by
  obtain ⟨mid, written, _⟩ := commit.written
  obtain ⟨headMember, _⟩ := commit.held
  have name := held.named parts.headRow headMember
  have own : parts.revision.graphId = parts.headRow.graphId :=
    (congrArg (·.1) written.revisionKey).trans name
  have number : parts.revision.graphRevision = parts.headRow.head.graphRevision + 1 :=
    (congrArg (·.2) written.revisionKey).trans commit.nextGraphRevision
  obtain ⟨current, currentDigest, last, at_end, lastNumber, lastDigest⟩ :=
    held.last parts.headRow headMember
  have grown : after.semantic.revisionsOf parts.headRow.graphId =
      before.semantic.revisionsOf parts.headRow.graphId ++ [parts.revision] := by
    rw [revisionsOf_append commit.revisions, if_pos own]
  have kept : ∀ graphId, graphId ≠ parts.headRow.graphId →
      after.semantic.revisionsOf graphId = before.semantic.revisionsOf graphId := by
    intro graphId other
    rw [revisionsOf_append commit.revisions, if_neg]
    exact fun same => other (same.symm.trans own)
  refine ⟨?_, ?_, ?_, ?_, ?_⟩
  · intro row member
    rcases commit.mem_heads member with ⟨earlier, _⟩ | rfl
    · exact held.named row earlier
    · exact written.graphId.trans name
  · intro row member
    rw [commit.graphs]
    rcases commit.mem_heads member with ⟨earlier, _⟩ | rfl
    · exact held.graphs row earlier
    · obtain ⟨graph, present, graph_name, scope⟩ := held.graphs parts.headRow headMember
      exact ⟨graph, present, graph_name, scope.trans written.scopeRef.symm⟩
  · intro other member
    have headed : ∃ row ∈ before.semantic.heads.rows, row.graphId = other.graphId := by
      rw [commit.revisions] at member
      rcases List.mem_append.mp member with earlier | new
      · exact held.headed other earlier
      · rw [List.mem_singleton.mp new]
        exact ⟨parts.headRow, headMember, own.symm⟩
    obtain ⟨row, present, row_name⟩ := headed
    rw [commit.heads]
    refine ⟨_, List.mem_map.mpr ⟨row, present, rfl⟩, ?_⟩
    split <;> exact row_name
  · intro graphId
    by_cases same : graphId = parts.headRow.graphId
    · subst same
      rw [grown]
      have length : last.graphRevision =
          (before.semantic.revisionsOf parts.headRow.graphId).length :=
        (held.linked parts.headRow.graphId).revision_getLast at_end
      refine revisionSpec.linked_concat.mpr ⟨held.linked _, ?_, ?_⟩
      · show parts.revision.graphRevision = _
        omega
      · have named_parent : parts.revision.parent =
            some (parts.headRow.head.graphRevision, parts.headRow.head.graphDigest kernel.sha) :=
          written.parent
        show parts.revision.parent = _
        rw [ChainSpec.head, at_end, named_parent, ← current, ← currentDigest, ← lastNumber,
          ← lastDigest]
        rfl
    · rw [kept graphId same]
      exact held.linked graphId
  · intro row member
    rcases commit.mem_heads member with ⟨earlier, other⟩ | rfl
    · rw [kept row.graphId other]
      exact held.last row earlier
    · refine ⟨rfl, rfl, parts.revision, by rw [grown]; simp, ?_, ?_⟩
      · show parts.revision.graphRevision = parts.next.graphRevision
        rw [number, written.graphRevision, commit.nextGraphRevision]
      · show parts.revision.graphDigest = parts.next.graphDigest kernel.sha
        rw [written.revisionDigest, written.graphDigest]

/-- Every effect keeps the histories linear. -/
theorem Linear.step {kernel : SemanticKernel} {before after : AgentDb}
    (held : before.semantic.Linear kernel.sha) (effect : AgentDb.Effect kernel before after) :
    after.semantic.Linear kernel.sha := by
  cases effect with
  | call _ semantic =>
    cases semantic with
    | idle same => rw [same]; exact held
    | created creation => exact held.created creation
    | attached attachment =>
      rw [attachment.others]
      exact held.of_same rfl rfl rfl
    | committed commit => exact held.committed commit
  | saved _ save =>
    rw [save.others]
    exact held.of_same rfl rfl rfl

/-! ## Proposals -/

/-- A saved proposal has not been committed. -/
theorem Accounted.saved (held : before.Accounted sha) {record : SemanticProposalRecord}
    (save : ProposalSaved sha before after record) : after.Accounted sha := by
  have same := save.others
  have receipts : after.commitReceipts = before.commitReceipts := by rw [same]
  have events : after.events = before.events := by rw [same]
  have revisions : after.revisions = before.revisions := by rw [same]
  have old : ∀ other ∈ after.patches.rows, other.state = .committed →
      other ∈ before.patches.rows := by
    intro other member committed
    rw [save.patches] at member
    rcases List.mem_append.mp member with earlier | new
    · exact earlier
    · rw [List.mem_singleton.mp new] at committed
      exact absurd committed save.uncommitted
  have stays : ∀ other ∈ before.patches.rows, other ∈ after.patches.rows := by
    intro other member
    rw [save.patches]
    exact List.mem_append_left _ member
  refine ⟨?_, ?_, ?_, ?_, ?_, ?_, ?_, ?_⟩
  · rw [save.patches]
    exact injective_concat held.digests save.fresh
  · rw [receipts, events, revisions]
    exact fun other member committed => held.committed other (old other member committed) committed
  · rw [receipts]
    intro receipt member
    obtain ⟨other, present, facts⟩ := held.receipts receipt member
    exact ⟨other, stays other present, facts⟩
  · rw [events]
    intro event member
    obtain ⟨other, present, facts⟩ := held.events event member
    exact ⟨other, stays other present, facts⟩
  · rw [revisions]
    intro revision member parent
    obtain ⟨other, present, facts⟩ := held.revisions revision member parent
    exact ⟨other, stays other present, facts⟩
  · rw [receipts]
    exact held.oneReceipt
  · rw [events]
    exact held.oneEvent
  · intro first firstMember second secondMember firstDone secondDone
    exact held.oneBase first (old first firstMember firstDone) second
      (old second secondMember secondDone) firstDone secondDone

/-- A new graph has no proposal. -/
theorem Accounted.created {before after : AgentDb} {graph : SemanticGraphRow}
    {headRow : SemanticGraphHeadRow} {revision : SemanticGraphRevision}
    (held : before.semantic.Accounted sha)
    (creation : GraphCreated sha before after graph headRow revision) :
    after.semantic.Accounted sha := by
  have same := creation.others
  have patches : after.semantic.patches = before.semantic.patches := by rw [same]
  have receipts : after.semantic.commitReceipts = before.semantic.commitReceipts := by rw [same]
  have events : after.semantic.events = before.semantic.events := by rw [same]
  refine ⟨?_, ?_, ?_, ?_, ?_, ?_, ?_, ?_⟩
  · rw [patches]
    exact held.digests
  · rw [patches, receipts, events]
    intro record member committed
    obtain ⟨receipt, receiptMember, event, eventMember, stored, present, commits⟩ :=
      held.committed record member committed
    refine ⟨receipt, receiptMember, event, eventMember, stored, ?_, commits⟩
    rw [creation.revisions]
    exact List.mem_append_left _ present
  · rw [patches, receipts]
    exact held.receipts
  · rw [patches, events]
    exact held.events
  · rw [patches, creation.revisions]
    intro other member parent
    rcases List.mem_append.mp member with earlier | new
    · exact held.revisions other earlier parent
    · rw [List.mem_singleton.mp new] at parent
      exact absurd creation.parent parent
  · rw [receipts]
    exact held.oneReceipt
  · rw [events]
    exact held.oneEvent
  · rw [patches]
    exact held.oneBase

/-- What a commit has written belongs together. -/
theorem commits_of_patchCommitted {kernel : SemanticKernel} {before after : AgentDb}
    {request : SemanticCommitRequest} {permit : AgentOwnershipPermit} {now : Timestamp}
    {receipt : SemanticCommitReceipt} {parts : CommitParts}
    (commit : PatchCommitted kernel before after request permit now receipt parts) :
    Commits kernel.sha (parts.record.commit now) receipt parts.event parts.revision := by
  obtain ⟨mid, written, _⟩ := commit.written
  obtain ⟨eventGraph, eventNumber, eventDigest, eventProposal⟩ := commit.evented
  obtain ⟨_, _, identifier, digest, graph, number, graphDigest, eventId⟩ := commit.recorded
  obtain ⟨baseGraph, baseNumber, baseDigest⟩ := SemanticKernel.base_of_compile commit.compiles
  exact
    { proposalId := identifier
      proposalDigest := digest
      semanticEventId := eventId
      eventDigest := eventProposal
      graphRevision := by
        refine ⟨?_, ?_, ?_⟩
        · show parts.revision.key =
            (parts.record.proposal.graphId, parts.record.proposal.baseGraphRevision + 1)
          rw [written.revisionKey, commit.nextGraphRevision, baseGraph, baseNumber]
        · rw [written.revisionKey, graph, number]
        · rw [written.revisionKey, eventGraph, eventNumber]
      graphDigest := by
        rw [written.revisionDigest]
        exact ⟨graphDigest, eventDigest⟩
      parent := by
        show parts.revision.parent = some (parts.record.proposal.baseGraphRevision,
          parts.record.proposal.baseGraphDigest)
        rw [written.parent, baseNumber, baseDigest] }

/-- A commit accounts for its proposal. -/
theorem Accounted.committed_step {kernel : SemanticKernel} {before after : AgentDb}
    {request : SemanticCommitRequest} {permit : AgentOwnershipPermit} {now : Timestamp}
    {receipt : SemanticCommitReceipt} {parts : CommitParts}
    (linear : before.semantic.Linear kernel.sha) (held : before.semantic.Accounted kernel.sha)
    (commit : PatchCommitted kernel before after request permit now receipt parts) :
    after.semantic.Accounted kernel.sha := by
  obtain ⟨stored, proposed, _, _⟩ := commit.proposed
  have commits := commits_of_patchCommitted commit
  -- The committed proposals before are others than the one just committed.
  have other : ∀ record ∈ before.semantic.patches.rows, record.state = .committed →
      record.proposal.proposalId ≠ parts.record.proposal.proposalId := by
    intro record member committed same
    rw [before.semantic.patches.eq_of_key member stored same, proposed] at committed
    exact absurd committed (by simp)
  have stays : ∀ record ∈ before.semantic.patches.rows, record.state = .committed →
      record ∈ after.semantic.patches.rows :=
    fun record member committed =>
      commit.mem_patches.mpr (.inl ⟨member, other record member committed⟩)
  have new : parts.record.commit now ∈ after.semantic.patches.rows :=
    commit.mem_patches.mpr (.inr rfl)
  have old : ∀ record ∈ after.semantic.patches.rows, record.state = .committed →
      (record ∈ before.semantic.patches.rows ∧ record.state = .committed) ∨
        record = parts.record.commit now := by
    intro record member committed
    rcases commit.mem_patches.mp member with ⟨earlier, _⟩ | same
    · exact .inl ⟨earlier, committed⟩
    · exact .inr same
  refine ⟨?_, ?_, ?_, ?_, ?_, ?_, ?_, ?_⟩
  · intro first firstMember second secondMember digest
    rcases commit.mem_patches.mp firstMember with ⟨firstOld, firstOther⟩ | rfl <;>
      rcases commit.mem_patches.mp secondMember with ⟨secondOld, secondOther⟩ | rfl
    · exact held.digests first firstOld second secondOld digest
    · exact absurd (congrArg (·.proposal.proposalId)
        (held.digests first firstOld parts.record stored digest)) firstOther
    · exact absurd (congrArg (·.proposal.proposalId)
        (held.digests parts.record stored second secondOld digest)).symm secondOther
    · rfl
  · rw [commit.receipts, commit.events, commit.revisions]
    intro record member committed
    rcases old record member committed with ⟨earlier, done⟩ | rfl
    · obtain ⟨given, givenMember, event, eventMember, revision, revisionMember, facts⟩ :=
        held.committed record earlier done
      exact ⟨given, List.mem_append_left _ givenMember, event, List.mem_append_left _ eventMember,
        revision, List.mem_append_left _ revisionMember, facts⟩
    · exact ⟨receipt, by simp, parts.event, by simp, parts.revision, by simp, commits⟩
  · rw [commit.receipts]
    intro given member
    rcases List.mem_append.mp member with earlier | last
    · obtain ⟨record, present, done, named⟩ := held.receipts given earlier
      exact ⟨record, stays record present done, done, named⟩
    · rw [List.mem_singleton.mp last]
      exact ⟨_, new, rfl, commits.proposalId⟩
  · rw [commit.events]
    intro event member
    rcases List.mem_append.mp member with earlier | last
    · obtain ⟨record, present, done, named⟩ := held.events event earlier
      exact ⟨record, stays record present done, done, named⟩
    · rw [List.mem_singleton.mp last]
      exact ⟨_, new, rfl, commits.eventDigest⟩
  · rw [commit.revisions]
    intro revision member parent
    rcases List.mem_append.mp member with earlier | last
    · obtain ⟨record, present, done, key⟩ := held.revisions revision earlier parent
      exact ⟨record, stays record present done, done, key⟩
    · rw [List.mem_singleton.mp last]
      exact ⟨_, new, rfl, commits.graphRevision.1⟩
  · rw [commit.receipts]
    have apart : ∀ given ∈ before.semantic.commitReceipts.rows,
        given.proposalId ≠ receipt.proposalId := by
      intro given member same
      obtain ⟨record, present, done, named⟩ := held.receipts given member
      exact other record present done (named.symm.trans (same.trans commits.proposalId))
    exact injective_concat held.oneReceipt apart
  · rw [commit.events]
    have apart : ∀ event ∈ before.semantic.events.rows,
        event.proposalDigest ≠ parts.event.proposalDigest := by
      intro event member same
      obtain ⟨record, present, done, named⟩ := held.events event member
      have digest := named.symm.trans (same.trans commits.eventDigest)
      have equal := held.digests record present parts.record stored digest
      exact other record present done (congrArg (·.proposal.proposalId) equal)
    exact injective_concat held.oneEvent apart
  · obtain ⟨baseGraph, baseNumber, _⟩ := SemanticKernel.base_of_compile commit.compiles
    -- A commit from the head's revision would have left a later revision.
    have apart : ∀ record ∈ before.semantic.patches.rows, record.state = .committed →
        record.proposal.graphId = parts.record.proposal.graphId →
          record.proposal.baseGraphRevision ≠ parts.record.proposal.baseGraphRevision := by
      intro record present done graph base
      obtain ⟨_, _, _, _, revision, member, facts⟩ := held.committed record present done
      have key := facts.graphRevision.1
      have named : revision.graphId = record.proposal.graphId := congrArg (·.1) key
      have own : revision.graphId = parts.headRow.graphId := by
        rw [named, graph, baseGraph, linear.named parts.headRow commit.held.1]
      have below := linear.revision_le commit.held.1 member own
      have number : revision.graphRevision = record.proposal.baseGraphRevision + 1 :=
        congrArg (·.2) key
      omega
    intro first firstMember second secondMember firstDone secondDone graph base
    rcases old first firstMember firstDone with ⟨firstOld, firstDone'⟩ | rfl <;>
      rcases old second secondMember secondDone with ⟨secondOld, secondDone'⟩ | rfl
    · exact held.oneBase first firstOld second secondOld firstDone' secondDone' graph base
    · exact absurd base (apart first firstOld firstDone' graph)
    · exact absurd base.symm (apart second secondOld secondDone' graph.symm)
    · rfl

/-- Every effect keeps proposals accounted for. -/
theorem Accounted.step {kernel : SemanticKernel} {before after : AgentDb}
    (linear : before.semantic.Linear kernel.sha) (held : before.semantic.Accounted kernel.sha)
    (effect : AgentDb.Effect kernel before after) : after.semantic.Accounted kernel.sha := by
  cases effect with
  | call _ semantic =>
    cases semantic with
    | idle same => rw [same]; exact held
    | created creation => exact held.created creation
    | attached attachment =>
      rw [attachment.others]
      exact ⟨held.digests, held.committed, held.receipts, held.events, held.revisions,
        held.oneReceipt, held.oneEvent, held.oneBase⟩
    | committed commit => exact held.committed_step linear commit
  | saved _ save => exact held.saved save

end SemanticTables

end Macr
