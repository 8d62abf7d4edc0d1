import Macr.Semantic.EventSourcing
import Macr.Semantic.History

/-!
# No committed update is lost

Over whole runs with any interleaving of `create_graph`, `attach_graph`, `commit_patch` and the
reads and the write of `propose_patch`: histories are linear, a head moves together with the
committing run's binding, a replayed request finds its receipt, and a call that raises changes
nothing.
-/

namespace Macr

open Lib

/-- The histories of the graphs and their proposals. -/
structure SemanticTables.LinearHistory (sha : Sha256) (db : SemanticTables) : Prop where
  /-- The revisions of a graph are numbered from one without gaps. -/
  numbered : ∀ graphId, (db.revisionsOf graphId).map (·.graphRevision) =
    List.range' 1 (db.revisionsOf graphId).length
  /-- The first has no parent. -/
  first : ∀ graphId revision, (db.revisionsOf graphId)[0]? = some revision →
    revision.parent = none
  /-- A later one has its predecessor as parent. -/
  parents : ∀ graphId i previous revision, (db.revisionsOf graphId)[i]? = some previous →
    (db.revisionsOf graphId)[i + 1]? = some revision →
      revision.parent = some (previous.graphRevision, previous.graphDigest)
  /-- A graph with revisions has a head. -/
  headed : ∀ revision ∈ db.revisions.rows, ∃ headRow ∈ db.heads.rows,
    headRow.graphId = revision.graphId
  /-- A head is the last revision of its graph. -/
  last : ∀ headRow ∈ db.heads.rows, ∃ revision,
    (db.revisionsOf headRow.graphId).getLast? = some revision ∧
      revision.graphRevision = headRow.head.graphRevision ∧
      revision.graphDigest = headRow.head.graphDigest sha
  /-- A committed proposal has exactly one receipt, one event and one revision. -/
  committed : ∀ record ∈ db.patches.rows, record.state = .committed →
    ∃ receipt ∈ db.commitReceipts.rows, ∃ event ∈ db.events.rows,
      ∃ revision ∈ db.revisions.rows, Commits sha record receipt event revision ∧
        (∀ other ∈ db.commitReceipts.rows, other.proposalId = record.proposal.proposalId →
          other = receipt) ∧
        (∀ other ∈ db.events.rows, other.proposalDigest = record.proposal.proposalDigest sha →
          other = event) ∧
        ∀ other ∈ db.revisions.rows, other.key = revision.key → other = revision
  /-- A receipt is that of a committed proposal. -/
  receipts : ∀ receipt ∈ db.commitReceipts.rows, ∃ record ∈ db.patches.rows,
    record.state = .committed ∧ receipt.proposalId = record.proposal.proposalId
  /-- So is an event. -/
  events : ∀ event ∈ db.events.rows, ∃ record ∈ db.patches.rows,
    record.state = .committed ∧ event.proposalDigest = record.proposal.proposalDigest sha
  /-- So is a revision after the first. -/
  revisions : ∀ revision ∈ db.revisions.rows, revision.parent ≠ none → ∃ record ∈ db.patches.rows,
    record.state = .committed ∧
      revision.key = (record.proposal.graphId, record.proposal.baseGraphRevision + 1)
  /-- No two committed proposals share a base revision. -/
  bases : ∀ first ∈ db.patches.rows, ∀ second ∈ db.patches.rows, first.state = .committed →
    second.state = .committed → first.proposal.graphId = second.proposal.graphId →
      first.proposal.baseGraphRevision = second.proposal.baseGraphRevision → first = second

/-- A linear and accounted history. -/
theorem SemanticTables.linearHistory_of {sha : Sha256} {db : SemanticTables}
    (linear : db.Linear sha) (accounted : db.Accounted sha) : db.LinearHistory sha where
  numbered := fun graphId => (linear.linked graphId).revisions
  first := by
    intro graphId revision found
    exact (linear.linked graphId 0 revision found).2
  parents := by
    intro graphId i previous revision earlier found
    have named : revision.parent =
        revisionSpec.head ((db.revisionsOf graphId).take (i + 1)) :=
      (linear.linked graphId (i + 1) revision found).2
    have bound := (List.getElem?_eq_some_iff.mp found).1
    have at_end : ((db.revisionsOf graphId).take (i + 1)).getLast? = some previous := by
      rw [List.getLast?_eq_getElem?, List.length_take, Nat.min_eq_left bound.le,
        Nat.add_sub_cancel, List.getElem?_take_of_lt (Nat.lt_succ_self i), earlier]
    rw [named, ChainSpec.head, at_end]
    rfl
  headed := linear.headed
  last := by
    intro headRow member
    obtain ⟨number, digest, revision, at_end, same_number, same_digest⟩ := linear.last headRow member
    exact ⟨revision, at_end, same_number.trans number, same_digest.trans digest⟩
  committed := by
    intro record member done
    obtain ⟨receipt, receiptMember, event, eventMember, revision, revisionMember, commits⟩ :=
      accounted.committed record member done
    refine ⟨receipt, receiptMember, event, eventMember, revision, revisionMember, commits, ?_, ?_, ?_⟩
    · intro other otherMember same
      exact accounted.oneReceipt other otherMember receipt receiptMember
        (same.trans commits.proposalId.symm)
    · intro other otherMember same
      exact accounted.oneEvent other otherMember event eventMember
        (same.trans commits.eventDigest.symm)
    · intro other otherMember same
      exact db.revisions.eq_of_key otherMember revisionMember same
  receipts := accounted.receipts
  events := accounted.events
  revisions := accounted.revisions
  bases := accounted.oneBase

/-! ## Replays -/

namespace AgentDb

variable {kernel : SemanticKernel} {db after : AgentDb}

/-- A commit whose receipt is stored returns it. -/
theorem commitPatch_replay {request : SemanticCommitRequest} {receipt : SemanticCommitReceipt}
    (stored : receipt ∈ db.semantic.commitReceipts.rows)
    (operation : receipt.commitId = request.commitId)
    (requested : receipt.requestDigest = request.requestDigest kernel.sha)
    {permit : AgentOwnershipPermit}
    (permitted : permit.digest kernel.sha = request.ownershipPermitDigest)
    (fault : String → Bool) (semanticEventId agentEventId : Uuid) (now : Timestamp) :
    db.commitPatch kernel fault request permit semanticEventId agentEventId now =
      .ok (db, .ok receipt) := by
  have found : db.semantic.commitReceipts.find? request.commitId = some receipt :=
    (db.semantic.commitReceipts.find?_eq_some _ _).mpr ⟨stored, operation⟩
  simp [commitPatch, permitted, raiseIf, found, requested, commit, bind, Except.bind]

/-- An attach whose receipt is stored returns it. -/
theorem attachGraph_replay {request : AttachRequest} {receipt : SemanticAttachReceipt}
    (stored : receipt ∈ db.semantic.attachReceipts.rows)
    (operation : receipt.operationId = request.operationId)
    (requested : receipt.requestDigest = request.requestDigest kernel.sha)
    (valid : ¬request.graphRevision < 1 ∧ ¬request.expectedAgentRevision < 1)
    (fault : String → Bool) (now : Timestamp) :
    db.attachGraph kernel fault request now = .ok (db, .ok receipt) := by
  have found : db.semantic.attachReceipts.find? request.operationId = some receipt :=
    (db.semantic.attachReceipts.find?_eq_some _ _).mpr ⟨stored, operation⟩
  simp only [attachGraph, raiseIf, if_neg valid.1, if_neg valid.2, found, requested, ne_eq,
    not_true_eq_false, if_false]
  rfl

/-- A commit that returns a receipt leaves it stored, under its request. -/
theorem receipt_of_commitPatch {fault : String → Bool} {request : SemanticCommitRequest}
    {permit : AgentOwnershipPermit} {semanticEventId agentEventId : Uuid} {now : Timestamp}
    {receipt : SemanticCommitReceipt} (named : db.semantic.HeadsNamed)
    (done : db.commitPatch kernel fault request permit semanticEventId agentEventId now =
      .ok (after, .ok receipt)) :
    receipt ∈ after.semantic.commitReceipts.rows ∧ receipt.commitId = request.commitId ∧
      receipt.requestDigest = request.requestDigest kernel.sha := by
  obtain ⟨_, given, same, ⟨rfl, stored, operation, requested⟩ | ⟨parts, commit⟩⟩ :=
    commitPatch_eq_ok named done
  · obtain rfl := Except.ok.inj same
    exact ⟨stored, operation, requested⟩
  · obtain rfl := Except.ok.inj same
    exact ⟨by rw [commit.receipts]; simp, commit.recorded.1, commit.recorded.2.1⟩

/-- An attach that returns a receipt leaves it stored, under its request. -/
theorem receipt_of_attachGraph {fault : String → Bool} {request : AttachRequest} {now : Timestamp}
    {receipt : SemanticAttachReceipt}
    (done : db.attachGraph kernel fault request now = .ok (after, .ok receipt)) :
    receipt ∈ after.semantic.attachReceipts.rows ∧ receipt.operationId = request.operationId ∧
      receipt.requestDigest = request.requestDigest kernel.sha ∧
      ¬request.graphRevision < 1 ∧ ¬request.expectedAgentRevision < 1 := by
  have valid : ¬request.graphRevision < 1 ∧ ¬request.expectedAgentRevision < 1 := by
    simp only [attachGraph, bind_eq_ok, raiseIf_eq_ok, exists_const] at done
    exact ⟨done.1, done.2.1⟩
  obtain ⟨given, same, ⟨rfl, stored, operation, requested⟩ | attachment⟩ := attachGraph_eq_ok done
  · obtain rfl := Except.ok.inj same
    exact ⟨stored, operation, requested, valid⟩
  · obtain rfl := Except.ok.inj same
    exact ⟨by rw [attachment.receipts]; simp, attachment.operation, attachment.requested, valid⟩

/-- No effect loses a receipt. -/
theorem receipts_of_effect (effect : Effect kernel db after) :
    (∀ receipt ∈ db.semantic.commitReceipts.rows, receipt ∈ after.semantic.commitReceipts.rows) ∧
      ∀ receipt ∈ db.semantic.attachReceipts.rows,
        receipt ∈ after.semantic.attachReceipts.rows := by
  cases effect with
  | call _ semantic =>
    cases semantic with
    | idle same => rw [same]; exact ⟨fun _ held => held, fun _ held => held⟩
    | created creation => rw [creation.others]; exact ⟨fun _ held => held, fun _ held => held⟩
    | attached attachment =>
      refine ⟨by rw [attachment.others]; exact fun _ held => held, ?_⟩
      rw [attachment.receipts]
      exact fun _ held => List.mem_append_left _ held
    | committed commit =>
      obtain ⟨mid, written, same⟩ := commit.written
      refine ⟨by rw [commit.receipts]; exact fun _ held => List.mem_append_left _ held, ?_⟩
      rw [same]
      show ∀ receipt ∈ _, receipt ∈ mid.attachReceipts.rows
      rw [written.others.2.2.2.1]
      exact fun _ held => held
  | saved _ save => rw [save.others]; exact ⟨fun _ held => held, fun _ held => held⟩

/-- A call that commits a patch, or leaves every head stored. -/
theorem heads_of_perform {call : AgentCall} {outcome : Except MacrError AgentOutcome}
    (named : db.semantic.HeadsNamed) (done : db.perform kernel call = .ok (after, outcome)) :
    (∃ fault request permit semanticEventId agentEventId now receipt parts,
        call = .commitPatch fault request permit semanticEventId agentEventId now ∧
          db.commitPatch kernel fault request permit semanticEventId agentEventId now =
            .ok (after, .ok receipt) ∧
          PatchCommitted kernel db after request permit now receipt parts) ∨
      ∀ row ∈ db.semantic.heads.rows, row ∈ after.semantic.heads.rows := by
  cases call with
  | commitPatch fault request permit semanticEventId agentEventId now =>
    obtain ⟨_, made, _⟩ := onDb_eq_ok done
    obtain ⟨_, receipt, rfl, ⟨rfl, _⟩ | ⟨parts, commit⟩⟩ := commitPatch_eq_ok named made
    · exact .inr fun _ held => held
    · exact .inl ⟨fault, request, permit, semanticEventId, agentEventId, now, receipt, parts, rfl,
        made, commit⟩
  | createGraph graphId scopeRef createdByAgentRunId createdAt =>
    obtain ⟨_, made, _⟩ := onDb_eq_ok done
    obtain ⟨_, _, _, creation, _⟩ := createGraph_eq_ok made
    rw [creation.heads]
    exact .inr fun _ held => List.mem_append_left _ held
  | attachGraph fault request now =>
    obtain ⟨_, made, _⟩ := onDb_eq_ok done
    obtain ⟨_, _, ⟨rfl, _⟩ | attachment⟩ := attachGraph_eq_ok made
    · exact .inr fun _ held => held
    · rw [attachment.others]
      exact .inr fun _ held => held
  | createAgentRun | transitionUnowned | acquireOwnership | renewOwnership | releaseOwnership
  | transitionOwned =>
    obtain ⟨_, _, _, rfl, _⟩ := onAgent_eq_ok done
    exact .inr fun _ held => held

end AgentDb

/-! ## Runs -/

/-- The call creates, attaches or commits. -/
def AgentCall.IsGraphCall : AgentCall → Prop
  | .createGraph _ _ _ _ | .attachGraph _ _ _ | .commitPatch _ _ _ _ _ _ => True
  | _ => False

namespace AgentSystem

variable {kernel : SemanticKernel}

/-- The action is a call of `create_graph`, `attach_graph` or `commit_patch` that raises, or one
of `propose_patch` that raises here. -/
def Raises (kernel : SemanticKernel) (system : AgentSystem) : AgentAction → Prop
  | .call call => call.IsGraphCall ∧
    ∃ error, (settle system.db (system.db.perform kernel call)).2 = .error error
  | .propose proposal _ => ∃ db error,
    beginPropose system.db.semantic proposal = .finish db (.error error)
  | .proceed index => ∃ proposal now stage db error,
    system.proposals[index]? = some ⟨proposal, now, some stage⟩ ∧
      stepPropose kernel system.db.semantic proposal now stage = .finish db (.error error)

/-- The step commits the request, not as a replay, and returns the receipt. -/
def CommitsPatch (kernel : SemanticKernel) (x : Machine.Step AgentSystem AgentAction)
    (request : SemanticCommitRequest) (receipt : SemanticCommitReceipt) : Prop :=
  ∃ fault permit semanticEventId agentEventId now after,
    x.action = .call (.commitPatch fault request permit semanticEventId agentEventId now) ∧
    x.before.db.commitPatch kernel fault request permit semanticEventId agentEventId now =
      .ok (after, .ok receipt) ∧
    x.before.db.semantic.commitReceipts.find? request.commitId = none

/-- After the step, the head of the request's graph is the receipt's revision, and the requesting
run is bound to it. -/
def HeadBound (sha : Sha256) (x : Machine.Step AgentSystem AgentAction)
    (request : SemanticCommitRequest) (receipt : SemanticCommitReceipt) : Prop :=
  ∃ headRow ∈ x.after.db.semantic.heads.rows, headRow.graphId = request.proposal.graphId ∧
    headRow.head.graphRevision = receipt.graphRevision ∧
    headRow.head.graphDigest sha = receipt.graphDigest ∧
    ∃ row ∈ x.after.db.agent.runs.rows, row.agentRunId = request.proposal.agentRunId ∧
      row.semanticState = some (headRow.head.toSemanticStateBinding sha)

/-- The step moves the head of a graph. -/
def MovesHead (x : Machine.Step AgentSystem AgentAction) (graphId : Uuid) : Prop :=
  ∃ old ∈ x.before.db.semantic.heads.rows, ∃ new ∈ x.after.db.semantic.heads.rows,
    old.graphId = graphId ∧ new.graphId = graphId ∧ old ≠ new

/-- A commit replaces the head by the receipt's revision and binds the run to it. -/
theorem headBound_of_patchCommitted {before after : AgentDb} {request : SemanticCommitRequest}
    {permit : AgentOwnershipPermit} {now : Timestamp} {receipt : SemanticCommitReceipt}
    {parts : CommitParts}
    (commit : PatchCommitted kernel before after request permit now receipt parts)
    {x : Machine.Step AgentSystem AgentAction} (same : x.after.db = after) :
    HeadBound kernel.sha x request receipt := by
  obtain ⟨mid, written, _⟩ := commit.written
  obtain ⟨_, _, _, _, graph, number, digest, _⟩ := commit.recorded
  obtain ⟨row, owner, current, moved, event, advance, valid, _, binding, move⟩ := commit.bound
  rw [HeadBound, same]
  refine ⟨⟨parts.headRow.graphId, parts.next.graphRevision, parts.next.graphDigest kernel.sha,
    parts.next⟩, ?_, commit.held.2, ?_, ?_, moved, move.advanced.next_mem,
    move.advanced.agentRunId.trans valid.run, ?_⟩
  · rw [commit.heads]
    exact List.mem_map.mpr ⟨parts.headRow, commit.held.1, if_pos rfl⟩
  · exact written.graphRevision.trans number.symm
  · exact written.graphDigest.trans digest.symm
  · rw [move.bound, binding]

/-- A system whose histories are linear and accounted for. -/
structure Historical (kernel : SemanticKernel) (system : AgentSystem) : Prop where
  /-- The system is formed. -/
  formed : system.Formed
  /-- Histories are linear. -/
  linear : system.db.semantic.Linear kernel.sha
  /-- Proposals are accounted for. -/
  accounted : system.db.semantic.Accounted kernel.sha

/-- Every step keeps the histories. -/
theorem historical_step (system : AgentSystem) (action : AgentAction)
    (held : Historical kernel system) : Historical kernel ((machine kernel).step system action) := by
  have moved : AgentDb.Effect kernel system.db ((machine kernel).step system action).db :=
    effect_of_step held.formed action
  exact ⟨formed_step held.formed action, held.linear.step moved,
    held.accounted.step held.linear moved⟩

/-- The database after a call that commits. -/
theorem db_of_call {system : AgentSystem} {call : AgentCall} {after : AgentDb}
    {outcome : Except MacrError AgentOutcome}
    (done : system.db.perform kernel call = .ok (after, outcome)) :
    ((machine kernel).step system (.call call)).db = after := by
  show (settle system.db (system.db.perform kernel call)).1 = after
  rw [done]
  rfl

/-- A call of `propose_patch` that raises leaves the tables alone. -/
theorem same_of_stepPropose {db after : SemanticTables} {proposal : SemanticPatchProposalRequest}
    {now : Timestamp} {stage : ProposeStage} {error : MacrError}
    (finish : stepPropose kernel db proposal now stage = .finish after (.error error)) :
    after = db := by
  cases stage with
  | save record =>
    simp only [stepPropose, ProposeTurn.finish.injEq] at finish
    obtain ⟨rfl, raised⟩ := finish
    cases done : db.saveProposal kernel.sha record with
    | error _ => rfl
    | ok result =>
      obtain ⟨saved, outcome⟩ := result
      rw [done] at raised
      have failed : outcome = .error error := raised
      subst failed
      unfold SemanticTables.saveProposal at done
      split at done
      · split at done
        · simp only [commit_eq_ok, Prod.mk.injEq] at done
          exact absurd done.2 (by simp)
        · exact absurd done (by simp)
      · simp only [bind_eq_ok, commit_eq_ok, Prod.mk.injEq] at done
        obtain ⟨_, _, _, _, _, impossible⟩ := done
        exact absurd impossible (by simp)
  | head | nodeRevision | relationRevision | relations =>
    simp only [stepPropose] at finish
    split at finish
    · exact absurd finish (by simp)
    · exact (ProposeTurn.finish.inj finish).1.symm
  | nodes => exact absurd finish (by simp [stepPropose])

/-- A raise changes nothing. -/
theorem unchanged_of_raises {system : AgentSystem} (formed : system.Formed) {action : AgentAction}
    (raises : Raises kernel system action) :
    ((machine kernel).step system action).db = system.db := by
  cases action with
  | call call =>
    obtain ⟨graph, error, raised⟩ := raises
    show (settle system.db (system.db.perform kernel call)).1 = system.db
    cases done : system.db.perform kernel call with
    | error _ => rfl
    | ok result =>
      obtain ⟨after, outcome⟩ := result
      rw [done] at raised
      have failed : outcome = .error error := raised
      subst failed
      cases call with
      | createGraph graphId scopeRef createdByAgentRunId createdAt =>
        obtain ⟨value, made, outcome⟩ := AgentDb.onDb_eq_ok done
        obtain ⟨_, _, _, _, rfl⟩ := AgentDb.createGraph_eq_ok made
        exact absurd outcome (by simp [Except.map])
      | attachGraph fault request now =>
        obtain ⟨value, made, outcome⟩ := AgentDb.onDb_eq_ok done
        obtain ⟨_, rfl, _⟩ := AgentDb.attachGraph_eq_ok made
        exact absurd outcome (by simp [Except.map])
      | commitPatch fault request permit semanticEventId agentEventId now =>
        obtain ⟨value, made, outcome⟩ := AgentDb.onDb_eq_ok done
        obtain ⟨_, _, rfl, _⟩ := AgentDb.commitPatch_eq_ok formed.named made
        exact absurd outcome (by simp [Except.map])
      | createAgentRun | transitionUnowned | acquireOwnership | renewOwnership | releaseOwnership
      | transitionOwned => exact absurd graph (by simp [AgentCall.IsGraphCall])
  | propose proposal now =>
    show { system.db with semantic :=
      (turned system.db.semantic (beginPropose system.db.semantic proposal)).1 } = system.db
    rw [(turned_beginPropose system.db.semantic proposal).1]
  | proceed index =>
    obtain ⟨proposal, now, stage, db, error, found, finish⟩ := raises
    have stepped : ((machine kernel).step system (.proceed index)).db =
        { system.db with semantic := db } := by
      simp only [machine, step, found, finish, turned]
    rw [stepped]
    rw [same_of_stepPropose finish]

/-- A call that has returned the receipt of a commit, or of an attach, finds it again. -/
def FindsReceipts (kernel : SemanticKernel) (x y : Machine.Step AgentSystem AgentAction) : Prop :=
  (∀ fault fault' request permit permit' semanticEventId agentEventId semanticEventId'
      agentEventId' now now' receipt after,
    x.action = .call (.commitPatch fault request permit semanticEventId agentEventId now) →
    x.before.db.commitPatch kernel fault request permit semanticEventId agentEventId now =
      .ok (after, .ok receipt) →
    permit'.digest kernel.sha = request.ownershipPermitDigest →
    y.before.db.commitPatch kernel fault' request permit' semanticEventId' agentEventId' now' =
      .ok (y.before.db, .ok receipt)) ∧
  ∀ fault fault' request now now' receipt after,
    x.action = .call (.attachGraph fault request now) →
    x.before.db.attachGraph kernel fault request now = .ok (after, .ok receipt) →
    y.before.db.attachGraph kernel fault' request now' = .ok (y.before.db, .ok receipt)

/-- The receipts that a step has returned are stored, under their requests. -/
def ReceiptsStored (kernel : SemanticKernel) (x : Machine.Step AgentSystem AgentAction)
    (system : AgentSystem) : Prop :=
  (∀ fault request permit semanticEventId agentEventId now receipt after,
    x.action = .call (.commitPatch fault request permit semanticEventId agentEventId now) →
    x.before.db.commitPatch kernel fault request permit semanticEventId agentEventId now =
      .ok (after, .ok receipt) →
    receipt ∈ system.db.semantic.commitReceipts.rows ∧ receipt.commitId = request.commitId ∧
      receipt.requestDigest = request.requestDigest kernel.sha) ∧
  ∀ fault request now receipt after,
    x.action = .call (.attachGraph fault request now) →
    x.before.db.attachGraph kernel fault request now = .ok (after, .ok receipt) →
    receipt ∈ system.db.semantic.attachReceipts.rows ∧
      receipt.operationId = request.operationId ∧
      receipt.requestDigest = request.requestDigest kernel.sha ∧
      ¬request.graphRevision < 1 ∧ ¬request.expectedAgentRevision < 1

/-- A step leaves the receipts it returns. -/
theorem receiptsStored_of_step {system : AgentSystem} (formed : system.Formed)
    (action : AgentAction) :
    ReceiptsStored kernel ⟨system, action, (machine kernel).step system action⟩
      ((machine kernel).step system action) := by
  constructor
  · rintro fault request permit semanticEventId agentEventId now receipt after rfl done
    have performed : system.db.perform kernel
        (.commitPatch fault request permit semanticEventId agentEventId now) =
          .ok (after, .ok (.commitReceipt receipt)) := by
      show AgentDb.onDb .commitReceipt (system.db.commitPatch kernel fault request permit
        semanticEventId agentEventId now) = _
      rw [done]
      rfl
    rw [db_of_call performed]
    exact AgentDb.receipt_of_commitPatch formed.named done
  · rintro fault request now receipt after rfl done
    have performed : system.db.perform kernel (.attachGraph fault request now) =
        .ok (after, .ok (.attachReceipt receipt)) := by
      show AgentDb.onDb .attachReceipt (system.db.attachGraph kernel fault request now) = _
      rw [done]
      rfl
    rw [db_of_call performed]
    exact AgentDb.receipt_of_attachGraph done

/-- A step keeps the receipts stored. -/
theorem receiptsStored_step {x : Machine.Step AgentSystem AgentAction} {system : AgentSystem}
    (formed : system.Formed) (action : AgentAction) (stored : ReceiptsStored kernel x system) :
    ReceiptsStored kernel x ((machine kernel).step system action) := by
  have moved : AgentDb.Effect kernel system.db ((machine kernel).step system action).db :=
    effect_of_step formed action
  obtain ⟨commits, attaches⟩ := AgentDb.receipts_of_effect moved
  constructor
  · intro fault request permit semanticEventId agentEventId now receipt after asked done
    obtain ⟨member, facts⟩ := stored.1 fault request permit semanticEventId agentEventId now receipt
      after asked done
    exact ⟨commits receipt member, facts⟩
  · intro fault request now receipt after asked done
    obtain ⟨member, facts⟩ := stored.2 fault request now receipt after asked done
    exact ⟨attaches receipt member, facts⟩

/-- Stored receipts are found. -/
theorem findsReceipts_of_stored {x y : Machine.Step AgentSystem AgentAction}
    (stored : ReceiptsStored kernel x y.before) : FindsReceipts kernel x y := by
  constructor
  · intro fault fault' request permit permit' semanticEventId agentEventId semanticEventId'
      agentEventId' now now' receipt after asked done permitted
    obtain ⟨member, operation, requested⟩ := stored.1 fault request permit semanticEventId
      agentEventId now receipt after asked done
    exact AgentDb.commitPatch_replay member operation requested permitted fault' semanticEventId'
      agentEventId' now'
  · intro fault fault' request now now' receipt after asked done
    obtain ⟨member, operation, requested, valid⟩ := stored.2 fault request now receipt after asked
      done
    exact AgentDb.attachGraph_replay member operation requested valid fault' now'

/-- A step other than a call leaves the heads. -/
theorem heads_of_propose {system : AgentSystem} (formed : system.Formed) {action : AgentAction}
    (other : ∀ call, action ≠ .call call) :
    ((machine kernel).step system action).db.semantic.heads = system.db.semantic.heads := by
  cases action with
  | call call => exact absurd rfl (other call)
  | propose proposal now =>
    show ((turned system.db.semantic (beginPropose system.db.semantic proposal)).1).heads = _
    rw [(turned_beginPropose system.db.semantic proposal).1]
  | proceed index =>
    simp only [machine, step]
    split
    · rename_i proposal now stage found
      have uncommitted : stage.Uncommitted :=
        formed.uncommitted _ (List.mem_of_getElem? found) stage rfl
      have turn := effect_of_stepPropose kernel system.db.semantic proposal now uncommitted
      rcases turn.1 with same | ⟨record, save⟩
      · exact congrArg (·.heads) same
      · exact congrArg (·.heads) save.others
    · rfl

/-- A head is moved by a commit on its graph, which binds the requesting run to the new head. -/
theorem commits_of_movesHead {system : AgentSystem} (formed : system.Formed) {action : AgentAction}
    {graphId : Uuid}
    (moves : MovesHead ⟨system, action, (machine kernel).step system action⟩ graphId) :
    ∃ request receipt, request.proposal.graphId = graphId ∧
      CommitsPatch kernel ⟨system, action, (machine kernel).step system action⟩ request receipt ∧
      HeadBound kernel.sha ⟨system, action, (machine kernel).step system action⟩ request
        receipt := by
  obtain ⟨old, oldMember, new, newMember, rfl, same, different⟩ := moves
  -- A head that is still stored has not moved.
  have gone : old ∉ ((machine kernel).step system action).db.semantic.heads.rows :=
    fun stays => different (Table.eq_of_key _ stays newMember same.symm)
  cases action with
  | call call =>
    cases done : system.db.perform kernel call with
    | error raised =>
      have unmoved : ((machine kernel).step system (.call call)).db = system.db := by
        show (settle system.db (system.db.perform kernel call)).1 = system.db
        rw [done]
        rfl
      rw [unmoved] at gone
      exact absurd oldMember gone
    | ok result =>
      obtain ⟨after, outcome⟩ := result
      have reached := db_of_call done
      rw [reached] at gone
      rcases AgentDb.heads_of_perform formed.named done with
        ⟨fault, request, permit, semanticEventId, agentEventId, now, receipt, parts, rfl, made,
          commit⟩ | kept
      · refine ⟨request, receipt, ?_, ?_, headBound_of_patchCommitted commit reached⟩
        · by_contra other
          refine gone ?_
          rw [commit.heads]
          have apart : ¬old.graphId = parts.headRow.graphId :=
            fun equal => other (commit.held.2.symm.trans equal.symm)
          exact List.mem_map.mpr ⟨old, oldMember, if_neg apart⟩
        · exact ⟨fault, permit, semanticEventId, agentEventId, now, after, rfl, made,
            (system.db.semantic.commitReceipts.find?_eq_none _).mpr commit.fresh⟩
      · exact absurd (kept old oldMember) gone
  | propose proposal now =>
    have unmoved :
        ((machine kernel).step system (.propose proposal now)).db.semantic.heads =
          system.db.semantic.heads := heads_of_propose formed (by simp)
    rw [unmoved] at gone
    exact absurd oldMember gone
  | proceed index =>
    have unmoved : ((machine kernel).step system (.proceed index)).db.semantic.heads =
        system.db.semantic.heads := heads_of_propose formed (by simp)
    rw [unmoved] at gone
    exact absurd oldMember gone

/-- Over every run, with proposals interleaved at each of their reads and faults at any marker:
the histories of the graphs are linear and their proposals accounted for; a commit that is no
replay makes the receipt's revision the head and binds the committing run to it in one step, and
nothing else moves a head; a commit or attach that has returned a receipt returns it again and
changes nothing; and a call that raises changes no row. -/
theorem semantic_history_linear (kernel : SemanticKernel) (actions : List AgentAction) :
    ((machine kernel).run initial actions).db.semantic.LinearHistory kernel.sha ∧
      (∀ x ∈ (machine kernel).steps initial actions,
        (∀ request receipt, CommitsPatch kernel x request receipt →
          HeadBound kernel.sha x request receipt) ∧
        (∀ graphId, MovesHead x graphId → ∃ request receipt,
          request.proposal.graphId = graphId ∧ CommitsPatch kernel x request receipt) ∧
        (Raises kernel x.before x.action → x.after.db = x.before.db)) ∧
      ((machine kernel).steps initial actions).Pairwise (FindsReceipts kernel) := by
  have keep : ∀ system action, Historical kernel system → True →
      Historical kernel ((machine kernel).step system action) :=
    fun system action held _ => historical_step system action held
  have start : Historical kernel initial :=
    ⟨formed_initial, SemanticTables.linear_initial, SemanticTables.accounted_initial⟩
  have free : (machine kernel).Obeys (fun _ _ => True) initial actions :=
    (machine kernel).obeys_of_forall (fun _ _ => trivial) initial actions
  have historical := (machine kernel).run_invariant keep start free
  refine ⟨SemanticTables.linearHistory_of historical.linear historical.accounted, ?_, ?_⟩
  · rintro ⟨system, action, after⟩ member
    obtain ⟨held, _, same⟩ := (machine kernel).steps_invariant keep start free _ member
    obtain rfl : after = (machine kernel).step system action := same
    refine ⟨?_, ?_, fun raises => unchanged_of_raises held.formed raises⟩
    · rintro request receipt ⟨fault, permit, semanticEventId, agentEventId, now, committed, rfl, done,
        absent⟩
      obtain ⟨_, given, same, ⟨_, stored, operation, _⟩ | ⟨parts, commit⟩⟩ :=
        AgentDb.commitPatch_eq_ok held.formed.named done
      · have present := (system.db.semantic.commitReceipts.find?_eq_some _ _).mpr
          ⟨stored, operation⟩
        rw [absent] at present
        exact absurd present (by simp)
      · obtain rfl := Except.ok.inj same
        have performed : system.db.perform kernel
            (.commitPatch fault request permit semanticEventId agentEventId now) =
              .ok (committed, .ok (.commitReceipt receipt)) := by
          show AgentDb.onDb .commitReceipt (system.db.commitPatch kernel fault request permit
            semanticEventId agentEventId now) = _
          rw [done]
          rfl
        exact headBound_of_patchCommitted commit (db_of_call performed)
    · intro graphId moves
      obtain ⟨request, receipt, graph, commits, _⟩ := commits_of_movesHead held.formed moves
      exact ⟨request, receipt, graph, commits⟩
  · refine (machine kernel).steps_pairwise keep start free (ReceiptsStored kernel) ?_ ?_ ?_
    · intro system action held _
      exact receiptsStored_of_step held.formed action
    · intro x system action held _ stored
      exact receiptsStored_step held.formed action stored
    · intro x system action _ _ stored
      exact findsReceipts_of_stored stored

end AgentSystem

end Macr
