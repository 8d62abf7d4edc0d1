import Macr.Lib.Machine
import Macr.Semantic.Store

/-!
# The agent system

Any number of callers use one database. Each call of the agent store and of the commit service is
one write transaction and so one action; `propose_patch` reads several times before it writes, so
a call of it is a stage that later actions move on.
-/

namespace Macr

open Lib

/-- The calls that are one transaction, with what their caller and their clock supply. -/
inductive AgentCall where
  /-- `create_agent_run`. -/
  | createAgentRun (fault : String → Bool) (header : AgentRunHeader) (eventId : Uuid)
  /-- `_transition_unowned`. -/
  | transitionUnowned (fault : String → Bool) (agentRunId : Uuid)
      (expectedState targetState : AgentRunState) (expectedRevision expectedEpoch : Nat)
      (body : AgentEventBody) (createdAt : Timestamp) (eventId : Uuid)
  /-- `_acquire_ownership`. -/
  | acquireOwnership (fault : String → Bool) (agentRunId : Uuid) (ownerId : String)
      (expectedRevision expectedEpoch : Nat) (observedAt expiresAt : Timestamp)
      (leaseId eventId : Uuid)
  /-- `_renew_ownership`. -/
  | renewOwnership (permit : AgentOwnershipPermit) (observedAt expiresAt : Timestamp)
  /-- `_release_ownership`. -/
  | releaseOwnership (permit : AgentOwnershipPermit)
  /-- `_transition_owned`. -/
  | transitionOwned (fault : String → Bool) (permit : AgentOwnershipPermit)
      (expectedStates : List AgentRunState) (targetState : AgentRunState)
      (expectedRevision expectedEpoch : Nat) (body : AgentEventBody) (createdAt : Timestamp)
      (eventId : Uuid)
  /-- `create_graph`. -/
  | createGraph (graphId : Uuid) (scopeRef : String) (createdByAgentRunId : Uuid)
      (createdAt : Timestamp)
  /-- `attach_graph`. -/
  | attachGraph (fault : String → Bool) (request : AgentDb.AttachRequest) (now : Timestamp)
  /-- `commit_patch`. -/
  | commitPatch (fault : String → Bool) (request : SemanticCommitRequest)
      (permit : AgentOwnershipPermit) (semanticEventId agentEventId : Uuid) (now : Timestamp)

/-- What a call returns. -/
inductive AgentOutcome where
  | projection (projection : AgentRunProjection)
  | permit (permit : AgentOwnershipPermit)
  | released
  | head (head : SemanticGraphHead)
  | attachReceipt (receipt : SemanticAttachReceipt)
  | commitReceipt (receipt : SemanticCommitReceipt)
deriving DecidableEq

/-- A call of `propose_patch`; it has ended when no stage is left. -/
structure ProposeCall where
  /-- The proposal. -/
  proposal : SemanticPatchProposalRequest
  /-- The given time. -/
  now : Timestamp
  /-- Where it is. -/
  stage : Option ProposeStage

/-- The database and the calls of `propose_patch` begun so far. -/
structure AgentSystem where
  /-- The database. -/
  db : AgentDb
  /-- The calls, in the order they began. -/
  proposals : List ProposeCall

/-- The actions of the callers. -/
inductive AgentAction where
  /-- A call in one transaction. -/
  | call (call : AgentCall)
  /-- A call of `propose_patch` begins. -/
  | propose (proposal : SemanticPatchProposalRequest) (now : Timestamp)
  /-- A call of `propose_patch` moves on. -/
  | proceed (index : Nat)

namespace AgentDb

/-- A transaction of the agent tables is one of the database. -/
def onAgent {α : Type} (db : AgentDb) (wrap : α → AgentOutcome)
    (result : Except MacrError (Committed AgentTables α)) :
    Except MacrError (Committed AgentDb AgentOutcome) :=
  result.map fun (agent, outcome) => ({ db with agent := agent }, outcome.map wrap)

/-- A transaction with its result as an outcome. -/
def onDb {α : Type} (wrap : α → AgentOutcome) (result : Except MacrError (Committed AgentDb α)) :
    Except MacrError (Committed AgentDb AgentOutcome) :=
  result.map fun (db, outcome) => (db, outcome.map wrap)

/-- The transaction of a call. -/
def perform (kernel : SemanticKernel) (db : AgentDb) :
    AgentCall → Except MacrError (Committed AgentDb AgentOutcome)
  | .createAgentRun fault header eventId =>
    db.onAgent .projection (db.agent.createAgentRun kernel.toAgentKernel fault header eventId)
  | .transitionUnowned fault agentRunId expectedState targetState expectedRevision expectedEpoch
      body createdAt eventId =>
    db.onAgent .projection (db.agent.transitionUnowned kernel.toAgentKernel fault agentRunId
      expectedState targetState expectedRevision expectedEpoch body createdAt eventId)
  | .acquireOwnership fault agentRunId ownerId expectedRevision expectedEpoch observedAt expiresAt
      leaseId eventId =>
    db.onAgent .permit (db.agent.acquireOwnership kernel.toAgentKernel fault agentRunId ownerId
      expectedRevision expectedEpoch observedAt expiresAt leaseId eventId)
  | .renewOwnership permit observedAt expiresAt =>
    db.onAgent .permit (db.agent.renewOwnership permit observedAt expiresAt)
  | .releaseOwnership permit =>
    db.onAgent (fun _ => .released) (db.agent.releaseOwnership permit)
  | .transitionOwned fault permit expectedStates targetState expectedRevision expectedEpoch body
      createdAt eventId =>
    db.onAgent .projection (db.agent.transitionOwned kernel.toAgentKernel fault permit
      expectedStates targetState expectedRevision expectedEpoch body createdAt eventId)
  | .createGraph graphId scopeRef createdByAgentRunId createdAt =>
    onDb .head (db.createGraph kernel graphId scopeRef createdByAgentRunId createdAt)
  | .attachGraph fault request now =>
    onDb .attachReceipt (db.attachGraph kernel fault request now)
  | .commitPatch fault request permit semanticEventId agentEventId now =>
    onDb .commitReceipt (db.commitPatch kernel fault request permit semanticEventId agentEventId
      now)

end AgentDb

namespace AgentSystem

/-- A new system. -/
def initial : AgentSystem := ⟨.initial, []⟩

/-- The semantic tables and the stage a turn of `propose_patch` leads to. -/
def turned (db : SemanticTables) : ProposeTurn → SemanticTables × Option ProposeStage
  | .proceed stage => (db, some stage)
  | .finish after _ => (after, none)

/-- One action. -/
def step (kernel : SemanticKernel) (system : AgentSystem) : AgentAction → AgentSystem
  | .call call => { system with db := (settle system.db (system.db.perform kernel call)).1 }
  | .propose proposal now =>
    let (semantic, stage) := turned system.db.semantic (beginPropose system.db.semantic proposal)
    { db := { system.db with semantic := semantic }
      proposals := system.proposals ++ [⟨proposal, now, stage⟩] }
  | .proceed index =>
    match system.proposals[index]? with
    | some ⟨proposal, now, some stage⟩ =>
      let (semantic, next) := turned system.db.semantic
        (stepPropose kernel system.db.semantic proposal now stage)
      { db := { system.db with semantic := semantic }
        proposals := system.proposals.set index ⟨proposal, now, next⟩ }
    | _ => system

/-- The agent system as a machine. -/
def machine (kernel : SemanticKernel) : Machine AgentSystem AgentAction := ⟨step kernel⟩

end AgentSystem

end Macr
