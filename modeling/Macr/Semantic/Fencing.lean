import Macr.Agent.Ownership
import Macr.Semantic.EventSourcing

/-!
# Fencing over whole runs

A call that presents a permit and does something, rather than return the receipt of the same
earlier request, was given the permit of the run's current owner. A permit that has been released,
superseded by a later acquisition or whose run has ended is never the current owner's again, in any
interleaving.
-/

namespace Macr

open Lib

/-- The permit a call presents. -/
def AgentCall.permit? : AgentCall → Option AgentOwnershipPermit
  | .renewOwnership permit _ _ | .releaseOwnership permit => some permit
  | .transitionOwned _ permit _ _ _ _ _ _ _ => some permit
  | .attachGraph _ request _ => some request.permit
  | .commitPatch _ _ permit _ _ _ => some permit
  | _ => none

/-- The time at which a call observes the lease; a release observes none. -/
def AgentCall.observedAt : AgentCall → Option Timestamp
  | .renewOwnership _ observedAt _ => some observedAt
  | .transitionOwned _ _ _ _ _ _ _ createdAt _ => some createdAt
  | .attachGraph _ _ now | .commitPatch _ _ _ _ _ now => some now
  | _ => none

/-- The call replays an attach or a commit whose receipt is stored. -/
def AgentDb.Replays (db : AgentDb) : AgentCall → Prop
  | .attachGraph _ request _ =>
    ∃ receipt ∈ db.semantic.attachReceipts.rows, receipt.operationId = request.operationId
  | .commitPatch _ request _ _ _ _ =>
    ∃ receipt ∈ db.semantic.commitReceipts.rows, receipt.commitId = request.commitId
  | _ => False

/-- The permit is the current owner's, at an observed time if there is one. -/
structure AgentTables.Current (db : AgentTables) (permit : AgentOwnershipPermit)
    (observedAt : Option Timestamp) (owner : AgentOwnershipRow) : Prop where
  /-- The owner is stored. -/
  stored : owner ∈ db.ownership.rows
  /-- It has the permit's token, epoch, owner and lease. -/
  grants : owner.Grants permit
  /-- Its lease lasts past the observed time. -/
  lasting : ∀ observed, observedAt = some observed → observed < owner.expiresAt

namespace AgentDb

variable {kernel : SemanticKernel} {db after : AgentDb}

/-- A committed call that presents a permit and is no replay was given the current owner's. -/
theorem current_of_perform {call : AgentCall} {permit : AgentOwnershipPermit}
    {outcome : Except MacrError AgentOutcome} (named : db.semantic.HeadsNamed)
    (presents : call.permit? = some permit)
    (done : db.perform kernel call = .ok (after, outcome)) (new : ¬db.Replays call) :
    ∃ owner, db.agent.Current permit call.observedAt owner := by
  cases call with
  | createAgentRun | transitionUnowned | acquireOwnership | createGraph =>
    exact absurd presents (by simp [AgentCall.permit?])
  | renewOwnership given observedAt expiresAt =>
    obtain rfl := Option.some.inj presents
    obtain ⟨agent, _, made, _, _⟩ := onAgent_eq_ok done
    simp only [AgentTables.renewOwnership, bind_eq_ok] at made
    obtain ⟨_, _, owner, met, _⟩ := made
    obtain ⟨found, grants, lasting⟩ := AgentTables.requirePermitRow_eq_ok met
    exact ⟨owner, ((db.agent.ownership.find?_eq_some _ _).mp found).1, grants, lasting⟩
  | releaseOwnership given =>
    obtain rfl := Option.some.inj presents
    obtain ⟨agent, _, made, _, _⟩ := onAgent_eq_ok done
    simp only [AgentTables.releaseOwnership, bind_eq_ok] at made
    obtain ⟨owner, met, _⟩ := made
    obtain ⟨found, grants, lasting⟩ := AgentTables.requirePermitRow_eq_ok met
    exact ⟨owner, ((db.agent.ownership.find?_eq_some _ _).mp found).1, grants, lasting⟩
  | transitionOwned fault given expectedStates targetState expectedRevision expectedEpoch body
      createdAt eventId =>
    obtain rfl := Option.some.inj presents
    obtain ⟨agent, _, made, _, _⟩ := onAgent_eq_ok done
    simp only [AgentTables.transitionOwned, bind_eq_ok] at made
    obtain ⟨_, _, _, _, owner, met, _⟩ := made
    obtain ⟨found, grants, lasting⟩ := AgentTables.requirePermitRow_eq_ok met
    exact ⟨owner, ((db.agent.ownership.find?_eq_some _ _).mp found).1, grants, lasting⟩
  | attachGraph fault request now =>
    obtain rfl := Option.some.inj presents
    obtain ⟨_, made, _⟩ := onDb_eq_ok done
    obtain ⟨receipt, _, ⟨_, stored, operation, _⟩ | attachment⟩ := attachGraph_eq_ok made
    · exact absurd ⟨receipt, stored, operation⟩ new
    · obtain ⟨_, owner, _, _, _, _, _, valid, _⟩ := attachment.bound
      exact ⟨owner, valid.owned, valid.grants, by rintro observed ⟨rfl⟩; exact valid.lasting⟩
  | commitPatch fault request given semanticEventId agentEventId now =>
    obtain rfl := Option.some.inj presents
    obtain ⟨_, made, _⟩ := onDb_eq_ok done
    obtain ⟨_, receipt, _, ⟨_, stored, operation, _⟩ | ⟨parts, commit⟩⟩ :=
      commitPatch_eq_ok named made
    · exact absurd ⟨receipt, stored, operation⟩ new
    · obtain ⟨_, owner, _, _, _, _, valid, _⟩ := commit.bound
      exact ⟨owner, valid.owned, valid.grants, by rintro observed ⟨rfl⟩; exact valid.lasting⟩

end AgentDb

namespace AgentSystem

variable {kernel : SemanticKernel}

/-- The step is a call that presents a permit and succeeds. -/
def Succeeds (kernel : SemanticKernel) (x : Machine.Step AgentSystem AgentAction)
    (call : AgentCall) (permit : AgentOwnershipPermit) : Prop :=
  ∃ after outcome, x.action = .call call ∧ call.permit? = some permit ∧
    x.before.db.perform kernel call = .ok (after, .ok outcome)

/-- The step is a successful acquisition that does not just return the lease the owner holds. -/
def Acquires (kernel : SemanticKernel) (x : Machine.Step AgentSystem AgentAction)
    (permit : AgentOwnershipPermit) : Prop :=
  ∃ fault agentRunId ownerId expectedRevision expectedEpoch observedAt expiresAt leaseId eventId
    after,
    x.action = .call (.acquireOwnership fault agentRunId ownerId expectedRevision expectedEpoch
      observedAt expiresAt leaseId eventId) ∧
    x.before.db.perform kernel (.acquireOwnership fault agentRunId ownerId expectedRevision
      expectedEpoch observedAt expiresAt leaseId eventId) = .ok (after, .ok (.permit permit)) ∧
    after.agent.events.rows ≠ x.before.db.agent.events.rows

/-- An acquisition returns a permit under the next token. -/
theorem token_of_acquires {kernel : SemanticKernel} {system : AgentSystem} {action : AgentAction}
    {permit : AgentOwnershipPermit}
    (acquires : Acquires kernel ⟨system, action, (machine kernel).step system action⟩ permit) :
    permit.fencingToken = system.db.agent.fencingCounter + 1 ∧
      ((machine kernel).step system action).db.agent.fencingCounter = permit.fencingToken := by
  obtain ⟨fault, run, owner, revision, epoch, observedAt, expiresAt, lease, eventId, after, rfl, done,
    written⟩ := acquires
  have stepped : ((machine kernel).step system (.call (.acquireOwnership fault run owner revision
      epoch observedAt expiresAt lease eventId))).db = after := by
    show (settle system.db (system.db.perform kernel _)).1 = after
    rw [done]
    rfl
  rw [stepped]
  obtain ⟨agent, value, made, rfl, outcome⟩ := AgentDb.onAgent_eq_ok done
  have returned : value = .ok permit := by
    cases value with
    | error raised => exact absurd outcome (by simp [Except.map])
    | ok given => simpa [Except.map] using outcome.symm
  subst returned
  exact AgentTables.token_of_acquireOwnership made written

/-- The step releases a permit, leaves its run with a later owner, or leaves its run ended. -/
def Retires (kernel : SemanticKernel) (x : Machine.Step AgentSystem AgentAction)
    (permit : AgentOwnershipPermit) : Prop :=
  Succeeds kernel x (.releaseOwnership permit) permit ∨
    (∃ owner ∈ x.after.db.agent.ownership.rows, owner.agentRunId = permit.agentRunId ∧
      permit.fencingToken < owner.fencingToken) ∨
    ∃ state, state.isTerminal = true ∧ x.after.db.agent.InState permit.agentRunId state

/-- A formed system whose owners are those of ownable runs. -/
structure Owned (system : AgentSystem) : Prop where
  /-- The system is formed. -/
  formed : system.Formed
  /-- The owners. -/
  owned : system.db.agent.Owned

/-- Every step keeps the owners. -/
theorem owned_step (system : AgentSystem) (action : AgentAction) (held : Owned system) :
    Owned ((machine kernel).step system action) := by
  have moved : AgentDb.Effect kernel system.db ((machine kernel).step system action).db :=
    effect_of_step held.formed action
  exact ⟨formed_step held.formed action, held.owned.step (agentEffect_of_effect moved)⟩

/-- The permit can no longer be the current owner's: its token is spent, or its run has ended. -/
def Retired (permit : AgentOwnershipPermit) (db : AgentTables) : Prop :=
  db.Spent permit.agentRunId permit.fencingToken ∨
    ∃ state, state.isTerminal = true ∧ db.InState permit.agentRunId state

/-- A retired permit stays retired. -/
theorem retired_of_effect {permit : AgentOwnershipPermit} {before after : AgentTables}
    (retired : Retired permit before) (effect : AgentEffect kernel.sha before after) :
    Retired permit after := by
  rcases retired with spent | ⟨state, terminal, held⟩
  · exact .inl (AgentTables.spent_of_effect spent effect)
  · exact .inr ⟨state, terminal, AgentTables.inState_of_effect terminal held effect⟩

/-- A retired permit is not the current owner's. -/
theorem not_current_of_retired {permit : AgentOwnershipPermit} {db : AgentTables}
    (owned : db.Owned) (retired : Retired permit db) {observedAt : Option Timestamp}
    {owner : AgentOwnershipRow} : ¬db.Current permit observedAt owner := by
  intro current
  rcases retired with ⟨_, absent⟩ | ⟨state, terminal, row, member, named, rfl⟩
  · exact absent owner current.stored current.grants.agentRunId current.grants.fencingToken
  · obtain ⟨other, present, run, _, ownable⟩ := owned.current owner current.stored
    have same : other = row := db.runs.eq_of_key present member
      (run.trans (current.grants.agentRunId.trans named.symm))
    rw [same, AgentRunState.not_ownable_of_isTerminal terminal] at ownable
    exact absurd ownable (by simp)

/-- A step that retires a permit leaves it retired. -/
theorem retired_of_retires {system : AgentSystem} (held : Owned system) {action : AgentAction}
    {permit : AgentOwnershipPermit}
    (retires : Retires kernel ⟨system, action, (machine kernel).step system action⟩ permit) :
    Retired permit ((machine kernel).step system action).db.agent := by
  have next : Owned ((machine kernel).step system action) := owned_step system action held
  rcases retires with ⟨after, outcome, rfl, _, done⟩ | ⟨owner, member, run, later⟩ | ended
  · left
    have stepped : ((machine kernel).step system (.call (.releaseOwnership permit))).db = after := by
      show (settle system.db (system.db.perform kernel (.releaseOwnership permit))).1 = after
      rw [done]
      rfl
    obtain ⟨agent, _, made, rfl, _⟩ := AgentDb.onAgent_eq_ok done
    simp only [AgentTables.releaseOwnership, bind_eq_ok, commit_eq_ok, Prod.mk.injEq] at made
    obtain ⟨owner, met, rfl, _⟩ := made
    obtain ⟨found, grants, _⟩ := AgentTables.requirePermitRow_eq_ok met
    have stored := ((system.db.agent.ownership.find?_eq_some _ _).mp found).1
    rw [stepped]
    refine ⟨?_, ?_⟩
    · rw [← grants.fencingToken]
      exact held.owned.issued owner stored
    · intro other left named
      have apart := (Table.mem_delete _ _ _).mp left
      simp [named] at apart
  · left
    refine ⟨later.le.trans (next.owned.issued owner member), ?_⟩
    intro other present named
    have same := ((machine kernel).step system action).db.agent.ownership.eq_of_key present member
      (named.trans run.symm)
    rw [same]
    omega
  · exact .inr ended

/-- At every moment of a run, an AgentRun has at most one owner, at the run's epoch. -/
def EpochsAgree (db : AgentTables) : Prop :=
  (∀ first ∈ db.ownership.rows, ∀ second ∈ db.ownership.rows,
      first.agentRunId = second.agentRunId → first = second) ∧
    ∀ owner ∈ db.ownership.rows, ∃ row ∈ db.runs.rows,
      row.agentRunId = owner.agentRunId ∧ row.epoch = owner.epoch

/-- The owners have the epochs of their runs, and their tokens increase; a call that succeeds with
a permit and is no replay was given the current owner's; and no such call follows the retirement
of its permit. -/
theorem agent_ownership_fencing (kernel : SemanticKernel) (actions : List AgentAction) :
    EpochsAgree ((machine kernel).run initial actions).db.agent ∧
      (((machine kernel).run initial actions).db.agent.events.rows.filterMap
        (·.body.acquiredToken)).Pairwise (· < ·) ∧
      ((machine kernel).steps initial actions).Pairwise (fun x y => ∀ first second,
        Acquires kernel x first → Acquires kernel y second →
          first.fencingToken < second.fencingToken) ∧
      (∀ x ∈ (machine kernel).steps initial actions, ∀ call permit,
        Succeeds kernel x call permit → ¬x.before.db.Replays call →
          ∃ owner, x.before.db.agent.Current permit call.observedAt owner) ∧
      ((machine kernel).steps initial actions).Pairwise (fun x y => ∀ call permit,
        Retires kernel x permit → Succeeds kernel y call permit → y.before.db.Replays call) := by
  have keep : ∀ system action, Owned system → True → Owned ((machine kernel).step system action) :=
    fun system action held _ => owned_step system action held
  have start : Owned initial := ⟨formed_initial, AgentTables.owned_initial⟩
  have free : (machine kernel).Obeys (fun _ _ => True) initial actions :=
    (machine kernel).obeys_of_forall (fun _ _ => trivial) initial actions
  have owned := (machine kernel).run_invariant keep start free
  refine ⟨⟨?_, ?_⟩, owned.owned.increasing, ?_, ?_, ?_⟩
  · intro first firstMember second secondMember same
    exact Table.eq_of_key _ firstMember secondMember same
  · intro owner member
    obtain ⟨row, present, run, epoch, _⟩ := owned.owned.current owner member
    exact ⟨row, present, run, epoch⟩
  · refine (machine kernel).steps_pairwise keep start free
      (fun x system => ∀ permit, Acquires kernel x permit →
        permit.fencingToken ≤ system.db.agent.fencingCounter) ?_ ?_ ?_
    · intro system action _ _ permit acquires
      exact (token_of_acquires acquires).2.ge
    · intro x system action held _ recorded permit acquires
      have moved : AgentDb.Effect kernel system.db ((machine kernel).step system action).db :=
        effect_of_step held.formed action
      exact (recorded permit acquires).trans
        (AgentTables.counter_of_effect (agentEffect_of_effect moved))
    · intro x system action _ _ recorded first second earlier later
      have below := recorded first earlier
      have next := (token_of_acquires later).1
      show first.fencingToken < second.fencingToken
      omega
  · intro x member call permit succeeds new
    obtain ⟨held, _, _⟩ := (machine kernel).steps_invariant keep start free x member
    obtain ⟨after, outcome, _, presents, done⟩ := succeeds
    exact AgentDb.current_of_perform held.formed.named presents done new
  · refine (machine kernel).steps_pairwise keep start free
      (fun x system => ∀ permit, Retires kernel x permit → Retired permit system.db.agent) ?_ ?_ ?_
    · intro system action held _ permit retires
      exact retired_of_retires held retires
    · intro x system action held _ recorded permit retires
      have moved : AgentDb.Effect kernel system.db ((machine kernel).step system action).db :=
        effect_of_step held.formed action
      exact retired_of_effect (recorded permit retires) (agentEffect_of_effect moved)
    · intro x system action held _ recorded call permit retires succeeds
      obtain ⟨after, outcome, _, presents, done⟩ := succeeds
      by_contra new
      obtain ⟨owner, current⟩ := AgentDb.current_of_perform held.formed.named presents done new
      exact not_current_of_retired held.owned (recorded permit retires) current

/-! ## The replay of an attach after its permit is released -/

/-- A kernel with the built-in rules and no filter. -/
def sampleSemanticKernel : SemanticKernel where
  sha := foldDigest
  contentFree := fun _ => true
  registry := ⟨"macr-semantic-registry/v1", 7, builtinRules, []⟩
  containsLocalPath := fun _ => false

/-- The header of a run. -/
def sampleHeader : AgentRunHeader where
  agentRunId := 1
  subjectDigest := 11
  agentRef := "agent"
  origin := ("host", "session", "native")
  state := .created
  stateRevision := 1
  epoch := 0
  goal := ⟨.text "goal", 12, 1, Nat.one_pos⟩
  authority := ⟨"operator", "source", 13, 1, 0, "scope"⟩
  budget := ⟨.text "budget", 14, 1, Nat.one_pos⟩
  semanticState := none
  activePlan := none
  worldBindings := []
  memoryBindings := []
  delegation := none
  createdAt := 0

/-- The permit of the run's first owner. -/
def samplePermit : AgentOwnershipPermit where
  agentRunId := 1
  ownerId := "owner"
  leaseId := 50
  fencingToken := 1
  epoch := 1
  revision := 3
  acquiredAt := 2
  expiresAt := 100
  positive := by decide
  lasting := by decide

/-- The attachment of the run's graph. -/
def sampleAttach : AgentDb.AttachRequest where
  agentRunId := 1
  graphId := 9
  graphRevision := 1
  graphDigest := graphContentDigest foldDigest "macr-semantic-registry/v1" 7 [] []
  expectedAgentRevision := 4
  expectedAgentEpoch := 1
  permit := samplePermit
  authorizationReference := sampleHeader.authority
  operationId := 70
  agentEventId := 5

/-- No fault is injected. -/
def noFault : String → Bool := fun _ => false

/-- A run is created, admitted, acquired and activated, and a new graph is attached to it. -/
def attachActions : List AgentAction :=
  [.call (.createAgentRun noFault sampleHeader 1),
    .call (.transitionUnowned noFault 1 .created .admitted 1 0 (.runAdmitted ⟨"admitted", 15⟩) 1 2),
    .call (.acquireOwnership noFault 1 "owner" 2 0 2 100 50 3),
    .call (.transitionOwned noFault samplePermit [.admitted] .active 3 1
      (.runActivated ⟨"activated", 16⟩) 3 4),
    .call (.createGraph 9 "scope" 1 4),
    .call (.attachGraph noFault sampleAttach 5)]

/-- A call succeeds while no run has an owner. -/
def succeedsUnowned (kernel : SemanticKernel) (system : AgentSystem) (call : AgentCall) : Bool :=
  match system.db.perform kernel call with
  | .ok (_, .ok _) => system.db.agent.ownership.rows.isEmpty
  | _ => false

/-- A run that ends in a successful call under a permit while no run has an owner. -/
theorem not_current_of_succeedsUnowned {kernel : SemanticKernel} {actions : List AgentAction}
    {call : AgentCall} {permit : AgentOwnershipPermit} (presents : call.permit? = some permit)
    (succeeds : succeedsUnowned kernel ((machine kernel).run initial actions) call = true) :
    ¬∀ x ∈ (machine kernel).steps initial (actions ++ [.call call]), ∀ call permit,
      Succeeds kernel x call permit →
        ∃ owner, x.before.db.agent.Current permit call.observedAt owner := by
  intro always
  rw [Machine.steps_append] at always
  have last := always _ (List.mem_append_right _ (List.mem_singleton.mpr rfl)) call permit
  unfold succeedsUnowned at succeeds
  split at succeeds
  · rename_i after outcome done
    obtain ⟨owner, current⟩ := last ⟨after, outcome, rfl, presents, done⟩
    have stored := current.stored
    rw [List.isEmpty_iff.mp succeeds] at stored
    exact absurd stored (by simp)
  · exact absurd succeeds (by simp)

/-- An attach replayed after its permit has been released succeeds. -/
theorem attach_replayed_with_released_permit :
    ¬∀ x ∈ (machine sampleSemanticKernel).steps initial
        (attachActions ++ [.call (.releaseOwnership samplePermit)] ++
          [.call (.attachGraph noFault sampleAttach 6)]), ∀ call permit,
      Succeeds sampleSemanticKernel x call permit →
        ∃ owner, x.before.db.agent.Current permit call.observedAt owner :=
  not_current_of_succeedsUnowned rfl (by decide +kernel)

end AgentSystem

end Macr
