import Macr.Semantic.Fencing
import Macr.Semantic.LinearHistory

/-!
# Proposing a patch, again and by several callers

A call of `propose_patch` looks for a stored proposal, reads the head and the active records,
compiles the patch and saves the outcome. It is meant to store every proposal once and to answer
each repetition with the stored record. It does so unless the compiler raises an error that is not
semantic, or another record is saved under the identifier while the call reads.
-/

namespace Macr

open Lib

/-! ## Which errors of the compiler are not semantic -/

/-- A status update with the shape the parser asks for. -/
structure WellFormedUpdate (update : List (String × Json)) : Prop where
  /-- Its node can be looked up. -/
  hashable : ((fieldOf update "node_id").getD .null).isHashable = true
  /-- It has the five fields and no other. -/
  closed : ∃ value, requireClosedMapping "semantic status update" update
    ["node_id", "from_record_digest", "to_status", "reason_digest", "evidence_refs"] = .ok value
  /-- The superseded record is named by a digest. -/
  base : ∃ digest, requireSha256 "from_record_digest" (fieldOf update "from_record_digest") =
    .ok digest
  /-- The evidence is a list of distinct texts. -/
  evidence : ∃ texts, requireStringTuple "evidence_refs" (fieldOf update "evidence_refs") =
    .ok texts
  /-- The reason is a digest. -/
  reason : ∃ digest, requireSha256 "reason_digest" (fieldOf update "reason_digest") = .ok digest

/-- What a head refuses of its active records. -/
def limitErrors : List MacrError :=
  ["active_node_record_digests", "active_relation_digests"].flatMap fun name =>
    [.valueError s!"{name} exceeds its item limit",
      .valueError s!"{name} must not contain duplicates"]

/-- A status has the text it was read from. -/
theorem value_of_ofText {nodeType : SemanticNodeType} {text : String} {status : SemanticStatus}
    (read : SemanticStatus.ofText nodeType text = some status) : status.value = text := by
  unfold SemanticStatus.ofText at read
  split at read <;> split at read <;> simp_all [SemanticStatus.value]
  all_goals rw [← read]

/-- A node takes a status that was parsed for it. -/
theorem withStatus_of_parsed {sha : Sha256} {update : List (String × Json)}
    {current : SemanticNode} {status : SemanticStatus}
    (parsed : parseStatusUpdate sha update current = .ok status) :
    ∃ next, current.withStatus status = .ok next := by
  simp only [parseStatusUpdate, bind_eq_ok, pure_eq_ok] at parsed
  obtain ⟨_, _, _, _, _, _, _, _, given, read, _, _, _, _, _, _, _, _, same⟩ := parsed
  rw [same] at read
  unfold parseSemanticStatus at read
  split at read
  · rw [require_eq_ok] at read
    have fits : SemanticStatus.ofText current.nodeType status.value = some status := by
      rw [value_of_ofText read]
      exact read
    exact ⟨_, dif_pos fits⟩
  · exact absurd read nofun

section Errors

variable {kernel : SemanticKernel} {error : MacrError}
  (unsemantic : ∀ code message, error ≠ .semanticState code message)

include unsemantic

/-- A semantic refusal is another error. -/
theorem raiseIf_ne_unsemantic {refused : Prop} [Decidable refused] {code message : String} :
    raiseIf refused (.semanticState code message) ≠ .error error :=
  raiseIf_ne_error (fun same => unsemantic code message same.symm)

/-- A semantic absence is another error. -/
theorem require_ne_unsemantic {α : Type} {found : Option α} {code message : String} :
    require found (.semanticState code message) ≠ .error error :=
  require_ne_error (fun same => unsemantic code message same.symm)

/-- The parser of a well-formed update raises only semantic errors. -/
theorem parseStatusUpdate_ne_error {update : List (String × Json)}
    (formed : WellFormedUpdate update) (current : SemanticNode) :
    parseStatusUpdate kernel.sha update current ≠ .error error := by
  obtain ⟨_, closed⟩ := formed.closed
  obtain ⟨_, base⟩ := formed.base
  obtain ⟨_, evidence⟩ := formed.evidence
  obtain ⟨_, reason⟩ := formed.reason
  rw [parseStatusUpdate, closed, ok_bind]
  refine bind_ne_error (raiseIf_ne_unsemantic unsemantic) fun _ _ => ?_
  rw [base, ok_bind]
  refine bind_ne_error (raiseIf_ne_unsemantic unsemantic) fun _ _ => ?_
  refine bind_ne_error ?_ fun _ _ => ?_
  · unfold parseSemanticStatus
    split
    · exact require_ne_unsemantic unsemantic
    · exact fun same => unsemantic _ _ (Except.error.inj same).symm
  refine bind_ne_error (raiseIf_ne_unsemantic unsemantic) fun _ _ => ?_
  rw [evidence, ok_bind]
  refine bind_ne_error (raiseIf_ne_unsemantic unsemantic) fun _ _ => ?_
  rw [reason, ok_bind]
  exact nofun

/-- Replacing a node raises only semantic errors. -/
theorem addNode_ne_error (head : SemanticGraphHead) (supersession : List Digest)
    (state : NodeReplacement) (node : SemanticNode) :
    kernel.addNode head supersession state node ≠ .error error := by
  unfold SemanticKernel.addNode SemanticKernel.validateNode
  refine bind_ne_error (bind_ne_error (raiseIf_ne_unsemantic unsemantic)
    fun _ _ => raiseIf_ne_unsemantic unsemantic) fun _ _ => ?_
  split
  · exact bind_ne_error (raiseIf_ne_unsemantic unsemantic) fun _ _ => nofun
  · exact nofun

/-- A well-formed status update raises only semantic errors. -/
theorem updateStatus_ne_error {update : List (String × Json)} (formed : WellFormedUpdate update)
    (supersession : List Digest) (state : NodeReplacement) :
    kernel.updateStatus supersession state update ≠ .error error := by
  unfold SemanticKernel.updateStatus
  have looked : SemanticKernel.updatedNode state.nodes update ≠ .error error := by
    unfold SemanticKernel.updatedNode
    rw [raiseIf_bind_of_not (not_not.mpr formed.hashable)]
    exact require_ne_unsemantic unsemantic
  refine bind_ne_error looked fun old _ => ?_
  refine bind_ne_error (parseStatusUpdate_ne_error unsemantic formed old) fun status parsed => ?_
  refine bind_ne_error (raiseIf_ne_unsemantic unsemantic) fun _ _ => ?_
  obtain ⟨next, made⟩ := withStatus_of_parsed parsed
  rw [made, ok_bind]
  exact nofun

/-- Adding a relation raises only semantic errors. -/
theorem addRelation_ne_error (nodes : List SemanticNode) (relations : List SemanticRelation)
    (relation : SemanticRelation) :
    kernel.addRelation nodes relations relation ≠ .error error := by
  unfold SemanticKernel.addRelation
  refine bind_ne_error (raiseIf_ne_unsemantic unsemantic) fun _ _ => ?_
  refine bind_ne_error (require_ne_unsemantic unsemantic) fun _ _ => ?_
  refine bind_ne_error (require_ne_unsemantic unsemantic) fun _ _ => ?_
  split
  · exact nofun
  · exact fun same => unsemantic _ _ (Except.error.inj same).symm

/-- A supersession reference raises only semantic errors. -/
theorem supersessionOf_ne_error (patch : SemanticPatch) :
    SemanticKernel.supersessionOf patch ≠ .error error := by
  apply mapM_ne_error
  intro reference
  split
  · exact nofun
  · exact fun same => unsemantic _ _ (Except.error.inj same).symm

omit unsemantic in
/-- The digest of a graph raises only for its limits. -/
theorem calculateGraphDigest_ne_error (within : error ∉ limitErrors) (registryVersion : String)
    (registryDigest : Digest) (nodes relations : List Digest) :
    calculateGraphDigest kernel.sha registryVersion registryDigest nodes relations ≠
      .error error := by
  have outside : ∀ other ∈ limitErrors, other ≠ error :=
    fun other listed same => within (same ▸ listed)
  unfold calculateGraphDigest digestTuple
  refine bind_ne_error (bind_ne_error (raiseIf_ne_error (outside _ ?_)) fun _ _ =>
    bind_ne_error (raiseIf_ne_error (outside _ ?_)) fun _ _ => nofun) fun _ _ =>
    bind_ne_error (bind_ne_error (raiseIf_ne_error (outside _ ?_)) fun _ _ =>
      bind_ne_error (raiseIf_ne_error (outside _ ?_)) fun _ _ => nofun) fun _ _ => nofun
  all_goals decide

/-- An error of the compiler is semantic, or comes of a malformed status update or of a graph
beyond its limits. -/
theorem compile_ne_error {proposal : SemanticPatchProposalRequest}
    (formed : ∀ update ∈ proposal.patch.statusUpdates, WellFormedUpdate update)
    (within : error ∉ limitErrors) (head : SemanticGraphHead) (nodes : List SemanticNode)
    (relations : List SemanticRelation) :
    kernel.compile head proposal nodes relations ≠ .error error := by
  have based : kernel.requireBase head proposal nodes relations ≠ .error error := by
    unfold SemanticKernel.requireBase
    iterate 4
      refine bind_ne_error (raiseIf_ne_unsemantic unsemantic) fun _ _ => ?_
    exact raiseIf_ne_unsemantic unsemantic
  unfold SemanticKernel.compile
  refine bind_ne_error based fun _ _ => ?_
  refine bind_ne_error (supersessionOf_ne_error unsemantic _) fun supersession _ => ?_
  refine bind_ne_error ?_ fun added _ => ?_
  · exact foldlM_ne_error (fun _ _ => True) (fun _ _ _ _ _ _ => trivial)
      (fun acc item _ _ => addNode_ne_error unsemantic head supersession acc item) trivial
  refine bind_ne_error ?_ fun replaced _ => ?_
  · exact foldlM_ne_error (fun _ items => ∀ update ∈ items, WellFormedUpdate update)
      (fun _ _ _ _ held _ update later => held update (List.mem_cons_of_mem _ later))
      (fun acc item _ held => updateStatus_ne_error unsemantic (held item List.mem_cons_self)
        supersession acc) formed
  refine bind_ne_error (raiseIf_ne_unsemantic unsemantic) fun _ _ => ?_
  refine bind_ne_error ?_ fun related _ => ?_
  · exact foldlM_ne_error (fun _ _ => True) (fun _ _ _ _ _ _ => trivial)
      (fun acc item _ _ => addRelation_ne_error unsemantic replaced.nodes acc item) trivial
  refine bind_ne_error (raiseIf_ne_unsemantic unsemantic) fun _ _ => ?_
  exact bind_ne_error (calculateGraphDigest_ne_error within _ _ _ _) fun _ _ => nofun

end Errors

namespace AgentSystem

variable {kernel : SemanticKernel}

/-- A turn of a call of `propose_patch`; the first has no stage before it. -/
structure ProposalTurn where
  /-- The proposal. -/
  proposal : SemanticPatchProposalRequest
  /-- The given time. -/
  now : Timestamp
  /-- Where the call was. -/
  stage : Option ProposeStage
  /-- What the turn leads to. -/
  turn : ProposeTurn

/-- The turn of `propose_patch` that an action is. -/
def turnOf (kernel : SemanticKernel) (system : AgentSystem) : AgentAction → Option ProposalTurn
  | .call _ => none
  | .propose proposal now =>
    some ⟨proposal, now, none, beginPropose system.db.semantic proposal⟩
  | .proceed index =>
    match system.proposals[index]? with
    | some ⟨proposal, now, some stage⟩ =>
      some ⟨proposal, now, some stage, stepPropose kernel system.db.semantic proposal now stage⟩
    | _ => none

/-- The head of a graph exists. -/
def HeadExists (system : AgentSystem) (graphId : Uuid) : Prop :=
  ∃ headRow ∈ system.db.semantic.heads.rows, headRow.graphId = graphId

/-- `SemanticPatchConflictError`. -/
def IsConflict (outcome : Except MacrError SemanticProposalRecord) : Prop :=
  ∃ message, outcome = .error (.semanticState "SEMANTIC_PATCH_CONFLICT" message)

/-- The record of a proposal that the compiler rejects with a code. -/
def failedRecord (proposal : SemanticPatchProposalRequest) (now : Timestamp) (code : String) :
    SemanticProposalRecord :=
  ⟨proposal, .validationFailed, none, some code, now, some now⟩

/-- What is asked of a turn of a call. -/
structure Answered (kernel : SemanticKernel) (x : Machine.Step AgentSystem AgentAction)
    (call : ProposalTurn) : Prop where
  /-- A call that ends has its identifier stored: it returns the record of its own request, and
  for another request it raises a conflict and changes nothing. -/
  ended : ∀ db outcome, call.turn = .finish db outcome →
    ∃ record ∈ x.after.db.semantic.patches.rows,
      record.proposal.proposalId = call.proposal.proposalId ∧
        ((record.proposal = call.proposal ∧ outcome = .ok record) ∨
          (record.proposal ≠ call.proposal ∧ IsConflict outcome ∧ x.after.db = x.before.db))
  /-- A patch that the compiler rejects goes on to be stored as failed. -/
  rejected : ∀ head nodes graphRevision error,
    call.stage = some (.relations head nodes graphRevision) →
    kernel.compile head call.proposal nodes
      (x.before.db.semantic.activeRelations call.proposal.graphId graphRevision) = .error error →
    ∃ code, call.turn = .proceed (.save (failedRecord call.proposal call.now code))
  /-- What a call saves is stored when its identifier is free. -/
  saved : ∀ record, call.stage = some (.save record) →
    (∀ other ∈ x.before.db.semantic.patches.rows,
      other.proposal.proposalId ≠ record.proposal.proposalId) →
    record ∈ x.after.db.semantic.patches.rows

/-- No step takes a stored proposal away, or changes the record of a failed one. -/
def KeepsProposals (x : Machine.Step AgentSystem AgentAction) : Prop :=
  ∀ record ∈ x.before.db.semantic.patches.rows, ∃ later ∈ x.after.db.semantic.patches.rows,
    later.proposal = record.proposal ∧ (record.state = .validationFailed → later = record)

/-- Proposals about existing graphs are answered as they should be, and kept. -/
def Lawful (kernel : SemanticKernel) (x : Machine.Step AgentSystem AgentAction) : Prop :=
  KeepsProposals x ∧ ∀ call, turnOf kernel x.before x.action = some call →
    HeadExists x.before call.proposal.graphId → Answered kernel x call

/-- The two ways in which a turn goes wrong are not taken. -/
structure Undisturbed (kernel : SemanticKernel) (system : AgentSystem) (call : ProposalTurn) :
    Prop where
  /-- The compiler raises nothing but its semantic errors. -/
  compiles : ∀ head nodes graphRevision error,
    call.stage = some (.relations head nodes graphRevision) →
    kernel.compile head call.proposal nodes
      (system.db.semantic.activeRelations call.proposal.graphId graphRevision) = .error error →
    ∃ code message, error = .semanticState code message
  /-- No other record has the identifier, or the digest, of the record about to be saved. -/
  alone : ∀ record, call.stage = some (.save record) →
    ∀ other ∈ system.db.semantic.patches.rows,
      other.proposal.proposalId = record.proposal.proposalId ∨
        other.proposal.proposalDigest kernel.sha = record.proposal.proposalDigest kernel.sha →
      other = record

/-- The turns of a step about existing graphs are undisturbed. -/
def Peaceful (kernel : SemanticKernel) (x : Machine.Step AgentSystem AgentAction) : Prop :=
  ∀ call, turnOf kernel x.before x.action = some call →
    HeadExists x.before call.proposal.graphId → Undisturbed kernel x.before call

end AgentSystem

/-! ## Heads can be read -/

/-- A stored head has a graph of its registry. -/
def SemanticTables.Registered (db : SemanticTables) : Prop :=
  ∀ headRow ∈ db.heads.rows, ∃ graph ∈ db.graphs.rows, graph.graphId = headRow.graphId ∧
    graph.registryVersion = headRow.head.registryVersion ∧
    graph.registryDigest = headRow.head.registryDigest

namespace SemanticTables

variable {kernel : SemanticKernel}

/-- Every effect keeps the registries. -/
theorem Registered.step {before after : AgentDb} (held : before.semantic.Registered)
    (effect : AgentDb.Effect kernel before after) : after.semantic.Registered := by
  cases effect with
  | saved _ save =>
    rw [save.others]
    exact held
  | call _ semantic =>
    cases semantic with
    | idle same =>
      rw [same]
      exact held
    | attached attachment =>
      rw [attachment.others]
      exact held
    | created creation =>
      intro row member
      rw [creation.heads] at member
      rw [creation.graphs]
      cases List.mem_append.mp member with
      | inl earlier =>
        obtain ⟨graph, present, facts⟩ := held row earlier
        exact ⟨graph, List.mem_append_left _ present, facts⟩
      | inr new =>
        rw [List.mem_singleton.mp new]
        exact ⟨_, List.mem_append_right _ (List.mem_singleton_self _), creation.named.2.1,
          creation.registry⟩
    | committed commit =>
      obtain ⟨mid, written, _⟩ := commit.written
      intro row member
      rw [commit.graphs]
      rcases commit.mem_heads member with ⟨earlier, _⟩ | replaced
      · exact held row earlier
      · obtain ⟨graph, present, named, version, digest⟩ := held _ commit.held.1
        rw [replaced]
        exact ⟨graph, present, named, version.trans written.registry.1.symm,
          digest.trans written.registry.2.symm⟩

/-- A stored head of a linear history can be read. -/
theorem getGraphHead_of_headed {sha : Sha256} {db : SemanticTables} (linear : db.Linear sha)
    (registered : db.Registered) {headRow : SemanticGraphHeadRow}
    (stored : headRow ∈ db.heads.rows) :
    db.getGraphHead sha headRow.graphId = .ok headRow.head := by
  obtain ⟨graph, present, named, version, digest⟩ := registered headRow stored
  obtain ⟨revision, content, _⟩ := linear.last headRow stored
  have graphFound : db.graphs.find? headRow.graphId = some graph :=
    (db.graphs.find?_eq_some _ _).mpr ⟨present, named⟩
  have headFound : db.heads.find? headRow.graphId = some headRow :=
    (db.heads.find?_eq_some _ _).mpr ⟨stored, rfl⟩
  have consistent : ¬(headRow.head.graphId ≠ graph.graphId ∨
      headRow.head.graphRevision ≠ headRow.currentRevision ∨
      headRow.head.graphDigest sha ≠ headRow.currentGraphDigest ∨
      headRow.head.registryVersion ≠ graph.registryVersion ∨
      headRow.head.registryDigest ≠ graph.registryDigest) := by
    have own := linear.named headRow stored
    simp [own, named, revision, content, version, digest]
  rw [getGraphHead, graphFound, headFound, require_some_bind, require_some_bind,
    raiseIf_bind_of_not consistent]
  rfl

end SemanticTables

namespace AgentSystem

variable {kernel : SemanticKernel}

/-! ## Proposals stay stored -/

/-- Every effect keeps the stored proposals, and the records of failed ones. -/
theorem keepsProposals_of_effect {x : Machine.Step AgentSystem AgentAction}
    (effect : AgentDb.Effect kernel x.before.db x.after.db) : KeepsProposals x := by
  intro record stored
  cases effect with
  | saved _ save =>
    refine ⟨record, ?_, rfl, fun _ => rfl⟩
    rw [save.patches]
    exact List.mem_append_left _ stored
  | call _ semantic =>
    cases semantic with
    | idle same => exact ⟨record, by rw [same]; exact stored, rfl, fun _ => rfl⟩
    | created creation =>
      exact ⟨record, by rw [creation.others]; exact stored, rfl, fun _ => rfl⟩
    | attached attachment =>
      exact ⟨record, by rw [attachment.others]; exact stored, rfl, fun _ => rfl⟩
    | @committed request permit now receipt parts commit =>
      obtain ⟨present, proposed, _⟩ := commit.proposed
      by_cases own : record.proposal.proposalId = parts.record.proposal.proposalId
      · have same : record = parts.record :=
          x.before.db.semantic.patches.eq_of_key stored present own
        refine ⟨record.commit now, ?_, rfl, ?_⟩
        · rw [commit.patches]
          exact List.mem_map.mpr ⟨record, stored, if_pos own⟩
        · intro failed
          rw [same, proposed] at failed
          exact absurd failed nofun
      · refine ⟨record, ?_, rfl, fun _ => rfl⟩
        rw [commit.patches]
        exact List.mem_map.mpr ⟨record, stored, if_neg own⟩

/-! ## What a call saves is its own proposal -/

/-- A stage that saves a record saves one of the proposal. -/
def ProposeStage.SavesOwn (proposal : SemanticPatchProposalRequest) : ProposeStage → Prop
  | .save record => record.proposal = proposal
  | _ => True

/-- Every call saves its own proposal. -/
def SavesOwn (system : AgentSystem) : Prop :=
  ∀ call ∈ system.proposals, ∀ stage, call.stage = some stage →
    ProposeStage.SavesOwn call.proposal stage

/-- The record of a compilation is one of the proposal. -/
theorem proposal_of_ofCompilation {sha : Sha256} {proposal : SemanticPatchProposalRequest}
    {now : Timestamp} {result : Except MacrError CompiledSemanticPatch}
    {record : SemanticProposalRecord}
    (made : SemanticProposalRecord.ofCompilation sha proposal now result = .ok record) :
    record.proposal = proposal := by
  unfold SemanticProposalRecord.ofCompilation at made
  split at made
  · rw [← Except.ok.inj made]
  · rw [← Except.ok.inj made]
  · exact absurd made nofun

/-- The first read leads to no save. -/
theorem savesOwn_of_beginPropose {db : SemanticTables} {proposal : SemanticPatchProposalRequest}
    {next : ProposeStage} (turn : beginPropose db proposal = .proceed next) :
    ProposeStage.SavesOwn proposal next := by
  unfold beginPropose at turn
  split at turn
  · rw [← ProposeTurn.proceed.inj turn]
    trivial
  · split at turn <;> exact absurd turn nofun

/-- A later stage leads to a save of the proposal only. -/
theorem savesOwn_of_stepPropose {db : SemanticTables} {proposal : SemanticPatchProposalRequest}
    {now : Timestamp} {stage next : ProposeStage}
    (turn : stepPropose kernel db proposal now stage = .proceed next) :
    ProposeStage.SavesOwn proposal next := by
  cases stage with
  | head | nodeRevision | relationRevision =>
    simp only [stepPropose] at turn
    split at turn
    · rw [← ProposeTurn.proceed.inj turn]
      trivial
    · cases turn
  | nodes =>
    rw [← ProposeTurn.proceed.inj turn]
    trivial
  | relations =>
    simp only [stepPropose] at turn
    split at turn
    · next made =>
      rw [← ProposeTurn.proceed.inj turn]
      exact proposal_of_ofCompilation made
    · cases turn
  | save => cases turn

/-- The stage a turn leads to. -/
theorem turned_eq_some {db after : SemanticTables} {turn : ProposeTurn} {next : ProposeStage}
    (moved : turned db turn = (after, some next)) : turn = .proceed next := by
  cases turn with
  | proceed stage =>
    simp only [turned, Prod.mk.injEq, Option.some.injEq] at moved
    rw [moved.2]
  | finish =>
    simp only [turned, Prod.mk.injEq] at moved
    cases moved.2

/-- Every step keeps the calls at their own proposals. -/
theorem savesOwn_step {system : AgentSystem} (held : system.SavesOwn) (action : AgentAction) :
    (step kernel system action).SavesOwn := by
  cases action with
  | call call => exact held
  | propose proposal now =>
    intro call member stage later
    cases List.mem_append.mp member with
    | inl earlier => exact held call earlier stage later
    | inr new =>
      rw [List.mem_singleton.mp new] at later ⊢
      exact savesOwn_of_beginPropose (turned_eq_some (Prod.ext rfl later))
  | proceed index =>
    simp only [step]
    split
    · intro call member stage later
      rcases List.mem_or_eq_of_mem_set member with earlier | new
      · exact held call earlier stage later
      · rw [new] at later ⊢
        exact savesOwn_of_stepPropose (turned_eq_some (Prod.ext rfl later))
    · exact held

/-- A system in which heads can be read and calls save their own proposals. -/
structure Proposing (kernel : SemanticKernel) (system : AgentSystem) : Prop where
  /-- Histories are linear and accounted for. -/
  historical : Historical kernel system
  /-- Heads have graphs of their registry. -/
  registered : system.db.semantic.Registered
  /-- Calls save their own proposals. -/
  own : system.SavesOwn

/-- A new system has neither heads nor calls. -/
theorem proposing_initial : Proposing kernel initial :=
  ⟨⟨formed_initial, SemanticTables.linear_initial, SemanticTables.accounted_initial⟩,
    fun _ member => absurd member List.not_mem_nil, fun _ member => absurd member List.not_mem_nil⟩

/-- Every step keeps it so. -/
theorem proposing_step (system : AgentSystem) (action : AgentAction)
    (held : Proposing kernel system) :
    Proposing kernel ((machine kernel).step system action) :=
  ⟨historical_step system action held.historical,
    held.registered.step (effect_of_step held.historical.formed action),
    savesOwn_step held.own action⟩

/-! ## One turn -/

/-- The first read ends the call exactly as it should. -/
theorem answered_of_begin {system : AgentSystem} {proposal : SemanticPatchProposalRequest}
    {now : Timestamp} :
    Answered kernel ⟨system, .propose proposal now, step kernel system (.propose proposal now)⟩
      ⟨proposal, now, none, beginPropose system.db.semantic proposal⟩ := by
  have same : (step kernel system (.propose proposal now)).db = system.db := by
    simp only [step, (turned_beginPropose system.db.semantic proposal).1]
  constructor
  · intro db outcome finish
    unfold beginPropose at finish
    split at finish
    · cases finish
    · next existing found =>
      obtain ⟨stored, named⟩ := (system.db.semantic.patches.find?_eq_some _ _).mp found
      refine ⟨existing, by rw [same]; exact stored, named, ?_⟩
      split at finish
      · next equal => exact .inl ⟨equal, (ProposeTurn.finish.inj finish).2.symm⟩
      · next other =>
        exact .inr ⟨other, ⟨_, (ProposeTurn.finish.inj finish).2.symm⟩, same⟩
  · exact fun _ _ _ _ stage => by cases stage
  · exact fun _ stage => by cases stage

/-- Where a turn that goes on neither compiles nor saves, nothing is asked and nothing can go
wrong. -/
theorem answered_iff_of_reads {x : Machine.Step AgentSystem AgentAction} {call : ProposalTurn}
    {next : ProposeStage} (goes_on : call.turn = .proceed next)
    (reads : ∀ head nodes graphRevision, call.stage ≠ some (.relations head nodes graphRevision))
    (unsaved : ∀ record, call.stage ≠ some (.save record)) :
    Answered kernel x call ↔ Undisturbed kernel x.before call := by
  constructor
  · intro _
    exact ⟨fun head nodes graphRevision _ stage => absurd stage (reads head nodes graphRevision),
      fun record stage => absurd stage (unsaved record)⟩
  · intro _
    refine ⟨?_, fun head nodes graphRevision _ stage =>
      absurd stage (reads head nodes graphRevision), fun record stage =>
        absurd stage (unsaved record)⟩
    intro db outcome finish
    rw [goes_on] at finish
    exact absurd finish nofun

/-- Where a head can be read, the reads of a call go on. -/
theorem proceeds_of_reads {db : SemanticTables} {proposal : SemanticPatchProposalRequest}
    (now : Timestamp) (stage : ProposeStage) {head : SemanticGraphHead}
    (readable : db.getGraphHead kernel.sha proposal.graphId = .ok head)
    (reads : ∀ head nodes graphRevision, stage ≠ .relations head nodes graphRevision)
    (unsaved : ∀ record, stage ≠ .save record) :
    ∃ next, stepPropose kernel db proposal now stage = .proceed next := by
  cases stage with
  | head | nodeRevision | relationRevision =>
    rw [stepPropose, readable]
    exact ⟨_, rfl⟩
  | nodes => exact ⟨_, rfl⟩
  | relations head nodes graphRevision => exact absurd rfl (reads head nodes graphRevision)
  | save record => exact absurd rfl (unsaved record)

/-- A call that compiles is answered exactly when the compiler raises only semantic errors. -/
theorem answered_iff_of_relations {system : AgentSystem} {x : Machine.Step AgentSystem AgentAction}
    (meets : x.before = system) {proposal : SemanticPatchProposalRequest} {now : Timestamp}
    {head : SemanticGraphHead} {nodes : List SemanticNode} {graphRevision : Nat} :
    Answered kernel x ⟨proposal, now, some (.relations head nodes graphRevision),
        stepPropose kernel system.db.semantic proposal now (.relations head nodes graphRevision)⟩ ↔
      Undisturbed kernel system ⟨proposal, now, some (.relations head nodes graphRevision),
        stepPropose kernel system.db.semantic proposal now
          (.relations head nodes graphRevision)⟩ := by
  subst meets
  constructor
  · intro answered
    refine ⟨?_, fun record stage => by cases stage⟩
    intro head nodes graphRevision error stage raised
    obtain ⟨code, turn⟩ := answered.rejected head nodes graphRevision error stage raised
    cases stage
    rw [stepPropose, raised] at turn
    cases error with
    | semanticState code message => exact ⟨code, message, rfl⟩
    | _ => cases turn
  · intro undisturbed
    cases compiled : kernel.compile head proposal nodes
        (x.before.db.semantic.activeRelations proposal.graphId graphRevision) with
    | ok patch =>
      constructor
      · intro db outcome finish
        rw [stepPropose, compiled] at finish
        cases finish
      · intro head nodes graphRevision error stage raised
        cases stage
        rw [compiled] at raised
        cases raised
      · exact fun record stage => by cases stage
    | error error =>
      obtain ⟨code, message, semantic⟩ :=
        undisturbed.compiles head nodes graphRevision error rfl compiled
      subst semantic
      have turn : stepPropose kernel x.before.db.semantic proposal now
          (.relations head nodes graphRevision) =
            .proceed (.save (failedRecord proposal now code)) := by
        rw [stepPropose, compiled]
        rfl
      constructor
      · intro db outcome finish
        rw [turn] at finish
        cases finish
      · intro head nodes graphRevision error stage raised
        exact ⟨code, turn⟩
      · exact fun record stage => by cases stage

/-- `save_proposal` under a taken identifier. -/
theorem saveProposal_of_taken (sha : Sha256) {db : SemanticTables}
    {record other : SemanticProposalRecord} (stored : other ∈ db.patches.rows)
    (named : other.proposal.proposalId = record.proposal.proposalId) :
    settle db (db.saveProposal sha record) =
      (db, if other = record then .ok other else .error (.other "NameError")) := by
  have found := (db.patches.find?_eq_some _ _).mpr ⟨stored, named⟩
  rw [SemanticTables.saveProposal, found]
  by_cases same : other = record
  · simp only [if_pos same]
    rfl
  · simp only [if_neg same]
    rfl

/-- `save_proposal` under a free identifier. -/
theorem saveProposal_of_free (sha : Sha256) {db : SemanticTables} {record : SemanticProposalRecord}
    (free : ∀ other ∈ db.patches.rows,
      other.proposal.proposalId ≠ record.proposal.proposalId) :
    ((∃ other ∈ db.patches.rows,
        other.proposal.proposalDigest sha = record.proposal.proposalDigest sha) ∧
      settle db (db.saveProposal sha record) = (db, .error .integrity)) ∨
    ((∀ other ∈ db.patches.rows,
        other.proposal.proposalDigest sha ≠ record.proposal.proposalDigest sha) ∧
      record ∈ (settle db (db.saveProposal sha record)).1.patches.rows ∧
      (settle db (db.saveProposal sha record)).2 = .ok record) := by
  have absent := (db.patches.find?_eq_none _).mpr free
  by_cases collides : ∃ other ∈ db.patches.rows,
      other.proposal.proposalDigest sha = record.proposal.proposalDigest sha
  · refine .inl ⟨collides, ?_⟩
    rw [SemanticTables.saveProposal, absent]
    simp only [raiseIf, if_pos collides]
    rfl
  · refine .inr ⟨fun other stored same => collides ⟨other, stored, same⟩, ?_⟩
    have fresh : record.proposal.proposalId ∉
        db.patches.rows.map (fun row => row.proposal.proposalId) := by
      intro listed
      obtain ⟨other, stored, named⟩ := List.mem_map.mp listed
      exact free other stored named
    have inserted := (db.patches.insert?_eq_some _ record).mpr ⟨fresh, rfl⟩
    have done : db.saveProposal sha record =
        .ok ({ db with patches := db.patches.insert record fresh }, .ok record) := by
      rw [SemanticTables.saveProposal, absent]
      simp only
      rw [raiseIf_bind_of_not collides, inserted, require_some_bind]
      rfl
    rw [done]
    exact ⟨List.mem_append_right _ (List.mem_singleton_self record), rfl⟩

/-- A call whose identifier is taken is answered exactly when the stored record is its own. -/
theorem answered_iff_of_taken {x : Machine.Step AgentSystem AgentAction} {call : ProposalTurn}
    {record other : SemanticProposalRecord} (stage : call.stage = some (.save record))
    (own : call.proposal = record.proposal)
    (stored : other ∈ x.before.db.semantic.patches.rows)
    (named : other.proposal.proposalId = record.proposal.proposalId)
    (same : x.after.db.semantic = x.before.db.semantic)
    (finishes : call.turn = .finish x.before.db.semantic
      (if other = record then .ok other else .error (.other "NameError"))) :
    Answered kernel x call ↔ other = record := by
  constructor
  · intro answered
    obtain ⟨found, held, identified, answer⟩ := answered.ended _ _ finishes
    by_cases equal : other = record
    · exact equal
    · rw [if_neg equal] at answer
      rcases answer with ⟨_, impossible⟩ | ⟨_, ⟨message, impossible⟩, _⟩
      · exact absurd impossible nofun
      · exact absurd impossible (by simp)
  · intro equal
    rw [if_pos equal] at finishes
    constructor
    · intro db outcome finish
      rw [finishes] at finish
      have returned := (ProposeTurn.finish.inj finish).2
      refine ⟨other, by rw [same]; exact stored, ?_, .inl ⟨?_, returned.symm⟩⟩
      · rw [own, equal]
      · rw [own, equal]
    · intro head nodes graphRevision error compiles
      rw [stage] at compiles
      exact absurd compiles nofun
    · intro saved isSaved free
      rw [stage] at isSaved
      cases isSaved
      exact absurd named (free other stored)

/-- A call whose identifier is free is answered exactly when its digest is free. -/
theorem answered_iff_of_free {x : Machine.Step AgentSystem AgentAction} {call : ProposalTurn}
    {record : SemanticProposalRecord} (stage : call.stage = some (.save record))
    (own : call.proposal = record.proposal)
    (free : ∀ other ∈ x.before.db.semantic.patches.rows,
      other.proposal.proposalId ≠ record.proposal.proposalId)
    (after : x.after.db.semantic = (settle x.before.db.semantic
      (x.before.db.semantic.saveProposal kernel.sha record)).1)
    (finishes : call.turn = .finish x.after.db.semantic (settle x.before.db.semantic
      (x.before.db.semantic.saveProposal kernel.sha record)).2) :
    Answered kernel x call ↔ ∀ other ∈ x.before.db.semantic.patches.rows,
      other.proposal.proposalDigest kernel.sha ≠ record.proposal.proposalDigest kernel.sha := by
  rcases saveProposal_of_free kernel.sha free with ⟨collides, refused⟩ |
      ⟨fresh, stored, returned⟩
  · rw [refused] at after finishes
    constructor
    · intro answered
      have kept := answered.saved record stage free
      rw [after] at kept
      exact absurd rfl (free record kept)
    · intro fresh
      obtain ⟨other, held, digest⟩ := collides
      exact absurd digest (fresh other held)
  · rw [← after] at stored
    rw [returned] at finishes
    constructor
    · exact fun _ => fresh
    · intro _
      constructor
      · intro db outcome finish
        rw [finishes] at finish
        have given := (ProposeTurn.finish.inj finish).2
        exact ⟨record, stored, by rw [own], .inl ⟨own.symm, given.symm⟩⟩
      · intro head nodes graphRevision error compiles
        rw [stage] at compiles
        exact absurd compiles nofun
      · intro saved isSaved _
        rw [stage] at isSaved
        cases isSaved
        exact stored

/-- A call that saves is answered exactly when no other record has its identifier or digest. -/
theorem answered_iff_of_save {x : Machine.Step AgentSystem AgentAction} {call : ProposalTurn}
    {record : SemanticProposalRecord} (stage : call.stage = some (.save record))
    (own : call.proposal = record.proposal)
    (accounted : x.before.db.semantic.Accounted kernel.sha)
    (after : x.after.db.semantic = (settle x.before.db.semantic
      (x.before.db.semantic.saveProposal kernel.sha record)).1)
    (finishes : call.turn = .finish x.after.db.semantic (settle x.before.db.semantic
      (x.before.db.semantic.saveProposal kernel.sha record)).2) :
    Answered kernel x call ↔ Undisturbed kernel x.before call := by
  have undisturbed_iff : Undisturbed kernel x.before call ↔
      ∀ other ∈ x.before.db.semantic.patches.rows,
        other.proposal.proposalId = record.proposal.proposalId ∨
          other.proposal.proposalDigest kernel.sha = record.proposal.proposalDigest kernel.sha →
        other = record := by
    constructor
    · exact fun undisturbed => undisturbed.alone record stage
    · intro alone
      constructor
      · intro head nodes graphRevision error compiles
        rw [stage] at compiles
        exact absurd compiles nofun
      · intro saved isSaved
        rw [stage] at isSaved
        cases isSaved
        exact alone
  rw [undisturbed_iff]
  by_cases taken : ∃ other ∈ x.before.db.semantic.patches.rows,
      other.proposal.proposalId = record.proposal.proposalId
  · obtain ⟨other, stored, named⟩ := taken
    rw [saveProposal_of_taken kernel.sha stored named] at after finishes
    rw [answered_iff_of_taken stage own stored named after (by rw [finishes, after])]
    constructor
    · intro same third member shares
      rcases shares with identifier | digest
      · rw [← same]
        exact x.before.db.semantic.patches.eq_of_key member stored (identifier.trans named.symm)
      · rw [← same] at digest ⊢
        exact accounted.digests third member other stored digest
    · exact fun alone => alone other stored (.inl named)
  · have free : ∀ other ∈ x.before.db.semantic.patches.rows,
        other.proposal.proposalId ≠ record.proposal.proposalId :=
      fun other stored named => taken ⟨other, stored, named⟩
    rw [answered_iff_of_free stage own free after finishes]
    constructor
    · intro fresh other stored shares
      rcases shares with identifier | digest
      · exact absurd identifier (free other stored)
      · exact absurd digest (fresh other stored)
    · intro alone other stored digest
      have same := alone other stored (.inr digest)
      exact free other stored (by rw [same])

/-- A turn about an existing graph is answered as it should be exactly when it is undisturbed. -/
theorem answered_iff {system : AgentSystem} (held : Proposing kernel system)
    {action : AgentAction} {call : ProposalTurn}
    (turn : turnOf kernel system action = some call)
    (headed : HeadExists system call.proposal.graphId) :
    Answered kernel ⟨system, action, (machine kernel).step system action⟩ call ↔
      Undisturbed kernel system call := by
  cases action with
  | call other => cases turn
  | propose proposal now =>
    rw [← Option.some.inj turn]
    constructor
    · intro _
      exact ⟨fun _ _ _ _ stage => (by cases stage), fun _ stage => by cases stage⟩
    · exact fun _ => answered_of_begin
  | proceed index =>
    simp only [turnOf] at turn
    split at turn
    · next proposal now stage found =>
      have isCall := Option.some.inj turn
      subst isCall
      have member := List.mem_of_getElem? found
      have after : ((machine kernel).step system (.proceed index)).db.semantic =
          (turned system.db.semantic
            (stepPropose kernel system.db.semantic proposal now stage)).1 := by
        simp only [machine, step, found]
      obtain ⟨headRow, stored, named⟩ := headed
      have readable := SemanticTables.getGraphHead_of_headed held.historical.linear held.registered
        stored
      rw [named] at readable
      by_cases compiles : ∃ head nodes graphRevision,
          stage = .relations head nodes graphRevision
      · obtain ⟨head, nodes, graphRevision, isStage⟩ := compiles
        subst isStage
        exact answered_iff_of_relations rfl
      · by_cases saves : ∃ record, stage = .save record
        · obtain ⟨record, isStage⟩ := saves
          subst isStage
          have own : record.proposal = proposal := held.own _ member _ rfl
          refine answered_iff_of_save rfl own.symm held.historical.accounted after ?_
          rw [after]
          rfl
        · obtain ⟨next, goes_on⟩ := proceeds_of_reads now stage readable
            (fun head nodes graphRevision isStage =>
              compiles ⟨head, nodes, graphRevision, isStage⟩)
            (fun record isStage => saves ⟨record, isStage⟩)
          apply answered_iff_of_reads goes_on
          · intro head nodes graphRevision isStage
            exact compiles ⟨head, nodes, graphRevision, Option.some.inj isStage⟩
          · intro record isStage
            exact saves ⟨record, Option.some.inj isStage⟩
    · cases turn

/-- A call ends with an error that is no conflict, although the head exists. -/
def escapes (kernel : SemanticKernel) (x : Machine.Step AgentSystem AgentAction) : Bool :=
  match turnOf kernel x.before x.action with
  | some ⟨proposal, _, _, .finish _ (.error (.semanticState code _))⟩ =>
    code != "SEMANTIC_PATCH_CONFLICT" &&
      x.before.db.semantic.heads.rows.any (fun headRow => headRow.graphId = proposal.graphId)
  | some ⟨proposal, _, _, .finish _ (.error _)⟩ =>
    x.before.db.semantic.heads.rows.any (fun headRow => headRow.graphId = proposal.graphId)
  | _ => false

/-- A step that lets an error escape is not lawful. -/
theorem not_lawful_of_escapes {x : Machine.Step AgentSystem AgentAction}
    (escaped : escapes kernel x = true) : ¬Lawful kernel x := by
  intro lawful
  unfold escapes at escaped
  split at escaped
  · next proposal now stage db code message turn =>
    rw [Bool.and_eq_true, List.any_eq_true] at escaped
    obtain ⟨other, headRow, stored, named⟩ := escaped
    have answered := lawful.2 _ turn ⟨headRow, stored, of_decide_eq_true named⟩
    obtain ⟨record, _, _, answer⟩ := answered.ended db _ rfl
    rcases answer with ⟨_, impossible⟩ | ⟨_, ⟨given, conflict⟩, _⟩
    · exact absurd impossible nofun
    · simp only [Except.error.injEq, MacrError.semanticState.injEq] at conflict
      simp [conflict.1] at other
  · next proposal now stage db error unsemantic turn =>
    rw [List.any_eq_true] at escaped
    obtain ⟨headRow, stored, named⟩ := escaped
    have answered := lawful.2 _ turn ⟨headRow, stored, of_decide_eq_true named⟩
    obtain ⟨record, _, _, answer⟩ := answered.ended db _ rfl
    rcases answer with ⟨_, impossible⟩ | ⟨_, ⟨given, conflict⟩, _⟩
    · exact absurd impossible nofun
    · exact absurd (Except.error.inj conflict) (unsemantic _ _)
  · exact absurd escaped nofun

/-- A proposal for the empty graph 9 with some status updates. -/
def sampleUpdates (statusUpdates : List (List (String × Json))) : SemanticPatchProposalRequest where
  proposalId := 81
  graphId := 9
  agentRunId := 1
  baseGraphRevision := 1
  baseGraphDigest := graphContentDigest foldDigest "macr-semantic-registry/v1" 7 [] []
  registryVersion := "macr-semantic-registry/v1"
  registryDigest := 7
  patch := ⟨"patch", graphContentDigest foldDigest "macr-semantic-registry/v1" 7 [] [], [], [],
    statusUpdates, [], "agent"⟩
  based := rfl

/-- The node of an update is an object. -/
def malformedUpdate : List AgentAction :=
  attachActions ++ [.propose (sampleUpdates [[("node_id", .obj [])]]) 6] ++
    List.replicate 5 (.proceed 0)

/-- Two callers propose the same request at different times and read before either saves. -/
def sameRequestTwice : List AgentAction :=
  attachActions ++ [.propose (sampleUpdates []) 6, .propose (sampleUpdates []) 7] ++
    List.replicate 6 (.proceed 0) ++ List.replicate 6 (.proceed 1)

/-- The head of graph 9 after a commit that the sample proposals do not know of. -/
def movedHead : SemanticGraphHead :=
  ⟨9, "scope", 2, "macr-semantic-registry/v1", 7, [], [], 1, 1, 2, by decide⟩

end AgentSystem

end Macr
