import Macr.Lib.Chain
import Macr.ProviderAdmission.Capacity

/-!
# The receipt chain of a provider

Every control change appends one receipt and moves the control row to it. The receipts of a
provider are a chain, its control row is the projection of the last of them, and validation
accepts that row under the policy in force. This is kept by every effect, whatever calls and
kernels it comes from.
-/

namespace Macr

open Lib

/-- How a receipt names its place and its predecessor. -/
def receiptSpec : ChainSpec TransitionRow Digest where
  revision := (·.controlRevision)
  prior := (·.priorControlDigest)
  digest := (·.bodySha256)
  zero := zeroDigest

/-- A provider's receipts, in the order of their insertion. -/
def AdmissionTables.receipts (tables : AdmissionTables) (providerId : String) :
    List TransitionRow :=
  tables.transitions.rows.filter (fun row => row.providerId = providerId)

/-- A provider's receipts are the stored ones with its name. -/
theorem AdmissionTables.mem_receipts {tables : AdmissionTables} {providerId : String}
    {row : TransitionRow} :
    row ∈ tables.receipts providerId ↔
      row ∈ tables.transitions.rows ∧ row.providerId = providerId := by
  simp [receipts]

/-- A control row is the projection of a receipt. -/
structure Projects (sha : Sha256) (state : ControlRow) (body : ControlBody) : Prop where
  /-- The policy in force. -/
  policyDigest : state.policyDigest = body.policyDigest
  /-- The deployment mode. -/
  deploymentMode : state.deploymentMode = body.deploymentMode
  /-- The deployment. -/
  deploymentDigest : state.deploymentDigest = body.deploymentDigest
  /-- The target. -/
  effectiveTarget : state.effectiveTarget = body.effectiveTarget
  /-- The circuit. -/
  circuitState : state.circuitState = body.circuitState
  /-- The half-open probe. -/
  probe : state.halfOpenProbeRequestDigest = body.halfOpenProbeRequestDigest
  /-- The revision. -/
  controlRevision : state.controlRevision = body.controlRevision
  /-- The digest. -/
  controlDigest : state.controlDigest = sha.sha256 body.toDict
  /-- The signal. -/
  lastSignal : state.lastSignal = body.lastSignal

/-- A control row is within a policy: its target is in bounds, and it names a probe exactly when
it is half open. -/
structure FormedUnder (policy : ProviderAdmissionPolicy) (state : ControlRow) : Prop where
  /-- The target is at least one. -/
  positive : 1 ≤ state.effectiveTarget
  /-- The target is within the policy. -/
  bounded : state.effectiveTarget ≤ policy.hardMax
  /-- A half-open circuit has one probe, and no other circuit has one. -/
  probe : state.circuitState = .halfOpen ↔ state.halfOpenProbeRequestDigest.isSome

namespace ProviderAdmissionKernel

/-- The chain of one provider. -/
structure ProviderChain (sha : Sha256) (tables : AdmissionTables) (provider : String) : Prop where
  /-- The receipts are numbered from one, and each names the digest of its predecessor. -/
  linked : receiptSpec.Linked (tables.receipts provider)
  /-- Each stored row is its receipt's. -/
  hashed : ∀ row ∈ tables.receipts provider, row = receiptRow sha row.body
  /-- The control row projects the last receipt. -/
  projected : ∀ state ∈ tables.states.rows, state.providerId = provider →
    ∃ last, (tables.receipts provider).getLast? = some last ∧ Projects sha state last.body
  /-- Without a control row there is no receipt. -/
  started : (∀ state ∈ tables.states.rows, state.providerId ≠ provider) →
    tables.receipts provider = []
  /-- The control row is within the stored policy it names. -/
  formed : ∀ state ∈ tables.states.rows, state.providerId = provider →
    ∃ policy, PolicyKnown sha tables policy ∧ policy.providerId = provider ∧
      policy.policyDigest sha = state.policyDigest ∧ FormedUnder policy state

variable {sha : Sha256} {tables next : AdmissionTables} {provider : String}
  {kernel : ProviderAdmissionKernel}

/-! ## Validation -/

/-- The receipts' revisions are those validation reads. -/
theorem receiptRevisions_eq (tables : AdmissionTables) (provider : String) :
    tables.receiptRevisions provider =
      (tables.receipts provider).map receiptSpec.revision := rfl

/-- The predecessor a receipt of a chain names is the one validation expects. -/
theorem expectedPrior_of_linked (linked : receiptSpec.Linked (tables.receipts provider))
    {i : Nat} {row : TransitionRow} (found : (tables.receipts provider)[i]? = some row) :
    row.priorControlDigest = tables.expectedPrior provider row.controlRevision := by
  have place : row.controlRevision = i + 1 ∧
      row.priorControlDigest = receiptSpec.head ((tables.receipts provider).take i) :=
    linked i row found
  rw [place.1, place.2, AdmissionTables.expectedPrior]
  by_cases first : i = 0
  · subst first
    simp [receiptSpec]
  · have bound : i < (tables.receipts provider).length := (List.getElem?_eq_some_iff.mp found).1
    have earlier : i - 1 < (tables.receipts provider).length := by omega
    have previous := List.getElem?_eq_getElem earlier
    have number : ((tables.receipts provider)[i - 1]).controlRevision = i :=
      (linked (i - 1) _ previous).1.trans (by omega)
    have member : (tables.receipts provider)[i - 1] ∈ tables.transitions.rows ∧
        ((tables.receipts provider)[i - 1]).providerId = provider :=
      AdmissionTables.mem_receipts.mp (List.getElem_mem earlier)
    have stored : tables.transitions.find? (provider, i) =
        some (tables.receipts provider)[i - 1] :=
      (tables.transitions.find?_eq_some _ _).mpr
        ⟨member.1, by rw [TransitionRow.key, member.2, number]⟩
    have last : ((tables.receipts provider).take i).getLast? =
        some (tables.receipts provider)[i - 1] := by
      rw [List.getLast?_eq_getElem?, List.length_take, Nat.min_eq_left bound.le,
        List.getElem?_take_of_lt (by omega), previous]
    have above : 1 < i + 1 := by omega
    rw [if_pos above, Nat.add_sub_cancel, stored, ChainSpec.head, last]
    rfl

/-- Validation accepts the control row of a chain under a policy that it names and is within. -/
theorem validated_of_chain (chain : ProviderChain sha tables provider) {state : ControlRow}
    {policy : ProviderAdmissionPolicy} (stored : state ∈ tables.states.rows)
    (own : state.providerId = provider) (named : policy.providerId = provider)
    (digest : state.policyDigest = policy.policyDigest sha) (formed : FormedUnder policy state) :
    Validated sha tables policy state.deploymentMode state.deploymentDigest state := by
  obtain ⟨last, atEnd, projects⟩ := chain.projected state stored own
  have held : last ∈ tables.receipts provider := List.mem_of_getLast? atEnd
  have asRow := chain.hashed last held
  have number : last.controlRevision = (tables.receipts provider).length :=
    chain.linked.revision_getLast atEnd
  have bodyNumber : last.controlRevision = last.body.controlRevision :=
    congrArg (·.controlRevision) asRow
  have revision : state.controlRevision = (tables.receipts provider).length :=
    projects.controlRevision.trans (bodyNumber.symm.trans number)
  have revisions : tables.receiptRevisions provider = List.range' 1 state.controlRevision := by
    rw [receiptRevisions_eq, chain.linked.revisions, revision]
  have nonempty : 1 ≤ state.controlRevision := by
    rw [revision]
    exact List.length_pos_of_mem held
  have member := AdmissionTables.mem_receipts.mp held
  subst named
  refine ⟨stored, own, ?_, ?_, ?_, ?_, last, member.1, ?_, ?_, ?_, ?_, ?_⟩
  · have probe := formed.probe
    simp [ControlRow.wellFormed, digest, formed.positive, formed.bounded, nonempty, probe]
  · rw [revisions, List.length_range']
  · rw [revisions, List.min?_eq_some_iff]
    refine ⟨List.mem_range'_1.mpr (by omega), fun other listed => ?_⟩
    have bounds := List.mem_range'_1.mp listed
    omega
  · rw [revisions, List.max?_eq_some_iff]
    refine ⟨List.mem_range'_1.mpr (by omega), fun other listed => ?_⟩
    have bounds := List.mem_range'_1.mp listed
    omega
  · rw [TransitionRow.key, member.2, number, revision]
  · have provider_eq : last.body.providerId = policy.providerId :=
      (congrArg (·.providerId) asRow).symm.trans member.2
    rw [asRow]
    simp only [ControlRow.expectedBody, receiptRow, own, projects.deploymentMode,
      projects.deploymentDigest, projects.controlRevision, projects.effectiveTarget,
      projects.circuitState, projects.probe, projects.lastSignal, ← provider_eq, ← digest,
      projects.policyDigest]
  · exact (congrArg (·.bodySha256) asRow).symm
  · exact projects.controlDigest.symm
  · have place := chain.linked.getElem?_of_mem held
    rw [revision, ← number]
    exact expectedPrior_of_linked chain.linked place

/-- A kernel passes validation on a chain whose control row its policy and deployment could have
written. -/
theorem validatedState_of_wellFormed (chain : ProviderChain sha tables kernel.policy.providerId)
    {state : ControlRow} (stored : state ∈ tables.states.rows)
    (own : state.providerId = kernel.policy.providerId)
    (formed : state.wellFormed sha kernel.policy kernel.deploymentMode
      (kernel.deploymentDigest sha kernel.policy) = true) :
    kernel.validatedState sha tables = .ok state := by
  simp only [ControlRow.wellFormed, decide_eq_true_eq] at formed
  obtain ⟨digest, mode, deployment, positive, bounded, _, probe⟩ := formed
  have valid := validated_of_chain chain stored own rfl digest ⟨positive, bounded, probe⟩
  rw [mode, deployment] at valid
  exact validatedControlState_eq_ok.mpr valid

/-- Validation on a chain fails no check of the receipts. -/
theorem error_of_validatedState (chain : ProviderChain sha tables kernel.policy.providerId)
    {error : MacrError} (failed : kernel.validatedState sha tables = .error error) :
    error = .providerAdmissionConflict "provider admission control state is invalid" := by
  cases found : (tables.states.find? kernel.policy.providerId).filter
      (·.wellFormed sha kernel.policy kernel.deploymentMode
        (kernel.deploymentDigest sha kernel.policy)) with
  | none =>
    simp only [validatedState, validatedControlState, found] at failed
    exact (Except.error.inj failed).symm
  | some state =>
    simp only [Option.filter_eq_some_iff, Table.find?_eq_some] at found
    obtain ⟨⟨stored, own⟩, formed⟩ := found
    rw [validatedState_of_wellFormed chain stored own formed] at failed
    exact absurd failed (by simp)

/-- The empty tables have an empty chain. -/
theorem chain_initial : ProviderChain sha .initial provider := by
  refine ⟨receiptSpec.linked_nil, ?_, ?_, fun _ => rfl, ?_⟩ <;>
    simp [AdmissionTables.initial, AdmissionTables.receipts]

/-! ## Effects -/

/-- A receipt's projection projects it. -/
theorem projects_moveProjection (body : ControlBody) (row : ControlRow) :
    Projects sha (moveProjection sha body row) body := by
  constructor <;> rfl

/-- The receipts of a provider after one is appended. -/
theorem receipts_append {row : TransitionRow}
    (transitions : next.transitions.rows = tables.transitions.rows ++ [row]) (provider : String) :
    next.receipts provider =
      tables.receipts provider ++ if row.providerId = provider then [row] else [] := by
  rw [AdmissionTables.receipts, transitions, List.filter_append]
  by_cases own : row.providerId = provider <;> simp [AdmissionTables.receipts, own]

/-- A chain is kept where neither the receipts nor the receipt columns of the control row change. -/
theorem chain_of_states (chain : ProviderChain sha tables provider)
    (transitions : next.transitions = tables.transitions)
    (states : ∀ row ∈ next.states.rows, row.providerId = provider →
      ∃ old ∈ tables.states.rows, old.providerId = provider ∧
        ∃ sequence lane updatedAt, row = { old with
          grantSequence := sequence
          lastGrantedLane := lane
          updatedAt := updatedAt })
    (kept : ∀ old ∈ tables.states.rows, ∃ row ∈ next.states.rows, row.providerId = old.providerId)
    (known : ∀ policy, PolicyKnown sha tables policy → PolicyKnown sha next policy) :
    ProviderChain sha next provider := by
  have receipts : next.receipts provider = tables.receipts provider := by
    rw [AdmissionTables.receipts, transitions, AdmissionTables.receipts]
  refine ⟨receipts ▸ chain.linked, receipts ▸ chain.hashed, ?_, ?_, ?_⟩
  · intro row held own
    obtain ⟨old, oldHeld, oldOwn, _, _, _, rfl⟩ := states row held own
    obtain ⟨last, atEnd, projects⟩ := chain.projected old oldHeld oldOwn
    exact ⟨last, receipts ▸ atEnd, ⟨projects.policyDigest, projects.deploymentMode,
      projects.deploymentDigest, projects.effectiveTarget, projects.circuitState, projects.probe,
      projects.controlRevision, projects.controlDigest, projects.lastSignal⟩⟩
  · intro absent
    rw [receipts]
    refine chain.started fun old oldHeld oldOwn => ?_
    obtain ⟨row, held, same⟩ := kept old oldHeld
    exact absent row held (same.trans oldOwn)
  · intro row held own
    obtain ⟨old, oldHeld, oldOwn, _, _, _, rfl⟩ := states row held own
    obtain ⟨policy, stored, named, digest, formed⟩ := chain.formed old oldHeld oldOwn
    exact ⟨policy, known policy stored, named, digest,
      ⟨formed.positive, formed.bounded, formed.probe⟩⟩

/-- A chain is kept where receipts and control rows stay. -/
theorem chain_of_same (chain : ProviderChain sha tables provider)
    (transitions : next.transitions = tables.transitions) (states : next.states = tables.states)
    (known : ∀ policy, PolicyKnown sha tables policy → PolicyKnown sha next policy) :
    ProviderChain sha next provider := by
  refine chain_of_states chain transitions ?_ ?_ known
  · intro row held own
    exact ⟨row, states ▸ held, own, _, _, _, rfl⟩
  · intro old held
    exact ⟨old, states ▸ held, rfl⟩

/-- A chain is kept where a policy is stored. -/
theorem chain_of_stored {policy : ProviderAdmissionPolicy}
    (chain : ProviderChain sha tables provider) (stored : PolicyStored sha policy tables next) :
    ProviderChain sha next provider := by
  refine chain_of_same chain stored.transitions stored.states ?_
  rintro _ ⟨row, held, columns⟩
  exact ⟨row, stored.kept row held, columns⟩

/-- A receipt that follows the governing row continues its provider's chain and leaves the
others. -/
theorem chain_of_appended {state : ControlRow} {change : ControlChange} {now : Timestamp}
    {policy : ProviderAdmissionPolicy} (chain : ProviderChain sha tables provider)
    (stored : state ∈ tables.states.rows) (own : state.providerId = policy.providerId)
    (known : PolicyKnown sha tables policy) (formed : change.Formed policy)
    (appended : Appended sha tables (kernel.nextBody sha (some state) change now policy) next) :
    ProviderChain sha next provider := by
  have kept : ∀ policy, PolicyKnown sha tables policy → PolicyKnown sha next policy :=
    fun _ ⟨row, held, columns⟩ => ⟨row, appended.policies ▸ held, columns⟩
  have receipts := receipts_append appended.transitions provider
  have moved : ∀ row ∈ next.states.rows, ∃ old ∈ tables.states.rows,
      (if old.providerId = policy.providerId then
        moveProjection sha (kernel.nextBody sha (some state) change now policy) old else old) =
          row := by
    intro row held
    rw [appended.states, Table.mem_update] at held
    obtain ⟨old, oldHeld, rfl⟩ := held
    refine ⟨old, oldHeld, ?_⟩
    by_cases owned : old.providerId = policy.providerId <;> simp [nextBody, owned]
  by_cases same : policy.providerId = provider
  · subst same
    have ours : next.receipts policy.providerId = tables.receipts policy.providerId ++
        [receiptRow sha (kernel.nextBody sha (some state) change now policy)] := by
      rw [receipts]
      simp [receiptRow, nextBody]
    obtain ⟨last, atEnd, projects⟩ := chain.projected state stored own
    have lastHeld : last ∈ tables.receipts policy.providerId := List.mem_of_getLast? atEnd
    have lastRow := chain.hashed last lastHeld
    have lastNumber : last.controlRevision = (tables.receipts policy.providerId).length :=
      chain.linked.revision_getLast atEnd
    have lastBody : last.controlRevision = last.body.controlRevision :=
      congrArg (·.controlRevision) lastRow
    have revision : state.controlRevision = (tables.receipts policy.providerId).length :=
      projects.controlRevision.trans (lastBody.symm.trans lastNumber)
    have digest : state.controlDigest = last.bodySha256 :=
      projects.controlDigest.trans (congrArg (·.bodySha256) lastRow).symm
    have updated : ∀ row ∈ next.states.rows, row.providerId = policy.providerId →
        row = moveProjection sha (kernel.nextBody sha (some state) change now policy) state := by
      intro row held rowOwn
      obtain ⟨old, oldHeld, rfl⟩ := moved row held
      split at rowOwn
      · rename_i oldOwn
        rw [if_pos oldOwn, tables.states.eq_of_key oldHeld stored (oldOwn.trans own.symm)]
      · rename_i other
        exact absurd rowOwn other
    refine ⟨?_, ?_, ?_, ?_, ?_⟩
    · rw [ours, ChainSpec.linked_concat]
      refine ⟨chain.linked, ?_, ?_⟩
      · simp [receiptSpec, receiptRow, nextBody, revision]
      · simp [receiptSpec, receiptRow, nextBody, ChainSpec.head, atEnd, digest]
    · intro row held
      rw [ours, List.mem_append, List.mem_singleton] at held
      rcases held with earlier | rfl
      · exact chain.hashed row earlier
      · rfl
    · intro row held rowOwn
      rw [updated row held rowOwn]
      exact ⟨_, by rw [ours, List.getLast?_concat], projects_moveProjection _ _⟩
    · intro absent
      have there : moveProjection sha (kernel.nextBody sha (some state) change now policy) state ∈
          next.states.rows := by
        rw [appended.states, Table.mem_update]
        exact ⟨state, stored, by simp [nextBody, own]⟩
      exact (absent _ there own).elim
    · intro row held rowOwn
      rw [updated row held rowOwn]
      exact ⟨policy, kept policy known, rfl, rfl, ⟨formed.positive, formed.bounded, formed.probe⟩⟩
  · have others : next.receipts provider = tables.receipts provider := by
      rw [receipts]
      simp [receiptRow, nextBody, same]
    have unmoved : ∀ row ∈ next.states.rows, row.providerId = provider →
        row ∈ tables.states.rows := by
      intro row held rowOwn
      obtain ⟨old, oldHeld, rfl⟩ := moved row held
      split at rowOwn
      · rename_i oldOwn
        exact absurd (oldOwn.symm.trans rowOwn) same
      · rename_i other
        rw [if_neg other]
        exact oldHeld
    refine ⟨others ▸ chain.linked, others ▸ chain.hashed, ?_, ?_, ?_⟩
    · intro row held rowOwn
      rw [others]
      exact chain.projected row (unmoved row held rowOwn) rowOwn
    · intro absent
      rw [others]
      refine chain.started fun old oldHeld oldOwn => ?_
      have there : old ∈ next.states.rows := by
        rw [appended.states, Table.mem_update]
        exact ⟨old, oldHeld, by simp [nextBody, oldOwn, Ne.symm same]⟩
      exact absent old there oldOwn
    · intro row held rowOwn
      obtain ⟨named, stored, rest⟩ := chain.formed row (unmoved row held rowOwn) rowOwn
      exact ⟨named, kept named stored, rest⟩

/-- A chain's first receipt starts it and leaves the others. -/
theorem chain_of_genesis {change : ControlChange} {now : Timestamp}
    (chain : ProviderChain sha tables provider)
    (absent : ∀ row ∈ tables.states.rows, row.providerId ≠ kernel.policy.providerId)
    (known : PolicyKnown sha tables kernel.policy) (formed : change.Formed kernel.policy)
    (policies : next.policies = tables.policies)
    (transitions : next.transitions.rows = tables.transitions.rows ++
      [receiptRow sha (kernel.nextBody sha none change now kernel.policy)])
    (states : next.states.rows = tables.states.rows ++
      [kernel.firstProjection sha (kernel.nextBody sha none change now kernel.policy)]) :
    ProviderChain sha next provider := by
  have kept : ∀ policy, PolicyKnown sha tables policy → PolicyKnown sha next policy :=
    fun _ ⟨row, held, columns⟩ => ⟨row, policies ▸ held, columns⟩
  have receipts := receipts_append transitions provider
  by_cases same : kernel.policy.providerId = provider
  · subst same
    have none_before := chain.started absent
    have ours : next.receipts kernel.policy.providerId =
        [receiptRow sha (kernel.nextBody sha none change now kernel.policy)] := by
      rw [receipts, none_before]
      simp [receiptRow, nextBody]
    have first : ∀ row ∈ next.states.rows, row.providerId = kernel.policy.providerId →
        row = kernel.firstProjection sha
          (kernel.nextBody sha none change now kernel.policy) := by
      intro row held own
      rw [states, List.mem_append, List.mem_singleton] at held
      exact held.resolve_left fun earlier => absent row earlier own
    refine ⟨?_, ?_, ?_, ?_, ?_⟩
    · rw [ours]
      show receiptSpec.Linked
        ([] ++ [receiptRow sha (kernel.nextBody sha none change now kernel.policy)])
      exact receiptSpec.linked_concat.mpr ⟨receiptSpec.linked_nil, rfl, rfl⟩
    · intro row held
      rw [ours, List.mem_singleton] at held
      rw [held]
      rfl
    · intro row held own
      rw [first row held own, ours]
      exact ⟨_, rfl, by constructor <;> rfl⟩
    · intro none_after
      refine absurd rfl (none_after (kernel.firstProjection sha
        (kernel.nextBody sha none change now kernel.policy)) ?_)
      rw [states]
      exact List.mem_append_right _ (List.mem_singleton.mpr rfl)
    · intro row held own
      rw [first row held own]
      exact ⟨kernel.policy, kept _ known, rfl, rfl,
        ⟨formed.positive, formed.bounded, formed.probe⟩⟩
  · have others : next.receipts provider = tables.receipts provider := by
      rw [receipts]
      simp [receiptRow, nextBody, same]
    have unmoved : ∀ row ∈ next.states.rows, row.providerId = provider →
        row ∈ tables.states.rows := by
      intro row held own
      rw [states, List.mem_append, List.mem_singleton] at held
      rcases held with earlier | rfl
      · exact earlier
      · exact absurd own same
    refine ⟨others ▸ chain.linked, others ▸ chain.hashed, ?_, ?_, ?_⟩
    · intro row held own
      rw [others]
      exact chain.projected row (unmoved row held own) own
    · intro absentNext
      rw [others]
      refine chain.started fun old held => absentNext old ?_
      rw [states]
      exact List.mem_append_left _ held
    · intro row held own
      obtain ⟨policy, stored, rest⟩ := chain.formed row (unmoved row held own) own
      exact ⟨policy, kept policy stored, rest⟩

/-- Every entitled effect keeps the chain of every provider. -/
theorem chain_of_effect {other : String} {kind : EffectKind} {before after : RuntimeDb}
    (effect : Effect sha kernel other kind before after)
    (entitled : Entitled sha kernel kind before)
    (chain : ProviderChain sha before.admission provider) :
    ProviderChain sha after.admission provider := by
  have kept : ∀ policy, PolicyKnown sha before.admission policy →
      PolicyKnown sha after.admission policy := fun _ known => known.of_effect effect
  have signals : kind = .signal ∨ kind = .terminal → kind ∉ freeKinds := by
    rintro (rfl | rfl) <;> decide
  cases effect with
  | move => exact chain_of_same chain rfl rfl kept
  | release stored own edge token decremented =>
    obtain ⟨_, states, transitions, _⟩ := (AdmissionTables.decrementProject_eq_ok decremented).1
    exact chain_of_same chain transitions states kept
  | enqueue own ownPolicy governs circuit probe inserted =>
    simp only [insertRequest, bind_eq_ok, require_eq_ok, pure_eq_ok] at inserted
    obtain ⟨_, _, _, _, rfl⟩ := inserted
    exact chain_of_same chain rfl rfl kept
  | @grant _ state row request now =>
    have written := reserved before.admission state request now
    refine chain_of_states chain written.transitions ?_ ?_ kept
    · intro row held own
      obtain ⟨old, oldHeld, same⟩ := written.states row held
      have owner : row.providerId = old.providerId := congrArg (·.providerId) same
      exact ⟨old, oldHeld, owner.symm.trans own, _, _, _, same⟩
    · intro old oldHeld
      obtain ⟨row, held, same⟩ := written.kept old oldHeld
      exact ⟨row, held, congrArg (·.providerId) same⟩
  | receipt named governs stored own about target notHalfOpen stop appended formed =>
    exact chain_of_appended chain governs.stored governs.provider
      (entitled.known (signals named)) formed appended
  | target governs wasClosed closed formed about idle appended =>
    exact chain_of_appended chain governs.stored governs.provider (entitled.known (by decide))
      formed appended
  | halfOpen governs wasOpen halfOpen target about idle appended formed =>
    exact chain_of_appended chain governs.stored governs.provider (entitled.known (by decide))
      formed appended
  | @supersede _ _ successor _ _ mid _ governs notHalfOpen sameProvider closed formed about settled
      capacity projectCap policy appended =>
    have chainMid := chain_of_stored chain policy
    exact chain_of_appended chainMid (policy.states ▸ governs.stored)
      (governs.provider.trans sameProvider.symm) policy.known formed appended
  | @genesis _ change now mid tables absent closed formed about policy transitions states
      others =>
    have chainMid := chain_of_stored chain policy
    exact chain_of_genesis chainMid (policy.states ▸ absent) policy.known formed others.1
      transitions states
  | policy policy => exact chain_of_stored chain policy
  | authority => exact chain_of_same chain rfl rfl kept
  | token => exact chain_of_same chain rfl rfl kept

end ProviderAdmissionKernel

namespace AdmissionSystem

open ProviderAdmissionKernel

variable {sha : Sha256} {system : AdmissionSystem} {provider : String}

/-! ## Runs -/

/-- What holds of the receipts of a provider and of its kernels. -/
structure ControlChain (sha : Sha256) (system : AdmissionSystem) (provider : String) : Prop where
  /-- The revisions of its receipts are 1..n. -/
  revisions : system.db.admission.receiptRevisions provider =
    List.range' 1 (system.db.admission.receipts provider).length
  /-- Each receipt names the digest of its predecessor, and the first names the zero digest. -/
  priors : ∀ i row, (system.db.admission.receipts provider)[i]? = some row →
    row.priorControlDigest =
      (((system.db.admission.receipts provider).take i).getLast?.map (·.bodySha256)).getD zeroDigest
  /-- Each receipt's digest is that of its body. -/
  digests : ∀ row ∈ system.db.admission.receipts provider,
    row.bodySha256 = sha.sha256 row.body.toDict
  /-- The control row is the projection of the last receipt's body. -/
  projected : ∀ state ∈ system.db.admission.states.rows, state.providerId = provider →
    ∃ last, (system.db.admission.receipts provider).getLast? = some last ∧
      Projects sha state last.body
  /-- Validation accepts the control row under a stored policy, the one it names. -/
  accepted : ∀ state ∈ system.db.admission.states.rows, state.providerId = provider →
    ∃ policy, PolicyKnown sha system.db.admission policy ∧
      policy.policyDigest sha = state.policyDigest ∧
      validatedControlState sha system.db.admission policy state.deploymentMode
        state.deploymentDigest = .ok state
  /-- A kernel of the policy and deployment in force passes validation. -/
  valid : ∀ kernel ∈ system.kernels, kernel.policy.providerId = provider →
    ∀ state ∈ system.db.admission.states.rows, state.providerId = provider →
      state.policyDigest = kernel.policy.policyDigest sha →
      state.deploymentMode = kernel.deploymentMode →
      state.deploymentDigest = kernel.deploymentDigest sha kernel.policy →
      kernel.validatedState sha system.db.admission = .ok state
  /-- No kernel fails a check of the receipts: what a superseded kernel fails is the check of its
  policy. -/
  receipts : ∀ kernel ∈ system.kernels, kernel.policy.providerId = provider →
    ∀ error, kernel.validatedState sha system.db.admission = .error error →
      error = .providerAdmissionConflict "provider admission control state is invalid"

/-- In every reachable state the receipts of every provider are a chain whose last one its control
row projects, and validation accepts that row. -/
theorem control_chain (sha : Sha256) (actions : List AdmissionAction) (provider : String) :
    ControlChain sha ((machine sha).run .initial actions) provider := by
  obtain ⟨sound, capacity, chain⟩ := reachable
    (fun db => CapacityInvariant db.admission ∧ ProviderChain sha db.admission provider)
    ⟨capacityInvariant_initial, chain_initial⟩
    (fun _ _ _ _ _ entitled held effect => ⟨capacity_effect held.1 entitled effect,
      chain_of_effect effect entitled held.2⟩) actions
  refine ⟨?_, fun i row found => (chain.linked i row found).2, ?_, chain.projected, ?_, ?_, ?_⟩
  · rw [receiptRevisions_eq, chain.linked.revisions]
  · intro row held
    exact congrArg (·.bodySha256) (chain.hashed row held)
  · intro state stored own
    obtain ⟨policy, known, named, digest, formed⟩ := chain.formed state stored own
    exact ⟨policy, known, digest, validatedControlState_eq_ok.mpr
      (validated_of_chain chain stored own named digest.symm formed)⟩
  · intro kernel constructed named state stored own digest mode deployment
    subst named
    obtain ⟨policy, known, _, policyDigest, formed⟩ := chain.formed state stored own
    -- A stored policy is the only one with its digest.
    obtain ⟨row, held, body, _, rowDigest⟩ := known
    have same : policy = kernel.policy := body.symm.trans
      (body_of_policyDigest capacity (sound.known kernel constructed) row held
        (rowDigest.trans (policyDigest.trans digest)))
    subst same
    have valid := validated_of_chain chain stored own rfl digest formed
    rw [mode, deployment] at valid
    exact validatedControlState_eq_ok.mpr valid
  · intro kernel _ named error failed
    subst named
    exact error_of_validatedState chain failed

end AdmissionSystem
end Macr
