import Macr.ProviderAdmission.Capacity
import Macr.ProviderAdmission.Lifecycle

/-!
# Circuit discipline

An open circuit is left through an operator's activation alone, and a half-open one is closed by
the finish of its probe alone. The second rests on an invariant that no function states: while a
circuit is half open its provider has no pending request but the probe. Every effect but an
insertion and an uncertain outcome keeps it; those two are followed in the same transaction by
what restores it.
-/

namespace Macr

open Lib

/-- The circuit of a provider. -/
def AdmissionTables.circuit (tables : AdmissionTables) (providerId : String) :
    Option CircuitState := (tables.states.find? providerId).map (·.circuitState)

/-- The probe a provider's half-open slot is bound to. -/
def AdmissionTables.probe (tables : AdmissionTables) (providerId : String) : Option Digest :=
  (tables.states.find? providerId).bind (·.halfOpenProbeRequestDigest)

namespace ProviderAdmissionKernel

variable {sha : Sha256} {kernel : ProviderAdmissionKernel} {provider other : String}
  {kind : EffectKind} {before after : RuntimeDb}

/-! ## Circuits through effects -/

/-- A governing row is the one its provider's circuit is read from. -/
theorem Governs.find {tables : AdmissionTables} {state : ControlRow}
    (governs : Governs sha kernel tables state) :
    tables.states.find? kernel.policy.providerId = some state :=
  (tables.states.find?_eq_some _ _).mpr ⟨governs.stored, governs.provider⟩

/-- The circuit of a governed provider. -/
theorem Governs.circuit {tables : AdmissionTables} {state : ControlRow}
    (governs : Governs sha kernel tables state) :
    tables.circuit kernel.policy.providerId = some state.circuitState := by
  rw [AdmissionTables.circuit, governs.find, Option.map_some]

/-- The probe of a governed provider. -/
theorem Governs.probe {tables : AdmissionTables} {state : ControlRow}
    (governs : Governs sha kernel tables state) :
    tables.probe kernel.policy.providerId = state.halfOpenProbeRequestDigest := by
  rw [AdmissionTables.probe, governs.find, Option.bind_some]

/-- The circuit and the probe of a provider are as they were. -/
def Steady (provider : String) (before after : AdmissionTables) : Prop :=
  after.circuit provider = before.circuit provider ∧ after.probe provider = before.probe provider

/-- They are read from the control rows alone. -/
theorem steady_of_states {before after : AdmissionTables} (states : after.states = before.states)
    (provider : String) : Steady provider before after := by
  constructor
  · rw [AdmissionTables.circuit, AdmissionTables.circuit, states]
  · rw [AdmissionTables.probe, AdmissionTables.probe, states]

/-- A receipt moves the control row of its provider and no other. -/
theorem Appended.find {tables next : AdmissionTables} {body : ControlBody} {state : ControlRow}
    (appended : Appended sha tables body next) (stored : state ∈ tables.states.rows)
    (named : state.providerId = body.providerId) (provider : String) :
    next.states.find? provider =
      if provider = body.providerId then some (moveProjection sha body state)
      else tables.states.find? provider := by
  rw [appended.states, Table.find?_update]
  by_cases same : provider = body.providerId
  · have found : tables.states.find? provider = some state :=
      (tables.states.find?_eq_some _ _).mpr ⟨stored, named.trans same.symm⟩
    rw [if_pos same, found]
    simp [named]
  · rw [if_neg same]
    cases found : tables.states.find? provider with
    | none => rfl
    | some row =>
      have rowProvider := ((tables.states.find?_eq_some _ _).mp found).2
      have unmoved : row.providerId ≠ body.providerId := rowProvider ▸ same
      simp [unmoved]

/-- The circuit after a receipt is the receipt's. -/
theorem Appended.circuit {tables next : AdmissionTables} {body : ControlBody} {state : ControlRow}
    (appended : Appended sha tables body next) (stored : state ∈ tables.states.rows)
    (named : state.providerId = body.providerId) (provider : String) :
    next.circuit provider =
      if provider = body.providerId then some body.circuitState else tables.circuit provider := by
  rw [AdmissionTables.circuit, appended.find stored named]
  split <;> rfl

/-- The circuit of a receipt's provider is the receipt's. -/
theorem Appended.circuit_self {tables next : AdmissionTables} {body : ControlBody}
    {state : ControlRow} (appended : Appended sha tables body next)
    (stored : state ∈ tables.states.rows) (named : state.providerId = body.providerId) :
    next.circuit body.providerId = some body.circuitState := by
  rw [appended.circuit stored named, if_pos rfl]

/-- A receipt of one provider leaves the others steady. -/
theorem Appended.steady {tables next : AdmissionTables} {body : ControlBody} {state : ControlRow}
    (appended : Appended sha tables body next) (stored : state ∈ tables.states.rows)
    (named : state.providerId = body.providerId) (different : provider ≠ body.providerId) :
    Steady provider tables next := by
  have found := appended.find stored named provider
  rw [if_neg different] at found
  constructor
  · rw [AdmissionTables.circuit, found, AdmissionTables.circuit]
  · rw [AdmissionTables.probe, found, AdmissionTables.probe]

/-- A reservation leaves every circuit and probe. -/
theorem steady_of_reserve (tables : AdmissionTables) (state : ControlRow)
    (request : ProviderAdmissionRequest) (now : Timestamp) (provider : String) :
    Steady provider tables (reserve tables state request now) := by
  have found : (reserve tables state request now).states.find? provider =
      (tables.states.find? provider).map (fun row =>
        if decide (row.providerId = request.providerId) then
          { row with
            grantSequence := state.grantSequence + 1
            lastGrantedLane := some request.lane
            updatedAt := now }
        else row) :=
    Table.find?_update tables.states _ _ (by intro _; rfl) provider
  constructor
  · rw [AdmissionTables.circuit, found, AdmissionTables.circuit]
    cases tables.states.find? provider with
    | none => rfl
    | some row =>
      simp only [Option.map_some]
      split <;> rfl
  · rw [AdmissionTables.probe, found, AdmissionTables.probe]
    cases tables.states.find? provider with
    | none => rfl
    | some row =>
      simp only [Option.map_some, Option.bind_some]
      split <;> rfl

/-- The kinds of effect that append a receipt. -/
def EffectKind.isControl (kind : EffectKind) : Bool :=
  kind = .signal || kind = .terminal || kind = .target || kind = .halfOpen ||
    kind = .supersede || kind = .genesis

/-- A move appends no receipt. -/
theorem plain_of_moves {first last : RequestState} (edge : Moves kind first last) :
    kind.isControl = false := by
  cases edge <;> rfl

/-- An effect that appends no receipt leaves every circuit and probe, and one that does leaves
those of the other providers. -/
theorem steady_of_effect (effect : Effect sha kernel provider kind before after)
    (apart : kind.isControl = false ∨ other ≠ kernel.policy.providerId) :
    Steady other before.admission after.admission := by
  have quiet : kind.isControl = true → other ≠ kernel.policy.providerId := by
    intro control
    rcases apart with plain | different
    · rw [control] at plain
      exact absurd plain (by decide)
    · exact different
  cases effect with
  | move => exact steady_of_states rfl other
  | release stored own edge token decremented =>
    have states := (AdmissionTables.decrementProject_eq_ok decremented).1.2.1
    exact steady_of_states states other
  | enqueue own ownPolicy governs circuit probe inserted =>
    simp only [insertRequest, bind_eq_ok, require_eq_ok, pure_eq_ok] at inserted
    obtain ⟨_, _, _, _, rfl⟩ := inserted
    exact steady_of_states rfl other
  | grant => exact steady_of_reserve _ _ _ _ other
  | receipt named governs stored own about target notHalfOpen stop appended =>
    have different := quiet (by rcases named with rfl | rfl <;> rfl)
    exact appended.steady governs.stored governs.provider different
  | target governs wasClosed closed formed about idle appended =>
    exact appended.steady governs.stored governs.provider (quiet rfl)
  | halfOpen governs wasOpen halfOpen target about idle appended =>
    exact appended.steady governs.stored governs.provider (quiet rfl)
  | supersede governs notHalfOpen sameProvider closed formed about settled capacity projectCap
      policy appended =>
    have different := quiet rfl
    rw [← sameProvider] at different
    have moved := appended.steady (policy.states ▸ governs.stored)
      (governs.provider.trans sameProvider.symm) different
    have kept := steady_of_states policy.states other
    exact ⟨moved.1.trans kept.1, moved.2.trans kept.2⟩
  | @genesis _ change now mid tables absent closed formed about policy transitions states
      others =>
    have different : other ≠ kernel.policy.providerId := quiet rfl
    have found : tables.states.find? other = mid.states.find? other := by
      have first : (kernel.firstProjection sha
          (kernel.nextBody sha none change now kernel.policy)).providerId ≠ other :=
        fun same => different same.symm
      simp [Table.find?, states, List.find?_append, first]
    have moved : Steady other mid tables := by
      constructor
      · rw [AdmissionTables.circuit, found, AdmissionTables.circuit]
      · rw [AdmissionTables.probe, found, AdmissionTables.probe]
    have kept := steady_of_states policy.states other
    exact ⟨moved.1.trans kept.1, moved.2.trans kept.2⟩
  | policy policy => exact steady_of_states policy.states other
  | authority => exact steady_of_states rfl other
  | token => exact steady_of_states rfl other

/-- The circuit an effect that appends a receipt leaves its provider in, by its kind and the
circuit it met. -/
inductive Moved : EffectKind → Option CircuitState → CircuitState → Prop where
  /-- A signal keeps or makes no half-open circuit, and stops one that is not closed. -/
  | signal {met next : CircuitState} (notHalfOpen : next ≠ .halfOpen)
      (stop : met ≠ .closed → next = .open) : Moved .signal (some met) next
  /-- A terminal keeps or makes no half-open circuit, and leaves an open one open. -/
  | terminal {met next : CircuitState} (notHalfOpen : next ≠ .halfOpen)
      (stop : met = .open → next = .open) : Moved .terminal (some met) next
  /-- A target is activated in a closed circuit. -/
  | target : Moved .target (some .closed) .closed
  /-- An open circuit is half opened. -/
  | halfOpen : Moved .halfOpen (some .open) .halfOpen
  /-- A policy transition closes a circuit that is not half open. -/
  | supersede {met : CircuitState} (notHalfOpen : met ≠ .halfOpen) :
      Moved .supersede (some met) .closed
  /-- A new circuit is closed. -/
  | genesis : Moved .genesis none .closed

/-- Only an activation half opens a circuit. -/
theorem Moved.activated {met : Option CircuitState} (edge : Moved kind met .halfOpen) :
    kind = .halfOpen := by
  cases edge with
  | signal notHalfOpen => exact absurd rfl notHalfOpen
  | terminal notHalfOpen => exact absurd rfl notHalfOpen
  | halfOpen => rfl

/-- An effect that appends a receipt moves its provider's circuit by its kind. -/
theorem moved_of_effect (effect : Effect sha kernel provider kind before after)
    (control : kind.isControl = true) :
    ∃ next, after.admission.circuit kernel.policy.providerId = some next ∧
      Moved kind (before.admission.circuit kernel.policy.providerId) next := by
  cases effect with
  | move stored own edge =>
    rw [plain_of_moves edge] at control
    exact absurd control (by decide)
  | release | enqueue | grant | policy | authority | token => exact absurd control (by decide)
  | @receipt _ _ state change now tables row named governs stored own about target notHalfOpen stop
      appended =>
    refine ⟨_, appended.circuit_self governs.stored governs.provider, ?_⟩
    rw [governs.circuit]
    rcases named with rfl | rfl
    · refine Moved.signal notHalfOpen fun notClosed => stop ?_
      cases met : state.circuitState with
      | «open» => exact Or.inl rfl
      | halfOpen => exact Or.inr ⟨rfl, rfl⟩
      | closed => exact absurd met notClosed
    · exact Moved.terminal notHalfOpen fun isOpen => stop (Or.inl isOpen)
  | target governs wasClosed closed formed about idle appended =>
    refine ⟨_, appended.circuit_self governs.stored governs.provider, ?_⟩
    rw [governs.circuit, wasClosed]
    simp only [nextBody, closed]
    exact Moved.target
  | halfOpen governs wasOpen halfOpen target about idle appended =>
    refine ⟨_, appended.circuit_self governs.stored governs.provider, ?_⟩
    rw [governs.circuit, wasOpen]
    simp only [nextBody, halfOpen]
    exact Moved.halfOpen
  | @supersede _ state successor change now mid tables governs notHalfOpen sameProvider closed
      formed about settled capacity projectCap policy appended =>
    have moved : tables.circuit successor.providerId = _ :=
      appended.circuit_self (policy.states ▸ governs.stored)
        (governs.provider.trans sameProvider.symm)
    rw [sameProvider] at moved
    refine ⟨_, moved, ?_⟩
    rw [governs.circuit]
    simp only [nextBody, closed]
    exact Moved.supersede notHalfOpen
  | @genesis _ change now mid tables absent closed formed about policy transitions states
      others =>
    have first : tables.states.find? kernel.policy.providerId = some (kernel.firstProjection sha
        (kernel.nextBody sha none change now kernel.policy)) := by
      refine (tables.states.find?_eq_some _ _).mpr ⟨?_, rfl⟩
      rw [states]
      exact List.mem_append_right _ (List.mem_singleton.mpr rfl)
    have unknown : before.admission.circuit kernel.policy.providerId = none := by
      rw [AdmissionTables.circuit, (before.admission.states.find?_eq_none _).mpr absent]
      rfl
    refine ⟨.closed, ?_, ?_⟩
    · rw [AdmissionTables.circuit, first, Option.map_some]
      simp only [firstProjection, nextBody, closed]
    · rw [unknown]
      exact Moved.genesis

/-- An effect leaves a provider's circuit, or is a receipt of that provider. -/
theorem circuit_of_effect (effect : Effect sha kernel provider kind before after)
    (other : String) :
    after.admission.circuit other = before.admission.circuit other ∨
      (other = kernel.policy.providerId ∧ ∃ next,
        after.admission.circuit other = some next ∧
          Moved kind (before.admission.circuit other) next) := by
  by_cases control : kind.isControl = true
  · by_cases same : other = kernel.policy.providerId
    · subst same
      exact Or.inr ⟨rfl, moved_of_effect effect control⟩
    · exact Or.inl (steady_of_effect effect (Or.inr same)).1
  · exact Or.inl (steady_of_effect effect (Or.inl (Bool.not_eq_true _ ▸ control))).1

/-- An open circuit stays open but for a half-open activation and a policy transition. -/
theorem open_kept (effect : Effect sha kernel provider kind before after)
    (notHalfOpen : kind ≠ .halfOpen) (notSupersede : kind ≠ .supersede)
    (isOpen : before.admission.circuit other = some .open) :
    after.admission.circuit other = some .open := by
  rcases circuit_of_effect effect other with same | ⟨_, next, moved, edge⟩
  · exact same.trans isOpen
  · rw [isOpen] at edge
    rw [moved]
    cases edge with
    | signal _ stop => rw [stop (by decide)]
    | terminal _ stop => rw [stop rfl]
    | halfOpen => exact absurd rfl notHalfOpen
    | supersede => exact absurd rfl notSupersede

/-- A half-open circuit is left for an open one, but for a terminal. -/
theorem halfOpen_left (effect : Effect sha kernel provider kind before after)
    (notTerminal : kind ≠ .terminal)
    (halfOpen : before.admission.circuit other = some .halfOpen) :
    after.admission.circuit other = some .halfOpen ∨
      after.admission.circuit other = some .open := by
  rcases circuit_of_effect effect other with same | ⟨_, next, moved, edge⟩
  · exact Or.inl (same.trans halfOpen)
  · rw [halfOpen] at edge
    rw [moved]
    cases edge with
    | signal _ stop => exact Or.inr (by rw [stop (by decide)])
    | terminal => exact absurd rfl notTerminal
    | supersede notHalfOpen => exact absurd rfl notHalfOpen

/-- Only an activation makes a circuit half open. -/
theorem halfOpen_entered (effect : Effect sha kernel provider kind before after)
    (notActivation : kind ≠ .halfOpen)
    (halfOpen : after.admission.circuit other = some .halfOpen) :
    before.admission.circuit other = some .halfOpen := by
  rcases circuit_of_effect effect other with same | ⟨_, next, moved, edge⟩
  · exact same ▸ halfOpen
  · rw [halfOpen, Option.some.injEq] at moved
    subst moved
    exact absurd edge.activated notActivation

/-- Without an activation a circuit is half open after some effects only if it was before. -/
theorem halfOpen_entered_of_effects {kinds : List EffectKind}
    (effects : Effects sha kernel provider kinds before after) (notActivation : .halfOpen ∉ kinds)
    (halfOpen : after.admission.circuit other = some .halfOpen) :
    before.admission.circuit other = some .halfOpen := by
  by_contra notBefore
  have never := effects.invariant
    (fun db => db.admission.circuit other ≠ some .halfOpen)
    (fun kind listed before after held effect entered => held
      (halfOpen_entered effect (fun same => notActivation (same ▸ listed)) entered)) notBefore
  exact never halfOpen

/-! ## The probe of a half-open circuit -/

/-- The request is the one a provider's half-open slot is bound to. -/
def IsProbe (sha : Sha256) (tables : AdmissionTables) (row : RequestRow) : Prop :=
  ∃ request : ProviderAdmissionRequest, request.requestId = row.requestId ∧
    rowMatchesRequest row request row.policyDigest = true ∧
    tables.probe row.providerId = some (request.bindingDigest sha)

/-- A provider's only pending request is its probe, which is granted or dispatched. -/
def OnlyProbe (sha : Sha256) (tables : AdmissionTables) (provider : String) : Prop :=
  ∀ row ∈ tables.requests.rows, row.providerId = provider →
    row.state ≠ .waiting ∧ row.state ≠ .reconciliationRequired ∧
      (row.state = .granted ∨ row.state = .dispatched → IsProbe sha tables row)

/-- Where a circuit is half open, its provider's only pending request is the probe. -/
def ProbeInvariant (sha : Sha256) (tables : AdmissionTables) : Prop :=
  ∀ provider, tables.circuit provider = some .halfOpen → OnlyProbe sha tables provider

/-- Steady providers keep their probes. -/
theorem isProbe_of_steady {tables next : AdmissionTables} {row updated : RequestRow}
    (identity : updated.toRequestIdentity = row.toRequestIdentity)
    (steady : Steady row.providerId tables next) (probe : IsProbe sha tables row) :
    IsProbe sha next updated := by
  obtain ⟨request, named, matching, bound⟩ := probe
  have provider : updated.providerId = row.providerId := congrArg (·.providerId) identity
  refine ⟨request, ?_, ?_, ?_⟩
  · rw [named, identity]
  · simpa only [rowMatchesRequest, identity] using matching
  · rw [provider, steady.2]
    exact bound

/-- Rewriting a request keeps a provider's only probe where it makes none waiting or uncertain,
and grants or dispatches a probe. -/
theorem onlyProbe_rewrite {tables mid : AdmissionTables} {row : RequestRow}
    {progress : RequestProgress} (only : OnlyProbe sha tables other)
    (stored : row ∈ tables.requests.rows) (requests : mid.requests = tables.requests)
    (steady : Steady other tables mid)
    (rewritten : row.providerId = other → progress.state ≠ .waiting ∧
      progress.state ≠ .reconciliationRequired ∧
      (progress.state = .granted ∨ progress.state = .dispatched → IsProbe sha tables row)) :
    OnlyProbe sha (mid.rewriteRequest row progress) other := by
  have steadyAfter : Steady other tables (mid.rewriteRequest row progress) := steady
  intro next member own
  rcases (mid.mem_rewriteRequest (requests ▸ stored) progress next).mp member with ⟨held, _⟩ | rfl
  · obtain ⟨notWaiting, certain, pending⟩ := only next (requests ▸ held) own
    exact ⟨notWaiting, certain, fun active =>
      isProbe_of_steady rfl (own ▸ steadyAfter) (pending active)⟩
  · obtain ⟨notWaiting, certain, pending⟩ := rewritten own
    have steadyRow : Steady row.providerId tables (mid.rewriteRequest row progress) :=
      own ▸ steadyAfter
    exact ⟨notWaiting, certain, fun active => isProbe_of_steady rfl steadyRow (pending active)⟩

/-- A provider's only probe is kept where its requests and control row are. -/
theorem onlyProbe_of_requests {tables next : AdmissionTables} (only : OnlyProbe sha tables other)
    (requests : next.requests = tables.requests) (steady : Steady other tables next) :
    OnlyProbe sha next other := by
  intro row member own
  rw [requests] at member
  obtain ⟨notWaiting, certain, pending⟩ := only row member own
  exact ⟨notWaiting, certain, fun active =>
    isProbe_of_steady rfl (own ▸ steady) (pending active)⟩

/-- Every effect keeps a half-open provider's only probe, but for an insertion and an uncertain
outcome among its own requests. -/
theorem onlyProbe_of_effect (effect : Effect sha kernel provider kind before after)
    (apart : kind = .enqueue ∨ kind = .uncertain → provider ≠ other)
    (held : before.admission.circuit other = some .halfOpen →
      OnlyProbe sha before.admission other)
    (halfOpen : after.admission.circuit other = some .halfOpen) :
    OnlyProbe sha after.admission other := by
  by_cases activated : kind = .halfOpen ∧ other = kernel.policy.providerId
  · -- An activation finds its provider idle.
    obtain ⟨rfl, rfl⟩ := activated
    cases effect with
    | move stored own edge => cases edge
    | receipt named => simp at named
    | halfOpen governs wasOpen halfOpen target about idle appended =>
      intro row member own
      rw [appended.requests] at member
      have still := idle row member own
      cases inState : row.state <;> simp_all [activeOrWaiting, RequestState.holdsCapacity]
  · have quiet : kind.isControl = false ∨ other ≠ kernel.policy.providerId := by
      by_contra loud
      rw [not_or, Bool.not_eq_false, not_not] at loud
      obtain ⟨next, moved, edge⟩ := moved_of_effect effect loud.1
      rw [← loud.2, halfOpen, Option.some.injEq] at moved
      subst moved
      exact activated ⟨edge.activated, loud.2⟩
    have steady := steady_of_effect effect quiet
    have only := held (steady.1 ▸ halfOpen)
    cases effect with
    | @move kind _ row progress stored own edge token =>
      refine onlyProbe_rewrite only stored rfl steady fun rowOwn => ?_
      obtain ⟨_, _, pending⟩ := only row stored rowOwn
      generalize progress.state = next at edge ⊢
      generalize inState : row.state = first at edge pending
      cases edge with
      | withdraw => exact ⟨by decide, by decide, by simp⟩
      | dispatch => exact ⟨by decide, by decide, fun _ => pending (Or.inl rfl)⟩
      | uncertain => exact absurd (own.symm.trans rowOwn) (apart (Or.inr rfl))
    | @release _ row progress tables now stored own edge token decremented =>
      have frame := (AdmissionTables.decrementProject_eq_ok decremented).1
      refine onlyProbe_rewrite only stored frame.2.2.2 steady fun _ => ?_
      generalize progress.state = next at edge ⊢
      generalize row.state = first at edge
      cases edge <;> exact ⟨by decide, by decide, by simp⟩
    | enqueue own ownPolicy governs circuit probe inserted =>
      have different := apart (Or.inl rfl)
      simp only [insertRequest, bind_eq_ok, raiseIf_eq_ok, exists_const, require_eq_ok,
        Table.insert?_eq_some, pure_eq_ok] at inserted
      obtain ⟨_, requests, ⟨fresh, rfl⟩, rfl⟩ := inserted
      intro row member rowOwn
      rw [Table.insert_rows, List.mem_append, List.mem_singleton] at member
      rcases member with old | rfl
      · obtain ⟨notWaiting, certain, pending⟩ := only row old rowOwn
        exact ⟨notWaiting, certain, fun active =>
          isProbe_of_steady rfl (rowOwn ▸ steady) (pending active)⟩
      · exact absurd (own.symm.trans rowOwn) different
    | @grant _ state row request now own ownPolicy governs circuit probe stored named waiting
        matching capacity projectCap =>
      have reserved := reserved before.admission state request now
      rw [grant_admission stored named waiting]
      refine onlyProbe_rewrite only stored reserved.requests
        (steady_of_reserve before.admission state request now other) fun rowOwn => ?_
      exact absurd waiting (only row stored rowOwn).1
    | receipt named governs stored own about target notHalfOpen stop appended =>
      exact onlyProbe_of_requests only appended.requests steady
    | target governs wasClosed closed formed about idle appended =>
      exact onlyProbe_of_requests only appended.requests steady
    | halfOpen governs wasOpen halfOpen target about idle appended =>
      exact onlyProbe_of_requests only appended.requests steady
    | supersede governs notHalfOpen sameProvider closed formed about settled capacity projectCap
        policy appended =>
      exact onlyProbe_of_requests only (appended.requests.trans policy.requests) steady
    | genesis absent closed formed about policy transitions states others =>
      exact onlyProbe_of_requests only (others.2.2.trans policy.requests) steady
    | policy policy => exact onlyProbe_of_requests only policy.requests steady
    | authority => exact onlyProbe_of_requests only rfl steady
    | token => exact onlyProbe_of_requests only rfl steady

/-- Effects that insert nothing and leave no outcome uncertain keep the invariant. -/
theorem probeInvariant_of_effects {kinds : List EffectKind}
    (effects : Effects sha kernel provider kinds before after)
    (settled : .enqueue ∉ kinds ∧ .uncertain ∉ kinds)
    (inv : ProbeInvariant sha before.admission) : ProbeInvariant sha after.admission := by
  refine effects.invariant (fun db => ProbeInvariant sha db.admission) ?_ inv
  intro kind listed before after held effect other halfOpen
  refine onlyProbe_of_effect effect ?_ (held other) halfOpen
  rintro (rfl | rfl)
  · exact absurd listed settled.1
  · exact absurd listed settled.2

/-- Effects on one provider's requests keep the only probe of another. -/
theorem onlyProbe_of_other {kinds : List EffectKind}
    (effects : Effects sha kernel provider kinds before after) (different : provider ≠ other)
    (held : before.admission.circuit other = some .halfOpen →
      OnlyProbe sha before.admission other) :
    after.admission.circuit other = some .halfOpen → OnlyProbe sha after.admission other :=
  effects.invariant (fun db => db.admission.circuit other = some .halfOpen →
    OnlyProbe sha db.admission other)
    (fun _ _ _ _ held effect => onlyProbe_of_effect effect (fun _ => different) held) held

/-- The circuit an expired dispatch leaves is not half open. -/
theorem stopped_of_expired {tables : AdmissionTables} {state row : ControlRow}
    (stored : row ∈ tables.states.rows) (own : row.providerId = kernel.policy.providerId)
    (circuit : row.circuitState =
      if expiryIsolated kernel.policy state then .closed else .open) :
    tables.circuit kernel.policy.providerId =
      some (if expiryIsolated kernel.policy state then .closed else .open) := by
  have found : tables.states.find? kernel.policy.providerId = some row :=
    (tables.states.find?_eq_some _ _).mpr ⟨stored, own⟩
  rw [AdmissionTables.circuit, found, Option.map_some, circuit]

/-- Expiry keeps the invariant: a dispatch that expires stops the circuit. -/
theorem probeInvariant_expired {now : Timestamp} {state : ControlRow}
    (expired : Expired sha kernel before now state after)
    (inv : ProbeInvariant sha before.admission) : ProbeInvariant sha after.admission := by
  rcases expired.outcome with certain | ⟨row, stored, own, circuit⟩
  · exact probeInvariant_of_effects certain (by decide) inv
  · intro other halfOpen
    by_cases same : kernel.policy.providerId = other
    · subst same
      rw [stopped_of_expired stored own circuit] at halfOpen
      split at halfOpen <;> exact absurd halfOpen (by decide)
    · exact onlyProbe_of_other expired.effects same (inv other) halfOpen

/-- The digest of a request names one identifier. -/
def DigestNamesRequest (sha : Sha256) : Prop :=
  ∀ left right : ProviderAdmissionRequest,
    left.bindingDigest sha = right.bindingDigest sha → left.requestId = right.requestId

/-- Two probes of a provider are one request. -/
theorem isProbe_unique (distinct : DigestNamesRequest sha) {tables : AdmissionTables}
    {row : RequestRow} {request : ProviderAdmissionRequest} (probe : IsProbe sha tables row)
    (bound : tables.probe row.providerId = some (request.bindingDigest sha)) :
    row.requestId = request.requestId := by
  obtain ⟨own, named, _, ownBound⟩ := probe
  rw [bound, Option.some.injEq] at ownBound
  exact named ▸ (distinct _ _ ownBound).symm

/-- A provider with only its probe pending, and that not stored, has nothing pending. -/
theorem nothing_pending (distinct : DigestNamesRequest sha) {tables : AdmissionTables}
    {request : ProviderAdmissionRequest} (only : OnlyProbe sha tables provider)
    (bound : tables.probe provider = some (request.bindingDigest sha))
    (absent : ∀ row ∈ tables.requests.rows, row.requestId ≠ request.requestId) :
    ∀ row ∈ tables.requests.rows, row.providerId = provider →
      activeOrWaiting row.state = false := by
  intro row stored own
  obtain ⟨notWaiting, certain, pending⟩ := only row stored own
  have notProbe : ¬IsProbe sha tables row := fun probe =>
    absent row stored (isProbe_unique distinct probe (own ▸ bound))
  have inactive : ¬(row.state = .granted ∨ row.state = .dispatched) :=
    fun active => notProbe (pending active)
  cases inState : row.state <;> simp_all [activeOrWaiting, RequestState.holdsCapacity]

/-- A considered probe of an idle provider is selected. -/
theorem selected_of_idle {tables : AdmissionTables} {state : ControlRow} {row : RequestRow}
    (stored : row ∈ tables.requests.rows) (own : row.providerId = kernel.policy.providerId)
    (waiting : row.state = .waiting)
    (idle : tables.activeUnits kernel.policy.providerId = 0)
    (alone : ∀ other ∈ tables.requests.rows, other.providerId = kernel.policy.providerId →
      other.state = .waiting → other = row) :
    kernel.selectedWaiting tables state = some row := by
  have free : tables.projectActive row.providerId row.projectBindingDigest = 0 := by
    have below := projectActive_le_activeUnits tables row.providerId row.projectBindingDigest
    rw [own, idle] at below
    rw [own]
    omega
  have cap := kernel.policy.perProjectCap_bounded
  have member : row ∈ kernel.eligible tables := by
    refine List.mem_filter.mpr ⟨stored, ?_⟩
    simp only [decide_eq_true_eq]
    exact ⟨own, waiting, by omega⟩
  obtain ⟨best, served⟩ := firstServed_isSome tables
    (laneRows_nonempty state.lastGrantedLane (List.ne_nil_of_mem member))
  have selected : kernel.selectedWaiting tables state = some best := served
  obtain ⟨bestStored, bestOwn, bestWaiting, _⟩ := selectedWaiting_eq_some selected
  rw [selected, alone best bestStored bestOwn bestWaiting]

/-- The probe that is inserted under a half-open circuit is granted at once. -/
theorem onlyProbe_inserted (distinct : DigestNamesRequest sha)
    {request : ProviderAdmissionRequest} {ttlSeconds : Nat} {now : Timestamp}
    {mid ready : RuntimeDb} {state : ControlRow} {row : RequestRow}
    (own : request.providerId = kernel.policy.providerId)
    (considered : Considered sha kernel request ttlSeconds now mid ready state row)
    (inserted : insertRequest mid.admission (kernel.waitingRow sha request ttlSeconds now) =
      .ok ready.admission)
    (enqueued : Effect sha kernel kernel.policy.providerId .enqueue mid ready)
    (decided : GrantedOrPassed sha kernel request now ready after state)
    (halfOpen : mid.admission.circuit kernel.policy.providerId = some .halfOpen)
    (only : OnlyProbe sha mid.admission kernel.policy.providerId) :
    OnlyProbe sha after.admission kernel.policy.providerId := by
  have governs := considered.governs
  have stateHalfOpen : state.circuitState = .halfOpen := by
    rw [governs.circuit, Option.some.injEq] at halfOpen
    exact halfOpen
  have bound := (considered.probe stateHalfOpen).symm
  rw [← governs.probe] at bound
  obtain ⟨rows, absent⟩ := insertRequest_rows inserted
  have idle := nothing_pending distinct only bound absent
  have rowIs : row = kernel.waitingRow sha request ttlSeconds now := by
    have stored := considered.stored
    rw [rows, List.mem_append, List.mem_singleton] at stored
    rcases stored with old | same
    · exact absurd considered.named (absent row old)
    · exact same
  have alone : ∀ other ∈ ready.admission.requests.rows,
      other.providerId = kernel.policy.providerId → other ≠ row →
        activeOrWaiting other.state = false := by
    intro other member otherOwn different
    rw [rows, List.mem_append, List.mem_singleton] at member
    rcases member with old | same
    · exact idle other old otherOwn
    · exact absurd (same.trans rowIs.symm) different
  have rowOwn : row.providerId = kernel.policy.providerId := by rw [rowIs]; exact own
  rcases decided with ⟨rfl, passed⟩ | ⟨rfl, granted⟩
  · -- An idle provider's probe is not passed over.
    exfalso
    have units : after.admission.activeUnits kernel.policy.providerId = 0 := by
      apply List.countP_eq_zero.mpr
      intro other member counted
      simp only [decide_eq_true_eq] at counted
      by_cases same : other = row
      · have waiting := considered.waiting
        rw [← same] at waiting
        rw [waiting] at counted
        exact absurd counted.2 (by decide)
      · have still := alone other member counted.1 same
        simp [activeOrWaiting, counted.2] at still
    rcases passed with busy | another
    · rw [own, units, effectiveCapacity, if_pos stateHalfOpen] at busy
      omega
    · rw [selected_of_idle considered.stored rowOwn considered.waiting units ?_] at another
      · exact another (by rw [Option.map_some, considered.named])
      · intro other member otherOwn waiting
        by_contra different
        have still := alone other member otherOwn different
        simp [activeOrWaiting, waiting] at still
  · have steadyReady : Steady kernel.policy.providerId mid.admission ready.admission :=
      steady_of_effect enqueued (Or.inl rfl)
    have steadyAfter : Steady kernel.policy.providerId ready.admission
        (grant ready state request now).admission := steady_of_effect granted (Or.inl rfl)
    rw [grant_admission considered.stored considered.named considered.waiting] at steadyAfter ⊢
    intro next member nextOwn
    have held : row ∈ (reserve ready.admission state request now).requests.rows :=
      considered.stored
    rcases (AdmissionTables.mem_rewriteRequest _ held _ next).mp member with
      ⟨old, different⟩ | rfl
    · have still := alone next old nextOwn
        (fun same => different (congrArg (fun row : RequestRow => row.requestId) same))
      cases inState : next.state <;>
        simp_all [activeOrWaiting, RequestState.holdsCapacity]
    · refine ⟨by simp [RequestProgress.granted], by simp [RequestProgress.granted], fun _ => ?_⟩
      have matching := considered.matching
      have columns := matching
      simp only [rowMatchesRequest, decide_eq_true_eq] at columns
      refine ⟨request, considered.named.symm, ?_, ?_⟩
      · rw [← columns.2.2.2.2.2.2.2.2.2] at matching
        exact matching
      · have rowBound : mid.admission.probe row.providerId = some (request.bindingDigest sha) :=
          rowOwn ▸ bound
        rw [← rowBound]
        exact rowOwn ▸ steadyAfter.2.trans steadyReady.2

/-- An admission keeps the invariant. -/
theorem probeInvariant_considered (distinct : DigestNamesRequest sha)
    {request : ProviderAdmissionRequest} {ttlSeconds : Nat} {now : Timestamp}
    {mid ready : RuntimeDb} {state : ControlRow} {row : RequestRow}
    (own : request.providerId = kernel.policy.providerId)
    (considered : Considered sha kernel request ttlSeconds now mid ready state row)
    (decided : GrantedOrPassed sha kernel request now ready after state)
    (inv : ProbeInvariant sha mid.admission) : ProbeInvariant sha after.admission := by
  have effects := considered.effects decided
  intro other halfOpen
  by_cases same : kernel.policy.providerId = other
  · subst same
    have halfOpenMid := halfOpen_entered_of_effects effects (by decide) halfOpen
    have only := inv _ halfOpenMid
    rcases considered.inserted with rfl | ⟨inserted, enqueued⟩
    · -- No request waits under a half-open circuit.
      have columns := considered.matching
      simp only [rowMatchesRequest, decide_eq_true_eq] at columns
      exact absurd considered.waiting (only row considered.stored (columns.1.trans own)).1
    · exact onlyProbe_inserted distinct own considered inserted enqueued decided halfOpenMid only
  · exact onlyProbe_of_other effects same (inv other) halfOpen

/-! ## Calls -/

/-- A call of a kernel on its own provider's permits and requests keeps the invariant. -/
theorem probeInvariant_transact (distinct : DigestNamesRequest sha) {db : RuntimeDb}
    {clocks : ClockReadings} {call : KernelCall} {result : Committed RuntimeDb CallResult}
    (prepared : Prepared sha kernel call) (own : OwnArguments kernel db.admission call)
    (done : kernel.transact sha db clocks call = .ok result)
    (inv : ProbeInvariant sha db.admission) : ProbeInvariant sha result.1.admission := by
  by_cases settled : .enqueue ∉ call.kinds ∧ .uncertain ∉ call.kinds
  · obtain ⟨provider, _, mid, first, second⟩ := transact_effects prepared done
    exact probeInvariant_of_effects second settled (probeInvariant_of_effects first settled inv)
  · cases call with
    | tryAdmit request ttlSeconds =>
      obtain ⟨inner, committed, rfl⟩ := except_map_eq_ok.mp done
      obtain ⟨before, mid, expired, outcome⟩ := tryAdmit_eq_ok prepared committed
      have invMid := probeInvariant_expired expired inv
      rcases outcome with unchanged | ⟨ready, state, row, considered, decided⟩
      · simp only [reported, unchanged]
        exact invMid
      · exact probeInvariant_considered distinct prepared considered decided invMid
    | beginTransport permit request =>
      obtain ⟨inner, committed, rfl⟩ := except_map_eq_ok.mp done
      obtain ⟨before, mid, state, row, expired, _, _, stored, _, _, outcome⟩ :=
        beginTransport_eq_ok committed
      have invMid := probeInvariant_expired expired inv
      rcases outcome with ⟨error, rfl⟩ | ⟨_, ⟨_, released⟩ | ⟨_, started, conditions⟩⟩
      · exact invMid
      · exact probeInvariant_of_effects released (by decide) invMid
      · have dispatched : Effects sha kernel row.providerId [.dispatch] mid inner.1 :=
          started ▸ Effects.single (List.mem_singleton.mpr rfl)
            (dispatch_effect clocks.kernel stored conditions.granted)
        exact probeInvariant_of_effects dispatched (by decide) invMid
    | finish permit report =>
      obtain ⟨inner, committed, rfl⟩ := except_map_eq_ok.mp done
      obtain ⟨state, row, mid, governs, stored, _, matching, _, first, states, terminal,
        appended⟩ := finish_eq_ok committed
      simp only [permitMatchesRow, decide_eq_true_eq] at matching
      have rowOwn : row.providerId = kernel.policy.providerId := matching.1.trans own
      intro other halfOpen
      by_cases same : kernel.policy.providerId = other
      · -- A terminal leaves no half-open circuit.
        subst same
        have moved : inner.1.admission.circuit kernel.policy.providerId = some _ :=
          appended.circuit_self (states ▸ governs.stored) governs.provider
        have reached := moved.symm.trans halfOpen
        rw [Option.some.injEq] at reached
        exact absurd reached (nextCircuit_spec report kernel.policy state.circuitState).1
      · rw [rowOwn] at first terminal
        have afterFirst := onlyProbe_of_effect first (fun _ => same) (inv other)
        exact onlyProbe_of_effect terminal (fun _ => same) afterFirst halfOpen
    | cancelBeforeTransport | cancelWaiting | resolveReconciliation | activateTarget
      | activateHalfOpen | supersedePolicy => exact absurd (by simp [KernelCall.kinds]) settled

/-- A call other than the activations leaves an open circuit open. -/
theorem open_of_transact {db : RuntimeDb} {clocks : ClockReadings} {call : KernelCall}
    {result : Committed RuntimeDb CallResult} (prepared : Prepared sha kernel call)
    (done : kernel.transact sha db clocks call = .ok result)
    (notActivation : .halfOpen ∉ call.kinds ∧ .supersede ∉ call.kinds)
    (isOpen : db.admission.circuit other = some .open) :
    result.1.admission.circuit other = some .open := by
  obtain ⟨provider, _, mid, first, second⟩ := transact_effects prepared done
  have kept : ∀ provider, ∀ kind ∈ call.kinds, ∀ before after : RuntimeDb,
      before.admission.circuit other = some .open → Effect sha kernel provider kind before after →
      after.admission.circuit other = some .open :=
    fun provider kind listed before after held effect => open_kept effect
      (fun same => notActivation.1 (same ▸ listed))
      (fun same => notActivation.2 (same ▸ listed)) held
  exact second.invariant _ (kept provider) (first.invariant _ (kept _) isOpen)

/-- The terminal that closes a half-open circuit is known, and its response shows no pressure. -/
theorem nextCircuit_closed {report : TransportReport} {policy : ProviderAdmissionPolicy}
    (closed : report.nextCircuit policy .halfOpen = .closed) :
    report.terminalPersisted = true ∧ report.networkAttempted = some true ∧
      report.responseReceived = some true ∧ report.providerPressure = false := by
  unfold TransportReport.nextCircuit at closed
  split at closed
  · simp [TransportReport.ambiguousCircuit, TransportReport.isolatedUncertainty] at closed
  · rename_i known
    simp only [TransportReport.knownCircuit] at closed
    split at closed
    · rename_i answered
      simp only [TransportReport.ambiguous, answered.2.1, answered.2.2] at known
      refine ⟨by simpa using known, answered.2.1, answered.2.2, by simpa using answered.1⟩
    · exact absurd closed (by decide)

/-- A terminal that is ambiguous or shows pressure stops the circuit, unless it is isolated. -/
theorem nextCircuit_open {report : TransportReport} {policy : ProviderAdmissionPolicy}
    {circuit : CircuitState} (bad : report.ambiguous = true ∨ report.providerPressure = true)
    (notIsolated : report.isolatedUncertainty policy circuit = false) :
    report.nextCircuit policy circuit = .open := by
  unfold TransportReport.nextCircuit
  split
  · simp [TransportReport.ambiguousCircuit, notIsolated]
  · rename_i known
    have pressure := bad.resolve_left known
    cases circuit <;> simp [TransportReport.knownCircuit, pressure]

/-- Effects that leave no outcome of a provider's requests uncertain make none uncertain. -/
theorem uncertain_of_effects {kinds : List EffectKind}
    (effects : Effects sha kernel provider kinds before after)
    (certain : .uncertain ∉ kinds ∨ provider ≠ other) :
    ∀ row ∈ after.admission.requests.rows, row.providerId = other →
      row.state = .reconciliationRequired → row ∈ before.admission.requests.rows := by
  refine effects.invariant (fun db => ∀ row ∈ db.admission.requests.rows,
    row.providerId = other → row.state = .reconciliationRequired →
      row ∈ before.admission.requests.rows) ?_ (fun row held _ _ => held)
  intro kind listed first next held effect row member rowOwn unresolved
  cases effect with
  | @move kind _ old progress stored own edge token =>
    rcases (AdmissionTables.mem_rewriteRequest _ stored progress row).mp member with
      ⟨kept, _⟩ | rfl
    · exact held row kept rowOwn unresolved
    · simp only at unresolved
      rw [unresolved] at edge
      generalize old.state = first at edge
      cases edge
      rcases certain with unlisted | different
      · exact absurd listed unlisted
      · exact absurd (own.symm.trans rowOwn) different
  | @release _ old progress tables now stored own edge token decremented =>
    have frame := (AdmissionTables.decrementProject_eq_ok decremented).1
    have there : old ∈ tables.requests.rows := frame.2.2.2 ▸ stored
    rcases (AdmissionTables.mem_rewriteRequest _ there progress row).mp member with
      ⟨kept, _⟩ | rfl
    · exact held row (frame.2.2.2 ▸ kept) rowOwn unresolved
    · simp only at unresolved
      rw [unresolved] at edge
      generalize old.state = first at edge
      cases edge
  | enqueue own ownPolicy governs circuit probe inserted =>
    rw [(insertRequest_rows inserted).1, List.mem_append, List.mem_singleton] at member
    rcases member with old | rfl
    · exact held row old rowOwn unresolved
    · exact absurd unresolved (by simp [waitingRow, RequestProgress.waiting])
  | @grant _ state old request now own ownPolicy governs circuit probe stored named waiting =>
    rw [grant_admission stored named waiting] at member
    have there : old ∈ (reserve first.admission state request now).requests.rows := stored
    rcases (AdmissionTables.mem_rewriteRequest _ there _ row).mp member with ⟨kept, _⟩ | rfl
    · exact held row kept rowOwn unresolved
    · simp [RequestProgress.granted] at unresolved
  | receipt named governs stored own about target notHalfOpen stop appended =>
    exact held row (appended.requests ▸ member) rowOwn unresolved
  | target governs wasClosed closed formed about idle appended =>
    exact held row (appended.requests ▸ member) rowOwn unresolved
  | halfOpen governs wasOpen halfOpen target about idle appended =>
    exact held row (appended.requests ▸ member) rowOwn unresolved
  | supersede governs notHalfOpen sameProvider closed formed about settled capacity projectCap
      policy appended =>
    exact held row (policy.requests ▸ appended.requests ▸ member) rowOwn unresolved
  | genesis absent closed formed about policy transitions states others =>
    exact held row (policy.requests ▸ others.2.2 ▸ member) rowOwn unresolved
  | policy policy => exact held row (policy.requests ▸ member) rowOwn unresolved
  | authority => exact held row member rowOwn unresolved
  | token => exact held row member rowOwn unresolved

/-- After an expiry, an uncertain request was so before, or the expired dispatch has stopped the
circuit, or it is isolated. -/
theorem stopped_of_expiry {now : Timestamp} {state : ControlRow}
    (expired : Expired sha kernel before now state after) {row : RequestRow}
    (stored : row ∈ after.admission.requests.rows)
    (unresolved : row.state = .reconciliationRequired) :
    row ∈ before.admission.requests.rows ∨
      (row.providerId = kernel.policy.providerId ∧
        (after.admission.circuit kernel.policy.providerId = some .open ∨
          (kernel.policy.uncertainDispatchScope = .capacityReservation ∧
            before.admission.circuit kernel.policy.providerId = some .closed))) := by
  by_cases own : row.providerId = kernel.policy.providerId
  · rcases expired.outcome with certain | ⟨control, controlStored, controlOwn, circuit⟩
    · exact Or.inl (uncertain_of_effects certain (Or.inl (by decide)) row stored rfl unresolved)
    · have reached := stopped_of_expired controlStored controlOwn circuit
      refine Or.inr ⟨own, ?_⟩
      by_cases isolated : expiryIsolated kernel.policy state = true
      · simp only [expiryIsolated, decide_eq_true_eq] at isolated
        have met := (governs_of_validated expired.valid).circuit
        exact Or.inr ⟨isolated.1, by rw [met, isolated.2]⟩
      · rw [if_neg isolated] at reached
        exact Or.inl reached
  · exact Or.inl (uncertain_of_effects expired.effects
      (Or.inr (fun same => own same.symm)) row stored rfl unresolved)

end ProviderAdmissionKernel

namespace AdmissionSystem

open ProviderAdmissionKernel

/-! ## Runs -/

/-- A call that commits is applied to its kernel's own provider's permits and requests. -/
def AppliedToOwn (system : AdmissionSystem) : AdmissionAction → Prop
  | .commit index _ => ∀ call, system.pending[index]? = some call →
    OwnArguments call.kernel system.db.admission call.call
  | _ => True

/-- A committed call's arguments are its own provider's where every call's are. -/
theorem own_of_commits {sha : Sha256} {system : AdmissionSystem} {action : AdmissionAction}
    {call : PendingCall} {clocks : ClockReadings} {result : Committed RuntimeDb CallResult}
    (applied : AppliedToOwn system action)
    (commits : Commits sha system action call clocks result) :
    OwnArguments call.kernel system.db.admission call.call := by
  obtain ⟨index, rfl, found⟩ := commits
  simp only [transaction, Option.map_eq_some_iff, Prod.mk.injEq] at found
  obtain ⟨pending, at_index, rfl, _⟩ := found
  exact applied pending at_index

/-- The calls that may move an open circuit. -/
def isActivation : KernelCall → Bool
  | .activateHalfOpen _ _ _ | .supersedePolicy _ _ _ => true
  | _ => false

/-- The isolated case: under a closed circuit, a kernel whose policy reserves the capacity of an
uncertain dispatch, and where the call is a finish, one whose outcome alone is unknown. -/
def IsolatedCase (sha : Sha256) (system : AdmissionSystem) (action : AdmissionAction)
    (provider : String) : Prop :=
  system.db.admission.circuit provider = some .closed ∧
    ∃ call clocks result, Commits sha system action call clocks result ∧
      call.kernel.policy.providerId = provider ∧
      call.kernel.policy.uncertainDispatchScope = .capacityReservation ∧
      ∀ permit report, call.call = .finish permit report →
        report.isolatedUncertainty call.kernel.policy .closed = true

/-- What one step may do to the circuit of a provider. -/
structure CircuitStep (sha : Sha256) (provider : String)
    (x : Machine.Step AdmissionSystem AdmissionAction) : Prop where
  /-- An open circuit is left through an activation of the provider's own kernel alone. -/
  opened : x.before.db.admission.circuit provider = some .open →
    x.after.db.admission.circuit provider = some .open ∨
      ∃ call clocks result, Commits sha x.before x.action call clocks result ∧
        call.kernel.policy.providerId = provider ∧ isActivation call.call = true
  /-- A half-open circuit is closed by the finish of its probe alone: a known outcome, with a
  response whose status is neither 429 nor 5xx. -/
  closed : x.before.db.admission.circuit provider = some .halfOpen →
    x.after.db.admission.circuit provider = some .closed →
      ∃ call clocks result permit report, Commits sha x.before x.action call clocks result ∧
        call.kernel.policy.providerId = provider ∧ call.call = .finish permit report ∧
        report.terminalPersisted = true ∧ report.networkAttempted = some true ∧
        report.responseReceived = some true ∧
        (∀ status, report.providerHttpStatus = some status →
          status ≠ 429 ∧ ¬(500 ≤ status ∧ status ≤ 599)) ∧
        ∃ row ∈ x.before.db.admission.requests.rows, row.requestId = permit.requestId ∧
          row.providerId = provider ∧ row.state = .dispatched ∧
          IsProbe sha x.before.db.admission row
  /-- A dispatched request that expires or finishes ambiguously leaves the circuit open, unless it
  is the isolated case. -/
  stopped : ∀ row ∈ x.before.db.admission.requests.rows, row.providerId = provider →
    row.state = .dispatched → ∀ next ∈ x.after.db.admission.requests.rows,
      next.requestId = row.requestId → next.state = .reconciliationRequired →
        x.after.db.admission.circuit provider = some .open ∨
          IsolatedCase sha x.before x.action provider
  /-- A finish that is ambiguous or shows provider pressure leaves the circuit open, unless it is
  the isolated case. -/
  finished : ∀ call clocks result permit report,
    Commits sha x.before x.action call clocks result → call.call = .finish permit report →
    call.kernel.policy.providerId = provider →
    report.ambiguous = true ∨ report.providerPressure = true →
      x.after.db.admission.circuit provider = some .open ∨
        IsolatedCase sha x.before x.action provider
  /-- While the circuit is half open, no request but the probe is pending. -/
  probe : x.after.db.admission.circuit provider = some .halfOpen →
    OnlyProbe sha x.after.db.admission provider

variable {sha : Sha256} {system : AdmissionSystem} {action : AdmissionAction}

/-- A step leaves an open circuit open, or is an activation of the provider's kernel. -/
theorem open_step (sound : Sound sha system) {provider : String}
    (isOpen : system.db.admission.circuit provider = some .open) :
    (step sha system action).db.admission.circuit provider = some .open ∨
      ∃ call clocks result, Commits sha system action call clocks result ∧
        call.kernel.policy.providerId = provider ∧ isActivation call.call = true := by
  rcases step_cases sha system action with same | ⟨kernel, owner, kind, free, effect⟩ |
      ⟨call, clocks, result, commits⟩
  · exact Or.inl (same ▸ isOpen)
  · refine Or.inl (open_kept effect ?_ ?_ isOpen) <;> rintro rfl <;> exact absurd free (by decide)
  · obtain ⟨member, done⟩ := commits.transacted
    have prepared := (sound.pending call member).2
    rw [commits.db]
    by_cases activation : isActivation call.call = true
    · -- An activation moves its own provider's circuit alone.
      by_cases own : call.kernel.policy.providerId = provider
      · exact Or.inr ⟨call, clocks, result, commits, own, activation⟩
      · obtain ⟨owner, _, mid, first, second⟩ := transact_effects prepared done
        have kept : ∀ owner, ∀ kind ∈ call.call.kinds, ∀ before after : RuntimeDb,
            before.admission.circuit provider = some .open →
            Effect sha call.kernel owner kind before after →
            after.admission.circuit provider = some .open :=
          fun owner kind _ before after held effect =>
            (steady_of_effect effect (Or.inr (fun same => own same.symm))).1.trans held
        exact Or.inl (second.invariant _ (kept owner) (first.invariant _ (kept _) isOpen))
    · refine Or.inl (open_of_transact prepared done ?_ isOpen)
      cases asked : call.call <;> simp_all [isActivation, KernelCall.kinds]

/-- A step that closes a half-open circuit is the finish of its probe. -/
theorem closed_step (sound : Sound sha system) (applied : AppliedToOwn system action)
    (inv : ProbeInvariant sha system.db.admission) {provider : String}
    (halfOpen : system.db.admission.circuit provider = some .halfOpen)
    (closed : (step sha system action).db.admission.circuit provider = some .closed) :
    ∃ call clocks result permit report, Commits sha system action call clocks result ∧
      call.kernel.policy.providerId = provider ∧ call.call = .finish permit report ∧
      report.terminalPersisted = true ∧ report.networkAttempted = some true ∧
      report.responseReceived = some true ∧
      (∀ status, report.providerHttpStatus = some status →
        status ≠ 429 ∧ ¬(500 ≤ status ∧ status ≤ 599)) ∧
      ∃ row ∈ system.db.admission.requests.rows, row.requestId = permit.requestId ∧
        row.providerId = provider ∧ row.state = .dispatched ∧
        IsProbe sha system.db.admission row := by
  rcases step_cases sha system action with same | ⟨kernel, owner, kind, free, effect⟩ |
      ⟨call, clocks, result, commits⟩
  · rw [same, halfOpen] at closed
    exact absurd closed (by decide)
  · have left := halfOpen_left effect (by rintro rfl; exact absurd free (by decide)) halfOpen
    rw [closed] at left
    rcases left with absurdity | absurdity <;> exact absurd absurdity (by decide)
  · obtain ⟨member, done⟩ := commits.transacted
    have prepared := (sound.pending call member).2
    have own := own_of_commits applied commits
    rw [commits.db] at closed
    by_cases terminal : .terminal ∈ call.call.kinds
    · obtain ⟨permit, report, asked⟩ : ∃ permit report, call.call = .finish permit report := by
        cases asked : call.call <;> simp_all [KernelCall.kinds]
      rw [asked] at done own
      obtain ⟨inner, committed, rfl⟩ := except_map_eq_ok.mp done
      obtain ⟨state, row, mid, governs, stored, named, matching, dispatched, first, states,
        terminal, appended⟩ := finish_eq_ok committed
      simp only [permitMatchesRow, decide_eq_true_eq] at matching
      have rowOwn : row.providerId = call.kernel.policy.providerId := matching.1.trans own
      have circuits := appended.circuit (states ▸ governs.stored) governs.provider provider
      have reached : inner.1.admission.circuit provider = some .closed := closed
      rw [reached] at circuits
      by_cases same : provider = call.kernel.policy.providerId
      · subst same
        rw [if_pos (by rfl), Option.some.injEq] at circuits
        rw [governs.circuit, Option.some.injEq] at halfOpen
        have answered : report.nextCircuit call.kernel.policy .halfOpen = .closed := by
          rw [← halfOpen]
          exact circuits.symm
        obtain ⟨persisted, attempted, received, calm⟩ := nextCircuit_closed answered
        have only := inv _ (governs.circuit.trans (congrArg some halfOpen)) row stored rowOwn
        refine ⟨call, clocks, _, permit, report, commits, rfl, asked, persisted, attempted,
          received, ?_, row, stored, named, rowOwn, dispatched,
          only.2.2 (Or.inr dispatched)⟩
        intro status answeredWith
        simpa [TransportReport.providerPressure, answeredWith] using calm
      · rw [if_neg (by exact same)] at circuits
        have unmoved : mid.circuit provider = system.db.admission.circuit provider :=
          (steady_of_states states provider).1
        rw [unmoved, halfOpen] at circuits
        exact absurd circuits (by decide)
    · -- Any other call leaves the circuit half open, or opens it.
      exfalso
      obtain ⟨owner, _, mid, first, second⟩ := transact_effects prepared done
      by_cases superseding : .supersede ∈ call.call.kinds
      · obtain ⟨binding, successor, reference, asked⟩ : ∃ binding successor reference,
            call.call = .supersedePolicy binding successor reference := by
          cases asked : call.call <;> simp_all [KernelCall.kinds]
        rw [asked] at first second
        have kept : ∀ owner, ∀ kind ∈ ([.supersede, .authority] : List EffectKind),
            ∀ before after : RuntimeDb, before.admission.circuit provider = some .halfOpen →
            Effect sha call.kernel owner kind before after →
            after.admission.circuit provider = some .halfOpen := by
          intro owner kind listed before after held effect
          rcases circuit_of_effect effect provider with unmoved | ⟨_, next, moved, edge⟩
          · exact unmoved.trans held
          · rw [held] at edge
            cases edge with
            | signal | terminal => simp at listed
            | supersede notHalfOpen => exact absurd rfl notHalfOpen
        have still := second.invariant _ (kept owner) (first.invariant _ (kept _) halfOpen)
        rw [still] at closed
        exact absurd closed (by decide)
      · have kept : ∀ owner, ∀ kind ∈ call.call.kinds, ∀ before after : RuntimeDb,
            (before.admission.circuit provider = some .halfOpen ∨
              before.admission.circuit provider = some .open) →
            Effect sha call.kernel owner kind before after →
            (after.admission.circuit provider = some .halfOpen ∨
              after.admission.circuit provider = some .open) := by
          intro owner kind listed before after held effect
          rcases held with halfOpen | isOpen
          · exact halfOpen_left effect (fun same => terminal (same ▸ listed)) halfOpen
          · by_cases activating : kind = .halfOpen
            · rcases circuit_of_effect effect provider with unmoved | ⟨_, next, moved, edge⟩
              · exact Or.inr (unmoved.trans isOpen)
              · rw [isOpen, activating] at edge
                cases edge
                exact Or.inl moved
            · exact Or.inr (open_kept effect activating
                (fun same => superseding (same ▸ listed)) isOpen)
        have still := second.invariant _ (kept owner)
          (first.invariant _ (kept _) (Or.inl halfOpen))
        rw [closed] at still
        rcases still with absurdity | absurdity <;> exact absurd absurdity (by decide)

/-- A finish that is ambiguous or shows pressure stops the circuit, unless it is isolated. -/
theorem finished_step {call : PendingCall} {clocks : ClockReadings}
    {result : Committed RuntimeDb CallResult} {permit : ProviderAdmissionPermit}
    {report : TransportReport} (commits : Commits sha system action call clocks result)
    (asked : call.call = .finish permit report)
    (bad : report.ambiguous = true ∨ report.providerPressure = true) :
    (step sha system action).db.admission.circuit call.kernel.policy.providerId = some .open ∨
      IsolatedCase sha system action call.kernel.policy.providerId := by
  obtain ⟨member, done⟩ := commits.transacted
  rw [commits.db]
  rw [asked] at done
  obtain ⟨inner, committed, rfl⟩ := except_map_eq_ok.mp done
  obtain ⟨state, row, mid, governs, _, _, _, _, _, states, _, appended⟩ := finish_eq_ok committed
  have moved : inner.1.admission.circuit call.kernel.policy.providerId = some _ :=
    appended.circuit_self (states ▸ governs.stored) governs.provider
  cases isolated : report.isolatedUncertainty call.kernel.policy state.circuitState with
  | false =>
    have opened := nextCircuit_open bad isolated
    exact Or.inl (moved.trans (congrArg some opened))
  | true =>
    have conditions := isolated
    simp only [TransportReport.isolatedUncertainty, Bool.and_eq_true, decide_eq_true_eq]
      at conditions
    have closed : state.circuitState = .closed := conditions.2
    have reserved : call.kernel.policy.uncertainDispatchScope = .capacityReservation :=
      conditions.1.1.1.1.1
    rw [closed] at isolated
    refine Or.inr ⟨by rw [governs.circuit, closed], call, clocks, _, commits, rfl, reserved, ?_⟩
    intro otherPermit otherReport same
    cases asked.symm.trans same
    exact isolated

/-- What follows an expiry neither makes a request uncertain nor leaves an open circuit. -/
theorem stopped_after_expiry {call : PendingCall} {clocks : ClockReadings}
    {result : Committed RuntimeDb CallResult} {now : Timestamp} {state : ControlRow}
    {mid : RuntimeDb} {kinds : List EffectKind} {next : RequestRow}
    (commits : Commits sha system action call clocks result)
    (expired : Expired sha call.kernel system.db now state mid)
    (rest : Effects sha call.kernel call.kernel.policy.providerId kinds mid result.1)
    (plain : .uncertain ∉ kinds ∧ .halfOpen ∉ kinds ∧ .supersede ∉ kinds)
    (notFinish : ∀ permit report, call.call ≠ .finish permit report)
    (member : next ∈ result.1.admission.requests.rows)
    (unresolved : next.state = .reconciliationRequired)
    (changed : next ∉ system.db.admission.requests.rows) :
    result.1.admission.circuit call.kernel.policy.providerId = some .open ∨
      IsolatedCase sha system action call.kernel.policy.providerId := by
  obtain ⟨certain, notHalfOpen, notSupersede⟩ := plain
  have inMid := uncertain_of_effects rest (Or.inl certain) next member rfl unresolved
  rcases stopped_of_expiry expired inMid unresolved with old | ⟨_, isOpen | isolated⟩
  · exact absurd old changed
  · refine Or.inl (rest.invariant
      (fun db => db.admission.circuit call.kernel.policy.providerId = some .open) ?_ isOpen)
    exact fun kind listed _ _ held effect => open_kept effect
      (fun same => notHalfOpen (same ▸ listed)) (fun same => notSupersede (same ▸ listed)) held
  · exact Or.inr ⟨isolated.2, call, clocks, result, commits, rfl, isolated.1,
      fun permit report asked => absurd asked (notFinish permit report)⟩

/-- A dispatched request that becomes uncertain stops its provider's circuit, unless it is
isolated. -/
theorem stopped_step (sound : Sound sha system) (applied : AppliedToOwn system action)
    {row next : RequestRow} (stored : row ∈ system.db.admission.requests.rows)
    (dispatched : row.state = .dispatched)
    (after : next ∈ (step sha system action).db.admission.requests.rows)
    (named : next.requestId = row.requestId) (own : next.providerId = row.providerId)
    (unresolved : next.state = .reconciliationRequired) :
    (step sha system action).db.admission.circuit row.providerId = some .open ∨
      IsolatedCase sha system action row.providerId := by
  -- The request was not uncertain before.
  have changed : next ∉ system.db.admission.requests.rows := by
    intro old
    have same := system.db.admission.requests.eq_of_key old stored named
    rw [same, dispatched] at unresolved
    exact absurd unresolved (by decide)
  rcases step_cases sha system action with same | ⟨kernel, owner, kind, free, effect⟩ |
      ⟨call, clocks, result, commits⟩
  · exact absurd (same ▸ after) changed
  · have single := Effects.single (List.mem_singleton.mpr rfl) effect
    refine absurd (uncertain_of_effects single (Or.inl ?_) next after rfl unresolved) changed
    rw [List.mem_singleton]
    rintro rfl
    exact absurd free (by decide)
  · obtain ⟨member, done⟩ := commits.transacted
    have prepared := (sound.pending call member).2
    have arguments := own_of_commits applied commits
    have ended : ∀ permit report, call.call = .finish permit report →
        report.ambiguous = true ∨ report.providerPressure = true → _ :=
      fun _ _ asked bad => finished_step commits asked bad
    rw [commits.db] at after ended ⊢
    obtain ⟨owner, ownerIs, mid, first, second⟩ := transact_effects prepared done
    rw [ownerIs arguments] at second
    -- Only a call of the provider's own kernel can have made it uncertain.
    have kernelOwn : call.kernel.policy.providerId = next.providerId := by
      by_contra different
      have inMid := uncertain_of_effects second (Or.inr different) next after rfl unresolved
      exact changed (uncertain_of_effects first (Or.inr different) next inMid rfl unresolved)
    rw [own.symm.trans kernelOwn.symm]
    cases asked : call.call with
    | tryAdmit request ttlSeconds =>
      rw [asked] at done prepared
      obtain ⟨inner, committed, rfl⟩ := except_map_eq_ok.mp done
      obtain ⟨before, mid, expired, outcome⟩ := tryAdmit_eq_ok prepared committed
      have rest : Effects sha call.kernel call.kernel.policy.providerId [.enqueue, .grant] mid
          inner.1 := by
        rcases outcome with unchanged | ⟨ready, state, waiting, considered, decided⟩
        · exact unchanged ▸ Relation.ReflTransGen.refl
        · exact considered.effects decided
      have notFinish : ∀ permit report, call.call ≠ .finish permit report := by simp [asked]
      exact stopped_after_expiry commits expired rest (by decide) notFinish after unresolved changed
    | beginTransport permit request =>
      rw [asked] at done arguments
      obtain ⟨inner, committed, rfl⟩ := except_map_eq_ok.mp done
      obtain ⟨before, mid, state, granted, expired, _, _, there, _, matching, outcome⟩ :=
        beginTransport_eq_ok committed
      simp only [permitMatchesRow, decide_eq_true_eq] at matching
      have grantedOwn : granted.providerId = call.kernel.policy.providerId :=
        matching.1.trans arguments
      have rest : Effects sha call.kernel call.kernel.policy.providerId
          [.release, .signal, .dispatch] mid inner.1 := by
        rcases outcome with ⟨error, rfl⟩ | ⟨_, ⟨_, released⟩ | ⟨_, started, conditions⟩⟩
        · exact Relation.ReflTransGen.refl
        · exact grantedOwn ▸ released.mono (by simp)
        · rw [started, ← grantedOwn]
          exact Effects.single (by simp)
            (dispatch_effect clocks.kernel there conditions.granted)
      have notFinish : ∀ permit report, call.call ≠ .finish permit report := by simp [asked]
      exact stopped_after_expiry commits expired rest (by decide) notFinish after unresolved changed
    | finish permit report =>
      rw [asked] at done
      obtain ⟨inner, committed, rfl⟩ := except_map_eq_ok.mp done
      obtain ⟨state, finished, mid, governs, _, _, _, _, effect, states, terminal, _⟩ :=
        finish_eq_ok committed
      have ambiguous : report.ambiguous = true := by
        by_contra known
        rw [if_neg known] at effect
        have inMid := uncertain_of_effects (Effects.single (List.mem_singleton.mpr rfl) terminal)
          (Or.inl (by decide)) next after rfl unresolved
        exact changed (uncertain_of_effects (Effects.single (List.mem_singleton.mpr rfl) effect)
          (Or.inl (by decide)) next inMid rfl unresolved)
      exact ended permit report asked (Or.inl ambiguous)
    | cancelBeforeTransport | cancelWaiting | resolveReconciliation | activateTarget
      | activateHalfOpen | supersedePolicy =>
      rw [asked] at first second
      have inMid := uncertain_of_effects second (Or.inl (by simp [KernelCall.kinds])) next after
        rfl unresolved
      exact absurd (uncertain_of_effects first (Or.inl (by simp [KernelCall.kinds])) next inMid
        rfl unresolved) changed

/-- A step keeps the invariant of half-open circuits. -/
theorem probeInvariant_step (distinct : DigestNamesRequest sha) (sound : Sound sha system)
    (applied : AppliedToOwn system action) (inv : ProbeInvariant sha system.db.admission) :
    ProbeInvariant sha (step sha system action).db.admission := by
  rcases step_cases sha system action with same | ⟨kernel, owner, kind, free, effect⟩ |
      ⟨call, clocks, result, commits⟩
  · exact same ▸ inv
  · refine probeInvariant_of_effects (Effects.single (List.mem_singleton.mpr rfl) effect) ?_ inv
    constructor <;> rw [List.mem_singleton] <;> rintro rfl <;> exact absurd free (by decide)
  · obtain ⟨member, done⟩ := commits.transacted
    rw [commits.db]
    exact probeInvariant_transact distinct (sound.pending call member).2
      (own_of_commits applied commits) done inv

/-- In every run whose calls are applied to their own provider's permits and requests, every step
keeps the circuit discipline of every provider: an open circuit is left through an activation
alone, a half-open one is closed by its probe alone and has no other request pending, and an
expiry or a bad finish that is not isolated leaves the circuit open. -/
theorem circuit_discipline (sha : Sha256) (distinct : DigestNamesRequest sha)
    (actions : List AdmissionAction) (own : (machine sha).Obeys AppliedToOwn .initial actions) :
    ∀ x ∈ (machine sha).steps .initial actions, ∀ provider, CircuitStep sha provider x := by
  have keep : ∀ system action,
      (Sound sha system ∧ CapacityInvariant system.db.admission ∧
        ProbeInvariant sha system.db.admission) →
      AppliedToOwn system action →
      Sound sha ((machine sha).step system action) ∧
        CapacityInvariant ((machine sha).step system action).db.admission ∧
        ProbeInvariant sha ((machine sha).step system action).db.admission :=
    fun system action held applied => ⟨sound_step held.1 action,
      step_invariant (fun db => CapacityInvariant db.admission)
        (fun _ _ _ _ _ entitled inv effect => capacity_effect inv entitled effect)
        held.1 held.2.1 action,
      probeInvariant_step distinct held.1 applied held.2.2⟩
  have start : Sound sha .initial ∧ CapacityInvariant AdmissionSystem.initial.db.admission ∧
      ProbeInvariant sha AdmissionSystem.initial.db.admission :=
    ⟨sound_initial, capacityInvariant_initial, fun _ halfOpen => absurd halfOpen (by simp [AdmissionSystem.initial, RuntimeDb.initial,
      AdmissionTables.initial, AdmissionTables.circuit, Table.find?])⟩
  intro x member provider
  obtain ⟨⟨sound, capacity, inv⟩, applied, after⟩ :=
    (machine sha).steps_invariant keep start own x member
  have next : x.after = step sha x.before x.action := after
  refine ⟨?_, ?_, ?_, ?_, ?_⟩
  · rw [next]
    exact open_step sound
  · rw [next]
    exact closed_step sound applied inv
  · rw [next]
    rintro row stored rfl dispatched updated held named unresolved
    have same := ((moves_step sound x.action).next_of_stored stored held named).1
    exact stopped_step sound applied stored dispatched held named
      (congrArg (·.providerId) same) unresolved
  · rw [next]
    rintro call clocks result permit report commits asked rfl bad
    exact finished_step commits asked bad
  · rw [next]
    exact probeInvariant_step distinct sound applied inv provider

/-- A digest that names a document by its leading identifier where documents are named. -/
def identifierDigest : Sha256 where
  sha256Id := fun _ document =>
    match document with
    | .obj ((_, .hex identifier) :: _) => identifier
    | _ => 0
  sha256 := Json.fold

instance (kernel : ProviderAdmissionKernel) (tables : AdmissionTables) :
    (call : KernelCall) → Decidable (OwnArguments kernel tables call)
  | .beginTransport permit _ | .cancelBeforeTransport permit | .finish permit _ =>
    inferInstanceAs (Decidable (permit.providerId = kernel.policy.providerId))
  | .cancelWaiting requestId _ | .resolveReconciliation requestId _ _ =>
    inferInstanceAs (Decidable (∀ row ∈ tables.requests.rows, row.requestId = requestId →
      row.providerId = kernel.policy.providerId))
  | .tryAdmit _ _ | .activateTarget _ _ | .activateHalfOpen _ _ _ | .supersedePolicy _ _ _ =>
    isTrue trivial

instance (system : AdmissionSystem) :
    (action : AdmissionAction) → Decidable (AppliedToOwn system action)
  | .commit index _ =>
    decidable_of_iff ((system.pending[index]?).all
        (fun call => OwnArguments call.kernel system.db.admission call.call) = true)
      (by simp [AppliedToOwn, Option.all_eq_true])
  | .install _ _ _ _ | .prepare _ _ _ | .issue _ _ _ _ _ _ | .revoke _ _ | .advanceEpoch _ _ _
  | .drawToken => isTrue trivial

/-- The discipline holds of a run in which a request is admitted, starts its transport and is left
unresolved. -/
theorem circuit_discipline_of_admission :
    (machine identifierDigest).Obeys AppliedToOwn .initial
        (prepared identifierDigest ++ leftUnresolved identifierDigest 1 1) ∧
      ∀ x ∈ (machine identifierDigest).steps .initial
          (prepared identifierDigest ++ leftUnresolved identifierDigest 1 1),
        ∀ provider, CircuitStep identifierDigest provider x := by
  have own : (machine identifierDigest).Obeys AppliedToOwn .initial
      (prepared identifierDigest ++ leftUnresolved identifierDigest 1 1) := by decide +kernel
  exact ⟨own, circuit_discipline identifierDigest (fun _ _ same => same) _ own⟩

end AdmissionSystem
end Macr
