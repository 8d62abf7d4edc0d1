import Macr.ProviderAdmission.Activation
import Mathlib.Logic.Relation

/-!
# What a kernel operation can do to the database

Every operation is a sequence of a few elementary effects, each with the guard the code has
checked when it is applied. The invariants of the kernel are proved once for each effect; an
operation only has to be shown to be such a sequence. The provider of an effect is the one whose
requests and projects it touches, the kernel is the one whose control row it moves.
-/

namespace Macr

open Lib Relation

namespace ProviderAdmissionKernel

/-- The elementary effects. -/
inductive EffectKind where
  /-- A waiting request is cancelled. -/
  | withdraw
  /-- A granted request starts its transport. -/
  | dispatch
  /-- A dispatched request becomes uncertain. -/
  | uncertain
  /-- A request gives its unit of capacity back. -/
  | release
  /-- A request is inserted. -/
  | enqueue
  /-- A waiting request is granted. -/
  | grant
  /-- A receipt other than a terminal's is appended under the policy and target in force. -/
  | signal
  /-- The receipt of a terminal is appended. -/
  | terminal
  /-- A target is activated. -/
  | target
  /-- A half-open slot is activated. -/
  | halfOpen
  /-- The policy is superseded. -/
  | supersede
  /-- A policy is stored. -/
  | policy
  /-- A provider's control chain is started. -/
  | genesis
  /-- The authority tables change. -/
  | authority
  /-- A fencing token is drawn for another store. -/
  | token
deriving DecidableEq

/-- The state changes that keep a request's unit of capacity as it was. -/
inductive Moves : EffectKind → RequestState → RequestState → Prop where
  | withdraw : Moves .withdraw .waiting .cancelled
  | dispatch : Moves .dispatch .granted .dispatched
  | uncertain : Moves .uncertain .dispatched .reconciliationRequired

/-- The state changes that give a request's unit of capacity back. -/
inductive Releases : RequestState → RequestState → Prop where
  | cancel : Releases .granted .cancelled
  | complete : Releases .dispatched .completed
  | resolve : Releases .reconciliationRequired .reconciled

/-- A stored control row of the kernel's provider, under the kernel's policy. -/
structure Governs (sha : Sha256) (kernel : ProviderAdmissionKernel) (tables : AdmissionTables)
    (state : ControlRow) : Prop where
  /-- It is the stored row. -/
  stored : state ∈ tables.states.rows
  /-- It is the kernel's provider's row. -/
  provider : state.providerId = kernel.policy.providerId
  /-- It is under the kernel's policy. -/
  policyDigest : state.policyDigest = kernel.policy.policyDigest sha

/-- The policy is stored under its revision, newly or already, and nothing else changed. -/
structure PolicyStored (sha : Sha256) (policy : ProviderAdmissionPolicy)
    (before after : AdmissionTables) : Prop where
  /-- The policy's row is stored. -/
  stored : ∃ row ∈ after.policies.rows,
    row.body = policy ∧ row.providerId = policy.providerId ∧
      row.policyDigest = policy.policyDigest sha
  /-- Its row is the only new one. -/
  others : ∀ row ∈ after.policies.rows, row ∈ before.policies.rows ∨
    (row.body = policy ∧ row.providerId = policy.providerId ∧ row.revision = policy.revision ∧
      row.policyDigest = policy.policyDigest sha ∧
      ∀ other ∈ before.policies.rows, other.policyDigest ≠ row.policyDigest)
  /-- Policies are never lost. -/
  kept : ∀ row ∈ before.policies.rows, row ∈ after.policies.rows
  /-- Control rows stay. -/
  states : after.states = before.states
  /-- Receipts stay. -/
  transitions : after.transitions = before.transitions
  /-- Projects stay. -/
  projects : after.projects = before.projects
  /-- Requests stay. -/
  requests : after.requests = before.requests

variable (sha : Sha256) (kernel : ProviderAdmissionKernel) (provider : String)

/-- One elementary effect of a kernel on the database. -/
inductive Effect : EffectKind → RuntimeDb → RuntimeDb → Prop where
  | move {kind : EffectKind} {db : RuntimeDb} {row : RequestRow} {progress : RequestProgress}
      (stored : row ∈ db.admission.requests.rows) (own : row.providerId = provider)
      (edge : Moves kind row.state progress.state)
      (token : progress.fencingToken = row.fencingToken) :
      Effect kind db { db with admission := db.admission.rewriteRequest row progress }
  | release {db : RuntimeDb} {row : RequestRow} {progress : RequestProgress}
      {tables : AdmissionTables} {now : Timestamp}
      (stored : row ∈ db.admission.requests.rows) (own : row.providerId = provider)
      (edge : Releases row.state progress.state)
      (token : progress.fencingToken = row.fencingToken)
      (decremented : db.admission.decrementProject row.providerId row.projectBindingDigest now =
        .ok tables) :
      Effect .release db { db with admission := tables.rewriteRequest row progress }
  | enqueue {db : RuntimeDb} {state : ControlRow} {request : ProviderAdmissionRequest}
      {ttlSeconds : Nat} {now : Timestamp} {tables : AdmissionTables}
      (own : request.providerId = provider) (ownPolicy : provider = kernel.policy.providerId)
      (governs : Governs sha kernel db.admission state)
      (circuit : state.circuitState ≠ .open)
      (probe : state.circuitState = .halfOpen →
        some (request.bindingDigest sha) = state.halfOpenProbeRequestDigest)
      (inserted : insertRequest db.admission (kernel.waitingRow sha request ttlSeconds now) =
        .ok tables) :
      Effect .enqueue db { db with admission := tables }
  | grant {db : RuntimeDb} {state : ControlRow} {row : RequestRow}
      {request : ProviderAdmissionRequest} {now : Timestamp}
      (own : request.providerId = provider) (ownPolicy : provider = kernel.policy.providerId)
      (governs : Governs sha kernel db.admission state)
      (circuit : state.circuitState ≠ .open)
      (probe : state.circuitState = .halfOpen →
        some (request.bindingDigest sha) = state.halfOpenProbeRequestDigest)
      (stored : row ∈ db.admission.requests.rows) (named : row.requestId = request.requestId)
      (waiting : row.state = .waiting)
      (matching : rowMatchesRequest row request (kernel.policy.policyDigest sha) = true)
      (capacity : db.admission.activeUnits provider + 1 ≤ effectiveCapacity state)
      (projectCap : db.admission.projectActive provider request.projectBindingDigest + 1 ≤
        kernel.policy.perProjectCap) :
      Effect .grant db (grant db state request now)
  | receipt {kind : EffectKind} {db : RuntimeDb} {state : ControlRow} {change : ControlChange}
      {now : Timestamp} {tables : AdmissionTables} {row : RequestRow}
      (named : kind = .signal ∨ kind = .terminal)
      (governs : Governs sha kernel db.admission state)
      (stored : row ∈ db.admission.requests.rows) (own : row.providerId = provider)
      (about : change.requestId = some row.requestId)
      (target : change.effectiveTarget = state.effectiveTarget)
      (notHalfOpen : change.circuitState ≠ .halfOpen)
      (stop : state.circuitState = .open ∨ (kind = .signal ∧ state.circuitState = .halfOpen) →
        change.circuitState = .open)
      (appended : Appended sha db.admission
        (kernel.nextBody sha (some state) change now kernel.policy) tables)
      (formed : change.Formed kernel.policy) :
      Effect kind db { db with admission := tables }
  | target {db : RuntimeDb} {state : ControlRow} {change : ControlChange} {now : Timestamp}
      {tables : AdmissionTables}
      (governs : Governs sha kernel db.admission state)
      (wasClosed : state.circuitState = .closed) (closed : change.circuitState = .closed)
      (formed : change.Formed kernel.policy) (about : change.requestId = none)
      (idle : ∀ row ∈ db.admission.requests.rows, row.providerId = kernel.policy.providerId →
        activeOrWaiting row.state = false)
      (appended : Appended sha db.admission
        (kernel.nextBody sha (some state) change now kernel.policy) tables) :
      Effect .target db { db with admission := tables }
  | halfOpen {db : RuntimeDb} {state : ControlRow} {change : ControlChange} {now : Timestamp}
      {tables : AdmissionTables}
      (governs : Governs sha kernel db.admission state)
      (wasOpen : state.circuitState = .open) (halfOpen : change.circuitState = .halfOpen)
      (target : change.effectiveTarget = state.effectiveTarget)
      (about : change.requestId = none)
      (idle : ∀ row ∈ db.admission.requests.rows, row.providerId = kernel.policy.providerId →
        activeOrWaiting row.state = false)
      (appended : Appended sha db.admission
        (kernel.nextBody sha (some state) change now kernel.policy) tables)
      (formed : change.Formed kernel.policy) :
      Effect .halfOpen db { db with admission := tables }
  | supersede {db : RuntimeDb} {state : ControlRow} {successor : ProviderAdmissionPolicy}
      {change : ControlChange} {now : Timestamp} {mid tables : AdmissionTables}
      (governs : Governs sha kernel db.admission state)
      (notHalfOpen : state.circuitState ≠ .halfOpen)
      (sameProvider : successor.providerId = kernel.policy.providerId)
      (closed : change.circuitState = .closed) (formed : change.Formed successor)
      (about : change.requestId = none)
      (settled : ∀ row ∈ db.admission.requests.rows, row.providerId = kernel.policy.providerId →
        row.state ≠ .waiting ∧ row.state ≠ .granted ∧ row.state ≠ .dispatched)
      (capacity : db.admission.activeUnits kernel.policy.providerId ≤ change.effectiveTarget)
      (projectCap : ∀ project, db.admission.recordedUnits kernel.policy.providerId project ≤
        successor.perProjectCap)
      (policy : PolicyStored sha successor db.admission mid)
      (appended : Appended sha mid (kernel.nextBody sha (some state) change now successor) tables) :
      Effect .supersede db { db with admission := tables }
  | genesis {db : RuntimeDb} {change : ControlChange} {now : Timestamp}
      {mid tables : AdmissionTables}
      (absent : ∀ row ∈ db.admission.states.rows, row.providerId ≠ kernel.policy.providerId)
      (closed : change.circuitState = .closed) (formed : change.Formed kernel.policy)
      (about : change.requestId = none)
      (policy : PolicyStored sha kernel.policy db.admission mid)
      (transitions : tables.transitions.rows = mid.transitions.rows ++
        [receiptRow sha (kernel.nextBody sha none change now kernel.policy)])
      (states : tables.states.rows = mid.states.rows ++
        [kernel.firstProjection sha (kernel.nextBody sha none change now kernel.policy)])
      (others : tables.policies = mid.policies ∧ tables.projects = mid.projects ∧
        tables.requests = mid.requests) :
      Effect .genesis db { db with admission := tables }
  | policy {db : RuntimeDb} {mid : AdmissionTables}
      (policy : PolicyStored sha kernel.policy db.admission mid) :
      Effect .policy db { db with admission := mid }
  | authority {db : RuntimeDb} (tables : AuthorityTables) :
      Effect .authority db { db with authority := tables }
  | token {db : RuntimeDb} : Effect .token db { db with fencingCounter := db.fencingCounter + 1 }

/-- A sequence of effects of the given kinds. -/
def Effects (kinds : List EffectKind) : RuntimeDb → RuntimeDb → Prop :=
  ReflTransGen (fun before after => ∃ kind ∈ kinds, Effect sha kernel provider kind before after)

variable {sha kernel provider}

namespace Effects

/-- One effect is a sequence. -/
theorem single {kinds : List EffectKind} {kind : EffectKind} {before after : RuntimeDb}
    (member : kind ∈ kinds) (effect : Effect sha kernel provider kind before after) :
    Effects sha kernel provider kinds before after :=
  ReflTransGen.single ⟨kind, member, effect⟩

/-- Sequences of fewer kinds are sequences of more. -/
theorem mono {fewer more : List EffectKind} (subset : fewer ⊆ more) {before after : RuntimeDb}
    (effects : Effects sha kernel provider fewer before after) :
    Effects sha kernel provider more before after := by
  induction effects with
  | refl => exact ReflTransGen.refl
  | tail _ step ih =>
    obtain ⟨kind, member, effect⟩ := step
    exact ih.tail ⟨kind, subset member, effect⟩

/-- A property that every effect of the given kinds keeps holds after a sequence of them. -/
theorem invariant {kinds : List EffectKind} (Inv : RuntimeDb → Prop)
    (keep : ∀ kind ∈ kinds, ∀ before after, Inv before →
      Effect sha kernel provider kind before after → Inv after)
    {before after : RuntimeDb} (start : Inv before)
    (effects : Effects sha kernel provider kinds before after) : Inv after := by
  induction effects with
  | refl => exact start
  | tail _ step ih =>
    obtain ⟨kind, member, effect⟩ := step
    exact keep kind member _ _ ih effect

end Effects

/-! ## Stored policies -/

/-- A policy's row is stored. -/
def PolicyKnown (sha : Sha256) (tables : AdmissionTables) (policy : ProviderAdmissionPolicy) :
    Prop :=
  ∃ row ∈ tables.policies.rows, row.body = policy ∧ row.providerId = policy.providerId ∧
    row.policyDigest = policy.policyDigest sha

/-- A stored policy is known. -/
theorem PolicyStored.known {tables mid : AdmissionTables} {policy : ProviderAdmissionPolicy}
    (stored : PolicyStored sha policy tables mid) : PolicyKnown sha mid policy := stored.stored

/-- The policies after an effect include those before it. -/
theorem policies_of_effect {provider : String} {kind : EffectKind} {before after : RuntimeDb}
    (effect : Effect sha kernel provider kind before after) :
    ∀ row ∈ before.admission.policies.rows, row ∈ after.admission.policies.rows := by
  intro row held
  cases effect with
  | move => exact held
  | release stored own edge token decremented =>
    have same := (AdmissionTables.decrementProject_eq_ok decremented).1.1
    rw [AdmissionTables.rewriteRequest_policies, same]
    exact held
  | enqueue own ownPolicy governs circuit probe inserted =>
    simp only [insertRequest, bind_eq_ok, require_eq_ok, pure_eq_ok] at inserted
    obtain ⟨_, _, _, _, rfl⟩ := inserted
    exact held
  | grant => exact held
  | receipt named governs stored own about target notHalfOpen stop appended =>
    rw [appended.policies]
    exact held
  | target governs wasClosed closed formed about idle appended =>
    rw [appended.policies]
    exact held
  | halfOpen governs wasOpen halfOpen target about idle appended =>
    rw [appended.policies]
    exact held
  | supersede governs notHalfOpen sameProvider closed formed about settled capacity projectCap
      policy appended =>
    rw [appended.policies]
    exact policy.kept row held
  | genesis absent closed formed about policy transitions states others =>
    rw [others.1]
    exact policy.kept row held
  | policy policy => exact policy.kept row held
  | authority => exact held
  | token => exact held

/-- A known policy stays known. -/
theorem PolicyKnown.of_effect {provider : String} {kind : EffectKind} {before after : RuntimeDb}
    {policy : ProviderAdmissionPolicy} (known : PolicyKnown sha before.admission policy)
    (effect : Effect sha kernel provider kind before after) :
    PolicyKnown sha after.admission policy := by
  obtain ⟨row, held, columns⟩ := known
  exact ⟨row, policies_of_effect effect row held, columns⟩

/-- A kernel's constructor leaves its policy stored. -/
theorem PolicyKnown.of_install {provider : String} {before after : RuntimeDb}
    (effect : Effect sha kernel provider .genesis before after ∨
      Effect sha kernel provider .policy before after) :
    PolicyKnown sha after.admission kernel.policy := by
  rcases effect with effect | effect
  · cases effect with
    | move stored own edge => cases edge
    | receipt named => simp at named
    | genesis absent closed formed about policy transitions states others =>
      obtain ⟨row, held, columns⟩ := policy.known
      exact ⟨row, others.1 ▸ held, columns⟩
  · cases effect with
    | move stored own edge => cases edge
    | receipt named => simp at named
    | policy policy => exact policy.known

/-- The effects that need no kernel with a stored policy. -/
def freeKinds : List EffectKind := [.genesis, .policy, .authority, .token]

/-- A kernel may have an effect: it needs no policy, or the kernel's own is stored. -/
def Entitled (sha : Sha256) (kernel : ProviderAdmissionKernel) (kind : EffectKind)
    (db : RuntimeDb) : Prop :=
  kind ∈ freeKinds ∨ PolicyKnown sha db.admission kernel.policy

/-- The other effects need the kernel's policy. -/
theorem Entitled.known {kind : EffectKind} {db : RuntimeDb}
    (entitled : Entitled sha kernel kind db) (bound : kind ∉ freeKinds) :
    PolicyKnown sha db.admission kernel.policy := entitled.resolve_left bound

end ProviderAdmissionKernel
end Macr
