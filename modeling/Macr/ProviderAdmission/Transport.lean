import Macr.ProviderAdmission.Circuit

/-!
# The transport gate

A transport starts under a grant that has not expired, an authority that verifies under the lock,
a circuit that is closed or half open for this very request, and, where the policy says so, with
nothing unresolved. The permit has to repeat a row of the kernel's own provider: the row carries
the kernel's policy digest, and a stored digest is of one policy of one provider.
-/

namespace Macr

open Lib Relation

namespace ProviderAdmissionKernel

variable {sha : Sha256} {kernel : ProviderAdmissionKernel} {provider : String}
  {kind : EffectKind} {before after : RuntimeDb}

/-! ## The policy of a request -/

/-- A request's policy digest is that of a stored policy of its provider. -/
def PolicyNamed (tables : AdmissionTables) : Prop :=
  ∀ row ∈ tables.requests.rows, ∃ policy ∈ tables.policies.rows,
    policy.policyDigest = row.policyDigest ∧ policy.providerId = row.providerId

/-- Every entitled effect keeps the policies of requests stored. -/
theorem policyNamed_of_effect (effect : Effect sha kernel provider kind before after)
    (entitled : Entitled sha kernel kind before) (inv : PolicyNamed before.admission) :
    PolicyNamed after.admission := by
  have kept := policies_of_effect effect
  intro next member
  rcases (advance_of_effect effect).origin next member with
    ⟨row, held, same, _⟩ | ⟨rfl, _, _, absent⟩
  · obtain ⟨policy, stored, digest, owner⟩ := inv row held
    have rowDigest : next.policyDigest = row.policyDigest := congrArg (·.policyDigest) same
    have rowOwner : next.providerId = row.providerId := congrArg (·.providerId) same
    exact ⟨policy, kept policy stored, digest.trans rowDigest.symm, owner.trans rowOwner.symm⟩
  · cases effect with
    | move stored own edge => cases edge
    | receipt named => simp at named
    | enqueue own ownPolicy governs circuit probe inserted =>
      obtain ⟨policy, stored, _, owner, digest⟩ := entitled.known (by decide)
      have rows := (insertRequest_rows inserted).1
      rw [rows, List.mem_append, List.mem_singleton] at member
      rcases member with old | rfl
      · exact absurd rfl (absent next old)
      · exact ⟨policy, kept policy stored, digest, owner.trans (ownPolicy.symm.trans own.symm)⟩

/-- A request under the kernel's policy digest is of the kernel's provider. -/
theorem provider_of_policyDigest {tables : AdmissionTables} (capacity : CapacityInvariant tables)
    (named : PolicyNamed tables) (known : PolicyKnown sha tables kernel.policy) {row : RequestRow}
    (stored : row ∈ tables.requests.rows)
    (digest : row.policyDigest = kernel.policy.policyDigest sha) :
    row.providerId = kernel.policy.providerId := by
  obtain ⟨policy, held, policyDigest, owner⟩ := named row stored
  obtain ⟨own, ownHeld, _, ownOwner, ownDigest⟩ := known
  have same : policy = own := capacity.digests policy held own ownHeld
    (policyDigest.trans (digest.trans ownDigest.symm))
  exact owner.symm.trans (same ▸ ownOwner)

/-! ## A successful start -/

/-- What holds in the database a successful transport start commits to. -/
structure Gate (sha : Sha256) (kernel : ProviderAdmissionKernel) (db : RuntimeDb)
    (clocks : ClockReadings) (permit : ProviderAdmissionPermit)
    (request : ProviderAdmissionRequest) : Prop where
  /-- The request of the permit is dispatched, under a grant that had not expired. -/
  granted : ∃ row ∈ db.admission.requests.rows, row.requestId = permit.requestId ∧
    row.state = .dispatched ∧ clocks.kernel < row.expiresAt ∧
    permitMatchesRow permit row = true ∧
    rowMatchesRequest row request (kernel.policy.policyDigest sha) = true
  /-- The request is of the kernel's provider. -/
  own : permit.providerId = kernel.policy.providerId
  /-- The request's authority is of the current epoch, unrevoked, unexpired, and its scope covers
  the provider, the project, the lane, the member and the admission policy. -/
  authority : db.authority.Current sha clocks.authority request.authorization
    (kernel.admissionUse sha request)
  /-- The circuit is closed, or half open for exactly this request. -/
  circuit : db.admission.circuit kernel.policy.providerId = some .closed ∨
    (db.admission.circuit kernel.policy.providerId = some .halfOpen ∧
      db.admission.probe kernel.policy.providerId = some (request.bindingDigest sha))
  /-- Under a global uncertainty scope nothing of the provider is unresolved. -/
  resolved : kernel.policy.uncertainDispatchScope = .global →
    db.admission.countRequests kernel.policy.providerId (· = .reconciliationRequired) = 0

/-- A dispatch makes no request uncertain. -/
theorem resolved_of_dispatch {tables : AdmissionTables} {row : RequestRow} {now : Timestamp}
    (stored : row ∈ tables.requests.rows)
    (resolved : tables.countRequests provider (· = .reconciliationRequired) = 0) :
    (tables.rewriteRequest row (row.toRequestProgress.dispatched now)).countRequests provider
      (· = .reconciliationRequired) = 0 := by
  have none := List.countP_eq_zero.mp resolved
  refine List.countP_eq_zero.mpr fun next member counted => ?_
  rcases (tables.mem_rewriteRequest stored _ next).mp member with ⟨held, _⟩ | rfl
  · exact none next held counted
  · simp [RequestProgress.dispatched] at counted

/-- A request that repeats the kernel's policy after an expiry is of the kernel's provider. -/
theorem own_of_repeats {db mid : RuntimeDb} {now : Timestamp} {state : ControlRow}
    {row : RequestRow} {request : ProviderAdmissionRequest}
    (capacity : CapacityInvariant db.admission) (named : PolicyNamed db.admission)
    (known : PolicyKnown sha db.admission kernel.policy)
    (expired : Expired sha kernel db now state mid) (stored : row ∈ mid.admission.requests.rows)
    (repeats : rowMatchesRequest row request (kernel.policy.policyDigest sha) = true) :
    row.providerId = kernel.policy.providerId := by
  -- Expiry keeps what tells the provider of a request.
  obtain ⟨knownMid, namedMid⟩ := expired.effects.invariant
    (fun db => PolicyKnown sha db.admission kernel.policy ∧ PolicyNamed db.admission)
    (fun _ _ _ _ held effect => ⟨held.1.of_effect effect,
      policyNamed_of_effect effect (Or.inr held.1) held.2⟩) ⟨known, named⟩
  have columns := repeats
  simp only [rowMatchesRequest, decide_eq_true_eq] at columns
  have digest : row.policyDigest = kernel.policy.policyDigest sha := columns.2.2.2.2.2.2.2.2.2
  exact provider_of_policyDigest (capacity_expired capacity known expired) namedMid knownMid stored
    digest

/-- A successful transport start passes the gate, and found its request granted. -/
theorem gate_of_beginTransport {db : RuntimeDb} {permit : ProviderAdmissionPermit}
    {request : ProviderAdmissionRequest} {clocks : ClockReadings}
    {result : Committed RuntimeDb Unit} (capacity : CapacityInvariant db.admission)
    (named : PolicyNamed db.admission) (known : PolicyKnown sha db.admission kernel.policy)
    (done : kernel.beginTransport sha db permit request clocks.kernel clocks.authority = .ok result)
    (succeeded : result.2 = .ok ()) :
    Gate sha kernel result.1 clocks permit request ∧
      ∃ mid, RequestsMove db.admission mid ∧ ∃ row ∈ mid.requests.rows,
        row.requestId = permit.requestId ∧ row.state = .granted := by
  obtain ⟨before, mid, state, row, expired, _, governs, stored, rowNamed, matching, outcome⟩ :=
    beginTransport_eq_ok done
  rcases outcome with ⟨error, rfl⟩ | ⟨repeats, ⟨⟨error, raised⟩, _⟩ | ⟨_, committed, started⟩⟩
  · exact absurd succeeded (by simp)
  · rw [raised] at succeeded
    exact absurd succeeded (by simp)
  · have rowOwn := own_of_repeats capacity named known expired stored repeats
    have permitColumns := matching
    simp only [permitMatchesRow, decide_eq_true_eq] at permitColumns
    have unexpired := expired.fresh row stored rowOwn started.granted
    have steady : Steady kernel.policy.providerId mid.admission result.1.admission := by
      rw [committed]
      exact steady_of_states rfl _
    refine ⟨⟨?_, permitColumns.1.symm.trans rowOwn, ?_, ?_, ?_⟩, mid.admission,
      moves_of_effects expired.effects, row, stored, rowNamed, started.granted⟩
    · rw [committed]
      exact ⟨_, (mid.admission.mem_rewriteRequest stored _ _).mpr (Or.inr rfl), rowNamed, rfl,
        unexpired, matching, repeats⟩
    · rw [committed]
      exact started.authority
    · rw [steady.1, steady.2, governs.circuit, governs.probe]
      cases circuit : state.circuitState with
      | «open» => exact absurd circuit started.notOpen
      | closed => exact Or.inl rfl
      | halfOpen => exact Or.inr ⟨rfl, (started.probe circuit).symm⟩
    · intro global
      rw [committed]
      exact resolved_of_dispatch stored (rowOwn ▸ started.resolved global)

end ProviderAdmissionKernel

namespace AdmissionSystem

open ProviderAdmissionKernel

variable {sha : Sha256} {system : AdmissionSystem} {action : AdmissionAction}

/-! ## Steps -/

/-- What every reachable system keeps for the transport gate. -/
structure GateInvariant (sha : Sha256) (system : AdmissionSystem) : Prop where
  /-- Kernels and pending calls are sound. -/
  sound : Sound sha system
  /-- Capacity is within bounds. -/
  capacity : CapacityInvariant system.db.admission
  /-- Requests name stored policies of their providers. -/
  named : PolicyNamed system.db.admission
  /-- Tokens are drawn and distinct. -/
  tokens : TokenInvariant system.db

/-- A new system keeps it. -/
theorem gateInvariant_initial : GateInvariant sha .initial where
  sound := sound_initial
  capacity := capacityInvariant_initial
  named := by
    intro row member
    simp [initial, RuntimeDb.initial, AdmissionTables.initial] at member
  tokens := by
    constructor <;> simp [initial, RuntimeDb.initial, AdmissionTables.initial]

/-- Every step keeps it. -/
theorem gateInvariant_step (inv : GateInvariant sha system) (action : AdmissionAction) :
    GateInvariant sha (step sha system action) where
  sound := sound_step inv.sound action
  capacity := step_invariant (fun db => CapacityInvariant db.admission)
    (fun _ _ _ _ _ entitled held effect => capacity_effect held entitled effect)
    inv.sound inv.capacity action
  named := step_invariant (fun db => PolicyNamed db.admission)
    (fun _ _ _ _ _ entitled held effect => policyNamed_of_effect effect entitled held)
    inv.sound inv.named action
  tokens := step_invariant TokenInvariant
    (fun _ _ _ _ _ _ held effect => tokenInvariant_of_effect effect held)
    inv.sound inv.tokens action

/-- The step starts the transport of a request. -/
def BeginsTransport (sha : Sha256) (x : Machine.Step AdmissionSystem AdmissionAction)
    (requestId : Uuid) : Prop :=
  ∃ call clocks result permit request value, Commits sha x.before x.action call clocks result ∧
    call.call = .beginTransport permit request ∧ result.2 = .ok value ∧
    permit.requestId = requestId

/-- The step draws a fencing token for a request. -/
def DrawsToken (x : Machine.Step AdmissionSystem AdmissionAction) (requestId : Uuid)
    (token : Nat) : Prop :=
  (∃ next ∈ x.after.db.admission.requests.rows, next.requestId = requestId ∧
    next.fencingToken = some token) ∧
  ∀ row ∈ x.before.db.admission.requests.rows, row.requestId = requestId →
    row.fencingToken ≠ some token

/-- The gate of a committed start, and the grant it found. -/
theorem gate_of_commits (inv : GateInvariant sha system) {call : PendingCall}
    {clocks : ClockReadings} {result : Committed RuntimeDb CallResult}
    {permit : ProviderAdmissionPermit} {request : ProviderAdmissionRequest} {value : CallResult}
    (commits : Commits sha system action call clocks result)
    (asked : call.call = .beginTransport permit request) (succeeded : result.2 = .ok value) :
    Gate sha call.kernel result.1 clocks permit request ∧
      ∃ mid, RequestsMove system.db.admission mid ∧ ∃ row ∈ mid.requests.rows,
        row.requestId = permit.requestId ∧ row.state = .granted := by
  obtain ⟨member, done⟩ := commits.transacted
  have known := inv.sound.known _ (inv.sound.pending call member).1
  rw [asked] at done
  obtain ⟨inner, committed, rfl⟩ := except_map_eq_ok.mp done
  have returned : inner.2 = .ok () := by
    simp only [reported] at succeeded
    cases outcome : inner.2 with
    | ok returned => rfl
    | error error =>
      rw [outcome] at succeeded
      exact absurd succeeded (by simp [Except.map])
  exact gate_of_beginTransport inv.capacity inv.named known committed returned

/-- A started transport has its request started afterwards. -/
theorem started_of_begins (inv : GateInvariant sha system) {requestId : Uuid}
    (begins : BeginsTransport sha ⟨system, action, step sha system action⟩ requestId) :
    ∃ row ∈ (step sha system action).db.admission.requests.rows, row.requestId = requestId ∧
      row.state.started = true := by
  obtain ⟨call, clocks, result, permit, request, value, commits, asked, succeeded, rfl⟩ := begins
  obtain ⟨row, stored, named, dispatched, _⟩ := (gate_of_commits inv commits asked succeeded).1.granted
  refine ⟨row, commits.db ▸ stored, named, ?_⟩
  rw [dispatched]
  rfl

/-- A request that has started its transport starts no other. -/
theorem not_begins_of_started (inv : GateInvariant sha system) {requestId : Uuid}
    (started : ∃ row ∈ system.db.admission.requests.rows, row.requestId = requestId ∧
      row.state.started = true) :
    ¬BeginsTransport sha ⟨system, action, step sha system action⟩ requestId := by
  rintro ⟨call, clocks, result, permit, request, value, commits, asked, succeeded, rfl⟩
  obtain ⟨row, stored, named, isStarted⟩ := started
  obtain ⟨_, mid, moves, next, nextStored, nextNamed, granted⟩ :=
    gate_of_commits inv commits asked succeeded
  have path := (moves.next_of_stored stored nextStored (nextNamed.trans named.symm)).2
  have still := started_of_lifecycle path isStarted
  rw [granted] at still
  exact absurd still (by decide)

/-- A started request stays started. -/
theorem started_step (inv : GateInvariant sha system) {requestId : Uuid}
    (started : ∃ row ∈ system.db.admission.requests.rows, row.requestId = requestId ∧
      row.state.started = true) :
    ∃ row ∈ (step sha system action).db.admission.requests.rows, row.requestId = requestId ∧
      row.state.started = true := by
  obtain ⟨row, stored, named, isStarted⟩ := started
  obtain ⟨next, member, same, path⟩ := (moves_step inv.sound action).kept row stored
  have nextNamed : next.requestId = row.requestId := congrArg (·.requestId) same
  exact ⟨next, member, nextNamed.trans named, started_of_lifecycle path isStarted⟩

/-- The counter never falls. -/
theorem counter_step (sound : Sound sha system) (action : AdmissionAction) :
    system.db.fencingCounter ≤ (step sha system action).db.fencingCounter :=
  step_invariant (fun db => system.db.fencingCounter ≤ db.fencingCounter)
    (fun _ _ _ _ _ _ held effect => held.trans (counter_of_effect effect).1) sound (le_refl _)
    action

/-- A token drawn in a step is the counter it leaves, above the counter it met. -/
theorem token_step (inv : GateInvariant sha system) {requestId : Uuid} {token : Nat}
    (draws : DrawsToken ⟨system, action, step sha system action⟩ requestId token) :
    system.db.fencingCounter < token ∧ token = (step sha system action).db.fencingCounter := by
  obtain ⟨⟨next, member, rfl, drawn⟩, new⟩ := draws
  -- Without a grant no token is drawn.
  have notOld : ¬∃ row ∈ system.db.admission.requests.rows, row.requestId = next.requestId ∧
      row.fencingToken = some token := fun ⟨row, held, named, set⟩ => new row held named set
  rcases step_cases sha system action with same | ⟨kernel, provider, kind, free, effect⟩ |
      ⟨call, clocks, result, commits⟩
  · exact absurd ⟨next, same ▸ member, rfl, drawn⟩ notOld
  · have plain : .grant ∉ [kind] := by
      rw [List.mem_singleton]
      rintro rfl
      exact absurd free (by decide)
    exact absurd ((tokens_of_effects (Effects.single (List.mem_singleton.mpr rfl) effect) plain).2
      next member token drawn) notOld
  · obtain ⟨pending, done⟩ := commits.transacted
    have prepared := (inv.sound.pending call pending).2
    rw [commits.db] at member ⊢
    by_cases grants : .grant ∈ call.call.kinds
    · obtain ⟨request, ttlSeconds, asked⟩ : ∃ request ttlSeconds,
          call.call = .tryAdmit request ttlSeconds := by
        cases asked : call.call <;> simp_all [KernelCall.kinds]
      rw [asked] at done prepared
      obtain ⟨inner, committed, rfl⟩ := except_map_eq_ok.mp done
      obtain ⟨before, mid, expired, outcome⟩ := tryAdmit_eq_ok prepared committed
      have early := tokens_of_effects expired.effects (by decide)
      have toMid : ∀ row ∈ mid.admission.requests.rows, row.requestId = next.requestId →
          row.fencingToken ≠ some token := by
        intro row held named set
        obtain ⟨old, oldHeld, oldNamed, oldSet⟩ := early.2 row held token set
        exact notOld ⟨old, oldHeld, oldNamed.trans named, oldSet⟩
      rcases outcome with unchanged | ⟨ready, state, row, considered, decided⟩
      · exact absurd drawn (toMid next (unchanged ▸ member) rfl)
      · have toReady : mid.fencingCounter ≤ ready.fencingCounter ∧
            ∀ row ∈ ready.admission.requests.rows, row.requestId = next.requestId →
              row.fencingToken ≠ some token := by
          rcases considered.inserted with rfl | ⟨_, enqueued⟩
          · exact ⟨le_refl _, toMid⟩
          · have later := tokens_of_effects (Effects.single (List.mem_singleton.mpr rfl) enqueued)
              (by decide)
            refine ⟨later.1, fun row held named set => ?_⟩
            obtain ⟨old, oldHeld, oldNamed, oldSet⟩ := later.2 row held token set
            exact toMid old oldHeld (oldNamed.trans named) oldSet
        rcases decided with ⟨same, _⟩ | ⟨_, granted⟩
        · exact absurd drawn (toReady.2 next (same ▸ member) rfl)
        · rcases token_of_effect granted member drawn with ⟨old, held, named, set⟩ | ⟨_, isNext⟩
          · exact absurd set (toReady.2 old held named)
          · have raised := (counter_of_effect granted).2 rfl
            have below := early.1
            have between := toReady.1
            simp only [reported]
            omega
    · obtain ⟨provider, _, mid, first, second⟩ := transact_effects prepared done
      obtain ⟨old, held, named, set⟩ := (tokens_of_effects second grants).2 next member token drawn
      obtain ⟨older, olderHeld, olderNamed, olderSet⟩ :=
        (tokens_of_effects first grants).2 old held token set
      exact absurd ⟨older, olderHeld, olderNamed.trans named, olderSet⟩ notOld

/-! ## Runs -/

/-- What one step may do to requests and grants. -/
structure TransportStep (sha : Sha256) (x : Machine.Step AdmissionSystem AdmissionAction) :
    Prop where
  /-- Every request moves along its graph; a new one starts waiting. -/
  moves : RequestsMove x.before.db.admission x.after.db.admission
  /-- A successful start passes the gate in the database it commits to. -/
  gate : ∀ call clocks result permit request value,
    Commits sha x.before x.action call clocks result →
    call.call = .beginTransport permit request → result.2 = .ok value →
    Gate sha call.kernel x.after.db clocks permit request
  /-- At most one request draws a token. -/
  alone : ∀ left leftToken right rightToken, DrawsToken x left leftToken →
    DrawsToken x right rightToken → left = right ∧ leftToken = rightToken
  /-- No two requests hold one token. -/
  tokens : ∀ left ∈ x.after.db.admission.requests.rows,
    ∀ right ∈ x.after.db.admission.requests.rows, left.fencingToken ≠ none →
      left.fencingToken = right.fencingToken → left.requestId = right.requestId

/-- In every run, each step moves the requests along their graph and starts a transport through
the gate alone; no request starts twice; and of two grants the later has the greater token. -/
theorem transport_gate (sha : Sha256) (actions : List AdmissionAction) :
    (∀ x ∈ (machine sha).steps .initial actions, TransportStep sha x) ∧
    ((machine sha).steps .initial actions).Pairwise (fun x y =>
      (∀ requestId, BeginsTransport sha x requestId → ¬BeginsTransport sha y requestId) ∧
      (∀ earlier earlierToken later laterToken, DrawsToken x earlier earlierToken →
        DrawsToken y later laterToken → earlierToken < laterToken)) := by
  have keep : ∀ system action, GateInvariant sha system → True →
      GateInvariant sha ((machine sha).step system action) :=
    fun _ action held _ => gateInvariant_step held action
  have free : (machine sha).Obeys (fun _ _ => True) .initial actions :=
    (machine sha).obeys_of_forall (fun _ _ => trivial) _ _
  constructor
  · intro x member
    obtain ⟨inv, _, after⟩ :=
      (machine sha).steps_invariant keep gateInvariant_initial free x member
    obtain ⟨system, action, next⟩ := x
    have next_eq : next = step sha system action := after
    subst next_eq
    refine ⟨moves_step inv.sound action, ?_, ?_, (gateInvariant_step inv action).tokens.distinct⟩
    · intro call clocks result permit request value commits asked succeeded
      have gate := (gate_of_commits inv commits asked succeeded).1
      exact commits.db ▸ gate
    · intro left leftToken right rightToken leftDraws rightDraws
      have leftIs := (token_step inv leftDraws).2
      have rightIs := (token_step inv rightDraws).2
      have same : leftToken = rightToken := leftIs.trans rightIs.symm
      obtain ⟨⟨leftRow, leftHeld, leftNamed, leftSet⟩, _⟩ := leftDraws
      obtain ⟨⟨rightRow, rightHeld, rightNamed, rightSet⟩, _⟩ := rightDraws
      have one := (gateInvariant_step inv action).tokens.distinct leftRow leftHeld rightRow
        rightHeld (by rw [leftSet]; simp) (by rw [leftSet, rightSet, same])
      exact ⟨leftNamed.symm.trans (one.trans rightNamed), same⟩
  · refine (machine sha).steps_pairwise keep gateInvariant_initial free
      (fun x system =>
        (∀ requestId, BeginsTransport sha x requestId → ∃ row ∈ system.db.admission.requests.rows,
          row.requestId = requestId ∧ row.state.started = true) ∧
        ∀ requestId token, DrawsToken x requestId token → token ≤ system.db.fencingCounter)
      ?_ ?_ ?_
    · intro system action inv _
      exact ⟨fun _ begins => started_of_begins inv begins,
        fun _ _ draws => (token_step inv draws).2.le⟩
    · intro x system action inv _ recorded
      exact ⟨fun requestId begins => started_step inv (recorded.1 requestId begins),
        fun requestId token draws =>
          (recorded.2 requestId token draws).trans (counter_step inv.sound action)⟩
    · intro x system action inv _ recorded
      refine ⟨fun requestId begins => not_begins_of_started inv (recorded.1 requestId begins), ?_⟩
      intro earlier earlierToken later laterToken earlierDraws laterDraws
      exact (recorded.2 earlier earlierToken earlierDraws).trans_lt (token_step inv laterDraws).1

end AdmissionSystem
end Macr
