import Macr.ProviderAdmission.System

/-!
# Capacity safety

The stored unit count of a project is the number of its requests that hold capacity, a provider's
active requests stay within the target in force, and a project's within the cap of the policy in
force. Each effect keeps all of it together; a run keeps it because every step is effects of a
kernel whose policy is stored.
-/

namespace Macr

open Lib

namespace ProviderAdmissionKernel

/-! ## Counts of requests that hold capacity -/

/-- A move keeps the request's unit as it was. -/
theorem holdsCapacity_of_moves {kind : EffectKind} {before after : RequestState}
    (edge : Moves kind before after) : after.holdsCapacity = before.holdsCapacity := by
  cases edge <;> rfl

/-- A release gives a held unit back. -/
theorem holdsCapacity_of_releases {before after : RequestState} (edge : Releases before after) :
    before.holdsCapacity = true ∧ after.holdsCapacity = false := by
  cases edge <;> exact ⟨rfl, rfl⟩

/-- Rewriting a request moves its provider's count by its own change. -/
theorem activeUnits_rewriteRequest (tables : AdmissionTables) {row : RequestRow}
    (stored : row ∈ tables.requests.rows) (progress : RequestProgress) (provider : String) :
    (tables.rewriteRequest row progress).activeUnits provider +
        (if row.providerId = provider ∧ row.state.holdsCapacity then 1 else 0) =
      tables.activeUnits provider +
        (if row.providerId = provider ∧ progress.state.holdsCapacity then 1 else 0) := by
  have balance := tables.countP_rewriteRequest stored progress
    (fun other => other.providerId = provider ∧ other.state.holdsCapacity)
  simpa only [AdmissionTables.activeUnits, AdmissionTables.countRequests,
    decide_eq_true_eq] using balance

/-- Rewriting a request moves its project's count by its own change. -/
theorem projectActive_rewriteRequest (tables : AdmissionTables) {row : RequestRow}
    (stored : row ∈ tables.requests.rows) (progress : RequestProgress) (provider : String)
    (project : Digest) :
    (tables.rewriteRequest row progress).projectActive provider project +
        (if row.providerId = provider ∧ row.projectBindingDigest = project ∧
          row.state.holdsCapacity then 1 else 0) =
      tables.projectActive provider project +
        (if row.providerId = provider ∧ row.projectBindingDigest = project ∧
          progress.state.holdsCapacity then 1 else 0) := by
  have balance := tables.countP_rewriteRequest stored progress
    (fun other => other.providerId = provider ∧ other.projectBindingDigest = project ∧
      other.state.holdsCapacity)
  simpa only [AdmissionTables.projectActive, decide_eq_true_eq] using balance

/-- A project's active requests are among its provider's. -/
theorem projectActive_le_activeUnits (tables : AdmissionTables) (provider : String)
    (project : Digest) : tables.projectActive provider project ≤ tables.activeUnits provider := by
  apply List.countP_mono_left
  intro row _ counted
  simp only [decide_eq_true_eq] at counted ⊢
  exact ⟨counted.1, counted.2.2⟩

/-- The counts depend on the requests alone. -/
theorem counts_of_requests {before after : AdmissionTables}
    (requests : after.requests = before.requests) :
    after.activeUnits = before.activeUnits ∧ after.projectActive = before.projectActive := by
  constructor
  · funext provider
    rw [AdmissionTables.activeUnits, AdmissionTables.activeUnits, AdmissionTables.countRequests,
      AdmissionTables.countRequests, requests]
  · funext provider project
    rw [AdmissionTables.projectActive, AdmissionTables.projectActive, requests]

/-! ## The invariant -/

/-- The bounds in force on one control row. -/
structure WithinBounds (tables : AdmissionTables) (state : ControlRow) : Prop where
  /-- The target is at least one. -/
  positive : 1 ≤ state.effectiveTarget
  /-- Active requests stay within the target. -/
  target : tables.activeUnits state.providerId ≤ state.effectiveTarget
  /-- A half-open circuit has at most one. -/
  halfOpen : state.circuitState = .halfOpen → tables.activeUnits state.providerId ≤ 1
  /-- Each project stays within the cap of the policy in force. -/
  projectCap : ∀ row ∈ tables.policies.rows, row.policyDigest = state.policyDigest →
    ∀ project, tables.projectActive state.providerId project ≤ row.body.perProjectCap

/-- What every effect keeps of the admission tables. -/
structure CapacityInvariant (tables : AdmissionTables) : Prop where
  /-- The stored units of a project are the requests that hold them. -/
  counted : ∀ provider project,
    tables.recordedUnits provider project = tables.projectActive provider project
  /-- Every control row's bounds hold. -/
  bounded : ∀ state ∈ tables.states.rows, WithinBounds tables state
  /-- A policy digest names one stored policy. -/
  digests : ∀ left ∈ tables.policies.rows, ∀ right ∈ tables.policies.rows,
    left.policyDigest = right.policyDigest → left = right
  /-- Every control row is under a stored policy of its provider. -/
  governed : ∀ state ∈ tables.states.rows, ∃ row ∈ tables.policies.rows,
    row.policyDigest = state.policyDigest ∧ row.providerId = state.providerId
  /-- A provider with requests has a control row. -/
  started : ∀ row ∈ tables.requests.rows, ∃ state ∈ tables.states.rows,
    state.providerId = row.providerId

/-- The empty tables are within every bound. -/
theorem capacityInvariant_initial : CapacityInvariant .initial := by
  refine ⟨fun provider project => rfl, ?_, ?_, ?_, ?_⟩ <;>
    simp [AdmissionTables.initial]

/-- Bounds that hold of more requests hold of fewer. -/
theorem WithinBounds.of_le {before after : AdmissionTables} {state : ControlRow}
    (within : WithinBounds before state) (policies : after.policies = before.policies)
    (units : after.activeUnits state.providerId ≤ before.activeUnits state.providerId)
    (projects : ∀ project, after.projectActive state.providerId project ≤
      before.projectActive state.providerId project) : WithinBounds after state where
  positive := within.positive
  target := units.trans within.target
  halfOpen := fun halfOpen => units.trans (within.halfOpen halfOpen)
  projectCap := by
    rw [policies]
    exact fun row stored named project =>
      (projects project).trans (within.projectCap row stored named project)

/-- Requests keep their providers when one is rewritten. -/
theorem started_rewriteRequest {tables mid : AdmissionTables} {row : RequestRow}
    (requests : mid.requests = tables.requests) (states : mid.states = tables.states)
    (stored : row ∈ tables.requests.rows) (progress : RequestProgress)
    (started : ∀ row ∈ tables.requests.rows, ∃ state ∈ tables.states.rows,
      state.providerId = row.providerId) :
    ∀ other ∈ (mid.rewriteRequest row progress).requests.rows,
      ∃ state ∈ (mid.rewriteRequest row progress).states.rows,
        state.providerId = other.providerId := by
  intro other member
  rw [AdmissionTables.rewriteRequest_states, states]
  rcases (mid.mem_rewriteRequest (requests ▸ stored) progress other).mp member with
    ⟨held, _⟩ | rfl
  · exact started other (requests ▸ held)
  · exact started row stored

variable {sha : Sha256} {kernel : ProviderAdmissionKernel}

/-- A move keeps the invariant: no count changes. -/
theorem capacity_move {kind : EffectKind} {tables : AdmissionTables} {row : RequestRow}
    {progress : RequestProgress} (inv : CapacityInvariant tables)
    (stored : row ∈ tables.requests.rows) (edge : Moves kind row.state progress.state) :
    CapacityInvariant (tables.rewriteRequest row progress) := by
  have same := holdsCapacity_of_moves edge
  have units : ∀ provider,
      (tables.rewriteRequest row progress).activeUnits provider = tables.activeUnits provider := by
    intro provider
    have balance := activeUnits_rewriteRequest tables stored progress provider
    rw [same] at balance
    omega
  have projects : ∀ provider project,
      (tables.rewriteRequest row progress).projectActive provider project =
        tables.projectActive provider project := by
    intro provider project
    have balance := projectActive_rewriteRequest tables stored progress provider project
    rw [same] at balance
    omega
  refine ⟨?_, ?_, inv.digests, inv.governed,
    started_rewriteRequest rfl rfl stored progress inv.started⟩
  · intro provider project
    rw [projects]
    exact inv.counted provider project
  · intro state held
    exact (inv.bounded state held).of_le rfl (units _).le (fun project => (projects _ project).le)

/-- A release keeps the invariant: the stored count and the derived one fall together. -/
theorem capacity_release {tables units : AdmissionTables} {row : RequestRow}
    {progress : RequestProgress} {now : Timestamp} (inv : CapacityInvariant tables)
    (stored : row ∈ tables.requests.rows) (edge : Releases row.state progress.state)
    (decremented : tables.decrementProject row.providerId row.projectBindingDigest now =
      .ok units) : CapacityInvariant (units.rewriteRequest row progress) := by
  obtain ⟨holds, released⟩ := holdsCapacity_of_releases edge
  obtain ⟨⟨policies, states, _, requests⟩, recorded⟩ :=
    AdmissionTables.decrementProject_eq_ok decremented
  obtain ⟨unitsSame, projectsSame⟩ := counts_of_requests requests
  have held : row ∈ units.requests.rows := requests ▸ stored
  refine ⟨?_, ?_, policies ▸ inv.digests, ?_,
    started_rewriteRequest requests states stored progress inv.started⟩
  · intro provider project
    have balance := projectActive_rewriteRequest units held progress provider project
    have taken := recorded provider project
    have agreed := inv.counted provider project
    rw [projectsSame] at balance
    simp only [holds, released, and_true, Bool.false_eq_true, and_false, if_false] at balance
    have samePlace : ((provider, project) = (row.providerId, row.projectBindingDigest)) =
        (row.providerId = provider ∧ row.projectBindingDigest = project) := by
      rw [Prod.mk.injEq]
      exact propext ⟨fun same => ⟨same.1.symm, same.2.symm⟩, fun same => ⟨same.1.symm, same.2.symm⟩⟩
    simp only [samePlace] at taken
    have unchanged : (units.rewriteRequest row progress).recordedUnits provider project =
        units.recordedUnits provider project := rfl
    omega
  · intro state member
    rw [AdmissionTables.rewriteRequest_states, states] at member
    have within := inv.bounded state member
    refine within.of_le policies ?_ ?_
    · have balance := activeUnits_rewriteRequest units held progress state.providerId
      rw [unitsSame] at balance
      simp only [released, Bool.false_eq_true, and_false, if_false] at balance
      omega
    · intro project
      have balance := projectActive_rewriteRequest units held progress state.providerId project
      rw [projectsSame] at balance
      simp only [released, Bool.false_eq_true, and_false, if_false] at balance
      omega
  · rw [AdmissionTables.rewriteRequest_states, AdmissionTables.rewriteRequest_policies, states,
      policies]
    exact inv.governed

/-- An insertion keeps the invariant: a waiting request holds no capacity. -/
theorem capacity_insert {tables next : AdmissionTables} {row : RequestRow}
    (inv : CapacityInvariant tables)
    (started : ∃ state ∈ tables.states.rows, state.providerId = row.providerId)
    (waiting : row.state = .waiting) (inserted : insertRequest tables row = .ok next) :
    CapacityInvariant next := by
  simp only [insertRequest, bind_eq_ok, raiseIf_eq_ok, exists_const, require_eq_ok,
    Table.insert?_eq_some, pure_eq_ok] at inserted
  obtain ⟨_, requests, ⟨fresh, rfl⟩, rfl⟩ := inserted
  have units : ∀ provider, AdmissionTables.activeUnits
      { tables with requests := tables.requests.insert row fresh } provider =
        tables.activeUnits provider := by
    intro provider
    simp [AdmissionTables.activeUnits, AdmissionTables.countRequests, waiting,
      RequestState.holdsCapacity]
  have projects : ∀ provider project, AdmissionTables.projectActive
      { tables with requests := tables.requests.insert row fresh } provider project =
        tables.projectActive provider project := by
    intro provider project
    simp [AdmissionTables.projectActive, waiting, RequestState.holdsCapacity]
  refine ⟨?_, ?_, inv.digests, inv.governed, ?_⟩
  · intro provider project
    rw [projects]
    exact inv.counted provider project
  · intro state held
    exact (inv.bounded state held).of_le rfl (units _).le (fun project => (projects _ project).le)
  · intro other member
    rw [Table.insert_rows, List.mem_append, List.mem_singleton] at member
    rcases member with held | rfl
    · exact inv.started other held
    · exact started

/-- A grant keeps the invariant: its guards leave room for one more unit. -/
theorem capacity_grant {db : RuntimeDb} {state : ControlRow} {row : RequestRow}
    {request : ProviderAdmissionRequest} {now : Timestamp}
    (inv : CapacityInvariant db.admission) (known : PolicyKnown sha db.admission kernel.policy)
    (own : request.providerId = kernel.policy.providerId)
    (governs : Governs sha kernel db.admission state)
    (stored : row ∈ db.admission.requests.rows) (named : row.requestId = request.requestId)
    (waiting : row.state = .waiting)
    (matching : rowMatchesRequest row request (kernel.policy.policyDigest sha) = true)
    (capacity : db.admission.activeUnits kernel.policy.providerId + 1 ≤ effectiveCapacity state)
    (projectCap : db.admission.projectActive kernel.policy.providerId
      request.projectBindingDigest + 1 ≤ kernel.policy.perProjectCap) :
    CapacityInvariant (grant db state request now).admission := by
  simp only [rowMatchesRequest, decide_eq_true_eq] at matching
  obtain ⟨rowProvider, rowProject, _⟩ := matching
  have rowOwn := rowProvider.trans own
  rw [grant_admission stored named waiting]
  have after_reserve := reserved db.admission state request now
  generalize reserve db.admission state request now = mid at after_reserve
  obtain ⟨policies, _, requests, recorded, states, kept, _⟩ := after_reserve
  obtain ⟨unitsSame, projectsSame⟩ := counts_of_requests requests
  have held : row ∈ mid.requests.rows := requests ▸ stored
  have unitsAfter : ∀ provider, (mid.rewriteRequest row
      (row.toRequestProgress.granted (db.fencingCounter + 1) now)).activeUnits provider =
        db.admission.activeUnits provider +
          (if kernel.policy.providerId = provider then 1 else 0) := by
    intro provider
    have balance := activeUnits_rewriteRequest mid held
      (row.toRequestProgress.granted (db.fencingCounter + 1) now) provider
    rw [unitsSame] at balance
    simpa [waiting, RequestState.holdsCapacity, RequestProgress.granted, rowOwn] using balance
  have projectsAfter : ∀ provider project, (mid.rewriteRequest row
      (row.toRequestProgress.granted (db.fencingCounter + 1) now)).projectActive provider project =
        db.admission.projectActive provider project +
          (if kernel.policy.providerId = provider ∧ request.projectBindingDigest = project
            then 1 else 0) := by
    intro provider project
    have balance := projectActive_rewriteRequest mid held
      (row.toRequestProgress.granted (db.fencingCounter + 1) now) provider project
    rw [projectsSame] at balance
    simpa [waiting, RequestState.holdsCapacity, RequestProgress.granted, rowOwn, rowProject]
      using balance
  have governing := inv.bounded state governs.stored
  refine ⟨?_, ?_, policies ▸ inv.digests, ?_, ?_⟩
  · intro provider project
    have agreed := inv.counted provider project
    have place : ((provider, project) = (request.providerId, request.projectBindingDigest)) =
        (kernel.policy.providerId = provider ∧ request.projectBindingDigest = project) := by
      rw [Prod.mk.injEq, own]
      exact propext ⟨fun same => ⟨same.1.symm, same.2.symm⟩, fun same => ⟨same.1.symm, same.2.symm⟩⟩
    have unchanged : (mid.rewriteRequest row
        (row.toRequestProgress.granted (db.fencingCounter + 1) now)).recordedUnits provider project =
          mid.recordedUnits provider project := rfl
    rw [unchanged, recorded, projectsAfter, agreed]
    simp only [place]
  · intro after member
    obtain ⟨before, beforeHeld, columns⟩ := states after member
    have provider : after.providerId = before.providerId := by rw [columns]
    have policyDigest : after.policyDigest = before.policyDigest := by rw [columns]
    have target : after.effectiveTarget = before.effectiveTarget := by rw [columns]
    have circuit : after.circuitState = before.circuitState := by rw [columns]
    have within := inv.bounded before beforeHeld
    by_cases same : before.providerId = kernel.policy.providerId
    · -- The control row of the grant's own provider.
      have equal : before = state := db.admission.states.eq_of_key beforeHeld governs.stored
        (same.trans governs.provider.symm)
      subst equal
      have room : db.admission.activeUnits kernel.policy.providerId + 1 ≤
          before.effectiveTarget ∧ (before.circuitState = .halfOpen →
            db.admission.activeUnits kernel.policy.providerId + 1 ≤ 1) := by
        have positive := within.positive
        unfold effectiveCapacity at capacity
        split at capacity
        · exact ⟨by omega, fun _ => capacity⟩
        · rename_i notHalfOpen
          exact ⟨capacity, fun halfOpen => absurd halfOpen notHalfOpen⟩
      refine ⟨target ▸ within.positive, ?_, ?_, ?_⟩
      · rw [unitsAfter, provider, same, target, if_pos rfl]
        exact room.1
      · intro halfOpen
        rw [unitsAfter, provider, same, if_pos rfl]
        exact room.2 (circuit ▸ halfOpen)
      · intro policy policyHeld digest project
        rw [projectsAfter, provider, same]
        rw [policyDigest] at digest
        rw [AdmissionTables.rewriteRequest_policies, policies] at policyHeld
        by_cases here : request.projectBindingDigest = project
        · subst here
          obtain ⟨knownRow, knownHeld, body, _, knownDigest⟩ := known
          have equalPolicy : policy = knownRow := inv.digests policy policyHeld knownRow knownHeld
            (digest.trans (governs.policyDigest.trans knownDigest.symm))
          rw [equalPolicy, body]
          simpa using projectCap
        · simp only [here, and_false, if_false, Nat.add_zero]
          have bound := within.projectCap policy policyHeld digest project
          rwa [same] at bound
    · -- Another provider's control row.
      have other : ¬kernel.policy.providerId = after.providerId := by
        rw [provider]
        exact Ne.symm same
      refine ⟨target ▸ within.positive, ?_, ?_, ?_⟩
      · rw [unitsAfter, if_neg other, provider, target]
        exact within.target
      · intro halfOpen
        rw [unitsAfter, if_neg other, provider]
        exact within.halfOpen (circuit ▸ halfOpen)
      · intro policy policyHeld digest project
        rw [projectsAfter, if_neg (fun both => other both.1), provider]
        rw [AdmissionTables.rewriteRequest_policies, policies] at policyHeld
        exact within.projectCap policy policyHeld (policyDigest ▸ digest) project
  · intro after member
    obtain ⟨before, beforeHeld, columns⟩ := states after member
    obtain ⟨policy, policyHeld, digest, policyProvider⟩ := inv.governed before beforeHeld
    rw [AdmissionTables.rewriteRequest_policies, policies, columns]
    exact ⟨policy, policyHeld, digest, policyProvider⟩
  · intro other member
    have fromBefore : ∃ before ∈ db.admission.states.rows,
        before.providerId = other.providerId := by
      rcases (mid.mem_rewriteRequest held _ other).mp member with ⟨otherHeld, _⟩ | rfl
      · exact inv.started other (requests ▸ otherHeld)
      · exact inv.started row stored
    obtain ⟨before, beforeHeld, provider⟩ := fromBefore
    obtain ⟨after, afterHeld, columns⟩ := kept before beforeHeld
    exact ⟨after, afterHeld, by rw [columns]; exact provider⟩

/-- Storing a policy keeps the invariant: a new policy governs nothing yet. -/
theorem capacity_policy {tables mid : AdmissionTables} {policy : ProviderAdmissionPolicy}
    (inv : CapacityInvariant tables) (known : PolicyStored sha policy tables mid) :
    CapacityInvariant mid := by
  obtain ⟨_, others, kept, states, _, projects, requests⟩ := known
  obtain ⟨unitsSame, projectsSame⟩ := counts_of_requests requests
  refine ⟨?_, ?_, ?_, ?_, ?_⟩
  · intro provider project
    rw [AdmissionTables.recordedUnits, AdmissionTables.project?, projects, projectsSame]
    exact inv.counted provider project
  · intro row member
    rw [states] at member
    have old := inv.bounded row member
    refine ⟨old.positive, unitsSame ▸ old.target, unitsSame ▸ old.halfOpen, ?_⟩
    intro governing held digest project
    rw [projectsSame]
    rcases others governing held with earlier | ⟨_, _, _, _, unused⟩
    · exact old.projectCap governing earlier digest project
    · obtain ⟨current, currentHeld, currentDigest, _⟩ := inv.governed row member
      exact absurd (currentDigest.trans digest.symm) (unused current currentHeld)
  · intro left leftHeld right rightHeld digest
    rcases others left leftHeld with leftBefore | ⟨_, leftProvider, leftRevision, _, leftUnused⟩
    · rcases others right rightHeld with rightBefore | ⟨_, _, _, _, rightUnused⟩
      · exact inv.digests left leftBefore right rightBefore digest
      · exact absurd digest (rightUnused left leftBefore)
    · rcases others right rightHeld with rightBefore | ⟨_, rightProvider, rightRevision, _, _⟩
      · exact absurd digest.symm (leftUnused right rightBefore)
      · refine mid.policies.eq_of_key leftHeld rightHeld ?_
        rw [PolicyRow.key, PolicyRow.key, leftProvider, rightProvider, leftRevision, rightRevision]
  · intro row member
    rw [states] at member
    obtain ⟨current, held, digest, same⟩ := inv.governed row member
    exact ⟨current, kept current held, digest, same⟩
  · intro row member
    rw [requests] at member
    rw [states]
    exact inv.started row member

/-- A known policy's digest names it alone. -/
theorem body_of_policyDigest {tables : AdmissionTables} {policy : ProviderAdmissionPolicy}
    (inv : CapacityInvariant tables) (known : PolicyKnown sha tables policy) :
    ∀ row ∈ tables.policies.rows, row.policyDigest = policy.policyDigest sha →
      row.body = policy := by
  intro row held digest
  obtain ⟨stored, storedHeld, body, _, storedDigest⟩ := known
  rw [inv.digests row held stored storedHeld (digest.trans storedDigest.symm)]
  exact body

/-- A receipt keeps the invariant where the projection it leaves is within bounds. -/
theorem capacity_appended {tables after : AdmissionTables} {state : ControlRow}
    {change : ControlChange} {now : Timestamp} {policy : ProviderAdmissionPolicy}
    (inv : CapacityInvariant tables) (stored : state ∈ tables.states.rows)
    (provider : state.providerId = policy.providerId) (known : PolicyKnown sha tables policy)
    (appended : Appended sha tables (kernel.nextBody sha (some state) change now policy) after)
    (within : WithinBounds after
      (moveProjection sha (kernel.nextBody sha (some state) change now policy) state)) :
    CapacityInvariant after := by
  obtain ⟨unitsSame, projectsSame⟩ := counts_of_requests appended.requests
  -- A control row is another provider's, as it was, or the moved one.
  have rows : ∀ row ∈ after.states.rows, row ∈ tables.states.rows ∨
      row = moveProjection sha (kernel.nextBody sha (some state) change now policy) state := by
    intro row member
    rw [appended.states, Table.mem_update] at member
    obtain ⟨old, held, rfl⟩ := member
    by_cases same : old.providerId = policy.providerId
    · have equal := tables.states.eq_of_key held stored (same.trans provider.symm)
      subst equal
      exact Or.inr (by simp [nextBody, same])
    · refine Or.inl ?_
      simpa only [nextBody, same, decide_false, Bool.false_eq_true, if_false] using held
  refine ⟨?_, ?_, appended.policies ▸ inv.digests, ?_, ?_⟩
  · intro provider project
    rw [AdmissionTables.recordedUnits, AdmissionTables.project?, appended.projects, projectsSame]
    exact inv.counted provider project
  · intro row member
    rcases rows row member with held | rfl
    · exact (inv.bounded row held).of_le appended.policies (by rw [unitsSame])
        (fun project => by rw [projectsSame])
    · exact within
  · intro row member
    rw [appended.policies]
    rcases rows row member with held | rfl
    · exact inv.governed row held
    · obtain ⟨policyRow, policyHeld, _, policyProvider, policyDigest⟩ := known
      exact ⟨policyRow, policyHeld, policyDigest, policyProvider.trans provider.symm⟩
  · intro row member
    rw [appended.requests] at member
    obtain ⟨old, held, same⟩ := inv.started row member
    rw [appended.states]
    exact ⟨_, Table.mem_update_of_mem tables.states _ _ _ held, by split <;> exact same⟩

/-- An idle provider holds no capacity. -/
theorem activeUnits_of_idle {tables : AdmissionTables} {provider : String}
    (idle : ∀ row ∈ tables.requests.rows, row.providerId = provider →
      activeOrWaiting row.state = false) : tables.activeUnits provider = 0 := by
  apply List.countP_eq_zero.mpr
  intro row stored counted
  simp only [decide_eq_true_eq] at counted
  have pending := idle row stored counted.1
  simp [activeOrWaiting, counted.2] at pending

/-- The bounds of the row a receipt under the kernel's own policy leaves. -/
theorem within_moved {tables after : AdmissionTables} {state : ControlRow}
    {change : ControlChange} {now : Timestamp} (inv : CapacityInvariant tables)
    (governs : Governs sha kernel tables state) (positive : 1 ≤ change.effectiveTarget)
    (units : tables.activeUnits kernel.policy.providerId ≤ change.effectiveTarget)
    (halfOpen : change.circuitState = .halfOpen →
      tables.activeUnits kernel.policy.providerId ≤ 1)
    (appended : Appended sha tables
      (kernel.nextBody sha (some state) change now kernel.policy) after) :
    WithinBounds after
      (moveProjection sha (kernel.nextBody sha (some state) change now kernel.policy) state) := by
  obtain ⟨unitsSame, projectsSame⟩ := counts_of_requests appended.requests
  have within := inv.bounded state governs.stored
  have provider := governs.provider
  refine ⟨positive, ?_, ?_, ?_⟩
  · rw [unitsSame, moveProjection_providerId, provider]
    exact units
  · intro opened
    rw [unitsSame, moveProjection_providerId, provider]
    exact halfOpen opened
  · intro row held digest project
    rw [appended.policies] at held
    rw [projectsSame, moveProjection_providerId]
    exact within.projectCap row held (digest.trans governs.policyDigest.symm) project

/-- Every effect of a kernel entitled to it keeps the invariant. -/
theorem capacity_effect {provider : String} {kind : EffectKind} {before after : RuntimeDb}
    (inv : CapacityInvariant before.admission) (entitled : Entitled sha kernel kind before)
    (effect : Effect sha kernel provider kind before after) :
    CapacityInvariant after.admission := by
  cases effect with
  | move stored own edge token => exact capacity_move inv stored edge
  | release stored own edge token decremented => exact capacity_release inv stored edge decremented
  | enqueue own ownPolicy governs circuit probe inserted =>
    refine capacity_insert inv ⟨_, governs.stored, ?_⟩ rfl inserted
    exact governs.provider.trans (ownPolicy.symm.trans own.symm)
  | grant own ownPolicy governs circuit probe stored named waiting matching capacity projectCap =>
    subst ownPolicy
    exact capacity_grant inv (entitled.known (by decide)) own governs stored named waiting matching capacity projectCap
  | receipt named governs stored own about target notHalfOpen stop appended =>
    have within := inv.bounded _ governs.stored
    have known := entitled.known (by rcases named with rfl | rfl <;> decide)
    refine capacity_appended inv governs.stored governs.provider known appended
      (within_moved inv governs (target ▸ within.positive) ?_
        (fun halfOpen => absurd halfOpen notHalfOpen) appended)
    rw [target, ← governs.provider]
    exact within.target
  | target governs wasClosed closed formed about idle appended =>
    have none := activeUnits_of_idle idle
    exact capacity_appended inv governs.stored governs.provider (entitled.known (by decide)) appended
      (within_moved inv governs formed.positive (by omega) (by omega) appended)
  | halfOpen governs wasOpen halfOpen target about idle appended =>
    have none := activeUnits_of_idle idle
    have within := inv.bounded _ governs.stored
    exact capacity_appended inv governs.stored governs.provider (entitled.known (by decide)) appended
      (within_moved inv governs (target ▸ within.positive) (by omega) (by omega) appended)
  | @supersede _ state successor change now mid tables governs notHalfOpen sameProvider closed
      formed about settled capacity projectCap policy appended =>
    have provider := governs.provider
    have invMid := capacity_policy inv policy
    obtain ⟨unitsSame, projectsSame⟩ :=
      counts_of_requests (appended.requests.trans policy.requests)
    refine capacity_appended invMid (policy.states ▸ governs.stored)
      (provider.trans sameProvider.symm) policy.known appended ⟨formed.positive, ?_, ?_, ?_⟩
    · rw [unitsSame, moveProjection_providerId, provider]
      exact capacity
    · intro halfOpen
      exact absurd (closed.symm.trans halfOpen) (by decide)
    · intro row held digest project
      rw [appended.policies] at held
      rw [body_of_policyDigest invMid policy.known row held digest, projectsSame,
        moveProjection_providerId, provider, ← inv.counted]
      exact projectCap project
  | @genesis _ change now mid tables absent closed formed about policy transitions states
      others =>
    obtain ⟨policies, projects, requests⟩ := others
    have invMid := capacity_policy inv policy
    obtain ⟨unitsSame, projectsSame⟩ := counts_of_requests requests
    -- The provider has no request yet, since a request needs a control row.
    have none : mid.activeUnits kernel.policy.providerId = 0 := by
      apply activeUnits_of_idle
      intro row held same
      obtain ⟨state, stateHeld, provider⟩ := invMid.started row held
      exact absurd (provider.trans same) (absent state (policy.states ▸ stateHeld))
    refine ⟨?_, ?_, policies ▸ invMid.digests, ?_, ?_⟩
    · intro provider project
      rw [AdmissionTables.recordedUnits, AdmissionTables.project?, projects, projectsSame]
      exact invMid.counted provider project
    · intro row member
      rw [states, List.mem_append, List.mem_singleton] at member
      rcases member with held | rfl
      · exact (invMid.bounded row held).of_le policies (by rw [unitsSame])
          (fun project => by rw [projectsSame])
      · have units : tables.activeUnits kernel.policy.providerId = 0 := by rw [unitsSame, none]
        refine ⟨formed.positive, by simp [firstProjection, units], by simp [firstProjection, units], ?_⟩
        intro governing _ _ project
        have below := projectActive_le_activeUnits tables kernel.policy.providerId project
        exact Nat.le_trans (units ▸ below) (Nat.zero_le _)
    · intro row member
      rw [states, List.mem_append, List.mem_singleton] at member
      rw [policies]
      rcases member with held | rfl
      · exact invMid.governed row held
      · obtain ⟨stored, storedHeld, _, provider, digest⟩ := policy.stored
        exact ⟨stored, storedHeld, digest, provider⟩
    · intro row member
      rw [requests] at member
      obtain ⟨state, held, same⟩ := invMid.started row member
      refine ⟨state, ?_, same⟩
      rw [states]
      exact List.mem_append_left _ held
  | policy policy => exact capacity_policy inv policy
  | authority => exact inv
  | token => exact inv

/-! ## Decrements never fail -/

/-- The error of a decrement that finds no unit. -/
def inconsistent : MacrError :=
  .providerAdmissionConflict "provider admission project capacity is inconsistent"

/-- A request that holds capacity can give its unit back. -/
theorem decrement_of_holding {tables : AdmissionTables} {row : RequestRow}
    (inv : CapacityInvariant tables) (stored : row ∈ tables.requests.rows)
    (holds : row.state.holdsCapacity = true) (now : Timestamp) :
    ∃ next, tables.decrementProject row.providerId row.projectBindingDigest now = .ok next := by
  apply tables.decrementProject_succeeds
  rw [inv.counted]
  exact List.countP_pos_iff.mpr ⟨row, stored, by simp [holds]⟩

/-- Validation does not touch units. -/
theorem validatedControlState_ne_inconsistent (tables : AdmissionTables)
    (policy : ProviderAdmissionPolicy) (mode : AdmissionDeploymentMode)
    (deploymentDigest : Digest) :
    validatedControlState sha tables policy mode deploymentDigest ≠ .error inconsistent := by
  simp [validatedControlState, bind_eq_error, inconsistent, pure, Except.pure]

/-- A receipt does not touch units. -/
theorem append_ne_inconsistent (tables : AdmissionTables) (state : ControlRow)
    (change : ControlChange) (now : Timestamp) (policy : ProviderAdmissionPolicy) :
    kernel.appendControlTransition sha tables (some state) change now policy ≠
      .error inconsistent := by
  refine bind_ne_error (raiseIf_ne_error (by simp [inconsistent])) fun _ _ => ?_
  refine bind_ne_error (raiseIf_ne_error (by simp [inconsistent])) fun _ _ => ?_
  refine bind_ne_error ?_ fun inserted _ => bind_ne_error ?_ fun moved _ => ?_
  · simp [insertReceipt, bind_eq_error, inconsistent, pure, Except.pure]
  · simp [writeProjection, bind_eq_error, inconsistent, pure, Except.pure]
  · exact bind_ne_error (validatedControlState_ne_inconsistent _ _ _ _) (by simp [pure, Except.pure])

/-- A stored grant is cancelled without a failing decrement. -/
theorem cancelGrantedRow_ne_inconsistent {tables : AdmissionTables} {row : RequestRow}
    (inv : CapacityInvariant tables) (stored : row ∈ tables.requests.rows) (state : ControlRow)
    (now : Timestamp) (reason : Signal) :
    kernel.cancelGrantedRow sha tables row state now reason ≠ .error inconsistent := by
  refine bind_ne_error (raiseIf_ne_error (by simp [inconsistent])) fun _ granted => ?_
  rw [raiseIf_eq_ok, not_not] at granted
  obtain ⟨next, done⟩ := decrement_of_holding inv stored (by simp [granted, RequestState.holdsCapacity]) now
  refine bind_ne_error (by simp [done]) fun _ _ => ?_
  refine bind_ne_error (raiseIf_ne_error (by simp [inconsistent])) fun _ _ => ?_
  split
  · exact bind_ne_error (append_ne_inconsistent _ _ _ _ _) (by simp [pure, Except.pure])
  · simp [pure, Except.pure]

/-- Effects of a provider whose policy is known keep the invariant. -/
theorem capacity_effects {kinds : List EffectKind} {before after : RuntimeDb}
    (inv : CapacityInvariant before.admission)
    (known : PolicyKnown sha before.admission kernel.policy)
    (effects : Effects sha kernel kernel.policy.providerId kinds before after) :
    CapacityInvariant after.admission :=
  (effects.invariant (fun db => PolicyKnown sha db.admission kernel.policy ∧
      CapacityInvariant db.admission) (fun _ _ _ _ held effect =>
    ⟨held.1.of_effect effect, capacity_effect held.2 (Or.inr held.1) effect⟩) ⟨known, inv⟩).2

/-- The tables an expiry loop has reached are within the invariant. -/
theorem capacity_expiring {db : RuntimeDb} {now : Timestamp} {state : ControlRow}
    {found : AdmissionTables × Option Uuid} {rows : List RequestRow}
    (inv : CapacityInvariant db.admission) (known : PolicyKnown sha db.admission kernel.policy)
    (expiring : Expiring sha kernel db now state found rows) : CapacityInvariant found.1 :=
  capacity_effects inv known expiring.effects

/-- Expiry raises no failing decrement. -/
theorem expire_ne_inconsistent {db : RuntimeDb} (inv : CapacityInvariant db.admission)
    (known : PolicyKnown sha db.admission kernel.policy) (now : Timestamp) :
    kernel.expire sha db.admission now ≠ .error inconsistent := by
  refine bind_ne_error (validatedControlState_ne_inconsistent _ _ _ _) fun state valid => ?_
  have governs := governs_of_validated (validatedControlState_eq_ok.mp valid)
  refine bind_ne_error ?_ fun ended _ => ?_
  · refine foldlM_ne_error (Expiring sha kernel db now state)
      (fun _ _ _ _ held turned => expireRow_keeps held turned) ?_ (expiring_start governs)
    intro found item rest held
    obtain ⟨stored, _, live⟩ := held.ahead item (List.mem_cons_self ..)
    unfold expireRow
    split
    · simp [pure, Except.pure]
    · rcases live with waiting | granted | dispatched
      · simp [waiting, pure, Except.pure]
      · rw [granted]
        exact bind_ne_error (cancelGrantedRow_ne_inconsistent
          (capacity_expiring inv known held) stored _ _ _) (by simp [pure, Except.pure])
      · simp [dispatched, pure, Except.pure]
  · obtain ⟨tables, expired⟩ := ended
    cases expired with
    | none => simp [pure, Except.pure]
    | some requestId =>
      exact bind_ne_error (append_ne_inconsistent _ _ _ _ _) (by simp [pure, Except.pure])

/-- The tables an expiry leaves are within the invariant. -/
theorem capacity_expired {db after : RuntimeDb} {now : Timestamp} {state : ControlRow}
    (inv : CapacityInvariant db.admission) (known : PolicyKnown sha db.admission kernel.policy)
    (expired : Expired sha kernel db now state after) : CapacityInvariant after.admission :=
  capacity_effects inv known expired.effects

/-- The insertion of a request touches no unit. -/
theorem insertRequest_ne_inconsistent (tables : AdmissionTables) (row : RequestRow) :
    insertRequest tables row ≠ .error inconsistent := by
  simp [insertRequest, bind_eq_error, inconsistent, pure, Except.pure]

/-- A grant adds a unit and takes none. -/
theorem grantIfServed_ne_inconsistent (db : RuntimeDb) (state : ControlRow)
    (request : ProviderAdmissionRequest) (now : Timestamp) :
    kernel.grantIfServed db state request now ≠ .error inconsistent := by
  unfold grantIfServed
  split
  · simp [commitRaise]
  · split
    · simp [commitRaise]
    · simp

/-- The only decrements of an admission are those of its expiry. -/
theorem tryAdmit_ne_inconsistent {db : RuntimeDb} (inv : CapacityInvariant db.admission)
    (known : PolicyKnown sha db.admission kernel.policy) (request : ProviderAdmissionRequest)
    (ttlSeconds : Nat) (now : Timestamp) :
    kernel.tryAdmit sha db request ttlSeconds now ≠ .error inconsistent := by
  refine bind_ne_error (expire_ne_inconsistent inv known now) fun tables _ => ?_
  refine bind_ne_error (validatedControlState_ne_inconsistent _ _ _ _) fun state _ => ?_
  split
  · simp [commitRaise]
  split
  · simp [commitRaise]
  split
  · simp [commitRaise]
  split
  · refine bind_ne_error (raiseIf_ne_error (by simp [inconsistent])) fun _ _ => ?_
    split
    · simp
    · refine bind_ne_error (raiseIf_ne_error (by simp [inconsistent])) fun _ _ => ?_
      exact grantIfServed_ne_inconsistent _ _ _ _
  · refine bind_ne_error (insertRequest_ne_inconsistent _ _) fun _ _ => ?_
    exact grantIfServed_ne_inconsistent _ _ _ _

/-- A permit that is cancelled can give its unit back. -/
theorem cancelBeforeTransport_ne_inconsistent {db : RuntimeDb}
    (inv : CapacityInvariant db.admission) (permit : ProviderAdmissionPermit) (now : Timestamp) :
    kernel.cancelBeforeTransport sha db permit now ≠ .error inconsistent := by
  refine bind_ne_error (validatedControlState_ne_inconsistent _ _ _ _) fun state _ => ?_
  refine bind_ne_error (require_ne_error (by simp [inconsistent])) fun row found => ?_
  have stored := (requirePermitRow_eq_ok.mp found).1
  refine bind_ne_error (raiseIf_ne_error (by simp [inconsistent])) fun _ _ => ?_
  exact bind_ne_error (cancelGrantedRow_ne_inconsistent inv stored _ _ _) (by simp [commit])

/-- A waiting request holds no unit to give back. -/
theorem cancelWaiting_ne_inconsistent (db : RuntimeDb) (requestId runId : Uuid)
    (now : Timestamp) : cancelWaiting db requestId runId now ≠ .error inconsistent := by
  unfold cancelWaiting
  split
  · simp [commit]
  · refine bind_ne_error (raiseIf_ne_error (by simp [inconsistent])) fun _ _ => ?_
    exact bind_ne_error (raiseIf_ne_error (by simp [inconsistent])) (by simp [commit])

/-- A refused transport start can give its unit back. -/
theorem beginTransport_ne_inconsistent {db : RuntimeDb} (inv : CapacityInvariant db.admission)
    (known : PolicyKnown sha db.admission kernel.policy) (permit : ProviderAdmissionPermit)
    (request : ProviderAdmissionRequest) (now authorityNow : Timestamp) :
    kernel.beginTransport sha db permit request now authorityNow ≠ .error inconsistent := by
  refine bind_ne_error (expire_ne_inconsistent inv known now) fun tables expired => ?_
  obtain ⟨before, outcome⟩ := expire_eq_ok expired
  have invAfter : CapacityInvariant tables := capacity_expired inv known outcome
  refine bind_ne_error (validatedControlState_ne_inconsistent _ _ _ _) fun state _ => ?_
  refine bind_ne_error (require_ne_error (by simp [inconsistent])) fun row found => ?_
  have stored : row ∈ tables.requests.rows := (requirePermitRow_eq_ok.mp found).1
  have refused : ∀ reason error, kernel.refuseTransport sha { db with admission := tables } row
      state now reason error ≠ .error inconsistent := fun reason error =>
    bind_ne_error (cancelGrantedRow_ne_inconsistent invAfter stored _ _ _) (by simp [commitRaise])
  split
  · simp [commitRaise]
  split
  · simp [commitRaise]
  split
  · simp [commitRaise]
  split
  · exact refused _ _
  split
  · exact refused _ _
  split
  · exact refused _ _
  split
  · exact refused _ _
  · simp [commit]

/-- A terminal can give its unit back. -/
theorem finish_ne_inconsistent {db : RuntimeDb} (inv : CapacityInvariant db.admission)
    (permit : ProviderAdmissionPermit) (report : TransportReport) (now : Timestamp) :
    kernel.finish sha db permit report now ≠ .error inconsistent := by
  refine bind_ne_error (validatedControlState_ne_inconsistent _ _ _ _) fun state _ => ?_
  refine bind_ne_error (require_ne_error (by simp [inconsistent])) fun row found => ?_
  have stored := (requirePermitRow_eq_ok.mp found).1
  refine bind_ne_error (raiseIf_ne_error (by simp [inconsistent])) fun _ dispatched => ?_
  rw [raiseIf_eq_ok, not_not] at dispatched
  have holds : row.state.holdsCapacity = true := by rw [dispatched]; rfl
  obtain ⟨next, done⟩ := decrement_of_holding inv stored holds now
  refine bind_ne_error ?_ fun _ _ => ?_
  · unfold releaseIfKnown
    split
    · simp
    · simp [done]
  · exact bind_ne_error (append_ne_inconsistent _ _ _ _ _) (by simp [commit])

/-- A resolved request can give its unit back. -/
theorem resolveReconciliation_ne_inconsistent {db : RuntimeDb}
    (inv : CapacityInvariant db.admission) (requestId : Uuid) (evidence : Digest)
    (now : Timestamp) :
    kernel.resolveReconciliation sha db requestId evidence now ≠ .error inconsistent := by
  refine bind_ne_error (validatedControlState_ne_inconsistent _ _ _ _) fun state _ => ?_
  refine bind_ne_error (require_ne_error (by simp [inconsistent])) fun row found => ?_
  rw [require_eq_ok, Option.filter_eq_some_iff, Table.find?_eq_some] at found
  obtain ⟨⟨stored, _⟩, uncertain⟩ := found
  have holds : row.state.holdsCapacity = true := by rw [of_decide_eq_true uncertain]; rfl
  obtain ⟨next, done⟩ := decrement_of_holding inv stored holds now
  refine bind_ne_error (by simp [done]) fun _ _ => ?_
  exact bind_ne_error (append_ne_inconsistent _ _ _ _ _) (by simp [commit])

/-- A verification refuses authorizations alone. -/
theorem verifyInTransaction_ne_inconsistent (tables : AuthorityTables) (now : Timestamp)
    (reference : AuthorizationReference) (use : AuthorityUse) :
    tables.verifyInTransaction sha now reference use ≠ .error inconsistent := by
  intro raised
  obtain ⟨message, named⟩ := AuthorityTables.verify_error raised
  simp [inconsistent] at named

/-- Consuming an authority touches no unit. -/
theorem consume_ne_inconsistent (tables : AuthorityTables) (reference : AuthorizationReference)
    (now : Timestamp) : consumeActivationAuthority tables reference now ≠ .error inconsistent := by
  simp [consumeActivationAuthority, bind_eq_error, inconsistent, pure, Except.pure]

/-- Storing a policy touches no unit. -/
theorem storePolicy_ne_inconsistent (tables : AdmissionTables) (policy : ProviderAdmissionPolicy)
    (now : Timestamp) {conflict : String}
    (other : conflict ≠ "provider admission project capacity is inconsistent") :
    storePolicy sha tables policy now conflict ≠ .error inconsistent := by
  unfold storePolicy
  split
  · refine bind_ne_error (raiseIf_ne_error (by simp [inconsistent])) fun _ _ => ?_
    exact bind_ne_error (require_ne_error (by simp [inconsistent])) (by simp [pure, Except.pure])
  · refine bind_ne_error (raiseIf_ne_error ?_) (by simp [pure, Except.pure])
    rw [inconsistent, ne_eq, MacrError.providerAdmissionConflict.injEq]
    exact other

/-- A target activation takes no unit. -/
theorem activateTarget_ne_inconsistent (db : RuntimeDb) (target : ProviderAdmissionTargetBinding)
    (reference : AuthorizationReference) (now authorityNow : Timestamp) :
    kernel.activateTarget sha db target reference now authorityNow ≠ .error inconsistent := by
  refine bind_ne_error (validatedControlState_ne_inconsistent _ _ _ _) fun state _ => ?_
  refine bind_ne_error (verifyInTransaction_ne_inconsistent _ _ _ _) fun _ _ => ?_
  refine bind_ne_error (raiseIf_ne_error (by simp [inconsistent])) fun _ _ => ?_
  refine bind_ne_error (raiseIf_ne_error (by simp [inconsistent])) fun _ _ => ?_
  refine bind_ne_error (raiseIf_ne_error (by simp [inconsistent])) fun _ _ => ?_
  refine bind_ne_error (consume_ne_inconsistent _ _ _) fun _ _ => ?_
  exact bind_ne_error (append_ne_inconsistent _ _ _ _ _) (by simp [commit])

/-- A half-open activation takes no unit. -/
theorem activateHalfOpen_ne_inconsistent (db : RuntimeDb)
    (binding : ProviderAdmissionCircuitBinding) (reference : AuthorizationReference)
    (probe : ProviderAdmissionRequest) (now probeNow authorityNow : Timestamp) :
    kernel.activateHalfOpen sha db binding reference probe now probeNow authorityNow ≠
      .error inconsistent := by
  refine bind_ne_error (validatedControlState_ne_inconsistent _ _ _ _) fun state _ => ?_
  refine bind_ne_error (verifyInTransaction_ne_inconsistent _ _ _ _) fun _ _ => ?_
  refine bind_ne_error (verifyInTransaction_ne_inconsistent _ _ _ _) fun _ _ => ?_
  refine bind_ne_error (raiseIf_ne_error (by simp [inconsistent])) fun _ _ => ?_
  refine bind_ne_error (consume_ne_inconsistent _ _ _) fun _ _ => ?_
  exact bind_ne_error (append_ne_inconsistent _ _ _ _ _) (by simp [commit])

/-- A snapshot takes no unit. -/
theorem currentSnapshot_ne_inconsistent (tables : AdmissionTables) (state : ControlRow)
    (unresolved : Nat) : kernel.currentSnapshot sha tables state unresolved ≠
      .error inconsistent := by
  unfold currentSnapshot
  split
  · refine bind_ne_error ?_ (by simp [pure, Except.pure])
    refine bind_ne_error (mapM_ne_error (fun row => ?_) _) fun _ _ => ?_
    · refine bind_ne_error (require_ne_error (by simp [inconsistent])) fun _ _ => ?_
      refine bind_ne_error (require_ne_error (by simp [inconsistent])) fun _ _ => ?_
      exact bind_ne_error (require_ne_error (by simp [inconsistent])) (by simp [pure, Except.pure])
    · exact bind_ne_error (raiseIf_ne_error (by simp [inconsistent])) (by simp [pure, Except.pure])
  · simp [pure, Except.pure]

/-- A policy transition takes no unit. -/
theorem supersedePolicy_ne_inconsistent (db : RuntimeDb)
    (binding : ProviderAdmissionPolicyTransitionBinding) (successor : ProviderAdmissionPolicy)
    (reference : AuthorizationReference) (now authorityNow : Timestamp) :
    kernel.supersedePolicy sha db binding successor reference now authorityNow ≠
      .error inconsistent := by
  refine bind_ne_error (validatedControlState_ne_inconsistent _ _ _ _) fun state _ => ?_
  refine bind_ne_error (verifyInTransaction_ne_inconsistent _ _ _ _) fun _ _ => ?_
  refine bind_ne_error (currentSnapshot_ne_inconsistent _ _ _) fun _ _ => ?_
  refine bind_ne_error (raiseIf_ne_error (by simp [inconsistent])) fun _ _ => ?_
  refine bind_ne_error (storePolicy_ne_inconsistent _ _ _ (by decide)) fun _ _ => ?_
  refine bind_ne_error (consume_ne_inconsistent _ _ _) fun _ _ => ?_
  exact bind_ne_error (append_ne_inconsistent _ _ _ _ _) (by simp [commit])

/-- No transaction of a kernel raises a failed decrement. -/
theorem transact_ne_inconsistent {db : RuntimeDb} (inv : CapacityInvariant db.admission)
    (known : PolicyKnown sha db.admission kernel.policy) (clocks : ClockReadings)
    (call : KernelCall) : kernel.transact sha db clocks call ≠ .error inconsistent := by
  cases call with
  | tryAdmit => exact except_map_ne_error (tryAdmit_ne_inconsistent inv known _ _ _)
  | beginTransport => exact except_map_ne_error (beginTransport_ne_inconsistent inv known _ _ _ _)
  | cancelBeforeTransport =>
    exact except_map_ne_error (cancelBeforeTransport_ne_inconsistent inv _ _)
  | cancelWaiting => exact except_map_ne_error (cancelWaiting_ne_inconsistent _ _ _ _)
  | finish => exact except_map_ne_error (finish_ne_inconsistent inv _ _ _)
  | resolveReconciliation =>
    exact except_map_ne_error (resolveReconciliation_ne_inconsistent inv _ _ _)
  | activateTarget => exact except_map_ne_error (activateTarget_ne_inconsistent _ _ _ _ _)
  | activateHalfOpen => exact except_map_ne_error (activateHalfOpen_ne_inconsistent _ _ _ _ _ _ _)
  | supersedePolicy => exact except_map_ne_error (supersedePolicy_ne_inconsistent _ _ _ _ _ _)

end ProviderAdmissionKernel

namespace AdmissionSystem

open ProviderAdmissionKernel

/-- Every reachable database is within the capacity invariant, and the system is sound there. -/
theorem capacityInvariant_run (sha : Sha256) (actions : List AdmissionAction) :
    Sound sha ((machine sha).run .initial actions) ∧
      CapacityInvariant ((machine sha).run .initial actions).db.admission :=
  reachable (fun db => CapacityInvariant db.admission) capacityInvariant_initial
    (fun _ _ _ _ _ entitled inv effect => capacity_effect inv entitled effect) actions

/-- In every reachable state, each provider's requests that hold capacity are within the active
target, and at most one while its circuit is half open; each project's are within the cap of the
active policy, which is stored; the stored units of a project are exactly its requests that hold
them; and no decrement of such a request fails, in any transaction of any pending call. A provider
that has a request or stored units has an active target and policy. -/
theorem capacity_safety (sha : Sha256) (actions : List AdmissionAction) :
    let system := (machine sha).run .initial actions
    (∀ row ∈ system.db.admission.requests.rows,
      ∃ state ∈ system.db.admission.states.rows, state.providerId = row.providerId) ∧
    (∀ state ∈ system.db.admission.states.rows,
      system.db.admission.activeUnits state.providerId ≤ state.effectiveTarget ∧
      (state.circuitState = .halfOpen → system.db.admission.activeUnits state.providerId ≤ 1) ∧
      ∃ policy ∈ system.db.admission.policies.rows,
        policy.policyDigest = state.policyDigest ∧ policy.providerId = state.providerId ∧
        ∀ project, system.db.admission.projectActive state.providerId project ≤
          policy.body.perProjectCap) ∧
    (∀ row ∈ system.db.admission.projects.rows, row.activeUnits =
      system.db.admission.projectActive row.providerId row.projectBindingDigest) ∧
    (∀ row ∈ system.db.admission.requests.rows, row.state.holdsCapacity →
      ∀ now, ∃ next, system.db.admission.decrementProject row.providerId
        row.projectBindingDigest now = .ok next) ∧
    (∀ call ∈ system.pending, ∀ clocks,
      call.kernel.transact sha system.db clocks call.call ≠ .error inconsistent) := by
  intro system
  obtain ⟨sound, inv⟩ := capacityInvariant_run sha actions
  refine ⟨inv.started, ?_, ?_, ?_, ?_⟩
  · intro state held
    have within := inv.bounded state held
    obtain ⟨policy, stored, digest, provider⟩ := inv.governed state held
    exact ⟨within.target, within.halfOpen, policy, stored, digest, provider,
      within.projectCap policy stored digest⟩
  · intro row held
    have counted := inv.counted row.providerId row.projectBindingDigest
    rw [AdmissionTables.recordedUnits, AdmissionTables.project?,
      system.db.admission.projects.find?_self held] at counted
    exact counted
  · intro row held holds now
    exact decrement_of_holding inv held holds now
  · intro call member clocks
    exact transact_ne_inconsistent inv (sound.known _ (sound.pending call member).1) clocks call.call

end AdmissionSystem
end Macr
