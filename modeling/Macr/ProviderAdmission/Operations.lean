import Macr.ProviderAdmission.Effects

/-!
# Operations as sequences of effects

One specification for each operation of the kernel: a committed transaction is a sequence of
effects of the kinds named in its statement. The loop of `_expire` is the only recursion; its
invariant follows the requests still ahead and the control row the loop was started with.
-/

namespace Macr

open Lib Relation

namespace ProviderAdmissionKernel

variable {sha : Sha256} {kernel : ProviderAdmissionKernel}

/-! ## One request -/

/-- One request was rewritten, not into a grant, and no control row changed. -/
structure Touched (before after : AdmissionTables) (row : RequestRow) : Prop where
  /-- Control rows stay. -/
  states : after.states = before.states
  /-- Other requests stay. -/
  others : ∀ other ∈ before.requests.rows, other.requestId ≠ row.requestId →
    other ∈ after.requests.rows
  /-- The request keeps its identity. -/
  itself : ∃ next ∈ after.requests.rows,
    next.requestId = row.requestId ∧ next.providerId = row.providerId
  /-- Every grant is another request, as it was. -/
  grants : ∀ next ∈ after.requests.rows, next.state = .granted →
    next ∈ before.requests.rows ∧ next.requestId ≠ row.requestId

/-- Rewriting a request touches it. -/
theorem touched_rewriteRequest (before : AdmissionTables) {mid : AdmissionTables} {row : RequestRow}
    (states : mid.states = before.states) (requests : mid.requests = before.requests)
    (stored : row ∈ before.requests.rows) {progress : RequestProgress}
    (notGranted : progress.state ≠ .granted) :
    Touched before (mid.rewriteRequest row progress) row where
  states := states
  others := by
    intro other held different
    exact (mid.mem_rewriteRequest (requests ▸ stored) progress other).mpr
      (Or.inl ⟨requests ▸ held, different⟩)
  itself := ⟨{ row with toRequestProgress := progress },
    (mid.mem_rewriteRequest (requests ▸ stored) progress _).mpr (Or.inr rfl), rfl, rfl⟩
  grants := by
    intro next member granted
    rcases (mid.mem_rewriteRequest (requests ▸ stored) progress next).mp member with
      ⟨held, different⟩ | rfl
    · exact ⟨requests ▸ held, different⟩
    · exact absurd granted notGranted

/-- An update by identifier and state rewrites the stored request. -/
theorem updateRequests_rowIn {tables : AdmissionTables} {row : RequestRow}
    (stored : row ∈ tables.requests.rows) {state : RequestState} (inState : row.state = state)
    (assign : RequestProgress → RequestProgress) :
    tables.updateRequests (rowIn row.requestId state) assign =
      tables.rewriteRequest row (assign row.toRequestProgress) := by
  apply tables.updateRequests_stored stored
  · simp [rowIn, inState]
  · intro other met
    simp only [rowIn, decide_eq_true_eq] at met
    exact met.1

/-- An update by identifier rewrites the stored request. -/
theorem updateRequests_requestId {tables : AdmissionTables} {row : RequestRow}
    (stored : row ∈ tables.requests.rows) (assign : RequestProgress → RequestProgress) :
    tables.updateRequests (fun other => other.requestId = row.requestId) assign =
      tables.rewriteRequest row (assign row.toRequestProgress) := by
  apply tables.updateRequests_stored stored
  · simp
  · intro other met
    simpa using met

/-- A release is not a grant. -/
theorem notGranted_of_releases {before after : RequestState} (edge : Releases before after) :
    after ≠ .granted := by
  cases edge <;> decide

/-- A decrement and the rewrite that releases the unit are one effect. -/
theorem release_effect {db : RuntimeDb} {row : RequestRow} {progress : RequestProgress}
    {mid : AdmissionTables} {now : Timestamp} (stored : row ∈ db.admission.requests.rows)
    (edge : Releases row.state progress.state)
    (token : progress.fencingToken = row.fencingToken)
    (decremented : db.admission.decrementProject row.providerId row.projectBindingDigest now =
      .ok mid) :
    Effect sha kernel row.providerId .release db
        { db with admission := mid.rewriteRequest row progress } ∧
      Touched db.admission (mid.rewriteRequest row progress) row := by
  obtain ⟨⟨_, states, _, requests⟩, _⟩ := AdmissionTables.decrementProject_eq_ok decremented
  exact ⟨Effect.release stored rfl edge token decremented,
    touched_rewriteRequest _ states requests stored (notGranted_of_releases edge)⟩

/-- A receipt about a stored request, appended after a governing row, is one effect. -/
theorem receipt_effect (kind : EffectKind) (db : RuntimeDb) (row : RequestRow)
    {state : ControlRow} {change : ControlChange} {now : Timestamp}
    {result : AdmissionTables × ControlRow} (named : kind = .signal ∨ kind = .terminal)
    (governs : Governs sha kernel db.admission state)
    (stored : row ∈ db.admission.requests.rows) (about : change.requestId = some row.requestId)
    (target : change.effectiveTarget = state.effectiveTarget)
    (noProbe : change.halfOpenProbeRequestDigest = none)
    (stop : state.circuitState = .open ∨ (kind = .signal ∧ state.circuitState = .halfOpen) →
      change.circuitState = .halfOpen ∨ change.circuitState = .open)
    (appended : kernel.appendControlTransition sha db.admission (some state) change now
      kernel.policy = .ok result) :
    Effect sha kernel row.providerId kind db { db with admission := result.1 } := by
  obtain ⟨_, moved, formed, _⟩ := appendControlTransition_eq_ok appended
  have notHalfOpen : change.circuitState ≠ .halfOpen := by
    intro halfOpen
    have hasProbe := formed.probe.mp halfOpen
    rw [noProbe] at hasProbe
    exact absurd hasProbe (by decide)
  exact Effect.receipt named governs stored rfl about target notHalfOpen
    (fun stopped => (stop stopped).resolve_left notHalfOpen) moved formed

/-! ## Cancelling a grant -/

/-- A cancelled grant is released; a half-open circuit is opened with it. -/
theorem cancelGrantedRow_eq_ok (db : RuntimeDb) {row : RequestRow} {state : ControlRow}
    {now : Timestamp} {reason : Signal} {tables : AdmissionTables}
    (stored : row ∈ db.admission.requests.rows)
    (done : kernel.cancelGrantedRow sha db.admission row state now reason = .ok tables) :
    row.state = .granted ∧ ∃ mid,
      Effect sha kernel row.providerId .release db { db with admission := mid } ∧
      Touched db.admission mid row ∧
      ((state.circuitState ≠ .halfOpen ∧ tables = mid) ∨
        (state.circuitState = .halfOpen ∧ ∃ next, kernel.appendControlTransition sha mid
          (some state) (cancelChange state reason row.requestId) now kernel.policy =
            .ok (tables, next))) := by
  simp only [cancelGrantedRow, bind_eq_ok, raiseIf_eq_ok, not_not, ne_eq, exists_and_left,
    exists_const] at done
  obtain ⟨granted, decremented, units, _, rest⟩ := done
  obtain ⟨⟨_, states, _, requests⟩, _⟩ := AdmissionTables.decrementProject_eq_ok units
  have held : row ∈ decremented.requests.rows := requests ▸ stored
  rw [updateRequests_rowIn held granted] at rest
  have released : Effect sha kernel row.providerId .release db _ ∧ _ :=
    release_effect stored (show Releases row.state (row.toRequestProgress.cancelled now).state from
      granted ▸ Releases.cancel) rfl units
  obtain ⟨effect, touched⟩ := released
  refine ⟨granted, _, effect, touched, ?_⟩
  split at rest
  · rename_i halfOpen
    rw [bind_eq_ok] at rest
    obtain ⟨⟨final, next⟩, appended, same⟩ := rest
    rw [pure_eq_ok] at same
    exact Or.inr ⟨halfOpen, next, same ▸ appended⟩
  · rename_i notHalfOpen
    rw [pure_eq_ok] at rest
    exact Or.inl ⟨notHalfOpen, rest.symm⟩

/-- A cancelled grant is a release, followed by a signal where the circuit was half open. -/
theorem cancelGrantedRow_effects {db : RuntimeDb} {row : RequestRow} {state : ControlRow}
    {now : Timestamp} {reason : Signal} {tables : AdmissionTables}
    (governs : Governs sha kernel db.admission state)
    (stored : row ∈ db.admission.requests.rows)
    (done : kernel.cancelGrantedRow sha db.admission row state now reason = .ok tables) :
    Effects sha kernel row.providerId [.release, .signal] db { db with admission := tables } := by
  obtain ⟨_, mid, released, touched, ⟨_, rfl⟩ | ⟨halfOpen, next, appended⟩⟩ :=
    cancelGrantedRow_eq_ok db stored done
  · exact Effects.single (by simp) released
  · obtain ⟨itself, held, sameId, sameProvider⟩ := touched.itself
    have governs' : Governs sha kernel mid state :=
      ⟨touched.states ▸ governs.stored, governs.provider, governs.policyDigest⟩
    have signalled := receipt_effect .signal { db with admission := mid } itself
      (Or.inl rfl) governs' held (by rw [sameId]; rfl) rfl rfl
      (fun _ => Or.inr rfl) appended
    rw [sameProvider] at signalled
    exact (Effects.single (by simp) released).tail ⟨.signal, by simp, signalled⟩

/-! ## Expiry -/

/-- The provider's control row has moved past a row read earlier. -/
def Outrun (kernel : ProviderAdmissionKernel) (tables : AdmissionTables) (state : ControlRow) :
    Prop :=
  ∀ row ∈ tables.states.rows, row.providerId = kernel.policy.providerId →
    row.controlRevision ≠ state.controlRevision

/-- A receipt moves the control row past the row it followed. -/
theorem outrun_of_appended {before after : AdmissionTables} {state : ControlRow}
    {change : ControlChange} {now : Timestamp}
    (appended : Appended sha before (kernel.nextBody sha (some state) change now kernel.policy)
      after) : Outrun kernel after state := by
  intro row held provider
  rw [appended.states, Table.mem_update] at held
  obtain ⟨old, _, rfl⟩ := held
  by_cases same : old.providerId = kernel.policy.providerId
  · simp [nextBody, same, moveProjection]
  · simp only [nextBody, same, decide_false, Bool.false_eq_true, if_false] at provider

/-- What a turn of the expiry loop keeps. -/
structure Expiring (sha : Sha256) (kernel : ProviderAdmissionKernel) (db : RuntimeDb)
    (now : Timestamp) (state : ControlRow) (found : AdmissionTables × Option Uuid)
    (rows : List RequestRow) : Prop where
  /-- The turns so far are effects on the provider's own requests. -/
  effects : Effects sha kernel kernel.policy.providerId
    [.withdraw, .release, .uncertain, .signal] db { db with admission := found.1 }
  /-- While no expired dispatch is found, none became uncertain. -/
  certain : found.2 = none → Effects sha kernel kernel.policy.providerId
    [.withdraw, .release, .signal] db { db with admission := found.1 }
  /-- The row read at the start governs, or a signal has moved the control row past it. -/
  governed : Governs sha kernel found.1 state ∨ Outrun kernel found.1 state
  /-- The requests ahead are stored as they were read. -/
  ahead : ∀ row ∈ rows, row ∈ found.1.requests.rows ∧
    row.providerId = kernel.policy.providerId ∧
    (row.state = .waiting ∨ row.state = .granted ∨ row.state = .dispatched)
  /-- A grant of the provider is ahead or has not expired. -/
  fresh : ∀ row ∈ found.1.requests.rows, row.providerId = kernel.policy.providerId →
    row.state = .granted → row ∈ rows ∨ now < row.expiresAt
  /-- They are distinct. -/
  distinct : (rows.map (fun row => row.requestId)).Nodup
  /-- The expired dispatch found is one of the provider's requests. -/
  about : ∀ requestId, found.2 = some requestId → ∃ row ∈ found.1.requests.rows,
    row.requestId = requestId ∧ row.providerId = kernel.policy.providerId

/-- The requests ahead of a touched one stay as they were read. -/
theorem ahead_of_touched {before after : AdmissionTables} {item : RequestRow}
    {rest : List RequestRow} (touched : Touched before after item)
    (distinct : ((item :: rest).map (fun row => row.requestId)).Nodup)
    (ahead : ∀ row ∈ item :: rest, row ∈ before.requests.rows ∧
      row.providerId = kernel.policy.providerId ∧
      (row.state = .waiting ∨ row.state = .granted ∨ row.state = .dispatched)) :
    ∀ row ∈ rest, row ∈ after.requests.rows ∧ row.providerId = kernel.policy.providerId ∧
      (row.state = .waiting ∨ row.state = .granted ∨ row.state = .dispatched) := by
  intro row later
  rw [List.map_cons, List.nodup_cons] at distinct
  obtain ⟨held, rest_of⟩ := ahead row (List.mem_cons_of_mem _ later)
  refine ⟨touched.others row held ?_, rest_of⟩
  intro same
  exact distinct.1 (List.mem_map.mpr ⟨row, later, same⟩)

/-- A stored request of a provider is still there after another is touched. -/
theorem about_of_touched {before after : AdmissionTables} {item : RequestRow} {requestId : Uuid}
    {provider : String} (touched : Touched before after item)
    (own : item.providerId = provider)
    (about : ∃ row ∈ before.requests.rows, row.requestId = requestId ∧ row.providerId = provider) :
    ∃ row ∈ after.requests.rows, row.requestId = requestId ∧ row.providerId = provider := by
  obtain ⟨row, held, named, rowOwn⟩ := about
  by_cases same : row.requestId = item.requestId
  · obtain ⟨next, nextHeld, nextId, nextProvider⟩ := touched.itself
    exact ⟨next, nextHeld, nextId.trans (same.symm.trans named), nextProvider.trans own⟩
  · exact ⟨row, touched.others row held same, named, rowOwn⟩

/-- The grants that have not expired stay so when a request is touched. -/
theorem fresh_of_touched {before after : AdmissionTables} {item : RequestRow}
    {rest : List RequestRow} {now : Timestamp} (touched : Touched before after item)
    (fresh : ∀ row ∈ before.requests.rows, row.providerId = kernel.policy.providerId →
      row.state = .granted → row ∈ item :: rest ∨ now < row.expiresAt) :
    ∀ row ∈ after.requests.rows, row.providerId = kernel.policy.providerId →
      row.state = .granted → row ∈ rest ∨ now < row.expiresAt := by
  intro row member own granted
  obtain ⟨held, different⟩ := touched.grants row member granted
  have before_touched := fresh row held own granted
  rcases before_touched with ahead | unexpired
  · rcases List.mem_cons.mp ahead with same | later
    · exact absurd (congrArg (fun row : RequestRow => row.requestId) same) different
    · exact Or.inl later
  · exact Or.inr unexpired

/-- Where no control row changes, the governing row stays. -/
theorem governed_of_states {before after : AdmissionTables} {state : ControlRow}
    (states : after.states = before.states)
    (governed : Governs sha kernel before state ∨ Outrun kernel before state) :
    Governs sha kernel after state ∨ Outrun kernel after state := by
  rcases governed with governs | outrun
  · exact Or.inl ⟨states ▸ governs.stored, governs.provider, governs.policyDigest⟩
  · exact Or.inr (by rw [Outrun, states]; exact outrun)

/-- One turn of the expiry loop keeps its invariant. -/
theorem expireRow_keeps {db : RuntimeDb} {state : ControlRow} {now : Timestamp}
    {found next : AdmissionTables × Option Uuid} {item : RequestRow} {rest : List RequestRow}
    (held : Expiring sha kernel db now state found (item :: rest))
    (turned : kernel.expireRow sha state now found item = .ok next) :
    Expiring sha kernel db now state next rest := by
  obtain ⟨stored, own, live⟩ := held.ahead item (List.mem_cons_self ..)
  have distinct : (rest.map (fun row => row.requestId)).Nodup := by
    have all := held.distinct
    rw [List.map_cons, List.nodup_cons] at all
    exact all.2
  unfold expireRow at turned
  split at turned
  · -- The request has not expired.
    rename_i notExpired
    rw [pure_eq_ok] at turned
    subst turned
    exact { held with
      ahead := fun row later => held.ahead row (List.mem_cons_of_mem _ later)
      fresh := by
        intro row member rowOwn granted
        rcases held.fresh row member rowOwn granted with ahead | unexpired
        · rcases List.mem_cons.mp ahead with rfl | later
          · exact Or.inr notExpired
          · exact Or.inl later
        · exact Or.inr unexpired
      distinct := distinct }
  · rcases live with waiting | granted | dispatched
    · -- A waiting request is cancelled.
      rw [waiting] at turned
      simp only [pure_eq_ok] at turned
      subst turned
      rw [updateRequests_rowIn stored waiting]
      have touched := touched_rewriteRequest found.1 rfl rfl stored
        (show (item.toRequestProgress.cancelled now).state ≠ .granted by
          simp [RequestProgress.cancelled])
      have effect : Effect sha kernel kernel.policy.providerId .withdraw
          { db with admission := found.1 }
          { db with
            admission := found.1.rewriteRequest item (item.toRequestProgress.cancelled now) } :=
        Effect.move stored own (waiting ▸ Moves.withdraw) rfl
      exact {
        effects := held.effects.tail ⟨.withdraw, by simp, effect⟩
        certain := fun unfound => (held.certain unfound).tail ⟨.withdraw, by simp, effect⟩
        fresh := fresh_of_touched touched held.fresh
        governed := governed_of_states touched.states held.governed
        ahead := ahead_of_touched touched held.distinct held.ahead
        distinct := distinct
        about := fun requestId same => about_of_touched touched own (held.about requestId same) }
    · -- A granted request is cancelled, and a half-open circuit opened with it.
      rw [granted] at turned
      simp only [bind_eq_ok, pure_eq_ok] at turned
      obtain ⟨tables, cancelled, rfl⟩ := turned
      obtain ⟨_, mid, released, touched, outcome⟩ := cancelGrantedRow_eq_ok
        { db with admission := found.1 } stored cancelled
      rw [own] at released
      have governed := governed_of_states touched.states held.governed
      have ahead := ahead_of_touched touched held.distinct held.ahead
      rcases outcome with ⟨notHalfOpen, rfl⟩ | ⟨halfOpen, final, appended⟩
      · exact {
          effects := held.effects.tail ⟨.release, by simp, released⟩
          certain := fun unfound => (held.certain unfound).tail ⟨.release, by simp, released⟩
          fresh := fresh_of_touched touched held.fresh
          governed := governed
          ahead := ahead
          distinct := distinct
          about := fun requestId same => about_of_touched touched own (held.about requestId same) }
      · obtain ⟨⟨current, currentHeld, currentProvider, currentRevision⟩, moved, _⟩ :=
          appendControlTransition_eq_ok appended
        have governs : Governs sha kernel mid state := governed.resolve_right
          (fun outrun => outrun current currentHeld currentProvider currentRevision)
        obtain ⟨itself, itselfHeld, sameId, sameProvider⟩ := touched.itself
        have signalled := receipt_effect .signal { db with admission := mid } itself
          (Or.inl rfl) governs itselfHeld (by rw [sameId]; rfl) rfl rfl
          (fun _ => Or.inr rfl) appended
        rw [sameProvider, own] at signalled
        have outrun := outrun_of_appended moved
        exact {
          effects := (held.effects.tail ⟨.release, by simp, released⟩).tail
            ⟨.signal, by simp, signalled⟩
          certain := fun unfound => ((held.certain unfound).tail ⟨.release, by simp, released⟩).tail
            ⟨.signal, by simp, signalled⟩
          fresh := by
            rw [moved.requests]
            exact fresh_of_touched touched held.fresh
          governed := Or.inr outrun
          ahead := by rw [moved.requests]; exact ahead
          distinct := distinct
          about := by
            rw [moved.requests]
            exact fun requestId same => about_of_touched touched own (held.about requestId same) }
    · -- A dispatched request becomes uncertain.
      rw [dispatched] at turned
      simp only [pure_eq_ok] at turned
      subst turned
      rw [updateRequests_rowIn stored dispatched]
      have touched := touched_rewriteRequest found.1 rfl rfl stored
        (show (item.toRequestProgress.expired now).state ≠ .granted by
          simp [RequestProgress.expired])
      have effect : Effect sha kernel kernel.policy.providerId .uncertain
          { db with admission := found.1 }
          { db with
            admission := found.1.rewriteRequest item (item.toRequestProgress.expired now) } :=
        Effect.move stored own (dispatched ▸ Moves.uncertain) rfl
      exact {
        effects := held.effects.tail ⟨.uncertain, by simp, effect⟩
        certain := fun unfound => by simp at unfound
        fresh := fresh_of_touched touched held.fresh
        governed := governed_of_states touched.states held.governed
        ahead := ahead_of_touched touched held.distinct held.ahead
        distinct := distinct
        about := by
          intro requestId same
          cases earlier : found.2 with
          | none =>
            simp only [earlier, Option.getD_none, Option.some.injEq] at same
            obtain ⟨next, nextHeld, nextId, nextProvider⟩ := touched.itself
            exact ⟨next, nextHeld, nextId.trans same, nextProvider.trans own⟩
          | some first =>
            simp only [earlier, Option.getD_some, Option.some.injEq] at same
            exact about_of_touched touched own (held.about requestId (earlier.trans (by rw [same]))) }

/-- What `_expire` can have done. -/
structure Expired (sha : Sha256) (kernel : ProviderAdmissionKernel) (db : RuntimeDb)
    (now : Timestamp) (state : ControlRow) (after : RuntimeDb) : Prop where
  /-- The row it read validates. -/
  valid : Validated sha db.admission kernel.policy kernel.deploymentMode
    (kernel.deploymentDigest sha kernel.policy) state
  /-- Only admission tables change. -/
  frame : after = { db with admission := after.admission }
  /-- It is a sequence of effects. -/
  effects : Effects sha kernel kernel.policy.providerId
    [.withdraw, .release, .uncertain, .signal] db after
  /-- Every grant left has not expired. -/
  fresh : ∀ row ∈ after.admission.requests.rows, row.providerId = kernel.policy.providerId →
    row.state = .granted → now < row.expiresAt
  /-- Either no dispatch expired, or the receipt of an expired dispatch is the last. -/
  outcome : Effects sha kernel kernel.policy.providerId [.withdraw, .release, .signal] db after ∨
    ∃ row ∈ after.admission.states.rows, row.providerId = kernel.policy.providerId ∧
      row.circuitState = if expiryIsolated kernel.policy state then .closed else .open

/-- A validated row governs. -/
theorem governs_of_validated {tables : AdmissionTables} {state : ControlRow}
    (valid : Validated sha tables kernel.policy kernel.deploymentMode
      (kernel.deploymentDigest sha kernel.policy) state) : Governs sha kernel tables state :=
  ⟨valid.stored, valid.provider, valid.policyDigest⟩

/-- The control row an appended receipt leaves. -/
theorem Appended.projected {before after : AdmissionTables} {body : ControlBody}
    {state : ControlRow} (appended : Appended sha before body after)
    (stored : state ∈ before.states.rows) (provider : state.providerId = body.providerId) :
    moveProjection sha body state ∈ after.states.rows := by
  rw [appended.states, Table.mem_update]
  exact ⟨state, stored, by simp [provider]⟩

/-- The expiry loop starts in its invariant. -/
theorem expiring_start {db : RuntimeDb} {state : ControlRow}
    (governs : Governs sha kernel db.admission state) :
    Expiring sha kernel db now state (db.admission, none)
      (expiring db.admission kernel.policy.providerId) where
  effects := ReflTransGen.refl
  certain := fun _ => ReflTransGen.refl
  governed := Or.inl governs
  ahead := by
    intro row member
    simp only [expiring, List.mem_filter, decide_eq_true_eq] at member
    exact member
  fresh := by
    intro row member own granted
    refine Or.inl (List.mem_filter.mpr ⟨member, ?_⟩)
    simp [own, granted]
  distinct := by
    apply List.Nodup.sublist _ db.admission.requests.distinct
    exact List.Sublist.map _ List.filter_sublist
  about := by simp

/-- Expiry is a sequence of effects on the provider's own requests. -/
theorem expire_eq_ok {db : RuntimeDb} {now : Timestamp} {tables : AdmissionTables}
    (done : kernel.expire sha db.admission now = .ok tables) :
    ∃ state, Expired sha kernel db now state { db with admission := tables } := by
  simp only [expire, validatedState, bind_eq_ok, validatedControlState_eq_ok] at done
  obtain ⟨state, valid, ⟨looped, expired⟩, loop, rest⟩ := done
  refine ⟨state, ?_⟩
  have ended := foldlM_invariant (Expiring sha kernel db now state)
    (fun _ _ _ _ held turned => expireRow_keeps held turned)
    (expiring_start (governs_of_validated valid)) loop
  have fresh : ∀ row ∈ looped.requests.rows, row.providerId = kernel.policy.providerId →
      row.state = .granted → now < row.expiresAt := by
    intro row member own granted
    have unexpired := ended.fresh row member own granted
    simpa using unexpired
  cases expired with
  | none =>
    simp only [pure_eq_ok] at rest
    subst rest
    exact ⟨valid, rfl, ended.effects, fresh, Or.inl (ended.certain rfl)⟩
  | some requestId =>
    simp only [bind_eq_ok, pure_eq_ok] at rest
    obtain ⟨⟨final, next⟩, appended, rfl⟩ := rest
    obtain ⟨⟨current, currentHeld, currentProvider, currentRevision⟩, moved, _⟩ :=
      appendControlTransition_eq_ok appended
    have governs := ended.governed.resolve_right
      (fun outrun => outrun current currentHeld currentProvider currentRevision)
    obtain ⟨row, stored, rfl, own⟩ := ended.about requestId rfl
    have signalled := receipt_effect .signal { db with admission := looped } row
      (Or.inl rfl) governs stored rfl rfl rfl (by
        intro stopped
        right
        have notClosed : state.circuitState ≠ .closed := by
          rcases stopped with isOpen | ⟨_, halfOpen⟩ <;> simp_all
        simp [expiryChange, expiryIsolated, notClosed]) appended
    rw [own] at signalled
    refine ⟨valid, rfl, ended.effects.tail ⟨.signal, by simp, signalled⟩,
      moved.requests ▸ fresh, Or.inr ?_⟩
    exact ⟨_, moved.projected governs.stored governs.provider, governs.provider, rfl⟩

/-! ## Admission -/

/-- The first served of some rows is one of them. -/
theorem firstServed_mem {tables : AdmissionTables} {rows : List RequestRow} {best : RequestRow}
    (found : firstServed tables rows = some best) : best ∈ rows := by
  induction rows generalizing best with
  | nil => simp [firstServed] at found
  | cons row rest ih =>
    simp only [firstServed] at found
    split at found
    · simp only [Option.some.injEq] at found
      simp [found]
    · rename_i later laterFound
      split at found
      · simp only [Option.some.injEq] at found
        exact List.mem_cons_of_mem _ (ih (found ▸ laterFound))
      · simp only [Option.some.injEq] at found
        simp [found]

/-- Some rows have a first served. -/
theorem firstServed_isSome (tables : AdmissionTables) {rows : List RequestRow}
    (nonempty : rows ≠ []) : ∃ best, firstServed tables rows = some best := by
  cases rows with
  | nil => exact absurd rfl nonempty
  | cons row rest =>
    simp only [firstServed]
    split
    · exact ⟨row, rfl⟩
    · rename_i later _
      by_cases earlier : servedBefore tables later row = true
      · exact ⟨later, by rw [if_pos earlier]⟩
      · exact ⟨row, by rw [if_neg earlier]⟩

/-- The lane served next is taken from the eligible rows. -/
theorem laneRows_subset (lane : Option AdmissionLane) (rows : List RequestRow) :
    laneRows lane rows ⊆ rows := by
  intro row member
  unfold laneRows at member
  simp only at member
  split at member
  · exact (List.mem_filter.mp member).1
  · split at member
    · exact (List.mem_filter.mp member).1
    · exact (List.mem_filter.mp member).1

/-- Where a row is eligible, a lane is served. -/
theorem laneRows_nonempty (lane : Option AdmissionLane) {rows : List RequestRow}
    (nonempty : rows ≠ []) : laneRows lane rows ≠ [] := by
  unfold laneRows
  simp only
  split
  · rename_i chosen
    simpa using chosen.1
  · split
    · rename_i _ chosen
      simpa using chosen
    · rename_i _ noOther
      -- Every eligible row is interactive.
      obtain ⟨row, rest, rfl⟩ := List.exists_cons_of_ne_nil nonempty
      by_cases interactive : row.admissionLane = .interactive
      · simp [interactive]
      · simp [interactive] at noOther

/-- The request selected is waiting, of the kernel's provider, and below its project's cap. -/
theorem selectedWaiting_eq_some {tables : AdmissionTables} {state : ControlRow}
    {row : RequestRow} (selected : kernel.selectedWaiting tables state = some row) :
    row ∈ tables.requests.rows ∧ row.providerId = kernel.policy.providerId ∧
      row.state = .waiting ∧
      tables.projectActive row.providerId row.projectBindingDigest + 1 ≤
        kernel.policy.perProjectCap := by
  have member := laneRows_subset _ _ (firstServed_mem selected)
  simp only [eligible, List.mem_filter, decide_eq_true_eq] at member
  exact member

/-- What a reservation leaves: one more unit of the project, and control rows that differ in
their grant columns alone. -/
structure Reserved (before : AdmissionTables) (request : ProviderAdmissionRequest)
    (after : AdmissionTables) : Prop where
  /-- Policies stay. -/
  policies : after.policies = before.policies
  /-- Receipts stay. -/
  transitions : after.transitions = before.transitions
  /-- Requests stay. -/
  requests : after.requests = before.requests
  /-- The project holds one more unit. -/
  recorded : ∀ provider project, after.recordedUnits provider project =
    before.recordedUnits provider project +
      (if (provider, project) = (request.providerId, request.projectBindingDigest) then 1 else 0)
  /-- Control rows keep all but their grant columns. -/
  states : ∀ row ∈ after.states.rows, ∃ old ∈ before.states.rows,
    row = { old with
      grantSequence := row.grantSequence
      lastGrantedLane := row.lastGrantedLane
      updatedAt := row.updatedAt }
  /-- No control row is lost. -/
  kept : ∀ old ∈ before.states.rows, ∃ row ∈ after.states.rows,
    row = { old with
      grantSequence := row.grantSequence
      lastGrantedLane := row.lastGrantedLane
      updatedAt := row.updatedAt }
  /-- Rows of other providers stay. -/
  others : ∀ row, row.providerId ≠ request.providerId →
    (row ∈ after.states.rows ↔ row ∈ before.states.rows)

/-- A reservation leaves what it says. -/
theorem reserved (tables : AdmissionTables) (state : ControlRow)
    (request : ProviderAdmissionRequest) (now : Timestamp) :
    Reserved tables request (reserve tables state request now) where
  policies := rfl
  transitions := rfl
  requests := rfl
  recorded := tables.recordedUnits_incrementProject _ _ _ _
  states := by
    intro row member
    obtain ⟨old, held, rfl⟩ :=
      (Table.mem_update tables.states _ _ (by intro _; rfl) _).mp member
    refine ⟨old, held, ?_⟩
    split <;> rfl
  kept := by
    intro old held
    refine ⟨_, Table.mem_update_of_mem tables.states _ _ (by intro _; rfl) held, ?_⟩
    split <;> rfl
  others := by
    intro row different
    constructor
    · intro member
      obtain ⟨old, held, rfl⟩ :=
        (Table.mem_update tables.states _ _ (by intro _; rfl) _).mp member
      by_cases same : old.providerId = request.providerId
      · simp [same] at different
      · rw [if_neg (by simpa using same)]
        exact held
    · intro held
      exact (Table.mem_update tables.states _ _ (by intro _; rfl) _).mpr
        ⟨row, held, by simp [different]⟩

/-- A grant rewrites the waiting request over its reservation. -/
theorem grant_admission {db : RuntimeDb} {state : ControlRow} {row : RequestRow}
    {request : ProviderAdmissionRequest} {now : Timestamp}
    (stored : row ∈ db.admission.requests.rows) (named : row.requestId = request.requestId)
    (waiting : row.state = .waiting) :
    (grant db state request now).admission =
      (reserve db.admission state request now).rewriteRequest row
        (row.toRequestProgress.granted (db.fencingCounter + 1) now) := by
  have held : row ∈ (reserve db.admission state request now).requests.rows := stored
  rw [← updateRequests_rowIn held waiting (·.granted (db.fencingCounter + 1) now), grant, named]

/-- A waiting request is not granted now: the capacity is taken, or another is served first. -/
def Passed (kernel : ProviderAdmissionKernel) (tables : AdmissionTables) (state : ControlRow)
    (request : ProviderAdmissionRequest) : Prop :=
  effectiveCapacity state < tables.activeUnits request.providerId + 1 ∨
    (kernel.selectedWaiting tables state).map (·.requestId) ≠ some request.requestId

/-- A waiting request is passed over, or granted. -/
def GrantedOrPassed (sha : Sha256) (kernel : ProviderAdmissionKernel)
    (request : ProviderAdmissionRequest) (now : Timestamp) (ready after : RuntimeDb)
    (state : ControlRow) : Prop :=
  (after = ready ∧ Passed kernel ready.admission state request) ∨
    (after = grant ready state request now ∧
      Effect sha kernel kernel.policy.providerId .grant ready after)

/-- The end of an admission passes the waiting request over, or grants it. -/
theorem grantIfServed_eq_ok (db : RuntimeDb) (row : RequestRow) {state : ControlRow}
    {request : ProviderAdmissionRequest} {now : Timestamp}
    {result : Committed RuntimeDb ProviderAdmissionPermit}
    (own : request.providerId = kernel.policy.providerId)
    (governs : Governs sha kernel db.admission state) (circuit : state.circuitState ≠ .open)
    (probe : state.circuitState = .halfOpen →
      some (request.bindingDigest sha) = state.halfOpenProbeRequestDigest)
    (stored : row ∈ db.admission.requests.rows) (named : row.requestId = request.requestId)
    (waiting : row.state = .waiting)
    (matching : rowMatchesRequest row request (kernel.policy.policyDigest sha) = true)
    (done : kernel.grantIfServed db state request now = .ok result) :
    GrantedOrPassed sha kernel request now db result.1 state := by
  unfold grantIfServed at done
  split at done
  · rename_i busy
    rw [commitRaise_eq_ok] at done
    exact Or.inl ⟨by rw [done], Or.inl busy⟩
  · rename_i free
    split at done
    · rename_i notServed
      rw [commitRaise_eq_ok] at done
      exact Or.inl ⟨by rw [done], Or.inr notServed⟩
    · rename_i served
      simp only [Except.ok.injEq] at done
      have granted : result.1 = grant db state request now := by rw [← done]
      refine Or.inr ⟨granted, ?_⟩
      rw [granted]
      rw [not_not, Option.map_eq_some_iff] at served
      obtain ⟨chosen, selected, chosenId⟩ := served
      obtain ⟨chosenStored, _, _, cap⟩ := selectedWaiting_eq_some selected
      have same : chosen = row := db.admission.requests.eq_of_key chosenStored stored
        (chosenId.trans named.symm)
      subst same
      have columns := matching
      simp only [rowMatchesRequest, decide_eq_true_eq] at columns
      rw [columns.1, columns.2.1, own] at cap
      rw [own] at free
      exact Effect.grant own rfl governs circuit probe stored named waiting matching
        (Nat.not_lt.mp free) cap

/-- A waiting request that an admission considers for a grant: stored before, or inserted now. -/
structure Considered (sha : Sha256) (kernel : ProviderAdmissionKernel)
    (request : ProviderAdmissionRequest) (ttlSeconds : Nat) (now : Timestamp)
    (mid ready : RuntimeDb) (state : ControlRow) (row : RequestRow) : Prop where
  /-- The control row found after expiry governs. -/
  governs : Governs sha kernel mid.admission state
  /-- The circuit is not open. -/
  notOpen : state.circuitState ≠ .open
  /-- A half-open circuit names this request. -/
  probe : state.circuitState = .halfOpen →
    some (request.bindingDigest sha) = state.halfOpenProbeRequestDigest
  /-- The request is stored. -/
  stored : row ∈ ready.admission.requests.rows
  /-- Its row carries its identifier. -/
  named : row.requestId = request.requestId
  /-- It waits. -/
  waiting : row.state = .waiting
  /-- Its row repeats the request. -/
  matching : rowMatchesRequest row request (kernel.policy.policyDigest sha) = true
  /-- It was stored before, or it is inserted now. -/
  inserted : ready = mid ∨
    (insertRequest mid.admission (kernel.waitingRow sha request ttlSeconds now) =
        .ok ready.admission ∧
      Effect sha kernel kernel.policy.providerId .enqueue mid ready)

/-- A committed admission: expiry first, then nothing, or one considered request, which the end of
the admission passes over or grants. -/
theorem tryAdmit_considers {db : RuntimeDb} {request : ProviderAdmissionRequest} {ttlSeconds : Nat}
    {now : Timestamp} {result : Committed RuntimeDb ProviderAdmissionPermit}
    (own : request.providerId = kernel.policy.providerId)
    (done : kernel.tryAdmit sha db request ttlSeconds now = .ok result) :
    ∃ before mid, Expired sha kernel db now before mid ∧
      (result.1 = mid ∨ ∃ ready state row,
        Considered sha kernel request ttlSeconds now mid ready state row ∧
        kernel.grantIfServed ready state request now = .ok result) := by
  simp only [tryAdmit, validatedState, bind_eq_ok, validatedControlState_eq_ok] at done
  obtain ⟨tables, expired, state, valid, rest⟩ := done
  obtain ⟨before, outcome⟩ := expire_eq_ok expired
  refine ⟨before, { db with admission := tables }, outcome, ?_⟩
  split at rest
  · exact Or.inl (by rw [commitRaise_eq_ok] at rest; rw [rest])
  · rename_i notOpen
    split at rest
    · exact Or.inl (by rw [commitRaise_eq_ok] at rest; rw [rest])
    · rename_i isProbe
      split at rest
      · exact Or.inl (by rw [commitRaise_eq_ok] at rest; rw [rest])
      · have probe : state.circuitState = .halfOpen →
            some (request.bindingDigest sha) = state.halfOpenProbeRequestDigest := by
          intro halfOpen
          by_contra other
          exact isProbe ⟨halfOpen, other⟩
        have governs : Governs sha kernel tables state := governs_of_validated valid
        split at rest
        · -- The request is already stored.
          rename_i row found
          obtain ⟨stored, named⟩ := (tables.requests.find?_eq_some _ _).mp found
          simp only [bind_eq_ok, raiseIf_eq_ok, exists_const, not_not] at rest
          obtain ⟨matching, rest⟩ := rest
          split at rest
          · simp only [Except.ok.injEq] at rest
            exact Or.inl (by rw [← rest])
          · simp only [bind_eq_ok, raiseIf_eq_ok, exists_const, ne_eq, not_not] at rest
            obtain ⟨waiting, rest⟩ := rest
            exact Or.inr ⟨{ db with admission := tables }, state, row,
              ⟨governs, notOpen, probe, stored, named, waiting, matching, Or.inl rfl⟩, rest⟩
        · -- The request is inserted.
          simp only [bind_eq_ok] at rest
          obtain ⟨inserted, insertion, rest⟩ := rest
          have enqueued : Effect sha kernel kernel.policy.providerId .enqueue
              { db with admission := tables } { db with admission := inserted } :=
            Effect.enqueue own rfl governs notOpen probe insertion
          have inserted_eq := insertion
          simp only [insertRequest, bind_eq_ok, raiseIf_eq_ok, exists_const, require_eq_ok,
            Table.insert?_eq_some, pure_eq_ok] at inserted_eq
          obtain ⟨_, requests, ⟨fresh, rfl⟩, rfl⟩ := inserted_eq
          have stored : kernel.waitingRow sha request ttlSeconds now ∈
              (tables.requests.insert _ fresh).rows := by simp
          have matching : rowMatchesRequest (kernel.waitingRow sha request ttlSeconds now) request
              (kernel.policy.policyDigest sha) = true := by simp [rowMatchesRequest, waitingRow]
          exact Or.inr ⟨_, state, _,
            ⟨governs, notOpen, probe, stored, rfl, rfl, matching, Or.inr ⟨insertion, enqueued⟩⟩,
            rest⟩

/-- Inserting a request leaves the control rows. -/
theorem Considered.governsReady {request : ProviderAdmissionRequest} {ttlSeconds : Nat}
    {now : Timestamp} {mid ready : RuntimeDb} {state : ControlRow} {row : RequestRow}
    (considered : Considered sha kernel request ttlSeconds now mid ready state row) :
    Governs sha kernel ready.admission state := by
  rcases considered.inserted with same | ⟨inserted, _⟩
  · exact same ▸ considered.governs
  · simp only [insertRequest, bind_eq_ok, require_eq_ok, pure_eq_ok] at inserted
    obtain ⟨_, _, _, _, same⟩ := inserted
    have governs := considered.governs
    exact ⟨by rw [← same]; exact governs.stored, governs.provider, governs.policyDigest⟩

/-- A committed admission: expiry first, then nothing, or one considered request. -/
theorem tryAdmit_eq_ok {db : RuntimeDb} {request : ProviderAdmissionRequest} {ttlSeconds : Nat}
    {now : Timestamp} {result : Committed RuntimeDb ProviderAdmissionPermit}
    (own : request.providerId = kernel.policy.providerId)
    (done : kernel.tryAdmit sha db request ttlSeconds now = .ok result) :
    ∃ before mid, Expired sha kernel db now before mid ∧
      (result.1 = mid ∨ ∃ ready state row,
        Considered sha kernel request ttlSeconds now mid ready state row ∧
        GrantedOrPassed sha kernel request now ready result.1 state) := by
  obtain ⟨before, mid, expired, outcome⟩ := tryAdmit_considers own done
  refine ⟨before, mid, expired, ?_⟩
  rcases outcome with unchanged | ⟨ready, state, row, considered, rest⟩
  · exact Or.inl unchanged
  · exact Or.inr ⟨ready, state, row, considered,
      grantIfServed_eq_ok ready row own considered.governsReady considered.notOpen
        considered.probe considered.stored considered.named considered.waiting
        considered.matching rest⟩

/-- A considered request's insertion and grant are effects. -/
theorem Considered.effects {request : ProviderAdmissionRequest} {ttlSeconds : Nat}
    {now : Timestamp} {mid ready after : RuntimeDb} {state : ControlRow} {row : RequestRow}
    (considered : Considered sha kernel request ttlSeconds now mid ready state row)
    (decided : GrantedOrPassed sha kernel request now ready after state) :
    Effects sha kernel kernel.policy.providerId [.enqueue, .grant] mid after := by
  have first : Effects sha kernel kernel.policy.providerId [.enqueue, .grant] mid ready := by
    rcases considered.inserted with same | ⟨_, enqueued⟩
    · exact same ▸ ReflTransGen.refl
    · exact Effects.single (by simp) enqueued
  rcases decided with ⟨same, _⟩ | ⟨_, granted⟩
  · exact same ▸ first
  · exact first.tail ⟨.grant, by simp, granted⟩

/-! ## Permits -/

/-- A permit is accepted for the stored row it repeats. -/
theorem requirePermitRow_eq_ok {tables : AdmissionTables} {permit : ProviderAdmissionPermit}
    {row : RequestRow} : requirePermitRow tables permit = .ok row ↔
      row ∈ tables.requests.rows ∧ row.requestId = permit.requestId ∧
        permitMatchesRow permit row = true := by
  simp [requirePermitRow, Option.filter_eq_some_iff, Table.find?_eq_some, and_assoc]

/-- A cancelled permit's request was granted, and its unit is released. -/
theorem cancelBeforeTransport_eq_ok {db : RuntimeDb} {permit : ProviderAdmissionPermit}
    {now : Timestamp} {result : Committed RuntimeDb Unit}
    (done : kernel.cancelBeforeTransport sha db permit now = .ok result) :
    ∃ row ∈ db.admission.requests.rows, row.requestId = permit.requestId ∧
      permitMatchesRow permit row = true ∧ row.state = .granted ∧
      Effects sha kernel row.providerId [.release, .signal] db result.1 := by
  simp only [cancelBeforeTransport, validatedState, bind_eq_ok, validatedControlState_eq_ok,
    requirePermitRow_eq_ok, raiseIf_eq_ok, exists_const, ne_eq, not_not, commit_eq_ok] at done
  obtain ⟨state, valid, row, ⟨stored, named, matching⟩, granted, tables, cancelled, rfl⟩ := done
  exact ⟨row, stored, named, matching, granted,
    cancelGrantedRow_effects (governs_of_validated valid) stored cancelled⟩

/-- A cancelled waiting request was the stored request of that identifier and run. -/
theorem cancelWaiting_eq_ok {db : RuntimeDb} {requestId runId : Uuid} {now : Timestamp}
    {result : Committed RuntimeDb Bool} (done : cancelWaiting db requestId runId now = .ok result) :
    result.1 = db ∨ ∃ row ∈ db.admission.requests.rows, row.requestId = requestId ∧
      row.runId = runId ∧ row.state = .waiting ∧
      Effects sha kernel row.providerId [.withdraw] db result.1 := by
  unfold cancelWaiting at done
  split at done
  · rw [commit_eq_ok] at done
    exact Or.inl (by rw [done])
  · rename_i row found
    obtain ⟨stored, rfl⟩ := (db.admission.requests.find?_eq_some _ _).mp found
    simp only [bind_eq_ok, raiseIf_eq_ok, exists_const, ne_eq, not_not, commit_eq_ok] at done
    obtain ⟨run, waiting, rfl⟩ := done
    refine Or.inr ⟨row, stored, rfl, run, waiting, Effects.single (List.mem_singleton.mpr rfl) ?_⟩
    rw [updateRequests_rowIn stored waiting]
    exact Effect.move stored rfl (waiting ▸ Moves.withdraw) rfl

/-- A refused transport start cancels the grant and raises. -/
theorem refuseTransport_eq_ok (db : RuntimeDb) {row : RequestRow} {state : ControlRow}
    {now : Timestamp} {reason : Signal} {error : MacrError} {result : Committed RuntimeDb Unit}
    (governs : Governs sha kernel db.admission state)
    (stored : row ∈ db.admission.requests.rows)
    (done : kernel.refuseTransport sha db row state now reason error = .ok result) :
    result.2 = .error error ∧
      Effects sha kernel row.providerId [.release, .signal] db result.1 := by
  simp only [refuseTransport, bind_eq_ok, commitRaise_eq_ok] at done
  obtain ⟨tables, cancelled, rfl⟩ := done
  exact ⟨rfl, cancelGrantedRow_effects governs stored cancelled⟩

/-- What holds where a transport start succeeds, in the database it commits to. -/
structure TransportStarted (sha : Sha256) (kernel : ProviderAdmissionKernel) (db : RuntimeDb)
    (state : ControlRow) (row : RequestRow) (request : ProviderAdmissionRequest)
    (authorityNow : Timestamp) : Prop where
  /-- The request is granted. -/
  granted : row.state = .granted
  /-- The authority verifies under the lock. -/
  authority : db.authority.Current sha authorityNow request.authorization
    (kernel.admissionUse sha request)
  /-- The circuit is not open. -/
  notOpen : state.circuitState ≠ .open
  /-- A half-open circuit names this request. -/
  probe : state.circuitState = .halfOpen →
    some (request.bindingDigest sha) = state.halfOpenProbeRequestDigest
  /-- A global uncertainty scope leaves nothing unresolved. -/
  resolved : kernel.policy.uncertainDispatchScope = .global →
    db.admission.countRequests row.providerId (· = .reconciliationRequired) = 0

/-- A committed transport start: expiry first, then a refusal that changes nothing more, a refusal
that releases the grant, or the start itself. -/
theorem beginTransport_eq_ok {db : RuntimeDb} {permit : ProviderAdmissionPermit}
    {request : ProviderAdmissionRequest} {now authorityNow : Timestamp}
    {result : Committed RuntimeDb Unit}
    (done : kernel.beginTransport sha db permit request now authorityNow = .ok result) :
    ∃ before mid state row, Expired sha kernel db now before mid ∧
      kernel.expire sha db.admission now = .ok mid.admission ∧
      Governs sha kernel mid.admission state ∧ row ∈ mid.admission.requests.rows ∧
      row.requestId = permit.requestId ∧ permitMatchesRow permit row = true ∧
      ((∃ error, result = (mid, .error error)) ∨
        (rowMatchesRequest row request (kernel.policy.policyDigest sha) = true ∧
          ((∃ error, result.2 = .error error) ∧
            Effects sha kernel row.providerId [.release, .signal] mid result.1 ∨
          result.2 = .ok () ∧
            result.1 = { mid with
              admission := mid.admission.rewriteRequest row
                (row.toRequestProgress.dispatched now) } ∧
            TransportStarted sha kernel mid state row request authorityNow))) := by
  simp only [beginTransport, validatedState, bind_eq_ok, validatedControlState_eq_ok,
    requirePermitRow_eq_ok] at done
  obtain ⟨tables, expired, state, valid, row, ⟨stored, named, matching⟩, rest⟩ := done
  obtain ⟨before, outcome⟩ := expire_eq_ok expired
  have governs := governs_of_validated valid
  refine ⟨before, { db with admission := tables }, state, row, outcome, expired, governs,
    stored, named, matching, ?_⟩
  have columns := matching
  simp only [permitMatchesRow, decide_eq_true_eq] at columns
  rw [← columns.1] at rest
  split at rest
  · rw [commitRaise_eq_ok] at rest
    exact Or.inl ⟨_, rest⟩
  · rename_i matchesRequest
    split at rest
    · rw [commitRaise_eq_ok] at rest
      exact Or.inl ⟨_, rest⟩
    · split at rest
      · rw [commitRaise_eq_ok] at rest
        exact Or.inl ⟨_, rest⟩
      · rename_i granted
        rw [not_not] at granted matchesRequest
        refine Or.inr ⟨matchesRequest, ?_⟩
        have refused : ∀ {reason error},
            kernel.refuseTransport sha { db with admission := tables } row state now reason error =
              .ok result →
            (∃ error, result.2 = .error error) ∧
              Effects sha kernel row.providerId [.release, .signal]
                { db with admission := tables } result.1 := by
          intro reason error refusal
          obtain ⟨raised, effects⟩ := refuseTransport_eq_ok
            { db with admission := tables } governs stored refusal
          exact ⟨⟨error, raised⟩, effects⟩
        split at rest
        · exact Or.inl (refused rest)
        · rename_i notOpen
          split at rest
          · exact Or.inl (refused rest)
          · rename_i resolved
            split at rest
            · exact Or.inl (refused rest)
            · rename_i isProbe
              split at rest
              · exact Or.inl (refused rest)
              · rename_i verified accepted
                rw [commit_eq_ok, ← named, updateRequests_rowIn stored granted] at rest
                have current := ((AuthorityTables.verify_eq_ok _ _ _ _ _ _).mp accepted).2
                refine Or.inr ⟨by rw [rest], by rw [rest], granted, current, notOpen, ?_, ?_⟩
                · intro halfOpen
                  by_contra other
                  exact isProbe ⟨halfOpen, other⟩
                · intro global
                  by_contra unresolved
                  exact resolved ⟨global, Nat.pos_of_ne_zero unresolved⟩

/-- A successful transport start is a dispatch. -/
theorem dispatch_effect {db : RuntimeDb} {row : RequestRow} (now : Timestamp)
    (stored : row ∈ db.admission.requests.rows) (granted : row.state = .granted) :
    Effect sha kernel row.providerId .dispatch db
      { db with
        admission := db.admission.rewriteRequest row (row.toRequestProgress.dispatched now) } :=
  Effect.move stored rfl (granted ▸ Moves.dispatch) rfl

/-! ## Terminals and resolutions -/

/-- A finish of an open circuit leaves it open, and no finish makes it half open. -/
theorem nextCircuit_spec (report : TransportReport) (policy : ProviderAdmissionPolicy)
    (circuit : CircuitState) : report.nextCircuit policy circuit ≠ .halfOpen ∧
      (circuit = .open → report.nextCircuit policy circuit = .open) := by
  unfold TransportReport.nextCircuit TransportReport.ambiguousCircuit TransportReport.knownCircuit
    TransportReport.isolatedUncertainty
  cases circuit <;> refine ⟨?_, ?_⟩ <;> simp only [reduceCtorEq, false_implies, forall_const] <;>
    repeat' split
  all_goals simp_all

/-- A committed finish: the row leaves the dispatched state and the terminal's receipt follows. -/
theorem finish_eq_ok {db : RuntimeDb} {permit : ProviderAdmissionPermit}
    {report : TransportReport} {now : Timestamp} {result : Committed RuntimeDb Unit}
    (done : kernel.finish sha db permit report now = .ok result) :
    ∃ state row mid, Governs sha kernel db.admission state ∧
      row ∈ db.admission.requests.rows ∧ row.requestId = permit.requestId ∧
      permitMatchesRow permit row = true ∧ row.state = .dispatched ∧
      Effect sha kernel row.providerId (if report.ambiguous then .uncertain else .release) db
        { db with admission := mid } ∧ mid.states = db.admission.states ∧
      Effect sha kernel row.providerId .terminal { db with admission := mid } result.1 ∧
      Appended sha mid (kernel.nextBody sha (some state)
        (report.change kernel.policy state permit.requestId) now kernel.policy)
        result.1.admission := by
  simp only [finish, validatedState, bind_eq_ok, validatedControlState_eq_ok,
    requirePermitRow_eq_ok, raiseIf_eq_ok, exists_const, ne_eq, not_not, commit_eq_ok] at done
  obtain ⟨state, valid, row, ⟨stored, named, matching⟩, dispatched, units, decremented,
    ⟨final, next⟩, appended, rfl⟩ := done
  have governs := governs_of_validated valid
  rw [← named] at appended
  -- The unit is kept where the outcome is ambiguous, and given back otherwise.
  have first : ∃ progress : RequestProgress,
      units.updateRequests (fun other => other.requestId = row.requestId)
        (·.finished (if report.ambiguous then .reconciliationRequired else .completed) now
          report.terminalEvidenceDigest) = units.rewriteRequest row progress ∧
      Effect sha kernel row.providerId (if report.ambiguous then .uncertain else .release) db
        { db with admission := units.rewriteRequest row progress } ∧
      Touched db.admission (units.rewriteRequest row progress) row := by
    unfold releaseIfKnown at decremented
    split at decremented
    · rename_i ambiguous
      rw [Except.ok.injEq] at decremented
      subst decremented
      refine ⟨_, updateRequests_requestId stored _, ?_, touched_rewriteRequest _ rfl rfl stored
        (by simp [RequestProgress.finished, ambiguous])⟩
      rw [if_pos ambiguous]
      refine Effect.move stored rfl ?_ rfl
      rw [dispatched]
      simp only [ambiguous, if_true]
      exact Moves.uncertain
    · rename_i known
      obtain ⟨⟨_, _, _, requests⟩, _⟩ := AdmissionTables.decrementProject_eq_ok decremented
      refine ⟨_, updateRequests_requestId (requests ▸ stored) _, ?_⟩
      rw [if_neg known]
      refine release_effect stored ?_ rfl decremented
      rw [dispatched]
      simp only [known]
      exact Releases.complete
  obtain ⟨progress, rewritten, effect, touched⟩ := first
  rw [rewritten] at appended
  obtain ⟨itself, itselfHeld, sameId, sameProvider⟩ := touched.itself
  have governs' : Governs sha kernel (units.rewriteRequest row progress) state :=
    ⟨touched.states ▸ governs.stored, governs.provider, governs.policyDigest⟩
  obtain ⟨notHalfOpen, staysOpen⟩ := nextCircuit_spec report kernel.policy state.circuitState
  have terminal := receipt_effect .terminal
    { db with admission := units.rewriteRequest row progress } itself (Or.inr rfl) governs'
    itselfHeld (by rw [sameId]; rfl) rfl rfl
    (fun stopped => Or.inr (staysOpen (stopped.resolve_right (by simp)))) appended
  rw [sameProvider] at terminal
  obtain ⟨_, moved, _⟩ := appendControlTransition_eq_ok appended
  exact ⟨state, row, units.rewriteRequest row progress, governs, stored, named, matching,
    dispatched, effect, touched.states, terminal, named ▸ moved⟩

/-- A committed resolution: the row leaves the uncertain state and a signal follows. -/
theorem resolveReconciliation_eq_ok {db : RuntimeDb} {requestId : Uuid} {evidence : Digest}
    {now : Timestamp} {result : Committed RuntimeDb Unit}
    (done : kernel.resolveReconciliation sha db requestId evidence now = .ok result) :
    ∃ state row, Governs sha kernel db.admission state ∧ row ∈ db.admission.requests.rows ∧
      row.requestId = requestId ∧ row.state = .reconciliationRequired ∧
      result.1 = { db with admission := result.1.admission } ∧
      Effects sha kernel row.providerId [.release, .signal] db result.1 := by
  simp only [resolveReconciliation, validatedState, bind_eq_ok, validatedControlState_eq_ok,
    require_eq_ok, Option.filter_eq_some_iff, Table.find?_eq_some, decide_eq_true_eq,
    commit_eq_ok] at done
  obtain ⟨state, valid, row, ⟨⟨stored, rfl⟩, unresolved⟩, units, decremented, ⟨final, next⟩,
    appended, rfl⟩ := done
  have governs := governs_of_validated valid
  obtain ⟨⟨_, _, _, requests⟩, _⟩ := AdmissionTables.decrementProject_eq_ok decremented
  rw [updateRequests_requestId (requests ▸ stored)] at appended
  have released : Effect sha kernel row.providerId .release db _ ∧ _ :=
    release_effect stored (show Releases row.state
      (row.toRequestProgress.reconciled evidence now).state from unresolved ▸ Releases.resolve)
      rfl decremented
  obtain ⟨effect, touched⟩ := released
  obtain ⟨itself, itselfHeld, sameId, sameProvider⟩ := touched.itself
  have governs' : Governs sha kernel _ state :=
    ⟨touched.states ▸ governs.stored, governs.provider, governs.policyDigest⟩
  have signalled := receipt_effect .signal { db with admission := _ } itself (Or.inl rfl)
    governs' itselfHeld (by rw [sameId]; rfl) rfl rfl (by
      intro stopped
      rcases stopped with isOpen | ⟨_, halfOpen⟩
      · exact Or.inr isOpen
      · exact Or.inl halfOpen) appended
  rw [sameProvider] at signalled
  exact ⟨state, row, governs, stored, rfl, unresolved, rfl,
    (Effects.single (by simp) effect).tail ⟨.signal, by simp, signalled⟩⟩

/-! ## Activations -/

/-- A count of zero finds no request in the counted states. -/
theorem not_counted {tables : AdmissionTables} {provider : String}
    {condition : RequestState → Bool} (none : ¬0 < tables.countRequests provider condition) :
    ∀ row ∈ tables.requests.rows, row.providerId = provider → condition row.state = false := by
  intro row stored own
  by_contra counted
  rw [Bool.not_eq_false] at counted
  refine none (List.countP_pos_iff.mpr ⟨row, stored, ?_⟩)
  simp [own, counted]

/-- A committed target activation was verified under the lock and found the provider idle. -/
theorem activateTarget_eq_ok {db : RuntimeDb} {target : ProviderAdmissionTargetBinding}
    {reference : AuthorizationReference} {now authorityNow : Timestamp}
    {result : Committed RuntimeDb Unit}
    (done : kernel.activateTarget sha db target reference now authorityNow = .ok result) :
    db.authority.Current sha authorityNow reference (kernel.targetUse (target.bindingDigest sha)) ∧
      consumeActivationAuthority db.authority reference now = .ok result.1.authority ∧
      ∀ provider, Effects sha kernel provider [.target, .authority] db result.1 := by
  simp only [activateTarget, validatedState, AuthorityTables.verifyInTransaction_eq_verify, bind_eq_ok,
    validatedControlState_eq_ok, AuthorityTables.verify_eq_ok, raiseIf_eq_ok, exists_const,
    ne_eq, not_not, commit_eq_ok] at done
  obtain ⟨state, valid, _, ⟨_, current⟩, closed, _, idle, authority, consumed, ⟨final, next⟩,
    appended, rfl⟩ := done
  obtain ⟨_, moved, formed, _⟩ := appendControlTransition_eq_ok appended
  refine ⟨current, consumed, fun provider => ?_⟩
  have activated : Effect sha kernel provider .target db { db with admission := final } :=
    Effect.target (governs_of_validated valid) closed rfl formed rfl (not_counted idle) moved
  exact (Effects.single (by simp) activated).tail
    ⟨.authority, by simp, Effect.authority authority⟩

/-- A committed half-open activation was verified under the lock, with the probe's authority, and
found an open circuit and a provider with nothing pending. -/
theorem activateHalfOpen_eq_ok {db : RuntimeDb} {binding : ProviderAdmissionCircuitBinding}
    {reference : AuthorizationReference} {probe : ProviderAdmissionRequest}
    {now probeNow authorityNow : Timestamp} {result : Committed RuntimeDb Unit}
    (done : kernel.activateHalfOpen sha db binding reference probe now probeNow authorityNow =
      .ok result) :
    db.authority.Current sha authorityNow reference
        (kernel.circuitUse (binding.bindingDigest sha)) ∧
      consumeActivationAuthority db.authority reference now = .ok result.1.authority ∧
      ∀ provider, Effects sha kernel provider [.halfOpen, .authority] db result.1 := by
  simp only [activateHalfOpen, validatedState, AuthorityTables.verifyInTransaction_eq_verify, bind_eq_ok,
    validatedControlState_eq_ok, AuthorityTables.verify_eq_ok, raiseIf_eq_ok, exists_const,
    ne_eq, not_or, not_not, commit_eq_ok] at done
  obtain ⟨state, valid, _, _, _, ⟨_, current⟩, ⟨isOpen, unresolved, active, _⟩, authority,
    consumed, ⟨final, next⟩, appended, rfl⟩ := done
  obtain ⟨_, moved, formed, _⟩ := appendControlTransition_eq_ok appended
  refine ⟨current, consumed, fun provider => ?_⟩
  have idle : ∀ row ∈ db.admission.requests.rows, row.providerId = kernel.policy.providerId →
      activeOrWaiting row.state = false := by
    intro row stored own
    have settled := not_counted unresolved row stored own
    have pending := not_counted active row stored own
    cases inState : row.state <;> simp_all [activeOrWaiting, RequestState.holdsCapacity]
  have activated : Effect sha kernel provider .halfOpen db { db with admission := final } :=
    Effect.halfOpen (governs_of_validated valid) isOpen rfl rfl rfl idle moved formed
  exact (Effects.single (by simp) activated).tail
    ⟨.authority, by simp, Effect.authority authority⟩

/-- Storing a policy adds its row or finds it. -/
theorem storePolicy_eq_ok {tables next : AdmissionTables} {policy : ProviderAdmissionPolicy}
    {now : Timestamp} {conflict : String}
    (done : storePolicy sha tables policy now conflict = .ok next) :
    PolicyStored sha policy tables next := by
  unfold storePolicy at done
  split at done
  · simp only [bind_eq_ok, raiseIf_eq_ok, exists_const, require_eq_ok, Table.insert?_eq_some,
      pure_eq_ok] at done
    obtain ⟨unused, policies, ⟨fresh, rfl⟩, rfl⟩ := done
    refine ⟨?_, ?_, ?_, rfl, rfl, rfl, rfl⟩
    · simp only [Table.insert_rows, List.mem_append, List.mem_singleton]
      exact ⟨_, Or.inr rfl, rfl, rfl, rfl⟩
    · intro row member
      rw [Table.insert_rows, List.mem_append, List.mem_singleton] at member
      rcases member with held | rfl
      · exact Or.inl held
      · exact Or.inr ⟨rfl, rfl, rfl, rfl, fun other held same => unused ⟨other, held, same⟩⟩
    · intro row held
      exact List.mem_append_left _ held
  · rename_i row found
    obtain ⟨stored, key⟩ := (tables.policies.find?_eq_some _ _).mp found
    simp only [bind_eq_ok, raiseIf_eq_ok, exists_const, not_or, ne_eq, not_not, pure_eq_ok] at done
    obtain ⟨⟨body, _, digest⟩, rfl⟩ := done
    exact ⟨⟨row, stored, body, (Prod.mk.inj key).1, digest⟩, fun _ held => Or.inl held,
      fun _ held => held, rfl, rfl, rfl, rfl⟩

/-- The recorded units of one project are within any bound on the stored rows of its provider. -/
theorem recordedUnits_le {tables : AdmissionTables} {provider : String} {bound : Nat}
    (bounded : ¬0 < tables.projects.rows.countP
      (fun row => row.providerId = provider ∧ bound < row.activeUnits)) (project : Digest) :
    tables.recordedUnits provider project ≤ bound := by
  unfold AdmissionTables.recordedUnits AdmissionTables.project?
  cases found : tables.projects.find? (provider, project) with
  | none => simp
  | some row =>
    obtain ⟨stored, key⟩ := (tables.projects.find?_eq_some _ _).mp found
    by_contra exceeds
    refine bounded (List.countP_pos_iff.mpr ⟨row, stored, ?_⟩)
    simpa [(Prod.mk.inj key).1] using exceeds

/-- The pairs of policies a transition supports are of one provider. -/
theorem supportedPairs_provider {current successor : ProviderAdmissionPolicy}
    (supported : (current, successor) ∈ supportedPairs) :
    successor.providerId = current.providerId := by
  simp only [supportedPairs, List.mem_cons, Prod.mk.injEq, List.not_mem_nil, or_false] at supported
  rcases supported with ⟨rfl, rfl⟩ | ⟨rfl, rfl⟩ | ⟨rfl, rfl⟩ <;> rfl

/-- A committed policy transition was verified under the lock and found no pending request, and
no more unresolved capacity than the successor allows. -/
theorem supersedePolicy_eq_ok {db : RuntimeDb}
    {binding : ProviderAdmissionPolicyTransitionBinding} {successor : ProviderAdmissionPolicy}
    {reference : AuthorizationReference} {now authorityNow : Timestamp}
    {result : Committed RuntimeDb Unit}
    (sameProvider : successor.providerId = kernel.policy.providerId)
    (done : kernel.supersedePolicy sha db binding successor reference now authorityNow =
      .ok result) :
    db.authority.Current sha authorityNow reference
        (kernel.policyTransitionUse (binding.bindingDigest sha)) ∧
      consumeActivationAuthority db.authority reference now = .ok result.1.authority ∧
      ∀ provider, Effects sha kernel provider [.supersede, .authority] db result.1 := by
  simp only [supersedePolicy, validatedState, AuthorityTables.verifyInTransaction_eq_verify, bind_eq_ok,
    validatedControlState_eq_ok, AuthorityTables.verify_eq_ok, raiseIf_eq_ok, exists_const,
    not_or, ne_eq, not_not, commit_eq_ok] at done
  obtain ⟨state, valid, _, ⟨_, current⟩, _, _, ⟨blocking, units, target, overCap, isolated, idle⟩,
    mid, policies, authority, consumed, ⟨final, next⟩, appended, rfl⟩ := done
  obtain ⟨_, moved, formed, _⟩ := appendControlTransition_eq_ok appended
  refine ⟨current, consumed, fun provider => ?_⟩
  have settled : ∀ row ∈ db.admission.requests.rows,
      row.providerId = kernel.policy.providerId →
        row.state ≠ .waiting ∧ row.state ≠ .granted ∧ row.state ≠ .dispatched := by
    intro row stored own
    have pending := not_counted blocking row stored own
    cases inState : row.state <;> simp_all
  have unresolved : db.admission.activeUnits kernel.policy.providerId =
      db.admission.countRequests kernel.policy.providerId (· = .reconciliationRequired) := by
    apply List.countP_congr
    intro row stored
    by_cases own : row.providerId = kernel.policy.providerId
    · obtain ⟨notWaiting, notGranted, notDispatched⟩ := settled row stored own
      cases inState : row.state <;> simp_all [RequestState.holdsCapacity]
    · simp [own]
  have notHalfOpen : state.circuitState ≠ .halfOpen := by
    intro halfOpen
    rcases Nat.eq_zero_or_pos (db.admission.countRequests kernel.policy.providerId
      (· = .reconciliationRequired)) with none | some
    · exact idle ⟨none, Or.inl (by rw [halfOpen]; decide)⟩
    · exact isolated ⟨some, fun isolatable => by
        rw [halfOpen] at isolatable
        exact absurd isolatable.2.2.2.1 (by decide)⟩
  have superseded : Effect sha kernel provider .supersede db { db with admission := final } :=
    Effect.supersede (governs_of_validated valid) notHalfOpen sameProvider rfl formed rfl settled
      (by rw [unresolved, ← units]; exact Nat.not_lt.mp target) (recordedUnits_le overCap)
      (storePolicy_eq_ok policies) moved
  exact (Effects.single (by simp) superseded).tail
    ⟨.authority, by simp, Effect.authority authority⟩

/-- A constructor that succeeds found its control chain, or started it. -/
theorem installPolicy_eq_ok {db : RuntimeDb} {nonterminalRuns activeDispatchLeases : Nat}
    {now : Timestamp} {result : Committed RuntimeDb Unit}
    (done : kernel.installPolicy sha db nonterminalRuns activeDispatchLeases now = .ok result)
    (provider : String) :
    Effect sha kernel provider .genesis db result.1 ∨
      Effect sha kernel provider .policy db result.1 := by
  simp only [installPolicy, bind_eq_ok, raiseIf_eq_ok, exists_const] at done
  obtain ⟨_, mid, policies, rest⟩ := done
  have stored := storePolicy_eq_ok policies
  split at rest
  · rename_i absent
    simp only [bind_eq_ok, commit_eq_ok] at rest
    obtain ⟨⟨final, next⟩, appended, rfl⟩ := rest
    obtain ⟨transitions, states, others, formed⟩ := appendControlTransition_genesis appended
    exact Or.inl (Effect.genesis ((db.admission.states.find?_eq_none _).mp absent) rfl formed rfl
      stored transitions states others)
  · simp only [bind_eq_ok, commit_eq_ok] at rest
    obtain ⟨_, _, rfl⟩ := rest
    exact Or.inr (Effect.policy stored)

end ProviderAdmissionKernel
end Macr
