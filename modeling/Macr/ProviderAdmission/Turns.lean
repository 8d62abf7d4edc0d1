import Macr.Lib.Rotation
import Macr.ProviderAdmission.System
import Mathlib.Data.Prod.Lex

/-!
# Whose turn it is

The order of service is read from two columns of the control row, the number of grants and the
lane of the last, and from the last grant sequence of each project. Only a grant writes them. A
provider's tables book a log of grants when these columns are what the log says, and every effect
but a grant leaves the log booked, grants no request and lets none wait again.
-/

namespace Macr

open Lib Relation

namespace ProviderAdmissionKernel

variable {sha : Sha256} {kernel : ProviderAdmissionKernel}

/-- The grant columns of a provider; a provider without a control row has made no grant. -/
def grantColumns (tables : AdmissionTables) (provider : String) : Nat × Option AdmissionLane :=
  ((tables.states.find? provider).map (fun row => (row.grantSequence, row.lastGrantedLane))).getD
    (0, none)

/-- The sequence of a project's last grant. -/
def lastGrant (tables : AdmissionTables) (provider : String) (project : Digest) : Nat :=
  ((tables.project? provider project).map (·.lastGrantSequence)).getD 0

/-- The tables of a provider are what a log of grants, by project and lane, leaves. -/
structure Booked (tables : AdmissionTables) (provider : String)
    (log : List (Digest × AdmissionLane)) : Prop where
  /-- The control row counts the grants and names the last lane. -/
  columns : grantColumns tables provider = (log.length, log.getLast?.map (·.2))
  /-- Each project has its last turn. -/
  turns : ∀ project, lastGrant tables provider project = lastServed (log.map (·.1)) project

/-- A new database books no grant. -/
theorem booked_initial (provider : String) : Booked .initial provider [] where
  columns := rfl
  turns := fun _ => rfl

/-- Nothing was granted, no request waits again, and the grant columns stay. -/
structure Quiet (before after : AdmissionTables) : Prop where
  /-- A granted request was granted before. -/
  grants : ∀ row ∈ after.requests.rows, row.state = .granted →
    ∃ old ∈ before.requests.rows, old.requestId = row.requestId ∧ old.providerId = row.providerId ∧
      old.state = .granted
  /-- A waiting request waited before, or is new. -/
  waits : ∀ row ∈ after.requests.rows, row.state = .waiting →
    ∀ old ∈ before.requests.rows, old.requestId = row.requestId → old.state = .waiting
  /-- No request is lost. -/
  kept : ∀ old ∈ before.requests.rows, ∃ row ∈ after.requests.rows, row.requestId = old.requestId
  /-- The control rows keep their grant columns. -/
  columns : ∀ provider, grantColumns after provider = grantColumns before provider
  /-- The projects keep their last turns. -/
  turns : ∀ provider project, lastGrant after provider project = lastGrant before provider project

namespace Quiet

theorem refl (tables : AdmissionTables) : Quiet tables tables where
  grants := fun row held granted => ⟨row, held, rfl, rfl, granted⟩
  waits := by
    intro row held waiting old stored same
    rw [tables.requests.eq_of_key stored held same]
    exact waiting
  kept := fun old held => ⟨old, held, rfl⟩
  columns := fun _ => rfl
  turns := fun _ _ => rfl

theorem trans {before mid after : AdmissionTables} (first : Quiet before mid)
    (second : Quiet mid after) : Quiet before after where
  grants := by
    intro row held granted
    obtain ⟨between, heldBetween, same, own, grantedBetween⟩ := second.grants row held granted
    obtain ⟨old, stored, sameOld, ownOld, grantedOld⟩ :=
      first.grants between heldBetween grantedBetween
    exact ⟨old, stored, sameOld.trans same, ownOld.trans own, grantedOld⟩
  waits := by
    intro row held waiting old stored same
    obtain ⟨between, heldBetween, sameBetween⟩ := first.kept old stored
    have waitingBetween := second.waits row held waiting between heldBetween
      (sameBetween.trans same)
    exact first.waits between heldBetween waitingBetween old stored sameBetween.symm
  kept := by
    intro old stored
    obtain ⟨between, heldBetween, same⟩ := first.kept old stored
    obtain ⟨row, held, sameRow⟩ := second.kept between heldBetween
    exact ⟨row, held, sameRow.trans same⟩
  columns := fun provider => (second.columns provider).trans (first.columns provider)
  turns := fun provider project =>
    (second.turns provider project).trans (first.turns provider project)

/-- A quiet change leaves the log booked. -/
theorem booked {before after : AdmissionTables} (quiet : Quiet before after) {provider : String}
    {log : List (Digest × AdmissionLane)} (booked : Booked before provider log) :
    Booked after provider log where
  columns := (quiet.columns provider).trans booked.columns
  turns := fun project => (quiet.turns provider project).trans (booked.turns project)

end Quiet

/-! ## The effects -/

/-- A change of other tables is quiet. -/
theorem quiet_of_same {before after : AdmissionTables} (requests : after.requests = before.requests)
    (states : after.states = before.states) (projects : after.projects = before.projects) :
    Quiet before after where
  grants := by rw [requests]; exact (Quiet.refl before).grants
  waits := by rw [requests]; exact (Quiet.refl before).waits
  kept := by rw [requests]; exact (Quiet.refl before).kept
  columns := by intro provider; rw [grantColumns, grantColumns, states]
  turns := by
    intro provider project
    rw [lastGrant, lastGrant, AdmissionTables.project?, AdmissionTables.project?, projects]

/-- Rewriting a request to a state other than waiting and granted is quiet. -/
theorem quiet_of_rewrite (tables : AdmissionTables) {row : RequestRow}
    (stored : row ∈ tables.requests.rows) {progress : RequestProgress}
    (notGranted : progress.state ≠ .granted) (notWaiting : progress.state ≠ .waiting) :
    Quiet tables (tables.rewriteRequest row progress) where
  grants := by
    intro other held granted
    rcases (tables.mem_rewriteRequest stored progress other).mp held with ⟨old, _⟩ | rfl
    · exact ⟨other, old, rfl, rfl, granted⟩
    · exact absurd granted notGranted
  waits := by
    intro other held waiting old storedOld same
    rcases (tables.mem_rewriteRequest stored progress other).mp held with ⟨here, _⟩ | rfl
    · rw [tables.requests.eq_of_key storedOld here same]
      exact waiting
    · exact absurd waiting notWaiting
  kept := by
    intro old held
    by_cases same : old.requestId = row.requestId
    · exact ⟨_, (tables.mem_rewriteRequest stored progress _).mpr (.inr rfl), same.symm⟩
    · exact ⟨old, (tables.mem_rewriteRequest stored progress old).mpr (.inl ⟨held, same⟩), rfl⟩
  columns := fun _ => rfl
  turns := fun _ _ => rfl

/-- Giving a project's unit back leaves its last turn. -/
theorem lastGrant_decrementProject {tables next : AdmissionTables} {providerId : String}
    {project : Digest} {now : Timestamp}
    (done : tables.decrementProject providerId project now = .ok next) (provider : String)
    (other : Digest) : lastGrant next provider other = lastGrant tables provider other := by
  simp only [AdmissionTables.decrementProject, bind_eq_ok, raiseIf_eq_ok, pure_eq_ok,
    exists_const] at done
  obtain ⟨_, rfl⟩ := done
  simp only [lastGrant, AdmissionTables.project?, Table.find?_update, Option.map_map]
  congr 2
  funext row
  show (if _ then _ else _ : ProjectRow).lastGrantSequence = row.lastGrantSequence
  split <;> rfl

/-- Moving a control row to a later receipt leaves its grant columns. -/
theorem quiet_of_appended {before after : AdmissionTables} {body : ControlBody}
    (appended : Appended sha before body after) : Quiet before after where
  grants := by rw [appended.requests]; exact (Quiet.refl before).grants
  waits := by rw [appended.requests]; exact (Quiet.refl before).waits
  kept := by rw [appended.requests]; exact (Quiet.refl before).kept
  columns := by
    intro provider
    rw [grantColumns, grantColumns, appended.states, Table.find?_update, Option.map_map]
    congr 2
    funext row
    by_cases moved : row.providerId = body.providerId <;> simp [moved, moveProjection]
  turns := by
    intro provider project
    rw [lastGrant, lastGrant, AdmissionTables.project?, AdmissionTables.project?,
      appended.projects]

/-- A request that keeps its unit moves to no grant and no wait. -/
theorem target_of_moves {kind : EffectKind} {before after : RequestState}
    (edge : Moves kind before after) : after ≠ .granted ∧ after ≠ .waiting := by
  cases edge <;> decide

/-- A request that gives its unit back moves to no grant and no wait. -/
theorem target_of_releases {before after : RequestState} (edge : Releases before after) :
    after ≠ .granted ∧ after ≠ .waiting := by
  cases edge <;> decide

/-- Every effect but a grant is quiet. -/
theorem quiet_of_effect {provider : String} {kind : EffectKind} {before after : RuntimeDb}
    (other : kind ≠ .grant) (effect : Effect sha kernel provider kind before after) :
    Quiet before.admission after.admission := by
  cases effect with
  | move stored own edge token =>
    obtain ⟨notGranted, notWaiting⟩ := target_of_moves edge
    exact quiet_of_rewrite _ stored notGranted notWaiting
  | @release _ row progress tables now stored own edge token decremented =>
    obtain ⟨_, states, _, requests⟩ := (AdmissionTables.decrementProject_eq_ok decremented).1
    have mid : Quiet before.admission tables :=
      { grants := by rw [requests]; exact (Quiet.refl _).grants
        waits := by rw [requests]; exact (Quiet.refl _).waits
        kept := by rw [requests]; exact (Quiet.refl _).kept
        columns := by intro provider; rw [grantColumns, grantColumns, states]
        turns := lastGrant_decrementProject decremented }
    obtain ⟨notGranted, notWaiting⟩ := target_of_releases edge
    exact mid.trans (quiet_of_rewrite tables (requests ▸ stored) notGranted notWaiting)
  | enqueue own ownPolicy governs circuit probe inserted =>
    simp only [insertRequest, bind_eq_ok, raiseIf_eq_ok, exists_const, require_eq_ok,
      Table.insert?_eq_some, pure_eq_ok] at inserted
    obtain ⟨_, requests, ⟨fresh, rfl⟩, rfl⟩ := inserted
    constructor
    · intro row held granted
      rcases List.mem_append.mp held with old | new
      · exact ⟨row, old, rfl, rfl, granted⟩
      · rw [List.mem_singleton.mp new] at granted
        cases granted
    · intro row held waiting old stored same
      rcases List.mem_append.mp held with here | new
      · rw [before.admission.requests.eq_of_key stored here same]
        exact waiting
      · rw [List.mem_singleton.mp new] at same
        exact absurd (List.mem_map.mpr ⟨old, stored, same⟩) fresh
    · exact fun old stored => ⟨old, List.mem_append_left _ stored, rfl⟩
    · exact fun _ => rfl
    · exact fun _ _ => rfl
  | grant => exact absurd rfl other
  | receipt named governs stored own about target notHalfOpen stop appended =>
    exact quiet_of_appended appended
  | target governs wasClosed closed formed about idle appended => exact quiet_of_appended appended
  | halfOpen governs wasOpen halfOpen target about idle appended =>
    exact quiet_of_appended appended
  | supersede governs notHalfOpen sameProvider closed formed about settled capacity projectCap
      policy appended =>
    exact (quiet_of_same policy.requests policy.states policy.projects).trans
      (quiet_of_appended appended)
  | @genesis _ change now mid tables absent closed formed about policy transitions states others =>
    have first : Quiet before.admission mid :=
      quiet_of_same policy.requests policy.states policy.projects
    refine first.trans ?_
    constructor
    · rw [others.2.2]; exact (Quiet.refl mid).grants
    · rw [others.2.2]; exact (Quiet.refl mid).waits
    · rw [others.2.2]; exact (Quiet.refl mid).kept
    · intro name
      -- The new control row has made no grant, and no row was there before.
      have missing : mid.states.rows.find? (fun row => row.providerId = kernel.policy.providerId) =
          none := by
        rw [policy.states, List.find?_eq_none]
        intro row held
        simpa using absent row held
      simp only [grantColumns, Table.find?, states, List.find?_append]
      by_cases named : name = kernel.policy.providerId
      · subst named
        rw [missing]
        simp [firstProjection]
      · have unmet : ([kernel.firstProjection sha
            (kernel.nextBody sha none change now kernel.policy)]).find?
              (fun row => row.providerId = name) = none := by
          simp [firstProjection, Ne.symm named]
        rw [unmet, Option.or_none]
    · intro name project
      rw [lastGrant, lastGrant, AdmissionTables.project?, AdmissionTables.project?, others.2.1]
  | policy policy => exact quiet_of_same policy.requests policy.states policy.projects
  | authority => exact Quiet.refl _
  | token => exact Quiet.refl _

/-- A sequence of effects without a grant is quiet. -/
theorem quiet_of_effects {provider : String} {kinds : List EffectKind} {before after : RuntimeDb}
    (none : .grant ∉ kinds) (effects : Effects sha kernel provider kinds before after) :
    Quiet before.admission after.admission := by
  have keep : ∀ kind ∈ kinds, ∀ mid next, Quiet before.admission mid.admission →
      Effect sha kernel provider kind mid next → Quiet before.admission next.admission := by
    intro kind listed mid next held effect
    have other : kind ≠ .grant := fun same => none (same ▸ listed)
    exact held.trans (quiet_of_effect other effect)
  exact effects.invariant (fun db => Quiet before.admission db.admission) keep (Quiet.refl _)

/-! ## A grant -/

/-- A grant as an admission makes it: the tables and control row it found, and the request it
selected there. -/
structure Serves (sha : Sha256) (kernel : ProviderAdmissionKernel) (before after ready : RuntimeDb)
    (state : ControlRow) (request : ProviderAdmissionRequest) (chosen : RequestRow)
    (now : Timestamp) : Prop where
  /-- What was done before the selection is quiet. -/
  quiet : Quiet before.admission ready.admission
  /-- The control row is the kernel's. -/
  governs : Governs sha kernel ready.admission state
  /-- The request is selected. -/
  selected : kernel.selectedWaiting ready.admission state = some chosen
  /-- The selected row repeats the request. -/
  named : chosen.requestId = request.requestId ∧ chosen.providerId = request.providerId ∧
    chosen.projectBindingDigest = request.projectBindingDigest ∧
    chosen.admissionLane = request.lane
  /-- The grant is written. -/
  after : after = grant ready state request now

/-- The row of a granted request. -/
def grantedRow (ready : RuntimeDb) (chosen : RequestRow) (now : Timestamp) : RequestRow :=
  { chosen with
    toRequestProgress := chosen.toRequestProgress.granted (ready.fencingCounter + 1) now }

/-- The end of an admission changes nothing, or grants the request that is selected. -/
theorem grantIfServed_serves {ready : RuntimeDb} {state : ControlRow}
    {request : ProviderAdmissionRequest} {now : Timestamp}
    {result : Committed RuntimeDb ProviderAdmissionPermit}
    (done : kernel.grantIfServed ready state request now = .ok result) :
    result.1 = ready ∨ (result.1 = grant ready state request now ∧
      ∃ chosen, kernel.selectedWaiting ready.admission state = some chosen ∧
        chosen.requestId = request.requestId) := by
  unfold grantIfServed at done
  split at done
  · rw [commitRaise_eq_ok] at done
    exact .inl (by rw [done])
  · split at done
    · rw [commitRaise_eq_ok] at done
      exact .inl (by rw [done])
    · rename_i served
      simp only [Except.ok.injEq] at done
      rw [not_not, Option.map_eq_some_iff] at served
      exact .inr ⟨by rw [← done], served⟩

/-- A committed admission is quiet, or serves a request of the kernel's provider. -/
theorem tryAdmit_quiet_or_serves {db : RuntimeDb} {request : ProviderAdmissionRequest}
    {ttlSeconds : Nat} {now : Timestamp} {result : Committed RuntimeDb ProviderAdmissionPermit}
    (own : request.providerId = kernel.policy.providerId)
    (done : kernel.tryAdmit sha db request ttlSeconds now = .ok result) :
    Quiet db.admission result.1.admission ∨
      ∃ ready state chosen, Serves sha kernel db result.1 ready state request chosen now := by
  obtain ⟨before, mid, expired, outcome⟩ := tryAdmit_considers own done
  have first : Quiet db.admission mid.admission := quiet_of_effects (by decide) expired.effects
  rcases outcome with unchanged | ⟨ready, state, row, considered, rest⟩
  · exact .inl (unchanged ▸ first)
  · have second : Quiet mid.admission ready.admission := by
      rcases considered.inserted with same | ⟨_, enqueued⟩
      · exact same ▸ Quiet.refl _
      · exact quiet_of_effect (by decide) enqueued
    have quiet := first.trans second
    rcases grantIfServed_serves rest with unchanged | ⟨granted, chosen, selected, named⟩
    · exact .inl (unchanged ▸ quiet)
    · obtain ⟨stored, _⟩ := selectedWaiting_eq_some selected
      have same : chosen = row := ready.admission.requests.eq_of_key stored considered.stored
        (named.trans considered.named.symm)
      have matching := considered.matching
      simp only [rowMatchesRequest, decide_eq_true_eq] at matching
      exact .inr ⟨ready, state, chosen, quiet, considered.governsReady, selected,
        ⟨named, same ▸ matching.1, same ▸ matching.2.1, same ▸ matching.2.2.1⟩, granted⟩

variable {before after ready : RuntimeDb} {state : ControlRow}
  {request : ProviderAdmissionRequest} {chosen : RequestRow} {now : Timestamp}

/-- The tables after a grant. -/
theorem Serves.admission (serves : Serves sha kernel before after ready state request chosen now) :
    after.admission = (reserve ready.admission state request now).rewriteRequest chosen
      (chosen.toRequestProgress.granted (ready.fencingCounter + 1) now) := by
  obtain ⟨stored, _, waiting, _⟩ := selectedWaiting_eq_some serves.selected
  rw [serves.after]
  exact grant_admission stored serves.named.1 waiting

/-- The requests after a grant: the others as they were, and the granted row. -/
theorem Serves.requests (serves : Serves sha kernel before after ready state request chosen now)
    (row : RequestRow) : row ∈ after.admission.requests.rows ↔
      (row ∈ ready.admission.requests.rows ∧ row.requestId ≠ chosen.requestId) ∨
        row = grantedRow ready chosen now := by
  have stored : chosen ∈ (reserve ready.admission state request now).requests.rows :=
    (selectedWaiting_eq_some serves.selected).1
  rw [serves.admission]
  exact AdmissionTables.mem_rewriteRequest _ stored _ row

/-- A grant's upsert sets the last turn of its own project. -/
theorem lastGrant_incrementProject (tables : AdmissionTables) (providerId : String)
    (project : Digest) (sequence : Nat) (provider : String) (other : Digest) :
    lastGrant (tables.incrementProject providerId project sequence now) provider other =
      if (provider, other) = (providerId, project) then sequence
      else lastGrant tables provider other := by
  simp only [lastGrant, AdmissionTables.project?, AdmissionTables.incrementProject]
  split
  · rename_i fresh
    rw [Table.find?_insert]
    by_cases same : (provider, other) = (providerId, project)
    · rw [if_pos same, if_pos same.symm]
      rfl
    · rw [if_neg same, if_neg (Ne.symm same)]
  · rename_i held
    simp only [Table.find?_update, Option.map_map]
    by_cases same : (provider, other) = (providerId, project)
    · obtain ⟨row, stored, key⟩ := List.mem_map.mp (not_not.mp held)
      obtain ⟨rfl, rfl⟩ := Prod.mk.inj key
      rw [if_pos same, same]
      simp [tables.projects.find?_self stored]
    · rw [if_neg same]
      cases at_other : tables.projects.find? (provider, other) with
      | none => simp
      | some second =>
        obtain ⟨rfl, rfl⟩ := Prod.mk.inj ((tables.projects.find?_eq_some _ _).mp at_other).2
        rw [Prod.mk.injEq] at same
        simp [same]

/-- The grant columns a kernel finds are those of its control row. -/
theorem grantColumns_of_governs {tables : AdmissionTables}
    (governs : Governs sha kernel tables state) :
    grantColumns tables kernel.policy.providerId = (state.grantSequence, state.lastGrantedLane) := by
  have found : tables.states.find? kernel.policy.providerId = some state :=
    (tables.states.find?_eq_some _ _).mpr ⟨governs.stored, governs.provider⟩
  rw [grantColumns, found]
  rfl

/-- The grant columns after a grant. -/
theorem Serves.columns (serves : Serves sha kernel before after ready state request chosen now)
    (provider : String) : grantColumns after.admission provider =
      if provider = kernel.policy.providerId then
        (state.grantSequence + 1, some chosen.admissionLane)
      else grantColumns ready.admission provider := by
  have own : request.providerId = kernel.policy.providerId :=
    serves.named.2.1.symm.trans (selectedWaiting_eq_some serves.selected).2.1
  have found : ready.admission.states.find? kernel.policy.providerId = some state :=
    (Table.find?_eq_some _ _ _).mpr ⟨serves.governs.stored, serves.governs.provider⟩
  rw [serves.admission, grantColumns, AdmissionTables.rewriteRequest_states]
  simp only [reserve, AdmissionTables.incrementProject, Table.find?_update, own, Option.map_map]
  by_cases same : provider = kernel.policy.providerId
  · rw [if_pos same, same, found]
    simp [serves.governs.provider, serves.named.2.2.2]
  · rw [if_neg same, grantColumns]
    cases other : ready.admission.states.find? provider with
    | none => rfl
    | some row =>
      have named := ((Table.find?_eq_some _ _ _).mp other).2
      simp [named, same]

/-- A grant of a provider is booked behind its log, and leaves the other providers' logs. -/
theorem Serves.booked (serves : Serves sha kernel before after ready state request chosen now)
    {provider : String} {log : List (Digest × AdmissionLane)}
    (booked : Booked before.admission provider log) :
    Booked after.admission provider
      (if provider = kernel.policy.providerId then
        log ++ [(chosen.projectBindingDigest, chosen.admissionLane)] else log) := by
  have own : request.providerId = kernel.policy.providerId :=
    serves.named.2.1.symm.trans (selectedWaiting_eq_some serves.selected).2.1
  have found := serves.quiet.booked booked
  have turns : ∀ project, lastGrant after.admission provider project =
      if (provider, project) = (kernel.policy.providerId, chosen.projectBindingDigest) then
        state.grantSequence + 1
      else lastGrant ready.admission provider project := by
    intro project
    rw [serves.admission]
    show lastGrant (ready.admission.incrementProject _ _ _ now) provider project = _
    rw [lastGrant_incrementProject, own, serves.named.2.2.1]
  by_cases same : provider = kernel.policy.providerId
  · subst same
    rw [if_pos rfl]
    have sequence : state.grantSequence = log.length := by
      have columns := found.columns
      rw [grantColumns_of_governs serves.governs, Prod.mk.injEq] at columns
      exact columns.1
    constructor
    · rw [serves.columns, if_pos rfl, sequence, List.length_append, List.getLast?_concat]
      rfl
    · intro project
      rw [turns, List.map_append, List.map_singleton, lastServed_concat, List.length_map, sequence]
      by_cases served : project = chosen.projectBindingDigest
      · rw [if_pos (by rw [served]), if_pos served.symm]
      · rw [if_neg (by simp [served]), if_neg (Ne.symm served)]
        exact found.turns project
  · rw [if_neg same]
    constructor
    · rw [serves.columns, if_neg same]
      exact found.columns
    · intro project
      rw [turns, if_neg (by simp [same])]
      exact found.turns project

/-! ## The order of service -/

/-- The place of a request in the order of service. -/
def turn (tables : AdmissionTables) (row : RequestRow) : ℕ ×ₗ (ℕ ×ₗ ℕ) :=
  toLex (lastGrant tables row.providerId row.projectBindingDigest,
    toLex (row.requestedAt, row.requestId))

/-- The order of service is by project turn, then by arrival, then by identifier. -/
theorem servedBefore_iff (tables : AdmissionTables) (left right : RequestRow) :
    servedBefore tables left right = true ↔ turn tables left < turn tables right := by
  simp only [servedBefore, turn, lastGrant, Prod.Lex.toLex_lt_toLex, decide_eq_true_eq]

/-- Nothing in the order of service comes before what is served first. -/
theorem firstServed_least {tables : AdmissionTables} {rows : List RequestRow} {best : RequestRow}
    (found : firstServed tables rows = some best) :
    ∀ row ∈ rows, turn tables best ≤ turn tables row := by
  induction rows generalizing best with
  | nil => simp [firstServed] at found
  | cons row rest ih =>
    intro other member
    simp only [firstServed] at found
    split at found
    · rename_i none
      simp only [Option.some.injEq] at found
      subst found
      rcases List.mem_cons.mp member with rfl | later
      · exact le_refl _
      · obtain ⟨some, exists_best⟩ := firstServed_isSome tables (List.ne_nil_of_mem later)
        rw [none] at exists_best
        cases exists_best
    · rename_i later laterFound
      split at found
      · rename_i earlier
        simp only [Option.some.injEq] at found
        subst found
        rw [servedBefore_iff] at earlier
        rcases List.mem_cons.mp member with rfl | behind
        · exact le_of_lt earlier
        · exact ih laterFound other behind
      · rename_i notEarlier
        simp only [Option.some.injEq] at found
        subst found
        rw [servedBefore_iff, not_lt] at notEarlier
        rcases List.mem_cons.mp member with rfl | behind
        · exact le_refl _
        · exact le_trans notEarlier (ih laterFound other behind)

/-- The two classes that alternate. -/
def interactive (row : RequestRow) : Bool := row.admissionLane = .interactive

/-- The lane served next holds every eligible row of a class that it holds one of. -/
theorem mem_laneRows_of_class {lane : Option AdmissionLane} {rows : List RequestRow}
    {served other : RequestRow} (member : served ∈ laneRows lane rows) (eligible : other ∈ rows)
    (same : interactive other = interactive served) : other ∈ laneRows lane rows := by
  simp only [interactive, decide_eq_decide] at same
  unfold laneRows at member ⊢
  simp only at member ⊢
  split at member
  case isTrue chosen =>
    rw [if_pos chosen]
    simp only [List.mem_filter, decide_eq_true_eq] at member ⊢
    exact ⟨eligible, same.mpr member.2⟩
  case isFalse notChosen =>
    rw [if_neg notChosen]
    split at member
    case isTrue chosen =>
      rw [if_pos chosen]
      simp only [List.mem_filter, decide_eq_true_eq, ne_eq] at member ⊢
      exact ⟨eligible, fun held => member.2 (same.mp held)⟩
    case isFalse noOther =>
      rw [if_neg noOther]
      simp only [List.mem_filter, decide_eq_true_eq] at member ⊢
      exact ⟨eligible, same.mpr member.2⟩

/-- An interactive request served right after one means that no other was eligible. -/
theorem interactive_of_laneRows {rows : List RequestRow} {served other : RequestRow}
    (member : served ∈ laneRows (some .interactive) rows) (isInteractive : interactive served = true)
    (eligible : other ∈ rows) : interactive other = true := by
  simp only [interactive, decide_eq_true_eq] at isInteractive ⊢
  by_contra different
  have waits : (rows.filter (fun row => row.admissionLane ≠ .interactive)).isEmpty = false := by
    rw [List.isEmpty_eq_false_iff_exists_mem]
    exact ⟨other, by simp [eligible, different]⟩
  simp only [laneRows, ne_eq, not_true_eq_false, and_false, if_false, waits] at member
  simp [isInteractive] at member

/-- Another request served right after one of its class means that no interactive one was
eligible. -/
theorem not_interactive_of_laneRows {lane : Option AdmissionLane} {rows : List RequestRow}
    {served other : RequestRow} (last : lane ≠ some .interactive)
    (member : served ∈ laneRows lane rows) (notInteractive : interactive served = false)
    (eligible : other ∈ rows) : interactive other = false := by
  simp only [interactive, decide_eq_false_iff_not] at notInteractive ⊢
  intro isInteractive
  have waits : (rows.filter (fun row => row.admissionLane = .interactive)).isEmpty = false := by
    rw [List.isEmpty_eq_false_iff_exists_mem]
    exact ⟨other, by simp [eligible, isInteractive]⟩
  simp only [laneRows, waits, ne_eq, last, not_false_eq_true, Bool.false_eq_true, and_self,
    if_true] at member
  simp [notInteractive] at member

end ProviderAdmissionKernel
end Macr
