import Macr.ProviderAdmission.Turns

/-!
# The fairness of grants

The grants of a provider in a run, in their order, are the log that its tables book. A grant serves
the least request of the class whose turn it is, so between two grants of one project and class
every other project that waits in that class below its cap is granted; the classes alternate while
both wait; and within a project and class the earliest request is served.
-/

namespace Macr

open Lib ProviderAdmissionKernel

namespace AdmissionSystem

/-- The request of a provider that is granted in some tables and was not in earlier ones. -/
def newlyGranted (provider : String) (before after : AdmissionTables) : Option RequestRow :=
  after.requests.rows.find? (fun row => row.providerId = provider ∧ row.state = .granted ∧
    ¬∃ old ∈ before.requests.rows, old.requestId = row.requestId ∧ old.state = .granted)

/-- A step of a run that grants a request. -/
structure ObservedGrant where
  /-- The step. -/
  executed : Machine.Step AdmissionSystem AdmissionAction
  /-- The request, as the step leaves it. -/
  row : RequestRow

/-- The grant of a provider in a step. -/
def grantIn (provider : String) (x : Machine.Step AdmissionSystem AdmissionAction) :
    Option ObservedGrant :=
  (newlyGranted provider x.before.db.admission x.after.db.admission).map (fun row => ⟨x, row⟩)

/-- The grants of a provider in some steps, in their order. -/
def grantsOf (provider : String) (executed : List (Machine.Step AdmissionSystem AdmissionAction)) :
    List ObservedGrant :=
  executed.filterMap (grantIn provider)

namespace ObservedGrant

/-- The tables the step leaves. -/
def tables (grant : ObservedGrant) : AdmissionTables := grant.executed.after.db.admission

/-- Another request of the provider waits at the grant. -/
def Waits (grant : ObservedGrant) (other : RequestRow) : Prop :=
  other ∈ grant.tables.requests.rows ∧ other.providerId = grant.row.providerId ∧
    other.state = .waiting

/-- The project cap of the kernel that grants. -/
def cap? (grant : ObservedGrant) : Option Nat :=
  match grant.executed.action with
  | .commit index _ =>
    (grant.executed.before.pending[index]?).map (·.kernel.policy.perProjectCap)
  | _ => none

/-- The units a project holds besides the one granted. -/
def unitsBeside (grant : ObservedGrant) (project : Digest) : Nat :=
  grant.tables.requests.rows.countP (fun row => row.requestId ≠ grant.row.requestId ∧
    row.providerId = grant.row.providerId ∧ row.projectBindingDigest = project ∧
    row.state.holdsCapacity)

/-- A request's project is under its cap when the grant is made. -/
def UnderCap (grant : ObservedGrant) (other : RequestRow) : Prop :=
  ∃ cap ∈ grant.cap?, grant.unitsBeside other.projectBindingDigest + 1 ≤ cap

/-- The project and lane of a grant. -/
def entry (grant : ObservedGrant) : Digest × AdmissionLane :=
  (grant.row.projectBindingDigest, grant.row.admissionLane)

end ObservedGrant

variable {sha : Sha256} {system : AdmissionSystem} {action : AdmissionAction}

/-! ## The grant of one step -/

/-- A quiet change grants nothing. -/
theorem newlyGranted_of_quiet {before after : AdmissionTables} (quiet : Quiet before after)
    (provider : String) : newlyGranted provider before after = none := by
  rw [newlyGranted, List.find?_eq_none]
  intro row held met
  simp only [decide_eq_true_eq] at met
  obtain ⟨_, granted, fresh⟩ := met
  obtain ⟨old, stored, same, _, wasGranted⟩ := quiet.grants row held granted
  exact fresh ⟨old, stored, same, wasGranted⟩

/-- A grant is the one new grant, of its kernel's provider. -/
theorem newlyGranted_of_serves {kernel : ProviderAdmissionKernel} {before after ready : RuntimeDb}
    {state : ControlRow} {request : ProviderAdmissionRequest} {chosen : RequestRow}
    {now : Timestamp}
    (serves : Serves sha kernel before after ready state request chosen now) (provider : String) :
    newlyGranted provider before.admission after.admission =
      if provider = kernel.policy.providerId then some (grantedRow ready chosen now) else none := by
  obtain ⟨chosenStored, own, waiting, _⟩ := selectedWaiting_eq_some serves.selected
  -- Whatever is newly granted is the granted row.
  have only : ∀ row ∈ after.admission.requests.rows, row.state = .granted →
      (¬∃ old ∈ before.admission.requests.rows, old.requestId = row.requestId ∧
        old.state = .granted) → row = grantedRow ready chosen now := by
    intro row held granted fresh
    rcases (serves.requests row).mp held with ⟨there, _⟩ | same
    · obtain ⟨old, stored, same, _, wasGranted⟩ := serves.quiet.grants row there granted
      exact absurd ⟨old, stored, same, wasGranted⟩ fresh
    · exact same
  have fresh : ¬∃ old ∈ before.admission.requests.rows, old.requestId = chosen.requestId ∧
      old.state = .granted := by
    rintro ⟨old, stored, same, wasGranted⟩
    have waited := serves.quiet.waits chosen chosenStored waiting old stored same
    rw [waited] at wasGranted
    cases wasGranted
  have held : grantedRow ready chosen now ∈ after.admission.requests.rows :=
    (serves.requests _).mpr (.inr rfl)
  cases found : newlyGranted provider before.admission after.admission with
  | some row =>
    have met := List.find?_some found
    simp only [decide_eq_true_eq] at met
    have same := only row (List.mem_of_find?_eq_some found) met.2.1 met.2.2
    have named : provider = kernel.policy.providerId := by
      rw [← met.1, same]
      exact own
    rw [if_pos named, same]
  | none =>
    have unmet := List.find?_eq_none.mp found _ held
    have other : provider ≠ kernel.policy.providerId := by
      intro named
      exact unmet (decide_eq_true ⟨own.trans named.symm, rfl, fresh⟩)
    rw [if_neg other]

/-- Every step is quiet, or a committed admission that serves a request. -/
theorem step_quiet_or_serves (sound : Sound sha system) (action : AdmissionAction) :
    Quiet system.db.admission (step sha system action).db.admission ∨
      ∃ call clocks result ready state request chosen,
        Commits sha system action call clocks result ∧
        Serves sha call.kernel system.db (step sha system action).db ready state request chosen
          clocks.kernel := by
  rcases step_cases sha system action with same | ⟨kernel, provider, kind, free, effect⟩ |
      ⟨call, clocks, result, commits⟩
  · rw [same]
    exact .inl (Quiet.refl _)
  · have other : kind ≠ .grant := by
      rintro rfl
      exact absurd free (by decide)
    exact .inl (quiet_of_effect other effect)
  · obtain ⟨member, done⟩ := commits.transacted
    obtain ⟨_, prepared⟩ := sound.pending call member
    cases called : call.call with
    | tryAdmit request ttlSeconds =>
      rw [called] at done prepared
      obtain ⟨inner, committed, rfl⟩ := except_map_eq_ok.mp done
      rcases tryAdmit_quiet_or_serves prepared committed with quiet | ⟨ready, state, chosen, serves⟩
      · rw [commits.db]
        exact .inl quiet
      · refine .inr ⟨call, clocks, _, ready, state, request, chosen, commits, ?_⟩
        rw [commits.db]
        exact serves
    | _ =>
      obtain ⟨provider, _, mid, own, chosen⟩ := transact_effects prepared done
      have none : EffectKind.grant ∉ call.call.kinds := by
        rw [called]
        simp [KernelCall.kinds]
      rw [commits.db]
      exact .inl ((quiet_of_effects none own).trans (quiet_of_effects none chosen))

/-- Every step books the grant it makes, if it makes one. -/
theorem booked_step (sound : Sound sha system) (action : AdmissionAction) {provider : String}
    {log : List (Digest × AdmissionLane)} (booked : Booked system.db.admission provider log) :
    Booked (step sha system action).db.admission provider
      (log ++ ((grantIn provider ⟨system, action, step sha system action⟩).map
        ObservedGrant.entry).toList) := by
  rcases step_quiet_or_serves sound action with quiet |
      ⟨call, clocks, result, ready, state, request, chosen, _, serves⟩
  · rw [grantIn, newlyGranted_of_quiet quiet, Option.map_none, Option.map_none, Option.toList_none,
      List.append_nil]
    exact quiet.booked booked
  · have after := serves.booked booked
    rw [grantIn, newlyGranted_of_serves serves]
    by_cases own : provider = call.kernel.policy.providerId
    · rw [if_pos own] at after ⊢
      exact after
    · rw [if_neg own] at after ⊢
      rw [Option.map_none, Option.map_none, Option.toList_none, List.append_nil]
      exact after

/-- The grants of a provider in a run are the log that its tables book. -/
theorem booked_run (sha : Sha256) (provider : String) (actions : List AdmissionAction) :
    Sound sha ((machine sha).run .initial actions) ∧
      Booked ((machine sha).run .initial actions).db.admission provider
        ((grantsOf provider ((machine sha).steps .initial actions)).map ObservedGrant.entry) := by
  induction actions using List.reverseRecOn with
  | nil => exact ⟨sound_initial, booked_initial provider⟩
  | append_singleton actions action ih =>
    obtain ⟨sound, booked⟩ := ih
    rw [Machine.run_concat]
    refine ⟨sound_step sound action, ?_⟩
    have next := booked_step sound action booked
    have grown : grantsOf provider ((machine sha).steps .initial (actions ++ [action])) =
        grantsOf provider ((machine sha).steps .initial actions) ++
          (grantIn provider ⟨(machine sha).run .initial actions, action,
            step sha ((machine sha).run .initial actions) action⟩).toList := by
      rw [Machine.steps_append, grantsOf, List.filterMap_append]
      congr 1
    rw [grown, List.map_append]
    cases made : grantIn provider ⟨(machine sha).run .initial actions, action,
        step sha ((machine sha).run .initial actions) action⟩ with
    | none =>
      rw [made] at next
      exact next
    | some grant =>
      rw [made] at next
      exact next

/-! ## A grant in its run -/

/-- A grant of a run as its admission made it, behind the grants before it. -/
structure Placed (sha : Sha256) (provider : String) (grants : List ObservedGrant) (index : Nat)
    (grant : ObservedGrant) (kernel : ProviderAdmissionKernel) (ready : RuntimeDb)
    (state : ControlRow) (request : ProviderAdmissionRequest) (chosen : RequestRow)
    (now : Timestamp) : Prop where
  /-- The admission serves the request. -/
  serves : Serves sha kernel grant.executed.before.db grant.executed.after.db ready state request
    chosen now
  /-- The grant is of the request it serves. -/
  row : grant.row = grantedRow ready chosen now
  /-- The kernel is the provider's. -/
  own : provider = kernel.policy.providerId
  /-- The cap is the kernel's. -/
  cap : grant.cap? = some kernel.policy.perProjectCap
  /-- The tables found book the grants before it. -/
  booked : Booked ready.admission provider ((grants.take index).map ObservedGrant.entry)
  /-- There are as many before it as its place says. -/
  length : (grants.take index).length = index

/-- Every grant of a run is placed. -/
theorem placed_of_run (sha : Sha256) (provider : String) (actions : List AdmissionAction)
    {index : Nat} {grant : ObservedGrant}
    (found : (grantsOf provider ((machine sha).steps .initial actions))[index]? = some grant) :
    ∃ kernel ready state request chosen now,
      Placed sha provider (grantsOf provider ((machine sha).steps .initial actions)) index grant
        kernel ready state request chosen now := by
  obtain ⟨first, action, rest, _, seen, length, begins⟩ :=
    (machine sha).observed_at (grantIn provider) found
  obtain ⟨sound, booked⟩ := booked_run sha provider first
  simp only [grantIn, Option.map_eq_some_iff] at seen
  obtain ⟨row, granted, rfl⟩ := seen
  have before : grantsOf provider ((machine sha).steps .initial first) =
      (grantsOf provider ((machine sha).steps .initial actions)).take index := by
    rw [← length]
    exact List.prefix_iff_eq_take.mp begins
  rcases step_quiet_or_serves sound action with quiet |
      ⟨call, clocks, result, ready, state, request, chosen, commits, serves⟩
  · rw [show (machine sha).step _ action = step sha _ action from rfl,
      newlyGranted_of_quiet quiet] at granted
    cases granted
  · rw [show (machine sha).step _ action = step sha _ action from rfl,
      newlyGranted_of_serves serves] at granted
    split at granted
    case isFalse => cases granted
    case isTrue own =>
      simp only [Option.some.injEq] at granted
      refine ⟨call.kernel, ready, state, request, chosen, clocks.kernel, serves, granted.symm, own,
        ?_, ?_, ?_⟩
      · obtain ⟨place, rfl, transacted⟩ := commits
        simp only [transaction, Option.map_eq_some_iff, Prod.mk.injEq] at transacted
        obtain ⟨pending, at_place, rfl, _⟩ := transacted
        simp only [ObservedGrant.cap?, at_place, Option.map_some]
      · rw [← before]
        exact serves.quiet.booked booked
      · rw [← before]
        exact length

section Placed

variable {provider : String} {grants : List ObservedGrant} {index : Nat} {grant : ObservedGrant}
  {kernel : ProviderAdmissionKernel} {ready : RuntimeDb} {state : ControlRow}
  {request : ProviderAdmissionRequest} {chosen : RequestRow} {now : Timestamp}

/-- A request that waits at a grant waited where the admission selected, and is another one. -/
theorem Placed.waits
    (placed : Placed sha provider grants index grant kernel ready state request chosen now)
    {other : RequestRow} (waits : grant.Waits other) :
    other ∈ ready.admission.requests.rows ∧ other.requestId ≠ chosen.requestId ∧
      other.providerId = kernel.policy.providerId := by
  obtain ⟨held, own, waiting⟩ := waits
  rcases (placed.serves.requests other).mp held with ⟨there, different⟩ | same
  · refine ⟨there, different, own.trans ?_⟩
    rw [placed.row]
    exact (selectedWaiting_eq_some placed.serves.selected).2.1
  · rw [same] at waiting
    cases waiting

/-- The units a project held where the admission selected are those it holds besides the grant. -/
theorem Placed.units
    (placed : Placed sha provider grants index grant kernel ready state request chosen now)
    (project : Digest) :
    grant.unitsBeside project =
      ready.admission.projectActive kernel.policy.providerId project := by
  obtain ⟨stored, own, waiting, _⟩ := selectedWaiting_eq_some placed.serves.selected
  have held : chosen ∈ (reserve ready.admission state request now).requests.rows := stored
  have moved := AdmissionTables.countP_rewriteRequest _ held
    (chosen.toRequestProgress.granted (ready.fencingCounter + 1) now)
    (fun row => row.requestId ≠ grant.row.requestId ∧ row.providerId = grant.row.providerId ∧
      row.projectBindingDigest = project ∧ row.state.holdsCapacity)
  have named : grant.row.requestId = chosen.requestId := by
    rw [placed.row]
    rfl
  have ownRow : grant.row.providerId = kernel.policy.providerId := by
    rw [placed.row]
    exact own
  rw [← placed.serves.admission] at moved
  simp only [named, ne_eq, not_true_eq_false, false_and, decide_false, Bool.false_eq_true,
    if_false, Nat.add_zero] at moved
  unfold ObservedGrant.unitsBeside ObservedGrant.tables
  simp only [named, ne_eq]
  refine moved.trans ?_
  apply List.countP_congr
  intro row there
  simp only [decide_eq_true_eq, ownRow]
  constructor
  · exact fun beside => beside.2
  · intro holds
    refine ⟨?_, holds⟩
    intro same
    -- The selected request waits, and holds no unit.
    have equal := ready.admission.requests.eq_of_key there stored same
    rw [equal, waiting] at holds
    exact absurd holds.2.2 (by decide)

/-- A request that waits under its cap at a grant was eligible. -/
theorem Placed.eligible
    (placed : Placed sha provider grants index grant kernel ready state request chosen now)
    {other : RequestRow} (waits : grant.Waits other)
    (under : grant.unitsBeside other.projectBindingDigest + 1 ≤ kernel.policy.perProjectCap) :
    other ∈ kernel.eligible ready.admission := by
  obtain ⟨there, _, own⟩ := placed.waits waits
  simp only [ProviderAdmissionKernel.eligible, List.mem_filter, decide_eq_true_eq]
  refine ⟨there, own, waits.2.2, ?_⟩
  rw [own, ← placed.units]
  exact under

/-- The order of service does not put a request of the class served, whose project held no more
than the cap allows, before the one granted. -/
theorem Placed.least
    (placed : Placed sha provider grants index grant kernel ready state request chosen now)
    {other : RequestRow} (waits : grant.Waits other)
    (class_eq : interactive other = interactive grant.row)
    (under : grant.unitsBeside other.projectBindingDigest + 1 ≤ kernel.policy.perProjectCap) :
    turn ready.admission chosen ≤ turn ready.admission other := by
  have eligible := placed.eligible waits under
  have served := firstServed_mem placed.serves.selected
  have same : interactive other = interactive chosen := by
    rw [class_eq, placed.row]
    rfl
  exact firstServed_least placed.serves.selected other
    (mem_laneRows_of_class served eligible same)

/-- The order of service does not put the last turn of the project granted behind that of another
request's project. -/
theorem Placed.lastGrant_le
    (placed : Placed sha provider grants index grant kernel ready state request chosen now)
    {other : RequestRow} (waits : grant.Waits other)
    (class_eq : interactive other = interactive grant.row)
    (under : grant.unitsBeside other.projectBindingDigest + 1 ≤ kernel.policy.perProjectCap) :
    lastServed (((grants.take index).map ObservedGrant.entry).map (·.1))
        grant.row.projectBindingDigest ≤
      lastServed (((grants.take index).map ObservedGrant.entry).map (·.1))
        other.projectBindingDigest := by
  have least := placed.least waits class_eq under
  have ownOther : other.providerId = provider :=
    (placed.waits waits).2.2.trans placed.own.symm
  have ownChosen : chosen.providerId = provider :=
    (selectedWaiting_eq_some placed.serves.selected).2.1.trans placed.own.symm
  have turns := placed.booked.turns
  rw [← turns, ← turns, placed.row]
  simp only [turn, ownOther, ownChosen, Prod.Lex.toLex_le_toLex] at least
  rcases least with earlier | ⟨same, _⟩
  · exact le_of_lt earlier
  · exact le_of_eq same

/-- The sequence an admission read counts the grants before its own. -/
theorem Placed.sequence
    (placed : Placed sha provider grants index grant kernel ready state request chosen now) :
    state.grantSequence = index := by
  have columns := placed.booked.columns
  rw [placed.own, grantColumns_of_governs placed.serves.governs, Prod.mk.injEq] at columns
  rw [columns.1, List.length_map, placed.length]

/-- The lane of the last grant before a grant is the one its admission read. -/
theorem Placed.lastLane
    (placed : Placed sha provider grants index grant kernel ready state request chosen now) :
    state.lastGrantedLane =
      (grants.take index).getLast?.map (fun last => last.row.admissionLane) := by
  have columns := placed.booked.columns
  rw [placed.own, grantColumns_of_governs placed.serves.governs, Prod.mk.injEq] at columns
  rw [columns.2, List.getLast?_map, Option.map_map]
  rfl

end Placed

/-! ## Fairness -/

/-- A project and a class that two grants share. -/
def ObservedGrant.Alike (first second : ObservedGrant) : Prop :=
  first.row.projectBindingDigest = second.row.projectBindingDigest ∧
    interactive first.row = interactive second.row

/-- Another request of the granted class, under its project cap, waits at a grant. -/
def ObservedGrant.Rivals (grant : ObservedGrant) (other : RequestRow) : Prop :=
  grant.Waits other ∧ grant.UnderCap other ∧ interactive other = interactive grant.row

/-- The grants of a provider, in their order, are fair. -/
structure Fair (provider : String) (grants : List ObservedGrant) : Prop where
  /-- A grant is of the provider, takes its place as sequence and leaves its lane as the last. -/
  sequence : ∀ (place : Nat) (grant : ObservedGrant), grants[place]? = some grant →
    grant.row.providerId = provider ∧ grant.row.state = .granted ∧
      grantColumns grant.tables provider = (place + 1, some grant.row.admissionLane)
  /-- Between two grants of a project and class, every other project that waits in the class under
  its cap at the second is granted. -/
  rotation : ∀ (early late : Nat) (first second : ObservedGrant) (other : RequestRow),
    grants[early]? = some first → grants[late]? = some second → early < late →
    first.Alike second → second.Rivals other →
    other.projectBindingDigest ≠ second.row.projectBindingDigest →
    ∃ (between : Nat) (third : ObservedGrant), early < between ∧ between < late ∧
      grants[between]? = some third ∧
      third.row.projectBindingDigest = other.projectBindingDigest
  /-- Two consecutive grants of a class leave no request of the other class waiting under its
  cap. -/
  alternation : ∀ (place : Nat) (first second : ObservedGrant) (other : RequestRow),
    grants[place]? = some first → grants[place + 1]? = some second →
    interactive first.row = interactive second.row → second.Waits other →
    second.UnderCap other → interactive other = interactive second.row
  /-- Within a project and class the earliest waiting request is granted. -/
  arrival : ∀ (place : Nat) (grant : ObservedGrant) (other : RequestRow),
    grants[place]? = some grant → grant.Waits other →
    other.projectBindingDigest = grant.row.projectBindingDigest →
    interactive other = interactive grant.row →
    toLex (grant.row.requestedAt, grant.row.requestId) < toLex (other.requestedAt, other.requestId)

/-- In every run of the kernels, the grants of each provider are fair. -/
theorem fair_grants (sha : Sha256) (actions : List AdmissionAction) (provider : String) :
    Fair provider (grantsOf provider ((machine sha).steps .initial actions)) where
  sequence := by
    intro place grant found
    obtain ⟨kernel, ready, state, request, chosen, now, placed⟩ :=
      placed_of_run sha provider actions found
    have after := placed.serves.columns provider
    rw [if_pos placed.own, placed.sequence] at after
    rw [placed.row]
    exact ⟨(selectedWaiting_eq_some placed.serves.selected).2.1.trans placed.own.symm, rfl, after⟩
  rotation := by
    intro early late first second other atEarly atLate earlier alike rivals different
    obtain ⟨waits, ⟨cap, capped, under⟩, class_eq⟩ := rivals
    obtain ⟨kernel, ready, state, request, chosen, now, placed⟩ :=
      placed_of_run sha provider actions atLate
    rw [placed.cap, Option.mem_some_iff] at capped
    subst capped
    have preferred := placed.lastGrant_le waits class_eq under
    generalize grantsOf provider ((machine sha).steps .initial actions) = grants at *
    have served : (((grants.take late).map ObservedGrant.entry).map (·.1))[early]? =
        some second.row.projectBindingDigest := by
      rw [List.getElem?_map, List.getElem?_map, List.getElem?_take_of_lt earlier, atEarly,
        ← alike.1]
      rfl
    obtain ⟨between, behind, servedOther⟩ := served_between served different preferred
    simp only [List.getElem?_map, Option.map_map, Option.map_eq_some_iff] at servedOther
    obtain ⟨third, atBetween, project⟩ := servedOther
    have bound : between < late := by
      have inside := (List.getElem?_eq_some_iff.mp atBetween).1
      rw [List.length_take] at inside
      omega
    rw [List.getElem?_take_of_lt bound] at atBetween
    exact ⟨between, third, behind, bound, atBetween, project⟩
  alternation := by
    intro place first second other atFirst atSecond class_eq waits underCap
    obtain ⟨cap, capped, under⟩ := underCap
    obtain ⟨kernel, ready, state, request, chosen, now, placed⟩ :=
      placed_of_run sha provider actions atSecond
    rw [placed.cap, Option.mem_some_iff] at capped
    subst capped
    have eligible := placed.eligible waits under
    have served := firstServed_mem placed.serves.selected
    have last : state.lastGrantedLane = some first.row.admissionLane := by
      rw [placed.lastLane, List.getLast?_take, Nat.add_sub_cancel, atFirst]
      rfl
    have same : interactive second.row = interactive chosen := by
      rw [placed.row]
      rfl
    rw [last] at served
    rw [same] at class_eq ⊢
    cases isInteractive : interactive chosen with
    | true =>
      rw [isInteractive] at class_eq
      simp only [interactive, decide_eq_true_eq] at class_eq
      rw [class_eq] at served
      exact interactive_of_laneRows served isInteractive eligible
    | false =>
      rw [isInteractive] at class_eq
      simp only [interactive, decide_eq_false_iff_not] at class_eq
      exact not_interactive_of_laneRows (by simpa using class_eq) served isInteractive eligible
  arrival := by
    intro place grant other found waits project class_eq
    obtain ⟨kernel, ready, state, request, chosen, now, placed⟩ :=
      placed_of_run sha provider actions found
    obtain ⟨_, own, _, room⟩ := selectedWaiting_eq_some placed.serves.selected
    have ownOther := (placed.waits waits).2.2
    have projectChosen : other.projectBindingDigest = chosen.projectBindingDigest := by
      rw [project, placed.row]
      rfl
    have under : grant.unitsBeside other.projectBindingDigest + 1 ≤ kernel.policy.perProjectCap := by
      rw [placed.units, projectChosen, ← own]
      exact room
    have least := placed.least waits class_eq under
    rw [turn, turn, own, ownOther, projectChosen, Prod.Lex.toLex_le_toLex] at least
    rcases least with earlier | ⟨_, arrived⟩
    · exact absurd earlier (lt_irrefl _)
    · rw [placed.row]
      refine lt_of_le_of_ne arrived ?_
      intro same
      have named := congrArg (fun place => (ofLex place).2) same
      exact (placed.waits waits).2.1 named.symm

end AdmissionSystem
end Macr
