import Macr.Capability.Store
import Mathlib.Logic.Function.Basic

/-!
# Which tier is in force

The four readers return the binding of the last activation that was committed, or that of the
standard tier. An activation commits only after its authority was verified; the authority is
still current at the commit when nothing withdrew it and its time did not run out in between.
-/

namespace Macr

open Lib

namespace CapabilityDb

variable {sha : Sha256} {resolver : ProviderCapabilityResolver} {db : CapabilityDb}

/-- What opened stores and activations leave in the database. -/
structure Valid (sha : Sha256) (resolver : ProviderCapabilityResolver) (db : CapabilityDb) :
    Prop where
  /-- The schema is the supported one. -/
  schema : db.schemaVersion = capabilitySchemaVersion
  /-- Every row is that of a published policy. -/
  policies : ∀ row ∈ db.policies.rows, row = policyRow sha row.body ∧ row.body ∈ resolver.policies
  /-- No two rows have one binding. -/
  unique : (db.policies.rows.map (·.bindingDigest)).Nodup

/-- A binding is that of a stored policy. -/
def Stored (sha : Sha256) (db : CapabilityDb) (binding : ProviderTierBinding) : Prop :=
  ∃ row ∈ db.policies.rows, row.body.binding sha = binding

theorem valid_initial : Valid sha resolver initial := ⟨rfl, by simp [initial], List.nodup_nil⟩

/-- A row of a policy is read back. -/
theorem policyFromRow_policyRow (policy : ProviderCapabilityPolicy) :
    policyFromRow sha (policyRow sha policy) = .ok policy := by
  simp [policyFromRow, policyRow, raiseIf, bind, Except.bind, pure, Except.pure]

/-- A policy is supported when it is published. -/
theorem requireSupportedPolicy_eq_ok {policy supported : ProviderCapabilityPolicy} :
    requireSupportedPolicy resolver policy = .ok supported ↔
      supported = policy ∧ policy ∈ resolver.policies := by
  unfold requireSupportedPolicy
  cases resolved : resolver.resolve policy.providerId policy.modelId policy.tierId
      policy.revision with
  | ok found =>
    obtain ⟨published, named⟩ := resolver.resolve_eq_ok.mp resolved
    simp only [bind_eq_ok, raiseIf_eq_ok, exists_const, not_not, pure_eq_ok]
    constructor
    · rintro ⟨rfl, rfl⟩
      exact ⟨rfl, published⟩
    · rintro ⟨rfl, member⟩
      exact ⟨List.inj_on_of_nodup_map resolver.distinct published member named, rfl⟩
  | error raised =>
    have absent : policy ∉ resolver.policies := by
      intro published
      rw [resolver.resolve_eq_ok.mpr ⟨published, rfl⟩] at resolved
      cases resolved
    simp only [absent, and_false, iff_false]
    split <;> simp_all

namespace Valid

variable (valid : Valid sha resolver db)

include valid

/-- The policy of a stored binding is found under its columns. -/
theorem find?_stored {row : CapabilityPolicyRow} (stored : row ∈ db.policies.rows) :
    db.policies.find? (row.body.binding sha).key = some (policyRow sha row.body) := by
  obtain ⟨same, _⟩ := valid.policies row stored
  rw [Table.find?_eq_some, ← same]
  refine ⟨stored, ?_⟩
  rw [same]
  rfl

/-- The row of an activation is resolved to its policy. -/
theorem activePolicy_activeRow {row : CapabilityPolicyRow} (stored : row ∈ db.policies.rows)
    (authorityDigest : Digest) :
    activePolicy sha resolver db (activeRow sha (row.body.binding sha) authorityDigest) =
      .ok row.body := by
  have found := valid.find?_stored stored
  have published := (valid.policies row stored).2
  have columns : (activeRow sha (row.body.binding sha) authorityDigest).bindingDigest =
      (policyRow sha row.body).bindingDigest := rfl
  unfold activePolicy
  show (do
    raiseIf (some authorityDigest = none) _
    let stored ← require ((db.policies.find? (row.body.binding sha).key).filter _) _
    requireSupportedPolicy resolver (← policyFromRow sha stored)) = _
  rw [found, Option.filter_some_pos (by simp [columns])]
  simp only [require, bind_eq_ok, raiseIf_eq_ok, reduceCtorEq, not_false_eq_true, exists_const,
    true_and, Except.ok.injEq, exists_eq_left', policyFromRow_policyRow,
    requireSupportedPolicy_eq_ok]
  exact published

/-- A binding that is found by its digest is that of a stored policy. -/
theorem bindingForDigest_eq_ok {digest : Digest} {binding : ProviderTierBinding}
    (found : bindingForDigest sha db digest = .ok binding) :
    Stored sha db binding ∧ binding.bindingDigest sha = digest := by
  simp only [bindingForDigest, bindingFromRow, bind_eq_ok, require_eq_ok, pure_eq_ok] at found
  obtain ⟨row, matched, policy, read, rfl⟩ := found
  have stored := List.mem_of_find?_eq_some matched
  have named : row.bindingDigest = digest := by simpa using List.find?_some matched
  obtain ⟨same, _⟩ := valid.policies row stored
  rw [same, policyFromRow_policyRow, Except.ok.injEq] at read
  refine ⟨⟨row, stored, by rw [read]⟩, ?_⟩
  rw [← named, same, ← read]
  rfl

/-- Two stored bindings of one digest are one. -/
theorem stored_unique {binding other : ProviderTierBinding} (stored : Stored sha db binding)
    (held : Stored sha db other) (same : binding.bindingDigest sha = other.bindingDigest sha) :
    binding = other := by
  obtain ⟨row, member, rfl⟩ := stored
  obtain ⟨second, also, rfl⟩ := held
  have digests : row.bindingDigest = second.bindingDigest := by
    rw [(valid.policies row member).1, (valid.policies second also).1]
    exact same
  rw [List.inj_on_of_nodup_map valid.unique member also digests]

/-- The transaction of an activation of a stored binding writes its row. -/
theorem activateAuthorized_stored {binding : ProviderTierBinding}
    (stored : Stored sha db binding) (authorityDigest : Digest) :
    activateAuthorized sha db binding authorityDigest =
      commit { db with active := db.upsertActive (activeRow sha binding authorityDigest) } () := by
  obtain ⟨row, member, rfl⟩ := stored
  unfold activateAuthorized
  rw [valid.find?_stored member]
  simp [require, bindingFromRow, policyFromRow_policyRow, raiseIf, bind, Except.bind, pure,
    Except.pure]

/-- Saving a policy keeps the database valid, its active rows and its policies. -/
theorem savePolicy_settled (policy : ProviderCapabilityPolicy) :
    Valid sha resolver (settle db (savePolicy sha resolver db policy)).1 ∧
      (settle db (savePolicy sha resolver db policy)).1.active = db.active ∧
      ∀ binding, Stored sha db binding →
        Stored sha (settle db (savePolicy sha resolver db policy)).1 binding := by
  cases done : savePolicy sha resolver db policy with
  | error raised => exact ⟨valid, rfl, fun _ stored => stored⟩
  | ok result =>
    simp only [savePolicy, bind_eq_ok, requireSupportedPolicy_eq_ok] at done
    obtain ⟨supported, ⟨same, published⟩, rest⟩ := done
    rw [same] at rest
    split at rest
    · simp only [raiseIf_eq_ok, exists_const, commit_eq_ok, bind_eq_ok] at rest
      obtain ⟨_, rfl⟩ := rest
      exact ⟨valid, rfl, fun _ stored => stored⟩
    · simp only [raiseIf_eq_ok, exists_const, commit_eq_ok, bind_eq_ok, require_eq_ok,
        Table.insert?_eq_some] at rest
      obtain ⟨fresh, policies, ⟨_, rfl⟩, rfl⟩ := rest
      refine ⟨⟨valid.schema, ?_, ?_⟩, rfl, ?_⟩
      · intro row stored
        rcases List.mem_append.mp stored with old | new
        · exact valid.policies row old
        · rw [List.mem_singleton.mp new]
          exact ⟨rfl, published⟩
      · show ((db.policies.rows ++ [policyRow sha policy]).map (·.bindingDigest)).Nodup
        rw [List.map_append, List.map_singleton]
        refine List.Nodup.append valid.unique (List.nodup_singleton _)
          (List.disjoint_singleton.mpr ?_)
        intro held
        obtain ⟨row, stored, same⟩ := List.mem_map.mp held
        exact fresh ⟨row, stored, same⟩
      · rintro binding ⟨row, stored, same⟩
        exact ⟨row, List.mem_append_left _ stored, same⟩

end Valid

/-- A new active row is found under its columns, every other as before. -/
theorem find?_upsertActive (row : CapabilityActiveRow) (key : String × String) :
    (db.upsertActive row).find? key = if row.key = key then some row else db.active.find? key := by
  unfold upsertActive
  split
  case isTrue fresh => exact Table.find?_insert db.active row fresh key
  case isFalse held =>
    rw [Table.find?_update]
    rw [not_not, List.mem_map] at held
    obtain ⟨old, stored, same⟩ := held
    by_cases here : row.key = key
    · rw [if_pos here, ← here, ← same, Table.find?_self db.active stored]
      simp only [Option.map_some, same, decide_true, if_true, Option.some.injEq]
      simp only [CapabilityActiveRow.key, Prod.mk.injEq] at same
      obtain ⟨provider, model⟩ := same
      cases row
      simp_all
    · rw [if_neg here]
      cases found : db.active.find? key with
      | none => rfl
      | some other =>
        have named := ((Table.find?_eq_some _ _ _).mp found).2
        have apart : ¬other.key = row.key := fun equal => here (equal ▸ named)
        simp only [Option.map_some, decide_eq_false apart, Bool.false_eq_true, if_false]

/-- The row of an activation is found under the columns of its binding. -/
theorem find?_activated (binding : ProviderTierBinding) (authorityDigest : Digest)
    (key : String × String) :
    (db.upsertActive (activeRow sha binding authorityDigest)).find? key =
      if (binding.providerId, binding.modelId) = key then
        some (activeRow sha binding authorityDigest)
      else db.active.find? key :=
  find?_upsertActive _ key

end CapabilityDb

/-- A verification returns the reference it was given. -/
theorem AuthorityTables.verifyRows_result {sha : Sha256} {epochRow : AuthorityEpoch}
    {found : Option AuthorityRow} {now : Timestamp} {reference result : AuthorizationReference}
    {use : AuthorityUse}
    (accepted : verifyRows sha epochRow found now reference use = .ok result) :
    result = reference := by
  simp only [verifyRows, bind_eq_ok, raiseIf_eq_ok, exists_const, require_eq_ok,
    pure_eq_ok] at accepted
  obtain ⟨_, _, _, _, _, _, _, _, _, same⟩ := accepted
  exact same.symm

/-! ## What the readers return -/

/-- A reader returns a binding, or raises when there is none. -/
def Reads (result : Except MacrError ProviderTierBinding) :
    Option ProviderTierBinding → Prop
  | some binding => result = .ok binding
  | none => ∃ raised, result = .error raised

/-- The four readers agree on a binding. -/
structure ReadersAgree (sha : Sha256) (resolver : ProviderCapabilityResolver)
    (file : Option CapabilityDb) (providerId modelId : String)
    (expected : Option ProviderTierBinding) : Prop where
  /-- `effective_binding`. -/
  binding : Reads ((file.getD .initial).effectiveBinding sha resolver providerId modelId) expected
  /-- `effective_policy`. -/
  policy : Reads (((file.getD .initial).effectivePolicy sha resolver providerId modelId).map
    (·.binding sha)) expected
  /-- `read_effective_binding`. -/
  readBinding :
    Reads (CapabilityDb.readEffectiveBinding sha resolver file providerId modelId) expected
  /-- `read_effective_policy`. -/
  readPolicy : Reads ((CapabilityDb.readEffectivePolicy sha resolver file providerId modelId).map
    (·.binding sha)) expected

section Readers

variable {sha : Sha256} {resolver : ProviderCapabilityResolver} {providerId modelId : String}

/-- The standard binding of a model, if the adapters publish one. -/
def standardBinding (sha : Sha256) (resolver : ProviderCapabilityResolver)
    (providerId modelId : String) : Option ProviderTierBinding :=
  (resolver.resolve providerId modelId "standard" 1).toOption.map (·.binding sha)

/-- Both ways to the standard tier lead to its binding, or raise. -/
theorem reads_standard :
    Reads (resolver.defaultBinding sha providerId modelId)
        (standardBinding sha resolver providerId modelId) ∧
      Reads ((resolver.resolve providerId modelId "standard" 1).map (·.binding sha))
        (standardBinding sha resolver providerId modelId) := by
  unfold standardBinding ProviderCapabilityResolver.defaultBinding
  cases resolver.resolve providerId modelId "standard" 1 with
  | ok policy => exact ⟨rfl, rfl⟩
  | error raised =>
    refine ⟨?_, raised, rfl⟩
    show ∃ other, _ = Except.error other
    split
    · rename_i resolved
      cases resolved
    · exact ⟨_, rfl⟩
    · exact ⟨_, rfl⟩

/-- The readers of a database agree with those of its file. -/
theorem readersAgree_of_file {file : Option CapabilityDb} {expected : Option ProviderTierBinding}
    (schema : (file.getD .initial).schemaVersion = capabilitySchemaVersion)
    (absent : file = none → expected = standardBinding sha resolver providerId modelId)
    (binding : Reads ((file.getD .initial).effectiveBinding sha resolver providerId modelId)
      expected)
    (policy : Reads (((file.getD .initial).effectivePolicy sha resolver providerId modelId).map
      (·.binding sha)) expected) :
    ReadersAgree sha resolver file providerId modelId expected := by
  cases file with
  | none =>
    rw [absent rfl] at binding policy ⊢
    exact ⟨binding, policy, reads_standard.1, reads_standard.2⟩
  | some db =>
    have supported : ¬db.schemaVersion ≠ capabilitySchemaVersion := not_not.mpr schema
    refine ⟨binding, policy, ?_, ?_⟩
    · unfold CapabilityDb.readEffectiveBinding
      dsimp only
      rw [raiseIf_bind_of_not supported]
      exact binding
    · unfold CapabilityDb.readEffectivePolicy
      dsimp only
      rw [raiseIf_bind_of_not supported]
      exact policy

/-- Without an active row the standard tier is in force. -/
theorem readersAgree_of_none {file : Option CapabilityDb}
    (valid : (file.getD .initial).Valid sha resolver)
    (absent : (file.getD .initial).active.find? (providerId, modelId) = none) :
    ReadersAgree sha resolver file providerId modelId
      (standardBinding sha resolver providerId modelId) := by
  refine readersAgree_of_file valid.schema (fun _ => rfl) ?_ ?_
  · unfold CapabilityDb.effectiveBinding CapabilityDb.readEffectiveFromConnection
    rw [absent]
    exact reads_standard.1
  · unfold CapabilityDb.effectivePolicy CapabilityDb.readEffectivePolicyFromConnection
    rw [absent]
    exact reads_standard.2

/-- With the row of an activation its binding is in force. -/
theorem readersAgree_of_active {file : Option CapabilityDb} {binding : ProviderTierBinding}
    {authorityDigest : Digest} (valid : (file.getD .initial).Valid sha resolver)
    (stored : CapabilityDb.Stored sha (file.getD .initial) binding)
    (active : (file.getD .initial).active.find? (providerId, modelId) =
      some (CapabilityDb.activeRow sha binding authorityDigest)) :
    ReadersAgree sha resolver file providerId modelId (some binding) := by
  obtain ⟨row, member, rfl⟩ := stored
  have resolved := valid.activePolicy_activeRow member authorityDigest
  refine readersAgree_of_file valid.schema ?_ ?_ ?_
  · rintro rfl
    cases member
  · unfold CapabilityDb.effectiveBinding CapabilityDb.readEffectiveFromConnection
    rw [active]
    dsimp only
    rw [resolved]
    rfl
  · unfold CapabilityDb.effectivePolicy CapabilityDb.readEffectivePolicyFromConnection
    rw [active]
    dsimp only
    rw [resolved]
    rfl

end Readers

/-! ## Runs -/

namespace TierState

variable (sha : Sha256) (resolver : ProviderCapabilityResolver)

/-- The binding whose activation a step commits. -/
def activated? (x : Machine.Step TierState TierAction) : Option ProviderTierBinding :=
  match x.action with
  | .commit call _ =>
    match x.before.calls call, x.after.calls call with
    | some (.permitted _ _ _ _), some (.returned binding) => some binding
    | _, _ => none
  | _ => none

/-- The bindings a run activates, in order. -/
def activations (actions : List TierAction) : List ProviderTierBinding :=
  ((machine sha resolver).steps initial actions).filterMap activated?

/-- The last activation of a provider and a model. -/
def lastActivation (history : List ProviderTierBinding) (key : String × String) :
    Option ProviderTierBinding :=
  history.reverse.find? (fun binding => (binding.providerId, binding.modelId) = key)

/-- The binding in force: that of the last activation, or of the standard tier. -/
def inForce (history : List ProviderTierBinding) (providerId modelId : String) :
    Option ProviderTierBinding :=
  (lastActivation history (providerId, modelId)).or
    (standardBinding sha resolver providerId modelId)

/-- What is known of a call under way. -/
def Known (db : CapabilityDb) : ActivationCall → Prop
  | .bound binding _ | .epochRead binding _ _ => CapabilityDb.Stored sha db binding
  | .verified binding reference epochRow row | .permitted binding reference epochRow row =>
    CapabilityDb.Stored sha db binding ∧ ∃ now, AuthorityTables.verifyRows sha epochRow (some row)
      now reference (activationUse sha binding) = .ok reference
  | .returned _ | .raised _ => True

/-- What holds after a run with some activations. -/
structure Inv (history : List ProviderTierBinding) (state : TierState) : Prop where
  /-- The policy database is valid. -/
  valid : state.db.Valid sha resolver
  /-- Without a file nothing was activated. -/
  missing : state.file = none → history = []
  /-- Without an activation there is no active row. -/
  inactive : ∀ key, lastActivation history key = none → state.db.active.find? key = none
  /-- The active row is that of the last activation. -/
  active : ∀ key binding, lastActivation history key = some binding →
    CapabilityDb.Stored sha state.db binding ∧ ∃ authorityDigest,
      state.db.active.find? key = some (CapabilityDb.activeRow sha binding authorityDigest)
  /-- The calls under way are known. -/
  calls : ∀ call next, state.calls call = some next → Known sha state.db next

section Steps

variable {sha resolver} {history : List ProviderTierBinding} {state : TierState}

theorem lastActivation_append (binding : ProviderTierBinding) (key : String × String) :
    lastActivation (history ++ [binding]) key =
      if (binding.providerId, binding.modelId) = key then some binding
      else lastActivation history key := by
  unfold lastActivation
  rw [List.reverse_append, List.reverse_singleton, List.singleton_append, List.find?_cons]
  split <;> simp_all

/-- What is known of a call stays known while policies are added. -/
theorem Known.mono {db other : CapabilityDb} {next : ActivationCall} (known : Known sha db next)
    (grown : ∀ binding, CapabilityDb.Stored sha db binding →
      CapabilityDb.Stored sha other binding) : Known sha other next := by
  cases next with
  | bound binding reference => exact grown binding known
  | epochRead binding reference epochRow => exact grown binding known
  | verified binding reference epochRow row => exact ⟨grown binding known.1, known.2⟩
  | permitted binding reference epochRow row => exact ⟨grown binding known.1, known.2⟩
  | returned binding => trivial
  | raised error => trivial

/-- The invariant is about the policy database and the calls. -/
theorem Inv.of_db (inv : Inv sha resolver history state) {next : TierState}
    (db : next.db = state.db) (file : next.file = none → state.file = none)
    (calls : ∀ call running, next.calls call = some running → Known sha state.db running) :
    Inv sha resolver history next := by
  refine ⟨?_, fun none => inv.missing (file none), ?_, ?_, ?_⟩ <;> rw [db]
  · exact inv.valid
  · exact inv.inactive
  · exact inv.active
  · exact calls

/-- Only the call that goes on is changed. -/
theorem setCall_calls (call other : Nat) (next : ActivationCall) :
    (state.setCall call next).calls other =
      if other = call then some next else state.calls other :=
  Function.update_apply state.calls call (some next) other

/-- A call that goes on as known keeps the invariant. -/
theorem Inv.setCall (inv : Inv sha resolver history state) (call : Nat) {next : ActivationCall}
    (known : Known sha state.db next) :
    Inv sha resolver history (state.setCall call next) := by
  refine inv.of_db rfl id ?_
  intro other running found
  rw [setCall_calls] at found
  split at found
  · exact Option.some.inj found ▸ known
  · exact inv.calls other running found

/-- So does a call that goes on as known or raises. -/
theorem Inv.proceed (inv : Inv sha resolver history state) (call : Nat)
    {result : Except MacrError ActivationCall}
    (known : ∀ next, result = .ok next → Known sha state.db next) :
    Inv sha resolver history (state.proceed call result) := by
  unfold TierState.proceed
  cases result with
  | ok next => exact inv.setCall call (known next rfl)
  | error raised => exact @Inv.setCall _ _ _ _ inv call (.raised raised) trivial

/-- A transaction of the authority database does not concern the invariant. -/
theorem Inv.authorities (inv : Inv sha resolver history state) (authorities : AuthorityTables) :
    Inv sha resolver history { state with authorities := authorities } :=
  inv.of_db rfl id inv.calls

/-- Opening a store changes no table. -/
theorem db_openStore (inv : Inv sha resolver history state) :
    (state.step sha resolver .openStore).db = state.db ∧
      (state.step sha resolver .openStore).calls = state.calls := by
  have schema := inv.valid.schema
  have opened : state.db.initializeSchema = .ok state.db := by
    unfold CapabilityDb.initializeSchema
    rw [if_neg (by rw [schema]; decide), if_pos schema]
  unfold step
  dsimp only
  rw [opened]
  exact ⟨rfl, rfl⟩

/-- The step of a commit whose binding was permitted. -/
theorem step_commit (inv : Inv sha resolver history state) {call : Nat} {now : Timestamp}
    {binding : ProviderTierBinding} {reference : AuthorizationReference}
    {epochRow : AuthorityEpoch} {row : AuthorityRow}
    (running : state.calls call = some (.permitted binding reference epochRow row)) :
    state.step sha resolver (.commit call now) =
      ({ state with file := some { state.db with
          active := state.db.upsertActive
            (CapabilityDb.activeRow sha binding reference.digest) } } : TierState).setCall call
        (.returned binding) := by
  have stored := (inv.calls call _ running).1
  unfold step
  dsimp only
  rw [running]
  dsimp only
  rw [inv.valid.activateAuthorized_stored stored]
  rfl

/-- A committed activation is the last one. -/
theorem Inv.commit (inv : Inv sha resolver history state) {call : Nat}
    {binding : ProviderTierBinding} {reference : AuthorizationReference}
    {epochRow : AuthorityEpoch} {row : AuthorityRow}
    (running : state.calls call = some (.permitted binding reference epochRow row)) :
    Inv sha resolver (history ++ [binding])
      ({ state with file := some { state.db with
        active := state.db.upsertActive
          (CapabilityDb.activeRow sha binding reference.digest) } } : TierState) := by
  have stored := (inv.calls call _ running).1
  refine ⟨⟨inv.valid.schema, inv.valid.policies, inv.valid.unique⟩, nofun, ?_, ?_, ?_⟩
  · intro key none
    rw [lastActivation_append] at none
    split at none
    · cases none
    · rename_i apart
      show (state.db.upsertActive _).find? key = _
      rw [CapabilityDb.find?_activated, if_neg apart]
      exact inv.inactive key none
  · intro key last found
    rw [lastActivation_append] at found
    show CapabilityDb.Stored sha state.db last ∧ ∃ authorityDigest,
      (state.db.upsertActive _).find? key = some _
    rw [CapabilityDb.find?_activated]
    by_cases here : (binding.providerId, binding.modelId) = key
    · rw [if_pos here, Option.some.injEq] at found
      rw [if_pos here, ← found]
      exact ⟨stored, _, rfl⟩
    · rw [if_neg here] at found
      rw [if_neg here]
      exact inv.active key last found
  · exact inv.calls

/-- Every action keeps the invariant, with the activation it commits. -/
theorem Inv.step (inv : Inv sha resolver history state) (action : TierAction) :
    Inv sha resolver
      (history ++ (activated? ⟨state, action, state.step sha resolver action⟩).toList)
      (state.step sha resolver action) := by
  have none_activated : ∀ {next : TierState}, activated? ⟨state, action, next⟩ = none →
      Inv sha resolver history next →
      Inv sha resolver (history ++ (activated? ⟨state, action, next⟩).toList) next := by
    intro next none kept
    rw [none, Option.toList_none, List.append_nil]
    exact kept
  cases action with
  | issue sourceKind sourceId scope expiresAt now authorityId =>
    exact none_activated rfl (inv.authorities _)
  | revoke reference now => exact none_activated rfl (inv.authorities _)
  | advanceEpoch reasonDigest epochState observedAt =>
    exact none_activated rfl (inv.authorities _)
  | openStore =>
    obtain ⟨db, calls⟩ := db_openStore inv
    refine none_activated rfl (inv.of_db db ?_ (by rw [calls]; exact inv.calls))
    intro missing
    unfold TierState.step at missing
    dsimp only at missing
    split at missing
    · cases missing
    · exact missing
  | savePolicy policy =>
    refine none_activated rfl ?_
    unfold TierState.step
    dsimp only
    split
    · exact inv
    · obtain ⟨valid, active, grown⟩ := inv.valid.savePolicy_settled policy
      refine ⟨valid, nofun, ?_, ?_, ?_⟩
      · intro key none
        show ((settle state.db _).1.active).find? key = _
        rw [active]
        exact inv.inactive key none
      · intro key binding last
        obtain ⟨stored, authorityDigest, found⟩ := inv.active key binding last
        refine ⟨grown binding stored, authorityDigest, ?_⟩
        show ((settle state.db _).1.active).find? key = _
        rw [active]
        exact found
      · intro call next running
        exact (inv.calls call next running).mono grown
  | start call bindingDigest reference =>
    refine none_activated rfl ?_
    unfold TierState.step
    dsimp only
    split
    · exact inv
    · refine inv.proceed call ?_
      intro next begun
      obtain ⟨binding, found, rfl⟩ := except_map_eq_ok.mp begun
      exact (inv.valid.bindingForDigest_eq_ok found).1
  | readEpoch call =>
    refine none_activated rfl ?_
    unfold TierState.step
    dsimp only
    split
    · rename_i binding reference running
      have stored : CapabilityDb.Stored sha state.db binding := inv.calls call _ running
      exact inv.setCall call stored
    · exact inv
  | readAuthority call now =>
    refine none_activated rfl ?_
    unfold TierState.step
    dsimp only
    split
    · rename_i binding reference epochRow running
      refine inv.proceed call ?_
      intro next verified
      simp only [verifyRead, bind_eq_ok, require_eq_ok, pure_eq_ok] at verified
      obtain ⟨result, accepted, row, found, rfl⟩ := verified
      rw [found] at accepted
      refine ⟨inv.calls call _ running, now, ?_⟩
      rw [AuthorityTables.verifyRows_result accepted] at accepted
      exact accepted
    · exact inv
  | reread call =>
    refine none_activated rfl ?_
    unfold TierState.step
    dsimp only
    split
    · rename_i binding reference epochRow row running
      refine inv.proceed call ?_
      intro next read
      obtain ⟨second, found, rfl⟩ := except_map_eq_ok.mp read
      obtain ⟨held, digest⟩ := inv.valid.bindingForDigest_eq_ok found
      obtain ⟨stored, verified⟩ := inv.calls call _ running
      rw [inv.valid.stored_unique held stored digest]
      exact ⟨stored, verified⟩
    · exact inv
  | commit call now =>
    cases running : state.calls call with
    | none =>
      have same : state.step sha resolver (.commit call now) = state := by
        unfold TierState.step
        dsimp only
        rw [running]
      rw [same]
      exact none_activated (by simp [activated?, running]) inv
    | some current =>
      cases current with
      | permitted binding reference epochRow row =>
        have activated : activated? ⟨state, .commit call now,
            state.step sha resolver (.commit call now)⟩ = some binding := by
          simp [activated?, running, step_commit inv running, setCall_calls]
        rw [activated, step_commit inv running]
        exact (inv.commit running).setCall call trivial
      | bound _ _ | epochRead _ _ _ | verified _ _ _ _ | returned _ | raised _ =>
        have same : state.step sha resolver (.commit call now) = state := by
          unfold TierState.step
          dsimp only
          rw [running]
        rw [same]
        exact none_activated (by simp [activated?, running]) inv


end Steps

/-- The invariant of a new system. -/
theorem inv_initial : Inv sha resolver [] initial where
  valid := CapabilityDb.valid_initial
  missing := fun _ => rfl
  inactive := fun _ _ => rfl
  active := nofun
  calls := nofun

/-- Every run keeps the invariant, with its activations. -/
theorem inv_run (actions : List TierAction) :
    Inv sha resolver (activations sha resolver actions)
      ((machine sha resolver).run initial actions) := by
  induction actions using List.reverseRecOn with
  | nil => exact inv_initial sha resolver
  | append_singleton actions action ih =>
    have stepped := ih.step action
    unfold activations at stepped ⊢
    rw [(machine sha resolver).steps_append, List.filterMap_append,
      (machine sha resolver).run_concat]
    exact stepped

/-! ## Governed activations -/

/-- What an activation has read of its authority is still stored at its commit, and its time has
not run out. -/
def Undisturbed (state : TierState) : TierAction → Prop
  | .commit call now =>
    match state.calls call with
    | some (.permitted _ reference epochRow row) => state.authorities.epoch = epochRow ∧
      state.authorities.authorities.find? reference.key = some row ∧ now < row.expiresAt
    | _ => True
  | _ => True

instance (state : TierState) (action : TierAction) : Decidable (Undisturbed state action) := by
  unfold Undisturbed
  split
  · split <;> infer_instance
  · infer_instance

/-- The tables change only in the commit of an activation that returns, whose reference is current
for its binding at that moment, and only in the row of that binding. -/
def Governed (x : Machine.Step TierState TierAction) : Prop :=
  x.after.db.active = x.before.db.active ∨
    ∃ call now binding reference epochRow row, x.action = .commit call now ∧
      x.before.calls call = some (.permitted binding reference epochRow row) ∧
      x.after.calls call = some (.returned binding) ∧
      x.before.authorities.Current sha now reference (activationUse sha binding) ∧
      ∀ key, x.after.db.active.find? key = if (binding.providerId, binding.modelId) = key then
        some (CapabilityDb.activeRow sha binding reference.digest)
        else x.before.db.active.find? key

section Governed

variable {sha resolver} {history : List ProviderTierBinding} {state : TierState}

/-- A verified reference is current while what was read of it is stored and unexpired. -/
theorem current_of_undisturbed {epochRow : AuthorityEpoch} {row : AuthorityRow}
    {earlier now : Timestamp} {reference : AuthorizationReference} {use : AuthorityUse}
    (verified : AuthorityTables.verifyRows sha epochRow (some row) earlier reference use =
      .ok reference)
    (epoch : state.authorities.epoch = epochRow)
    (found : state.authorities.authorities.find? reference.key = some row)
    (unexpired : now < row.expiresAt) :
    state.authorities.Current sha now reference use := by
  have accepted : state.authorities.verify sha earlier reference use = .ok reference := by
    unfold AuthorityTables.verify
    rw [epoch, found]
    exact verified
  obtain ⟨_, current⟩ := (AuthorityTables.verify_eq_ok sha _ _ _ _ _).mp accepted
  obtain ⟨backing, stored, named, body, digest, rowEpoch, scope, bodyScope, unrevoked, _⟩ :=
    current.backed
  obtain ⟨held, same⟩ := (Table.find?_eq_some _ _ _).mp found
  have equal := state.authorities.authorities.eq_of_key stored held (named.trans same.symm)
  exact ⟨current.epoch, current.isOpen, ⟨backing, stored, named, body, digest, rowEpoch, scope,
    bodyScope, unrevoked, equal ▸ unexpired⟩, current.permitted, current.rereads⟩

/-- An undisturbed step is governed. -/
theorem governed_step (inv : Inv sha resolver history state) {action : TierAction}
    (undisturbed : Undisturbed state action) :
    Governed sha ⟨state, action, state.step sha resolver action⟩ := by
  have same_calls : ∀ {next : TierState}, next.db = state.db →
      Governed sha ⟨state, action, next⟩ := fun db => .inl (congrArg CapabilityDb.active db)
  cases action with
  | issue | revoke | advanceEpoch => exact same_calls rfl
  | openStore => exact same_calls (db_openStore inv).1
  | savePolicy policy =>
    left
    show (state.step sha resolver (.savePolicy policy)).db.active = state.db.active
    unfold TierState.step
    dsimp only
    split
    · rfl
    · exact (inv.valid.savePolicy_settled policy).2.1
  | start call bindingDigest reference =>
    left
    show (state.step sha resolver (.start call bindingDigest reference)).db.active = _
    unfold TierState.step
    dsimp only
    split <;> rfl
  | readEpoch call =>
    left
    show (state.step sha resolver (.readEpoch call)).db.active = _
    unfold TierState.step
    dsimp only
    split <;> rfl
  | readAuthority call now =>
    left
    show (state.step sha resolver (.readAuthority call now)).db.active = _
    unfold TierState.step
    dsimp only
    split <;> rfl
  | reread call =>
    left
    show (state.step sha resolver (.reread call)).db.active = _
    unfold TierState.step
    dsimp only
    split <;> rfl
  | commit call now =>
    by_cases running : ∃ binding reference epochRow row,
        state.calls call = some (.permitted binding reference epochRow row)
    · obtain ⟨binding, reference, epochRow, row, running⟩ := running
      obtain ⟨_, earlier, verified⟩ := inv.calls call _ running
      unfold Undisturbed at undisturbed
      dsimp only at undisturbed
      rw [running] at undisturbed
      obtain ⟨epoch, found, unexpired⟩ := undisturbed
      refine .inr ⟨call, now, binding, reference, epochRow, row, rfl, running, ?_,
        current_of_undisturbed verified epoch found unexpired, ?_⟩
      · show (state.step sha resolver (.commit call now)).calls call = _
        rw [step_commit inv running, setCall_calls, if_pos rfl]
      · intro key
        show (state.step sha resolver (.commit call now)).db.active.find? key = _
        rw [step_commit inv running]
        exact CapabilityDb.find?_activated binding reference.digest key
    · left
      show (state.step sha resolver (.commit call now)).db.active = _
      unfold TierState.step
      dsimp only
      split
      · rename_i binding reference epochRow row found
        exact absurd ⟨binding, reference, epochRow, row, found⟩ running
      · rfl

/-- After every run the readers agree on the binding in force. -/
theorem readersAgree_run (sha : Sha256) (resolver : ProviderCapabilityResolver)
    (actions : List TierAction) (providerId modelId : String) :
    ReadersAgree sha resolver ((machine sha resolver).run initial actions).file providerId modelId
      (inForce sha resolver (activations sha resolver actions) providerId modelId) := by
  have inv := inv_run sha resolver actions
  unfold inForce
  cases last : lastActivation (activations sha resolver actions) (providerId, modelId) with
  | none => exact readersAgree_of_none inv.valid (inv.inactive _ last)
  | some binding =>
    obtain ⟨stored, authorityDigest, found⟩ := inv.active _ binding last
    exact readersAgree_of_active inv.valid stored found

end Governed

/-- In a run whose activations are undisturbed, every change of an active row is governed; after it
the readers agree on the binding in force. -/
theorem tier_activation_governed (sha : Sha256) (resolver : ProviderCapabilityResolver)
    (actions : List TierAction)
    (undisturbed : (machine sha resolver).Obeys Undisturbed initial actions) :
    (∀ x ∈ (machine sha resolver).steps initial actions, Governed sha x) ∧
      ∀ providerId modelId, ReadersAgree sha resolver
        ((machine sha resolver).run initial actions).file providerId modelId
        (inForce sha resolver (activations sha resolver actions) providerId modelId) := by
  refine ⟨?_, readersAgree_run sha resolver actions⟩
  intro x member
  have keep : ∀ state action, (∃ history, Inv sha resolver history state) →
      Undisturbed state action →
      ∃ history, Inv sha resolver history ((machine sha resolver).step state action) :=
    fun state action ⟨_, inv⟩ _ => ⟨_, inv.step action⟩
  obtain ⟨⟨history, inv⟩, allowed, after⟩ := (machine sha resolver).steps_invariant keep
    ⟨[], inv_initial sha resolver⟩ undisturbed x member
  have governed := governed_step inv allowed
  obtain ⟨before, action, next⟩ := x
  simp only at after
  rw [after]
  exact governed

/-! ## A revocation between the verification and the commit -/

/-- The binding of the extended tier. -/
def extendedBinding : ProviderTierBinding := glmExtendedTextPolicy.binding foldDigest

private theorem extended_admission : ScopeContractVersion.v2 ≠ .v3 →
    ([] : List Digest) = [] ∧ ([] : List AdmissionLane) = [] ∧ ([] : List Digest) = [] ∧
      ([] : List Digest) = [] ∧ ([] : List Digest) = [] := by decide

/-- A scope for its activation. -/
def extendedScope : AuthorityScope where
  providers := ["glm_flash_worker"]
  planes := ["policy_activation"]
  taskTypes := ["provider_tier_activation"]
  batchIds := []
  memberDigests := []
  providerTierBindingDigests := [extendedBinding.bindingDigest foldDigest]
  projectBindingDigests := []
  admissionLanes := []
  providerAdmissionPolicyDigests := []
  providerAdmissionTargetDigests := []
  providerAdmissionCircuitDigests := []
  scopeContractVersion := .v2
  providers_required := by decide
  planes_required := by decide
  legacy_tiers := by decide
  legacy_admission := extended_admission

/-- The reference to the authority of the scope. -/
def extendedReference : AuthorizationReference where
  sourceKind := "operator_policy_authority"
  sourceId := "extended-v1"
  digest := foldDigest.sha256 (AuthorityBody.toDict
    ⟨7, "operator_policy_authority", "extended-v1", 1, 0, extendedScope, 1, 10⟩)
  revision := 1
  epoch := 0
  scope := extendedScope
  revision_positive := Nat.one_pos

/-- The extended tier is saved, an authority issued and verified, and the binding read again. -/
def verifiedActivation : List TierAction :=
  [.openStore, .savePolicy glmExtendedTextPolicy,
    .issue "operator_policy_authority" "extended-v1" extendedScope 10 1 7,
    .start 0 (extendedBinding.bindingDigest foldDigest) extendedReference, .readEpoch 0,
    .readAuthority 0 2, .reread 0]

/-- Undisturbed, the activation is governed and the extended tier in force. -/
theorem extended_activation_governed :
    (∀ x ∈ (machine foldDigest .builtinsOnly).steps initial (verifiedActivation ++ [.commit 0 3]),
      Governed foldDigest x) ∧
    ReadersAgree foldDigest .builtinsOnly
      ((machine foldDigest .builtinsOnly).run initial (verifiedActivation ++ [.commit 0 3])).file
      "glm_flash_worker" "glm-5.3-flash" (some extendedBinding) := by
  have governed := tier_activation_governed foldDigest .builtinsOnly
    (verifiedActivation ++ [.commit 0 3]) (by decide +kernel)
  have force : inForce foldDigest .builtinsOnly (activations foldDigest .builtinsOnly
      (verifiedActivation ++ [.commit 0 3])) "glm_flash_worker" "glm-5.3-flash" =
      some extendedBinding := by decide +kernel
  exact ⟨governed.1, force ▸ governed.2 "glm_flash_worker" "glm-5.3-flash"⟩

/-- The state after the authority was verified and then revoked. -/
def revokedState : TierState :=
  (machine foldDigest .builtinsOnly).run initial
    (verifiedActivation ++ [.revoke extendedReference 3])

/-- The reference of a call that has its permit. -/
def ActivationCall.committing? : ActivationCall → Option AuthorizationReference
  | .permitted _ reference _ _ => some reference
  | _ => none

/-- Revoked between its verification and the commit, the authority changes the active tier all the
same. -/
theorem revoked_activation_commits :
    ∃ x ∈ (machine foldDigest .builtinsOnly).steps initial
      (verifiedActivation ++ [.revoke extendedReference 3] ++ [.commit 0 4]),
      ¬Governed foldDigest x := by
  refine ⟨⟨revokedState, .commit 0 4, revokedState.step foldDigest .builtinsOnly (.commit 0 4)⟩,
    ?_, ?_⟩
  · rw [(machine foldDigest .builtinsOnly).steps_append]
    exact List.mem_append_right _ (List.mem_singleton.mpr rfl)
  · have changed : (revokedState.step foldDigest .builtinsOnly (.commit 0 4)).db.active.find?
        ("glm_flash_worker", "glm-5.3-flash") ≠
        revokedState.db.active.find? ("glm_flash_worker", "glm-5.3-flash") := by decide +kernel
    have pending : (revokedState.calls 0).bind ActivationCall.committing? =
        some extendedReference := by decide +kernel
    have revoked : revokedState.authorities.Revoked extendedReference.key := by decide +kernel
    rintro (same | ⟨call, now, binding, reference, epochRow, row, action, running, _, current, _⟩)
    · exact changed (congrArg (Table.find? · _) same)
    · cases action
      rw [running, Option.bind_some, ActivationCall.committing?, Option.some.injEq] at pending
      rw [pending] at current
      exact AuthorityTables.not_current_of_revoked revoked current

end TierState

end Macr
