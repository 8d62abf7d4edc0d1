import Macr.ScopeText

/-!
# What a written scope reads back as

Every field of a scope but its digests is written as texts the constructor returns unchanged. A
digest is lower case when it is written, so two digests that were told apart by case alone are
one text by then, which the constructor refuses. An authority with such a scope is issued and can
never be used.
-/

namespace Macr

open Lib

namespace ScopeText

/-- No field of digests repeats one. -/
def DigestsDistinct (scope : ScopeText) : Prop :=
  scope.memberDigests.Nodup ∧ scope.providerTierBindingDigests.Nodup ∧
    scope.projectBindingDigests.Nodup ∧ scope.providerAdmissionPolicyDigests.Nodup ∧
    scope.providerAdmissionTargetDigests.Nodup ∧ scope.providerAdmissionCircuitDigests.Nodup

instance (scope : ScopeText) : Decidable scope.DigestsDistinct := by
  unfold DigestsDistinct
  infer_instance

/-! ## One field -/

/-- A digest is a text of hexadecimal digits. -/
theorem hex_of_sha256 (digest : Sha256Text) : ∀ c ∈ digest.val.toList, isHexDigit c = true := by
  have checked := digest.property
  simp only [isSha256, Bool.and_eq_true, List.all_eq_true] at checked
  exact checked.2

/-- A digest has 64 digits. -/
theorem length_of_sha256 (digest : Sha256Text) : digest.val.toList.length = 64 := by
  have checked := digest.property
  simp only [isSha256, Bool.and_eq_true, decide_eq_true_eq] at checked
  exact checked.1

/-- A digest as the trimmed text it is. -/
def trimmed (digest : Sha256Text) : NonEmptyText :=
  ⟨digest.val, by
    have length := length_of_sha256 digest
    intro empty
    rw [empty] at length
    simp at length, strip_of_hex (hex_of_sha256 digest)⟩

theorem trimmed_injective : Function.Injective trimmed := by
  intro left right same
  have texts : left.val = right.val := congrArg (fun text : NonEmptyText => text.val) same
  exact Subtype.ext texts

/-- A trimmed text passes `_non_empty` unchanged. -/
theorem nonEmpty_self (name : String) (text : NonEmptyText) :
    nonEmpty name (some text.val) = .ok text := by
  obtain ⟨value, inhabited, trimmed⟩ := text
  have kept : strip value ≠ "" := by rw [trimmed]; exact inhabited
  simp only [nonEmpty, dif_pos kept, Except.ok.injEq]
  exact Subtype.ext trimmed

/-- A check that returns each written item unchanged returns the whole list. -/
theorem mapM_written {α β : Type} {check : β → Except MacrError α} {write : α → β}
    (same : ∀ item, check (write item) = .ok item) (items : List α) :
    (items.map write).mapM check = .ok items := by
  induction items with
  | nil => rfl
  | cons item rest ih =>
    rw [List.map_cons, List.mapM_cons, same, ih]
    rfl

/-- A tuple of texts is read back as it is. -/
theorem stringTuple_texts (name : String) {required : Bool} (tuple : TextTuple required) :
    stringTuple name (texts tuple.val) required = .ok tuple := by
  have items : (tuple.val.map (fun text => some text.val)).mapM (nonEmpty name) = .ok tuple.val :=
    mapM_written (nonEmpty_self name) tuple.val
  simp only [stringTuple, texts, items]
  show (if inhabited : _ then _ else _) = _
  rw [dif_pos tuple.property.1, dif_pos tuple.property.2]

/-- A digest is its own lower-case form. -/
theorem sha256Text_trimmed (name : String) (digest : Sha256Text) :
    sha256Text name (trimmed digest) = .ok digest := by
  have same : lower (trimmed digest).val = digest.val := lower_of_hex (hex_of_sha256 digest)
  have hex : isSha256 (lower (trimmed digest).val) = true := by
    rw [same]
    exact digest.property
  simp only [sha256Text, dif_pos hex]
  exact congrArg _ (Subtype.ext same)

/-- A field of digests is read back exactly when it repeats none. -/
theorem digestTuple_hexes_eq_ok (name : String) (digests read : List Sha256Text) :
    digestTuple name (hexes digests) = .ok read ↔ digests.Nodup ∧ read = digests := by
  have written : digests.map (fun text => some text.val) =
      (digests.map trimmed).map (fun text => some text.val) := by
    rw [List.map_map]
    rfl
  have items : (digests.map (fun text => some text.val)).mapM (nonEmpty name) =
      .ok (digests.map trimmed) := by
    rw [written]
    exact mapM_written (nonEmpty_self name) _
  have folded : (digests.map trimmed).mapM (sha256Text name) = .ok digests :=
    mapM_written (sha256Text_trimmed name) digests
  have distinct : (digests.map trimmed).Nodup ↔ digests.Nodup :=
    List.nodup_map_iff trimmed_injective
  simp only [digestTuple, hexes, stringTuple, items, bind_eq_ok, Except.ok.injEq, exists_eq_left',
    Bool.false_eq_true, false_implies, dif_pos]
  by_cases repeats : digests.Nodup
  · rw [dif_pos (distinct.mpr repeats)]
    simp only [Except.ok.injEq, exists_eq_left', folded, repeats, true_and]
    exact eq_comm
  · rw [dif_neg (fun held => repeats (distinct.mp held))]
    simp [repeats]

/-! ## The whole scope -/

/-- The arguments `from_dict` takes from a written scope. -/
def written (scope : ScopeText) : ScopeArguments where
  providers := texts scope.providers.val
  planes := texts scope.planes.val
  taskTypes := texts scope.taskTypes.val
  batchIds := texts scope.batchIds.val
  memberDigests := hexes scope.memberDigests
  providerTierBindingDigests := hexes scope.providerTierBindingDigests
  projectBindingDigests := hexes scope.projectBindingDigests
  admissionLanes := texts scope.admissionLanes.val
  providerAdmissionPolicyDigests := hexes scope.providerAdmissionPolicyDigests
  providerAdmissionTargetDigests := hexes scope.providerAdmissionTargetDigests
  providerAdmissionCircuitDigests := hexes scope.providerAdmissionCircuitDigests
  scopeContractVersion := .number scope.scopeContractVersion.number

theorem ofNumber?_number (version : ScopeContractVersion) :
    ScopeContractVersion.ofNumber? (.number version.number) = some version := by
  cases version <;> rfl

/-- A written scope has the fields of its version, and those it leaves out are empty. -/
theorem fromDict_toDict_eq (scope : ScopeText) : fromDict scope.toDict = init scope.written := by
  cases version : scope.scopeContractVersion with
  | v1 =>
    obtain ⟨projects, lanes, policies, targets, circuits⟩ :=
      scope.legacy_admission (by rw [version]; decide)
    have tiers := scope.legacy_tiers version
    simp only [fromDict, toDict, written, version, projects, lanes, policies, targets, circuits,
      tiers]
    rfl
  | v2 =>
    obtain ⟨projects, lanes, policies, targets, circuits⟩ :=
      scope.legacy_admission (by rw [version]; decide)
    simp only [fromDict, toDict, written, version, projects, lanes, policies, targets, circuits]
    rfl
  | v3 =>
    simp only [fromDict, toDict, written, version]
    rfl

/-- The constructor returns a written scope exactly when no field of digests repeats one. -/
theorem init_written (scope : ScopeText) :
    init scope.written = .ok scope ↔ scope.DigestsDistinct := by
  constructor
  · intro built
    simp only [init, written, bind_eq_ok, stringTuple_texts, digestTuple_hexes_eq_ok,
      Except.ok.injEq, exists_eq_left'] at built
    obtain ⟨_, ⟨members, rfl⟩, _, ⟨tiers, rfl⟩, _, ⟨projects, rfl⟩, rest⟩ := built
    rw [dif_pos scope.lanes_named] at rest
    simp only [bind_eq_ok, digestTuple_hexes_eq_ok] at rest
    obtain ⟨_, ⟨policies, rfl⟩, _, ⟨targets, rfl⟩, _, ⟨circuits, rfl⟩, _⟩ := rest
    exact ⟨members, tiers, projects, policies, targets, circuits⟩
  · rintro ⟨members, tiers, projects, policies, targets, circuits⟩
    simp only [init, written, bind_eq_ok, stringTuple_texts, digestTuple_hexes_eq_ok,
      Except.ok.injEq, exists_eq_left']
    refine ⟨_, ⟨members, rfl⟩, _, ⟨tiers, rfl⟩, _, ⟨projects, rfl⟩, ?_⟩
    rw [dif_pos scope.lanes_named]
    simp only [bind_eq_ok, digestTuple_hexes_eq_ok, require_eq_ok, ofNumber?_number,
      Option.some.injEq, exists_eq_left']
    refine ⟨_, ⟨policies, rfl⟩, _, ⟨targets, rfl⟩, _, ⟨circuits, rfl⟩, ?_⟩
    rw [dif_pos scope.legacy_tiers, dif_pos scope.legacy_admission]

/-- A scope survives being written and read back exactly when no field of digests repeats one. -/
theorem fromDict_toDict (scope : ScopeText) :
    fromDict scope.toDict = .ok scope ↔ scope.DigestsDistinct := by
  rw [fromDict_toDict_eq]
  exact init_written scope

/-! ## The arguments it came from -/

/-- The items of an argument, each trimmed and folded to lower case. -/
def folded : ScopeValue → List String
  | .array items => items.map (fun item => lower (strip (item.getD "")))
  | .number _ | .other => []

/-- In each argument of digests, no two items are the same digest up to case and white space
around it. -/
def GivenDistinct (arguments : ScopeArguments) : Prop :=
  (folded arguments.memberDigests).Nodup ∧ (folded arguments.providerTierBindingDigests).Nodup ∧
    (folded arguments.projectBindingDigests).Nodup ∧
    (folded arguments.providerAdmissionPolicyDigests).Nodup ∧
    (folded arguments.providerAdmissionTargetDigests).Nodup ∧
    (folded arguments.providerAdmissionCircuitDigests).Nodup

instance (arguments : ScopeArguments) : Decidable (GivenDistinct arguments) := by
  unfold GivenDistinct
  infer_instance

/-- What a check makes of a list, item by item. -/
theorem map_of_mapM {α β γ : Type} {check : α → Except MacrError β} {read : β → γ} {form : α → γ}
    (each : ∀ item result, check item = .ok result → read result = form item) {items : List α}
    {results : List β} (checked : items.mapM check = .ok results) :
    results.map read = items.map form := by
  induction items generalizing results with
  | nil =>
    rw [List.mapM_nil] at checked
    cases checked
    rfl
  | cons item rest ih =>
    simp only [List.mapM_cons, bind_eq_ok, pure_eq_ok] at checked
    obtain ⟨result, first, others, later, rfl⟩ := checked
    rw [List.map_cons, List.map_cons, each item result first, ih later]

/-- `_non_empty` returns the trimmed text. -/
theorem nonEmpty_eq_ok {name : String} {item : Option String} {text : NonEmptyText}
    (checked : nonEmpty name item = .ok text) : text.val = strip (item.getD "") := by
  cases item with
  | none => simp [nonEmpty] at checked
  | some value =>
    simp only [nonEmpty] at checked
    split at checked
    · cases checked
      rfl
    · cases checked

/-- The check of a digest returns its lower-case form. -/
theorem sha256Text_eq_ok {name : String} {item : NonEmptyText} {digest : Sha256Text}
    (checked : sha256Text name item = .ok digest) : digest.val = lower item.val := by
  simp only [sha256Text] at checked
  split at checked
  · cases checked
    rfl
  · cases checked

/-- A field of digests holds the trimmed lower-case forms of what was given. -/
theorem digestTuple_eq_ok {name : String} {value : ScopeValue} {digests : List Sha256Text}
    (built : digestTuple name value = .ok digests) :
    digests.map (·.val) = folded value := by
  cases value with
  | number | other => simp [digestTuple, stringTuple, bind_eq_ok] at built
  | array items =>
    simp only [digestTuple, stringTuple, bind_eq_ok] at built
    obtain ⟨tuple, ⟨normalized, trimmedItems, rest⟩, lowered⟩ := built
    have same : tuple.val = normalized := by
      split at rest
      · split at rest
        · cases rest
          rfl
        · cases rest
      · cases rest
    have first : normalized.map (fun text => lower text.val) =
        items.map (fun item => lower (strip (item.getD ""))) :=
      map_of_mapM (fun item text checked => congrArg lower (nonEmpty_eq_ok checked)) trimmedItems
    have second : digests.map (·.val) = tuple.val.map (fun text => lower text.val) :=
      map_of_mapM (fun item digest checked => sha256Text_eq_ok checked) lowered
    rw [second, same, first]
    rfl

/-- A field of digests repeats none exactly when its argument does not up to case. -/
theorem nodup_of_digestTuple {name : String} {value : ScopeValue} {digests : List Sha256Text}
    (built : digestTuple name value = .ok digests) : digests.Nodup ↔ (folded value).Nodup := by
  rw [← digestTuple_eq_ok built]
  exact (List.nodup_map_iff Subtype.val_injective).symm

/-- A constructed scope repeats no digest exactly when its arguments do not up to case. -/
theorem digestsDistinct_iff {arguments : ScopeArguments} {scope : ScopeText}
    (built : init arguments = .ok scope) : scope.DigestsDistinct ↔ GivenDistinct arguments := by
  simp only [init, bind_eq_ok] at built
  obtain ⟨_, _, _, _, _, _, _, _, _, members, _, tiers, _, projects, lanes, _, rest⟩ := built
  split at rest
  case isFalse => cases rest
  case isTrue =>
    simp only [bind_eq_ok] at rest
    obtain ⟨_, policies, _, targets, _, circuits, version, _, rest⟩ := rest
    split at rest
    case isFalse => cases rest
    case isTrue =>
      split at rest
      case isFalse => cases rest
      case isTrue =>
        cases rest
        unfold DigestsDistinct GivenDistinct
        rw [nodup_of_digestTuple members, nodup_of_digestTuple tiers,
          nodup_of_digestTuple projects, nodup_of_digestTuple policies,
          nodup_of_digestTuple targets, nodup_of_digestTuple circuits]

/-! ## The scope the tables keep -/

/-- The number a digest writes. -/
def digestNumber (digest : Sha256Text) : Digest := hexValue digest.val.toList

theorem digestNumber_injective : Function.Injective digestNumber := by
  intro left right same
  have length : left.val.toList.length = right.val.toList.length := by
    rw [length_of_sha256, length_of_sha256]
  have digits := eq_of_hexValue (hex_of_sha256 left) (hex_of_sha256 right) length same
  exact Subtype.ext (String.toList_inj.mp digits)

/-- The lanes that texts name. -/
def laneValues (lanes : List NonEmptyText) : List AdmissionLane :=
  lanes.filterMap (fun text => AdmissionLane.ofValue? text.val)

/-- The scope of the tables that the texts of a scope write. -/
def denote (scope : ScopeText) : AuthorityScope where
  providers := scope.providers.val.map (·.val)
  planes := scope.planes.val.map (·.val)
  taskTypes := scope.taskTypes.val.map (·.val)
  batchIds := scope.batchIds.val.map (·.val)
  memberDigests := scope.memberDigests.map digestNumber
  providerTierBindingDigests := scope.providerTierBindingDigests.map digestNumber
  projectBindingDigests := scope.projectBindingDigests.map digestNumber
  admissionLanes := laneValues scope.admissionLanes.val
  providerAdmissionPolicyDigests := scope.providerAdmissionPolicyDigests.map digestNumber
  providerAdmissionTargetDigests := scope.providerAdmissionTargetDigests.map digestNumber
  providerAdmissionCircuitDigests := scope.providerAdmissionCircuitDigests.map digestNumber
  scopeContractVersion := scope.scopeContractVersion
  providers_required := by
    rw [ne_eq, List.map_eq_nil_iff]
    exact scope.providers.property.1 rfl
  planes_required := by
    rw [ne_eq, List.map_eq_nil_iff]
    exact scope.planes.property.1 rfl
  legacy_tiers := by
    intro version
    rw [scope.legacy_tiers version, List.map_nil]
  legacy_admission := by
    intro version
    obtain ⟨projects, lanes, policies, targets, circuits⟩ := scope.legacy_admission version
    rw [projects, lanes, policies, targets, circuits]
    exact ⟨rfl, rfl, rfl, rfl, rfl⟩

/-- A lane is named by its own value. -/
theorem value_of_ofValue? {text : String} {lane : AdmissionLane}
    (named : AdmissionLane.ofValue? text = some lane) : lane.value = text := by
  have found := List.find?_some named
  simpa using found

/-- The lanes of texts that each name one are written as these texts. -/
theorem value_laneValues {lanes : List NonEmptyText}
    (named : ∀ text ∈ lanes, (AdmissionLane.ofValue? text.val).isSome = true) :
    (laneValues lanes).map (·.value) = lanes.map (·.val) := by
  induction lanes with
  | nil => rfl
  | cons text rest ih =>
    obtain ⟨lane, found⟩ := Option.isSome_iff_exists.mp (named text List.mem_cons_self)
    have later := ih (fun other member => named other (List.mem_cons_of_mem _ member))
    have first : laneValues (text :: rest) = lane :: laneValues rest := by
      simp [laneValues, found]
    rw [first, List.map_cons, List.map_cons, value_of_ofValue? found, later]

/-- The check of a stored scope is that its texts read back. -/
theorem rereads_denote (scope : ScopeText) :
    scope.denote.Rereads ↔ fromDict scope.toDict = .ok scope := by
  have texts : ∀ {required : Bool} (tuple : TextTuple required),
      (tuple.val.map (fun text => text.val)).Nodup := by
    intro required tuple
    exact (List.nodup_map_iff Subtype.val_injective).mpr tuple.property.2
  have digests : ∀ items : List Sha256Text, (items.map digestNumber).Nodup ↔ items.Nodup :=
    fun items => List.nodup_map_iff digestNumber_injective
  have lanes : (laneValues scope.admissionLanes.val).Nodup := by
    have written : ((laneValues scope.admissionLanes.val).map (·.value)).Nodup := by
      rw [value_laneValues scope.lanes_named]
      exact texts scope.admissionLanes
    exact List.Nodup.of_map _ written
  rw [fromDict_toDict]
  simp only [AuthorityScope.Rereads, denote, texts, lanes, digests, true_and, DigestsDistinct]

end ScopeText

namespace AuthorityTables

/-- The row of an issued reference, whether it has been revoked since or not. -/
def Issued (sha : Sha256) (tables : AuthorityTables) (reference : AuthorizationReference)
    (expiresAt : Timestamp) : Prop :=
  ∃ row ∈ tables.authorities.rows, row.key = reference.key ∧
    sha.sha256 row.body.toDict = row.bodySha256 ∧ row.bodySha256 = reference.digest ∧
    row.epoch = reference.epoch ∧ row.scope = reference.scope ∧ row.body.scope = row.scope ∧
    row.expiresAt = expiresAt

/-- Issuing an authority stores the row of its reference. -/
theorem issued_of_issue {sha : Sha256} {tables issued : AuthorityTables}
    {sourceKind sourceId : String} {scope : AuthorityScope} {expiresAt now : Timestamp}
    {authorityId : Uuid} {reference : AuthorizationReference}
    (done : tables.issue sha sourceKind sourceId scope expiresAt now authorityId =
      .ok (issued, .ok reference)) :
    issued.Issued sha reference expiresAt ∧ reference.scope = scope := by
  simp only [issue, bind_eq_ok, raiseIf_eq_ok, exists_const, require_eq_ok,
    Table.insert?_eq_some, commit_eq_ok] at done
  obtain ⟨_, _, _, authorities, ⟨fresh, rfl⟩, same⟩ := done
  simp only [Prod.mk.injEq, Except.ok.injEq] at same
  obtain ⟨rfl, rfl⟩ := same
  exact ⟨⟨_, List.mem_append_right _ List.mem_cons_self, rfl, rfl, rfl, rfl, rfl, rfl, rfl⟩, rfl⟩

/-- Setting `revoked_at` keeps the rows of references. -/
theorem issued_of_revokeWhere {sha : Sha256} {tables : AuthorityTables}
    {reference : AuthorizationReference} {expiresAt : Timestamp}
    (issued : tables.Issued sha reference expiresAt) (condition : AuthorityRow → Bool)
    (now : Timestamp) : (tables.revokeWhere condition now).Issued sha reference expiresAt := by
  obtain ⟨row, stored, facts⟩ := issued
  refine ⟨_, Table.mem_update_of_mem tables.authorities condition _ (by intro _; rfl) stored, ?_⟩
  split <;> exact facts

/-- A reference whose row stands, unrevoked and unexpired, in its own open epoch is current for
every use its scope permits, once the scope reads back. -/
theorem current_of_issued {sha : Sha256} {tables : AuthorityTables}
    {reference : AuthorizationReference} {expiresAt now : Timestamp} {use : AuthorityUse}
    (issued : tables.Issued sha reference expiresAt)
    (epoch : tables.epoch.epoch = reference.epoch) (isOpen : tables.epoch.state = .open)
    (unrevoked : ¬tables.Revoked reference.key) (unexpired : now < expiresAt)
    (permitted : reference.scope.permits use = true) (rereads : reference.scope.Rereads) :
    tables.Current sha now reference use := by
  obtain ⟨row, stored, named, digest, same, rowEpoch, scope, bodyScope, rfl⟩ := issued
  have fresh : row.revokedAt = none := by
    by_contra isRevoked
    exact unrevoked ⟨row, stored, named, isRevoked⟩
  exact ⟨epoch.symm, isOpen, ⟨row, stored, named, digest, same, rowEpoch, scope, bodyScope, fresh,
    unexpired⟩, permitted, rereads⟩

/-- A reference whose scope does not read back is never accepted. -/
theorem not_current_of_rereads {sha : Sha256} {tables : AuthorityTables}
    {reference : AuthorizationReference} {now : Timestamp} {use : AuthorityUse}
    (lost : ¬reference.scope.Rereads) : ¬tables.Current sha now reference use :=
  fun current => lost current.rereads

end AuthorityTables

namespace AuthoritySystem

variable {sha : Sha256}

/-- Every step keeps the rows of references. -/
theorem issued_step {system : AuthoritySystem} {reference : AuthorizationReference}
    {expiresAt : Timestamp} (issued : system.tables.Issued sha reference expiresAt)
    (action : AuthorityAction) :
    (step sha system action).tables.Issued sha reference expiresAt := by
  cases action with
  | issue sourceKind sourceId scope expiry now authorityId =>
    cases done : system.tables.issue sha sourceKind sourceId scope expiry now authorityId with
    | error error =>
      simp only [step, done, settle]
      exact issued
    | ok result =>
      simp only [step, done, settle]
      simp only [AuthorityTables.issue, bind_eq_ok, raiseIf_eq_ok, exists_const, require_eq_ok,
        Table.insert?_eq_some, commit_eq_ok] at done
      obtain ⟨_, _, _, authorities, ⟨fresh, rfl⟩, rfl⟩ := done
      obtain ⟨row, stored, facts⟩ := issued
      exact ⟨row, List.mem_append_left _ stored, facts⟩
  | revoke presented now =>
    cases done : system.tables.revoke presented now with
    | error error =>
      simp only [step, done, settle]
      exact issued
    | ok result =>
      simp only [step, done, settle]
      simp only [AuthorityTables.revoke, bind_eq_ok] at done
      obtain ⟨row, _, rest⟩ := done
      split at rest
      · rw [commit_eq_ok] at rest
        rw [rest]
        exact AuthorityTables.issued_of_revokeWhere issued _ now
      · rw [commit_eq_ok] at rest
        rw [rest]
        exact issued
  | advanceEpoch | beginVerify | endVerify | verifyInTransaction => exact issued

/-- A constructed scope reads back as itself, and every authority issued with it is accepted while
it is current for a use its scope permits, exactly when in none of the arguments of digests two
items are one digest up to case and the white space around it. -/
theorem scope_round_trip (arguments : ScopeArguments) (scope : ScopeText)
    (built : ScopeText.init arguments = .ok scope) :
    (ScopeText.fromDict scope.toDict = .ok scope ∧
      ∀ (sha : Sha256) (tables issued : AuthorityTables) (calls : List VerifyCall)
        (sourceKind sourceId : String) (expiresAt issuedAt : Timestamp) (authorityId : Uuid)
        (reference : AuthorizationReference),
        tables.issue sha sourceKind sourceId scope.denote expiresAt issuedAt authorityId =
          .ok (issued, .ok reference) →
        ∀ (actions : List AuthorityAction),
          let later := ((machine sha).run ⟨issued, calls⟩ actions).tables
          ∀ (now : Timestamp) (use : AuthorityUse), later.epoch.epoch = reference.epoch →
            later.epoch.state = .open → ¬later.Revoked reference.key → now < expiresAt →
            scope.denote.permits use = true →
              later.verify sha now reference use = .ok reference ∧
              later.verifyInTransaction sha now reference use = .ok reference) ↔
      ScopeText.GivenDistinct arguments := by
  rw [← ScopeText.digestsDistinct_iff built]
  constructor
  · rintro ⟨same, _⟩
    exact (ScopeText.fromDict_toDict scope).mp same
  · intro distinct
    have same := (ScopeText.fromDict_toDict scope).mpr distinct
    refine ⟨same, ?_⟩
    intro sha tables issued calls sourceKind sourceId expiresAt issuedAt authorityId reference done
      actions later now use epoch isOpen unrevoked unexpired permitted
    obtain ⟨start, named⟩ := AuthorityTables.issued_of_issue done
    have keep : ∀ (system : AuthoritySystem) (action : AuthorityAction),
        system.tables.Issued sha reference expiresAt →
        ((machine sha).step system action).tables.Issued sha reference expiresAt :=
      fun _ action held => issued_step held action
    have stands : later.Issued sha reference expiresAt :=
      (machine sha).run_invariant_all keep start actions
    have rereads : reference.scope.Rereads := by
      rw [named]
      exact (ScopeText.rereads_denote scope).mpr same
    have current : later.Current sha now reference use :=
      AuthorityTables.current_of_issued stands epoch isOpen unrevoked unexpired
        (by rw [named]; exact permitted) rereads
    have accepted : later.verify sha now reference use = .ok reference :=
      (AuthorityTables.verify_eq_ok sha later now reference reference use).mpr ⟨rfl, current⟩
    exact ⟨accepted, accepted⟩

/-- A scope for one provider, with member digests as given. -/
def sampleArguments (members : List String) : ScopeArguments where
  providers := .array [some "grok"]
  planes := .array [some " production "]
  memberDigests := .array (members.map some)

/-- The use of that provider for one member. -/
def sampleUse (member : Digest) : AuthorityUse where
  providerId := "grok"
  plane := "production"
  taskType := "review"
  memberDigest := some member

/-- A text of 64 equal characters. -/
def sixtyFour (c : Char) : String := String.ofList (List.replicate 64 c)

/-- Two different members, one in upper case, are read back. -/
theorem scope_round_trip_sample :
    ∃ scope, ScopeText.init (sampleArguments [sixtyFour 'A', sixtyFour 'b']) = .ok scope ∧
      ScopeText.fromDict scope.toDict = .ok scope := by
  have built : (ScopeText.init (sampleArguments [sixtyFour 'A', sixtyFour 'b'])).isOk = true := by
    decide +kernel
  cases done : ScopeText.init (sampleArguments [sixtyFour 'A', sixtyFour 'b']) with
  | error error => simp [done, Except.isOk, Except.toBool] at built
  | ok scope => exact ⟨scope, rfl, ((scope_round_trip _ scope done).mpr (by decide +kernel)).1⟩

/-- One member given in two cases is accepted, is not read back, and its authority is refused to
a use within the scope. -/
theorem twice_cased_refused :
    ∃ scope, ScopeText.init (sampleArguments [sixtyFour 'A', sixtyFour 'a']) = .ok scope ∧
      ScopeText.fromDict scope.toDict ≠ .ok scope ∧
      scope.denote.permits (sampleUse (hexValue (sixtyFour 'a').toList)) = true ∧
      ∃ issued reference,
        AuthorityTables.initial.issue foldDigest "operator" "grant" scope.denote 2 1 7 =
          .ok (issued, .ok reference) ∧
        issued.epoch.epoch = reference.epoch ∧ issued.epoch.state = .open ∧
        ¬issued.Revoked reference.key ∧
        issued.verify foldDigest 1 reference (sampleUse (hexValue (sixtyFour 'a').toList)) ≠
          .ok reference := by
  have built : ((ScopeText.init (sampleArguments [sixtyFour 'A', sixtyFour 'a'])).map
      (fun scope => scope.denote.permits (sampleUse (hexValue (sixtyFour 'a').toList)))).toOption =
        some true := by
    decide +kernel
  cases done : ScopeText.init (sampleArguments [sixtyFour 'A', sixtyFour 'a']) with
  | error error => simp [done, Except.map, Except.toOption] at built
  | ok scope =>
    have permitted : scope.denote.permits (sampleUse (hexValue (sixtyFour 'a').toList)) = true := by
      simpa [done, Except.map, Except.toOption] using built
    have repeated : ¬scope.DigestsDistinct := by
      rw [ScopeText.digestsDistinct_iff done]
      decide +kernel
    have lost : ScopeText.fromDict scope.toDict ≠ .ok scope :=
      fun same => repeated ((ScopeText.fromDict_toDict scope).mp same)
    refine ⟨scope, rfl, lost, permitted, _, _, rfl, rfl, rfl, ?_, ?_⟩
    · rintro ⟨row, stored, _, isRevoked⟩
      rw [List.mem_singleton.mp stored] at isRevoked
      exact isRevoked rfl
    · intro accepted
      have current := ((AuthorityTables.verify_eq_ok _ _ _ _ _ _).mp accepted).2
      have unread : ¬scope.denote.Rereads := fun held => lost ((ScopeText.rereads_denote scope).mp held)
      exact AuthorityTables.not_current_of_rereads unread current

end AuthoritySystem
end Macr
