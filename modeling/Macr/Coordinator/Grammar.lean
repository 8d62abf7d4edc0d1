import Macr.Coordinator.Compile
import Macr.ErrorClasses
import Macr.Lib.Sequencing
import Mathlib.Data.List.Dedup

/-!
# The grammar of proposals

Which texts are read as a proposal and which raise another error than a `ValueError`. A reading is
exact when it raises only `ValueError` and reads only what the format allows; the format wants
arrays and the number one, and the code also takes what `tuple` and `==` make of other values.
-/

namespace Macr.Coordinator

open Lib Lib.JsonText

/-- Only `ValueError` is raised. -/
abbrev OnlyValueErrors {α : Type} (result : Except MacrError α) : Prop :=
  RaisesOnly (fun error => error.isValueError = true) result

/-! ## Fields -/

/-- A text that passes a test. -/
def Passes (test : String → Bool) (value : Option Document) : Prop :=
  ∃ text, value = some (.string text) ∧ test (toChars text) = true

/-- Values that are distinct texts, at least one, that pass a test. -/
def AllPass (test : String → Bool) (values : List Document) : Prop :=
  ∃ texts : List Text, values = texts.map .string ∧ texts ≠ [] ∧
    (texts.map toChars).Nodup ∧ ∀ text ∈ texts, test (toChars text) = true

/-- A number that is a cost. -/
def CostFits (value : Option Document) : Prop :=
  ∃ number, value = some (.number number) ∧ isFloat number.exact = true ∧ 0 ≤ number.exact

/-- An integer that no float holds. -/
def CostOverflows (value : Option Document) : Prop :=
  ∃ number, value = some (.number number) ∧ number.isInteger = true ∧ isFloat number.exact = false

/-- What `tuple` takes. -/
def isIterable : Option Document → Bool
  | none | some (.array _) | some (.string _) | some (.object _) => true
  | some .null | some (.bool _) | some (.constant _) | some (.number _) => false

/-- The fields of a child before its cost are as they have to be, with what `tuple` makes of the
two sets. -/
structure NamedFields (fields : List (Text × Document)) : Prop where
  /-- The id. -/
  childId : Passes isIdentifier (field fields "child_id")
  /-- The task. -/
  taskDigest : Passes isSha256 (field fields "task_digest")
  /-- The role template. -/
  roleTemplateDigest : Passes isSha256 (field fields "role_template_digest")
  /-- The contexts. -/
  contexts : ∃ values, tuple (field fields "context_capsule_ids") = .ok values ∧
    AllPass isSha256 values
  /-- The capabilities. -/
  capabilities : ∃ values, tuple (field fields "required_capabilities") = .ok values ∧
    AllPass isIdentifier values

/-- A value that is read as a child. -/
def ChildFits (raw : Document) : Prop :=
  ∃ fields, raw = .object fields ∧ NamedFields fields ∧ CostFits (field fields "cost_ceiling_usd")

/-- A value that raises `TypeError` or `OverflowError` as a child. -/
def ChildBreaks (raw : Document) : Prop :=
  ∃ fields, raw = .object fields ∧
    (isIterable (field fields "context_capsule_ids") = false ∨
      isIterable (field fields "required_capabilities") = false ∨
      NamedFields fields ∧ CostOverflows (field fields "cost_ceiling_usd"))

variable {test : String → Bool}

/-- A text is returned as it is when it passes. -/
theorem checkedText_eq_ok {message : String} {value : Option Document}
    {text : {text : String // test text = true}} :
    checkedText test message value = .ok text ↔
      ∃ codes, value = some (.string codes) ∧ toChars codes = text.val := by
  unfold checkedText
  split
  case h_1 codes =>
    constructor
    · intro checked
      split at checked
      · obtain rfl := Except.ok.inj checked
        exact ⟨codes, rfl, rfl⟩
      · cases checked
    · rintro ⟨_, ⟨⟩, same⟩
      have passes : test (toChars codes) = true := by
        rw [same]
        exact text.property
      rw [dif_pos passes]
      exact congrArg Except.ok (Subtype.ext same)
  case h_2 other =>
    simp only [reduceCtorEq, false_iff]
    rintro ⟨codes, rfl, -⟩
    exact other codes rfl

/-- A text is checked when it passes. -/
theorem exists_checkedText {message : String} {value : Option Document} :
    (∃ text, checkedText test message value = .ok text) ↔ Passes test value := by
  simp only [checkedText_eq_ok]
  constructor
  · rintro ⟨text, codes, given, same⟩
    exact ⟨codes, given, by rw [same]; exact text.property⟩
  · rintro ⟨codes, given, passes⟩
    exact ⟨⟨toChars codes, passes⟩, codes, given, rfl⟩

/-- A check of a text raises only `ValueError`. -/
theorem checkedText_raises (message : String) (value : Option Document) :
    OnlyValueErrors (checkedText test message value) := by
  unfold checkedText
  split
  · split <;> simp [MacrError.isValueError]
  · simp [MacrError.isValueError]

/-- What `tuple` returns of. -/
theorem exists_tuple {value : Option Document} :
    (∃ values, tuple value = .ok values) ↔ isIterable value = true := by
  cases value with
  | none => simp [tuple, isIterable]
  | some document => cases document <;> simp [tuple, isIterable]

/-- What `tuple` raises. -/
theorem tuple_raises {value : Option Document} :
    OnlyValueErrors (tuple value) ↔ isIterable value = true := by
  cases value with
  | none => simp [tuple, isIterable]
  | some document => cases document <;> simp [tuple, isIterable, MacrError.isValueError]

/-- A cost is read when it fits. -/
theorem exists_cost {name : String} {value : Option Document} :
    (∃ found, cost name value = .ok found) ↔ CostFits value := by
  unfold cost CostFits
  split
  case h_1 number =>
    by_cases float : isFloat number.exact = true
    · by_cases sign : 0 ≤ number.exact <;> simp [float, sign]
    · by_cases integer : number.isInteger = true <;> simp [float, integer]
  case h_2 other =>
    simp only [reduceCtorEq, exists_false, false_iff]
    rintro ⟨number, rfl, -⟩
    exact other number rfl

/-- A cost raises another error when no float holds it. -/
theorem cost_raises {name : String} {value : Option Document} :
    OnlyValueErrors (cost name value) ↔ ¬CostOverflows value := by
  unfold cost CostOverflows
  split
  case h_1 number =>
    by_cases float : isFloat number.exact = true
    · by_cases sign : 0 ≤ number.exact <;> simp [float, sign, MacrError.isValueError]
    · by_cases integer : number.isInteger = true <;>
        simp [float, integer, MacrError.isValueError]
  case h_2 other =>
    simp only [raisesOnly_error, MacrError.isValueError, true_iff]
    rintro ⟨number, rfl, -⟩
    exact other number rfl

/-! ## Children -/

section Sets

variable {check : String → Option Document → Except MacrError {text : String // test text = true}}

/-- The items that are checked are texts, in their order. -/
theorem mapM_check {name : String} (checks : ∀ item, ∃ message, check name item =
    checkedText test message item) {values : List Document}
    {normalized : List {text : String // test text = true}} :
    values.mapM (fun item => check name (some item)) = .ok normalized ↔
      ∃ texts : List Text, values = texts.map .string ∧
        texts.map toChars = normalized.map (·.val) := by
  rw [mapM_eq_ok_iff]
  constructor
  · intro matched
    induction matched with
    | nil => exact ⟨[], rfl, rfl⟩
    | @cons item text items others first _ ih =>
      obtain ⟨texts, rfl, same⟩ := ih
      obtain ⟨message, named⟩ := checks (some item)
      rw [named] at first
      obtain ⟨codes, ⟨⟩, spelled⟩ := checkedText_eq_ok.mp first
      exact ⟨codes :: texts, rfl, by rw [List.map_cons, List.map_cons, spelled, same]⟩
  · rintro ⟨texts, rfl, same⟩
    induction texts generalizing normalized with
    | nil =>
      obtain rfl := List.map_eq_nil_iff.mp same.symm
      exact .nil
    | cons codes rest ih =>
      cases normalized with
      | nil => cases same
      | cons text others =>
        obtain ⟨spelled, same⟩ := List.cons.inj same
        obtain ⟨message, named⟩ := checks (some (.string codes))
        refine .cons ?_ (ih same)
        rw [named]
        exact checkedText_eq_ok.mpr ⟨codes, rfl, spelled⟩

/-- A set is made of texts that all pass. -/
theorem exists_textSet {name : String} (checks : ∀ item, ∃ message, check (name ++ " item") item =
    checkedText test message item) {values : List Document} :
    (∃ set, textSet check name values = .ok set) ↔ AllPass test values := by
  constructor
  · rintro ⟨set, made⟩
    obtain ⟨normalized, checked, made⟩ := bind_eq_ok.mp made
    obtain ⟨texts, same, spelled⟩ := (mapM_check checks).mp checked
    split at made
    case isTrue empty => cases made
    case isFalse inhabited =>
      split at made
      case isFalse repeated => cases made
      case isTrue distinct =>
        refine ⟨texts, same, ?_, ?_, ?_⟩
        · rintro rfl
          exact inhabited (List.map_eq_nil_iff.mp spelled.symm)
        · rw [spelled]
          exact distinct
        · intro text member
          have listed : toChars text ∈ normalized.map (·.val) := by
            rw [← spelled]
            exact List.mem_map_of_mem member
          obtain ⟨checked, -, same⟩ := List.mem_map.mp listed
          rw [← same]
          exact checked.property
  · rintro ⟨texts, same, inhabited, distinct, passes⟩
    have spelled : texts.map toChars = (texts.attach.map fun text =>
        (⟨toChars text.val, passes text.val text.property⟩ :
          {text : String // test text = true})).map (·.val) := by
      simp [Function.comp_def]
    have checked := (mapM_check checks).mpr ⟨texts, same, spelled⟩
    unfold textSet
    rw [checked, ok_bind]
    split
    case isTrue empty =>
      rw [empty] at spelled
      exact absurd (List.map_eq_nil_iff.mp spelled) inhabited
    case isFalse =>
      rw [spelled] at distinct
      rw [dif_pos distinct]
      exact ⟨_, rfl⟩

/-- A set raises only `ValueError`. -/
theorem textSet_raises {name : String} (checks : ∀ item, ∃ message,
    check (name ++ " item") item = checkedText test message item) (values : List Document) :
    OnlyValueErrors (textSet check name values) := by
  refine raisesOnly_bind.mpr ⟨raisesOnly_mapM.mpr ?_, ?_⟩
  · intro _ item _ _ _
    obtain ⟨message, named⟩ := checks (some item)
    rw [named]
    exact checkedText_raises message _
  · intro normalized _
    split
    · simp [MacrError.isValueError]
    · split <;> simp [MacrError.isValueError]

end Sets

/-- `_digest` checks a text. -/
theorem digest_checks (name : String) (item : Option Document) :
    ∃ message, digest name item = checkedText isSha256 message item := ⟨_, rfl⟩

/-- `_identifier` checks a text. -/
theorem identifier_checks (name : String) (item : Option Document) :
    ∃ message, identifier name item = checkedText isIdentifier message item := ⟨_, rfl⟩

/-- `_digest` raises only `ValueError`. -/
theorem digest_raises (name : String) (item : Option Document) : OnlyValueErrors (digest name item) :=
  checkedText_raises _ _

/-- `_identifier` raises only `ValueError`. -/
theorem identifier_raises (name : String) (item : Option Document) :
    OnlyValueErrors (identifier name item) := checkedText_raises _ _

/-- The fields before the cost pass when their checks return. -/
theorem namedFields_iff {fields : List (Text × Document)} : NamedFields fields ↔
    ∃ contexts capabilities childId taskDigest roleTemplateDigest contextCapsuleIds
      requiredCapabilities,
      tuple (field fields "context_capsule_ids") = .ok contexts ∧
      tuple (field fields "required_capabilities") = .ok capabilities ∧
      identifier "child_id" (field fields "child_id") = .ok childId ∧
      digest "task_digest" (field fields "task_digest") = .ok taskDigest ∧
      digest "role_template_digest" (field fields "role_template_digest") =
        .ok roleTemplateDigest ∧
      textSet digest "context_capsule_ids" contexts = .ok contextCapsuleIds ∧
      textSet identifier "required_capabilities" capabilities = .ok requiredCapabilities := by
  constructor
  · rintro ⟨childId, taskDigest, role, ⟨contexts, given, pass⟩, ⟨capabilities, given', pass'⟩⟩
    obtain ⟨childId, checked⟩ := exists_checkedText.mpr childId
    obtain ⟨taskDigest, checked'⟩ := exists_checkedText.mpr taskDigest
    obtain ⟨role, checked''⟩ := exists_checkedText.mpr role
    obtain ⟨set, made⟩ := (exists_textSet (digest_checks _)).mpr pass
    obtain ⟨set', made'⟩ := (exists_textSet (identifier_checks _)).mpr pass'
    exact ⟨contexts, capabilities, childId, taskDigest, role, set, set', given, given', checked,
      checked', checked'', made, made'⟩
  · rintro ⟨contexts, capabilities, childId, taskDigest, role, set, set', given, given', checked,
      checked', checked'', made, made'⟩
    exact ⟨exists_checkedText.mp ⟨childId, checked⟩, exists_checkedText.mp ⟨taskDigest, checked'⟩,
      exists_checkedText.mp ⟨role, checked''⟩,
      ⟨contexts, given, (exists_textSet (digest_checks _)).mp ⟨set, made⟩⟩,
      ⟨capabilities, given', (exists_textSet (identifier_checks _)).mp ⟨set', made'⟩⟩⟩

/-- A child is read when its fields pass and its cost fits. -/
theorem exists_child {raw : Document} : (∃ request, child raw = .ok request) ↔ ChildFits raw := by
  constructor
  · rintro ⟨request, made⟩
    unfold child at made
    split at made
    case h_1 fields =>
      simp only [childRequest, bind_eq_ok] at made
      obtain ⟨contexts, given, capabilities, given', childId, checked, taskDigest, checked', role,
        checked'', set, made, set', made', found, read, -⟩ := made
      exact ⟨fields, rfl, namedFields_iff.mpr ⟨contexts, capabilities, childId, taskDigest, role,
        set, set', given, given', checked, checked', checked'', made, made'⟩,
        exists_cost.mp ⟨found, read⟩⟩
    case h_2 => cases made
  · rintro ⟨fields, rfl, named, fits⟩
    obtain ⟨contexts, capabilities, childId, taskDigest, role, set, set', given, given', checked,
      checked', checked'', made, made'⟩ := namedFields_iff.mp named
    obtain ⟨found, read⟩ := exists_cost.mpr fits
    simp only [child, childRequest, bind_eq_ok]
    exact ⟨_, contexts, given, capabilities, given', childId, checked, taskDigest, checked', role,
      checked'', set, made, set', made', found, read, rfl⟩

/-- A child raises another error than a `ValueError` when it breaks. -/
theorem child_raises {raw : Document} : OnlyValueErrors (child raw) ↔ ¬ChildBreaks raw := by
  unfold child
  split
  case h_2 other =>
    simp only [raisesOnly_error, MacrError.isValueError, true_iff]
    rintro ⟨fields, rfl, -⟩
    exact other fields rfl
  case h_1 fields =>
    simp only [childRequest, raisesOnly_bind, tuple_raises, raisesOnly_pure, implies_true, and_true,
      cost_raises, textSet_raises (digest_checks _), textSet_raises (identifier_checks _), true_and,
      digest_raises, identifier_raises]
    constructor
    · rintro ⟨iterable, later⟩ ⟨_, ⟨⟩, broken⟩
      obtain ⟨values, tuples⟩ := exists_tuple.mpr iterable
      obtain ⟨iterable', later⟩ := later values tuples
      rcases broken with odd | odd | ⟨named, overflows⟩
      · exact absurd (odd.symm.trans iterable) (by decide)
      · exact absurd (odd.symm.trans iterable') (by decide)
      · obtain ⟨contexts, capabilities, childId, taskDigest, role, set, set', given, given',
          checked, checked', checked'', made, made'⟩ := namedFields_iff.mp named
        obtain rfl := Except.ok.inj (tuples.symm.trans given)
        exact later capabilities given' childId checked taskDigest checked' role checked'' set made
          set' made' overflows
    · intro sound
      have iterable : isIterable (field fields "context_capsule_ids") = true := by
        by_contra odd
        exact sound ⟨fields, rfl, .inl (Bool.not_eq_true _ ▸ odd)⟩
      have iterable' : isIterable (field fields "required_capabilities") = true := by
        by_contra odd
        exact sound ⟨fields, rfl, .inr (.inl (Bool.not_eq_true _ ▸ odd))⟩
      refine ⟨iterable, fun contexts given => ⟨iterable', ?_⟩⟩
      intro capabilities given' childId checked taskDigest checked' role checked'' set made set'
        made' overflows
      exact sound ⟨fields, rfl, .inr (.inr ⟨namedFields_iff.mpr ⟨contexts, capabilities, childId,
        taskDigest, role, set, set', given, given', checked, checked', checked'', made, made'⟩,
        overflows⟩)⟩

/-! ## Proposals -/

/-- The unknown keys of an object and of its children. -/
def rejectedKeys (members : List (Text × Document)) (items : List Document) : List Text :=
  (members.map (·.1)).filter (· ∉ proposalKeys) ++
    items.zipIdx.flatMap (fun item => rejectedOf item.2 item.1)

/-- The id that an object gives a child. -/
def childIdOf : Document → Option String
  | .object fields =>
    match field fields "child_id" with
    | some (.string text) => some (toChars text)
    | _ => none
  | _ => none

/-- An object that is read as a proposal. -/
structure ProposalFits (members : List (Text × Document)) (items : List Document) : Prop where
  /-- It has children. -/
  children : field members "children" = some (.array items)
  /-- There is one. -/
  inhabited : items ≠ []
  /-- Each is read. -/
  each : ∀ item ∈ items, ChildFits item
  /-- Their ids are distinct. -/
  distinct : (items.filterMap childIdOf).Nodup
  /-- The version is equal to one. -/
  version : (schemaOne (field members "schema_version")).isSome
  /-- The parent. -/
  parent : Passes isSha256 (field members "parent_plan_digest")
  /-- The candidate. -/
  candidate : Passes isSha256 (field members "source_candidate_digest")
  /-- The unknown keys are paths. -/
  paths : ∀ key ∈ rejectedKeys members items, isFieldPath (toChars key) = true

/-- A document that raises another error than a `ValueError`: the first child that is not read
breaks. -/
def ProposalBreaks (document : Document) : Prop :=
  ∃ members before item after, document = .object members ∧
    field members "children" = some (.array (before ++ item :: after)) ∧
    (∀ other ∈ before, ChildFits other) ∧ ChildBreaks item

/-- A child has the id its object gives it. -/
theorem childIdOf_child {raw : Document} {request : CoordinatorChildRequest}
    (made : child raw = .ok request) : childIdOf raw = some request.childId.val := by
  unfold child at made
  split at made
  case h_2 => cases made
  case h_1 fields =>
    simp only [childRequest, bind_eq_ok, pure_eq_ok] at made
    obtain ⟨_, _, _, _, childId, checked, _, _, _, _, _, _, _, _, _, _, rfl⟩ := made
    obtain ⟨codes, given, spelled⟩ := checkedText_eq_ok.mp checked
    simp only [childIdOf, given, spelled]

/-- So have all children. -/
theorem childIds_of_mapM {items : List Document} {requests : List CoordinatorChildRequest}
    (made : items.mapM child = .ok requests) :
    items.filterMap childIdOf = requests.map (·.childId.val) := by
  have matched := mapM_eq_ok_iff.mp made
  clear made
  induction matched with
  | nil => rfl
  | cons first _ ih =>
    rw [List.filterMap_cons_some (childIdOf_child first), ih, List.map_cons]

/-- The children are read when each is. -/
theorem exists_mapM_child {items : List Document} :
    (∃ requests, items.mapM child = .ok requests) ↔ ∀ item ∈ items, ChildFits item := by
  simp only [mapM_eq_ok_iff]
  induction items with
  | nil => simp
  | cons item rest ih =>
    rw [List.forall_mem_cons, ← ih, ← exists_child]
    simp only [List.forall₂_cons_left_iff]
    constructor
    · rintro ⟨_, request, requests, first, later, rfl⟩
      exact ⟨⟨request, first⟩, requests, later⟩
    · rintro ⟨⟨request, first⟩, requests, later⟩
      exact ⟨_, request, requests, first, later, rfl⟩

/-- The paths are taken when each is one. -/
theorem exists_fieldPaths {keys : List Text} :
    (∃ paths, fieldPaths keys = .ok paths) ↔ ∀ key ∈ keys, isFieldPath (toChars key) = true := by
  simp only [fieldPaths, bind_eq_ok, raiseIf_eq_ok, exists_const, pure_eq_ok, List.any_eq_true,
    Bool.not_eq_true', not_exists, not_and, Bool.not_eq_false]
  constructor
  · rintro ⟨_, all, _⟩
    exact all
  · exact fun all => ⟨_, all, rfl⟩

/-- What a proposal is made of. -/
theorem make_eq_ok {version parent candidate : Option Document}
    {children : List CoordinatorChildRequest} {rejected : List Text}
    {proposal : CoordinatorProposal} :
    CoordinatorProposal.make version parent candidate children rejected = .ok proposal ↔
      schemaOne version = some proposal.schemaVersion ∧
      digest "parent_plan_digest" parent = .ok proposal.parentPlanDigest ∧
      digest "source_candidate_digest" candidate = .ok proposal.sourceCandidateDigest ∧
      children ≠ [] ∧ (children.map (·.childId.val)).Nodup ∧
      fieldPaths rejected = .ok proposal.rejectedFields ∧
      sortOn (·.childId.val) children = proposal.children := by
  simp only [CoordinatorProposal.make, bind_eq_ok, require_eq_ok]
  constructor
  · rintro ⟨one, version, _, checked, _, checked', made⟩
    split at made
    case isTrue => cases made
    case isFalse inhabited =>
      split at made
      case isTrue distinct =>
        obtain ⟨paths, taken, made⟩ := bind_eq_ok.mp made
        obtain rfl := pure_eq_ok.mp made
        exact ⟨version, checked, checked', inhabited, distinct, taken, rfl⟩
      case isFalse => cases made
  · rintro ⟨version, checked, checked', inhabited, distinct, taken, sorted⟩
    refine ⟨_, version, _, checked, _, checked', ?_⟩
    rw [dif_neg inhabited, dif_pos distinct, taken, ok_bind]
    refine pure_eq_ok.mpr ?_
    cases proposal
    cases sorted
    rfl

/-- A proposal is made of checked children. -/
theorem exists_make {version parent candidate : Option Document}
    {children : List CoordinatorChildRequest} {rejected : List Text} :
    (∃ proposal, CoordinatorProposal.make version parent candidate children rejected =
      .ok proposal) ↔
      (schemaOne version).isSome ∧ Passes isSha256 parent ∧ Passes isSha256 candidate ∧
      children ≠ [] ∧ (children.map (·.childId.val)).Nodup ∧
      ∀ key ∈ rejected, isFieldPath (toChars key) = true := by
  rw [← exists_fieldPaths, Option.isSome_iff_exists]
  simp only [make_eq_ok]
  constructor
  · rintro ⟨proposal, version, checked, checked', inhabited, distinct, taken, -⟩
    exact ⟨⟨_, version⟩, exists_checkedText.mp ⟨_, checked⟩, exists_checkedText.mp ⟨_, checked'⟩,
      inhabited, distinct, _, taken⟩
  · rintro ⟨⟨one, version⟩, parent, candidate, inhabited, distinct, paths, taken⟩
    obtain ⟨first, checked⟩ := exists_checkedText.mpr parent
    obtain ⟨second, checked'⟩ := exists_checkedText.mpr candidate
    have sorted : sortOn (·.childId.val) children ≠ [] := by
      rw [ne_eq, ← List.length_eq_zero_iff, length_sortOn, List.length_eq_zero_iff]
      exact inhabited
    exact ⟨⟨one, first, second, _, paths, sorted, sortOn_strict distinct⟩, version, checked,
      checked', inhabited, distinct, taken, rfl⟩

/-- Making a proposal raises only `ValueError`. -/
theorem make_raises (version parent candidate : Option Document)
    (children : List CoordinatorChildRequest) (rejected : List Text) :
    OnlyValueErrors (CoordinatorProposal.make version parent candidate children rejected) := by
  simp only [CoordinatorProposal.make, raisesOnly_bind, raisesOnly_require, digest_raises,
    isValueError_valueError, implies_true, true_and]
  intro _ _ _ _ _ _
  split
  · simp
  · split
    · simp [fieldPaths, raisesOnly_map]
    · simp

/-- A document is read when it is an object that fits. -/
theorem exists_fromDict {document : Document} :
    (∃ proposal, fromDict document = .ok proposal) ↔
      ∃ members items, document = .object members ∧ ProposalFits members items := by
  constructor
  · rintro ⟨proposal, made⟩
    unfold fromDict at made
    split at made
    case h_2 => cases made
    case h_1 members =>
      split at made
      case h_2 => cases made
      case h_1 first rest given =>
        obtain ⟨children, read, made⟩ := bind_eq_ok.mp made
        obtain ⟨version, parent, candidate, -, distinct, paths⟩ := exists_make.mp ⟨_, made⟩
        rw [← childIds_of_mapM read] at distinct
        exact ⟨members, first :: rest, rfl, given, nofun, exists_mapM_child.mp ⟨_, read⟩, distinct,
          version, parent, candidate, paths⟩
  · rintro ⟨members, items, rfl, fits⟩
    obtain ⟨children, read⟩ := exists_mapM_child.mpr fits.each
    have distinct := fits.distinct
    rw [childIds_of_mapM read] at distinct
    cases items with
    | nil => exact absurd rfl fits.inhabited
    | cons first rest =>
      have matched := (mapM_eq_ok_iff.mp read).length_eq
      have inhabited : children ≠ [] := by
        rintro rfl
        cases matched
      obtain ⟨proposal, made⟩ := exists_make.mpr ⟨fits.version, fits.parent, fits.candidate,
        inhabited, distinct, fits.paths⟩
      refine ⟨proposal, ?_⟩
      simp only [fromDict, fits.children, bind_eq_ok]
      exact ⟨children, read, made⟩

/-- A document raises another error when it breaks. -/
theorem fromDict_raises {document : Document} :
    OnlyValueErrors (fromDict document) ↔ ¬ProposalBreaks document := by
  unfold fromDict ProposalBreaks
  split
  case h_2 other =>
    simp only [raisesOnly_error, MacrError.isValueError, true_iff]
    rintro ⟨members, _, _, _, rfl, -⟩
    exact other members rfl
  case h_1 members =>
    split
    case h_2 other =>
      simp only [raisesOnly_error, MacrError.isValueError, true_iff]
      rintro ⟨_, before, item, after, ⟨⟩, given, -⟩
      cases before with
      | nil => exact other item after given
      | cons first rest => exact other first (rest ++ item :: after) given
    case h_1 first rest given =>
      simp only [raisesOnly_bind, raisesOnly_mapM, make_raises, implies_true, and_true,
        child_raises, exists_child]
      constructor
      · rintro sound ⟨_, before, item, after, ⟨⟩, given', fits, breaks⟩
        rw [given] at given'
        injection Option.some.inj given' with same
        exact sound before item after same fits breaks
      · intro sound before item after same fits breaks
        rw [same] at given
        exact sound ⟨members, before, item, after, rfl, given, fits, breaks⟩

/-! ## Texts -/

/-- What the format allows besides what the code checks. -/
structure Strict (members : List (Text × Document)) (items : List Document) : Prop where
  /-- The version is the number one. -/
  version : ∃ number, field members "schema_version" = some (.number number) ∧ number.exact = 1
  /-- The sets of a child are arrays. -/
  arrays : ∀ item ∈ items, ∃ fields, item = .object fields ∧
    (∃ values, field fields "context_capsule_ids" = some (.array values)) ∧
    ∃ values, field fields "required_capabilities" = some (.array values)

/-- A text of the format: a JSON object without duplicate keys, with the version one, and with
children of distinct ids whose sets are arrays. -/
def Grammatical (text : Text) : Prop :=
  ∃ members items, WritesAny (.object members) text ∧ ¬Mentions (.object members) ∧
    field members "children" = some (.array items) ∧ items ≠ [] ∧
    (items.map childIdOf).Nodup ∧ Strict members items

/-- A reading raises only `ValueError`, and what it reads is of the format. -/
def ReadsExactly (maxDigits nesting : Nat) (raw : List UInt8) : Prop :=
  OnlyValueErrors (fromJson maxDigits nesting raw) ∧
    ∀ proposal, fromJson maxDigits nesting raw = .ok proposal →
      ∃ text, decodeUtf8 raw = some text ∧ Grammatical text

/-- The text does not nest too deeply, no child breaks the reading, and a proposal that is read
has the number one, arrays, and no constant that is no number. -/
def Regular (maxDigits nesting : Nat) (raw : List UInt8) : Prop :=
  raw.length ≤ 1024 * 1024 → ∀ text, decodeUtf8 raw = some text →
    loads maxDigits nesting text ≠ .error .tooDeep ∧
    ∀ document, WritesText maxDigits nesting document text → ¬ProposalBreaks document ∧
      ∀ members items, document = .object members → ProposalFits members items →
        Strict members items ∧ ¬Mentions document

/-- The ids of children that are read are distinct when their texts are. -/
theorem childIds_nodup {items : List Document} (each : ∀ item ∈ items, ChildFits item) :
    (items.filterMap childIdOf).Nodup ↔ (items.map childIdOf).Nodup := by
  obtain ⟨requests, read⟩ := exists_mapM_child.mpr each
  have ids : items.map childIdOf = (requests.map (·.childId.val)).map some := by
    have matched := mapM_eq_ok_iff.mp read
    clear read each
    induction matched with
    | nil => rfl
    | cons first _ ih => rw [List.map_cons, ih, childIdOf_child first, List.map_cons, List.map_cons]
  rw [childIds_of_mapM read, ids, List.nodup_map_iff (Option.some_injective String)]

/-- The bytes that are read. -/
theorem fromJson_eq_ok {maxDigits nesting : Nat} {raw : List UInt8}
    {proposal : CoordinatorProposal} : fromJson maxDigits nesting raw = .ok proposal ↔
      raw.length ≤ 1024 * 1024 ∧ ∃ text document, decodeUtf8 raw = some text ∧
        loads maxDigits nesting text = .ok document ∧ fromDict document = .ok proposal := by
  simp only [fromJson, bind_eq_ok, raiseIf_eq_ok, exists_const, require_eq_ok, not_lt]
  refine and_congr_right fun _ => ?_
  constructor
  · rintro ⟨text, decoded, document, read, made⟩
    refine ⟨text, document, decoded, ?_, made⟩
    cases read' : loads maxDigits nesting text with
    | error raised =>
      rw [read'] at read
      cases read
    | ok found =>
      rw [read'] at read
      obtain rfl : found = document := Except.ok.inj read
      rfl
  · rintro ⟨text, document, decoded, read, made⟩
    refine ⟨text, decoded, document, ?_, made⟩
    rw [read]
    rfl

/-- The bytes that raise only `ValueError`. -/
theorem fromJson_raises {maxDigits nesting : Nat} {raw : List UInt8} :
    OnlyValueErrors (fromJson maxDigits nesting raw) ↔
      (raw.length ≤ 1024 * 1024 → ∀ text, decodeUtf8 raw = some text →
        loads maxDigits nesting text ≠ .error .tooDeep ∧
        ∀ document, WritesText maxDigits nesting document text → ¬ProposalBreaks document) := by
  simp only [fromJson, raisesOnly_bind, raisesOnly_raiseIf, raisesOnly_require,
    isValueError_valueError, implies_true, true_and, raiseIf_eq_ok, not_lt, require_eq_ok,
    raisesOnly_mapError, forall_const]
  refine imp_congr_right fun _ => forall_congr' fun text => imp_congr_right fun _ => ?_
  simp only [← loads_eq_ok]
  cases loads maxDigits nesting text with
  | error raised => cases raised <;> simp [readingError, MacrError.isValueError, Except.mapError]
  | ok document => simp [fromDict_raises, Except.mapError]

/-- A reading is exact where its text is regular. -/
theorem readsExactly_iff {maxDigits nesting : Nat} {raw : List UInt8} :
    ReadsExactly maxDigits nesting raw ↔ Regular maxDigits nesting raw := by
  unfold ReadsExactly
  rw [fromJson_raises]
  constructor
  · rintro ⟨raises, reads⟩ short text decoded
    obtain ⟨shallow, sound⟩ := raises short text decoded
    refine ⟨shallow, fun document written => ⟨sound document written, ?_⟩⟩
    rintro members items rfl fits
    have read := loads_eq_ok.mpr written
    obtain ⟨proposal, made⟩ := exists_fromDict.mpr ⟨members, items, rfl, fits⟩
    obtain ⟨other, decoded', members', items', writes, standard, children, -, -, strict⟩ :=
      reads proposal (fromJson_eq_ok.mpr ⟨short, text, _, decoded, read, made⟩)
    obtain rfl := Option.some.inj (decoded.symm.trans decoded')
    obtain rfl := Document.object.inj (document_of_loads read writes)
    obtain rfl : items' = items := by
      injection Option.some.inj (children.symm.trans fits.children)
    exact ⟨strict, standard⟩
  · intro regular
    refine ⟨fun short text decoded => ?_, ?_⟩
    · obtain ⟨shallow, each⟩ := regular short text decoded
      exact ⟨shallow, fun document written => (each document written).1⟩
    · intro proposal done
      obtain ⟨short, text, document, decoded, read, made⟩ := fromJson_eq_ok.mp done
      obtain ⟨members, items, rfl, fits⟩ := exists_fromDict.mp ⟨proposal, made⟩
      obtain ⟨strict, standard⟩ := ((regular short text decoded).2 _ (loads_eq_ok.mp read)).2
        members items rfl fits
      exact ⟨text, decoded, members, items, writesAny_of_loads read, standard, fits.children,
        fits.inhabited, (childIds_nodup fits.each).mp fits.distinct, strict⟩

/-! ## Order -/

/-- Two objects that differ in the order of their children. -/
structure Reordered (members others : List (Text × Document)) : Prop where
  /-- The children of one are those of the other. -/
  children : ∃ items items', field members "children" = some (.array items) ∧
    field others "children" = some (.array items') ∧ items.Perm items'
  /-- Every other field is the same. -/
  fields : ∀ key ≠ name "children", members.lookup key = others.lookup key

/-- Children that are permuted are read as permuted requests. -/
theorem mapM_child_perm {items others : List Document} (perm : items.Perm others)
    {requests : List CoordinatorChildRequest} (read : items.mapM child = .ok requests) :
    ∃ requests', others.mapM child = .ok requests' ∧ requests'.Perm requests := by
  obtain ⟨requests', matched, same⟩ := List.perm_comp_forall₂ perm.symm (mapM_eq_ok_iff.mp read)
  exact ⟨requests', mapM_eq_ok_iff.mpr matched, same⟩

/-- An item has unknown keys wherever it stands. -/
theorem rejectedOf_eq_nil {index other : Nat} {item : Document} :
    rejectedOf index item = [] ↔ rejectedOf other item = [] := by
  unfold rejectedOf
  split
  · rw [List.map_eq_nil_iff, List.map_eq_nil_iff]
  · exact Iff.rfl

/-- Nothing is unknown in an object when no key of it is, and none of a child. -/
theorem rejectedKeys_eq_nil {members : List (Text × Document)} {items : List Document} :
    rejectedKeys members items = [] ↔
      (∀ key, (members.lookup key).isSome → key ∈ proposalKeys) ∧
        ∀ item ∈ items, rejectedOf 0 item = [] := by
  unfold rejectedKeys
  rw [List.append_eq_nil_iff, List.filter_eq_nil_iff, List.flatMap_eq_nil_iff]
  refine and_congr ?_ ?_
  · simp only [decide_eq_true_eq, not_not, List.mem_map, List.lookup_isSome_iff, beq_iff_eq]
    constructor
    · rintro each key ⟨pair, member, rfl⟩
      exact each pair.1 ⟨pair, member, rfl⟩
    · rintro each _ ⟨pair, member, rfl⟩
      exact each pair.1 ⟨pair, member, rfl⟩
  · constructor
    · intro each item member
      obtain ⟨index, inside, rfl⟩ := List.mem_iff_getElem.mp member
      exact rejectedOf_eq_nil.mp (each (items[index], index)
        (List.mem_zipIdx_iff_getElem?.mpr (List.getElem?_eq_getElem inside)))
    · intro each pair member
      exact rejectedOf_eq_nil.mp (each pair.1 (List.fst_mem_of_mem_zipIdx member))

/-- A proposal without unknown fields has no unknown key in its text. -/
theorem fieldPaths_eq_nil {keys : List Text} : fieldPaths keys = .ok [] ↔ keys = [] := by
  simp only [fieldPaths, bind_eq_ok, raiseIf_eq_ok, exists_const, pure_eq_ok]
  constructor
  · rintro ⟨_, sorted⟩
    have none : (keys.map toChars).dedup = [] := by
      rw [← List.length_eq_zero_iff, ← @length_sortOn _ _ _ id, sorted]
      rfl
    exact List.map_eq_nil_iff.mp ((List.dedup_eq_nil _).mp none)
  · rintro rfl
    exact ⟨by simp, rfl⟩

/-- What an object without unknown keys is read as. -/
theorem fromDict_eq_ok {members : List (Text × Document)} {items : List Document}
    (children : field members "children" = some (.array items))
    {proposal : CoordinatorProposal} : fromDict (.object members) = .ok proposal ↔
      items ≠ [] ∧ ∃ requests, items.mapM child = .ok requests ∧
        CoordinatorProposal.make (field members "schema_version")
          (field members "parent_plan_digest") (field members "source_candidate_digest") requests
          (rejectedKeys members items) = .ok proposal := by
  dsimp only [fromDict]
  rw [children]
  cases items with
  | nil => simp
  | cons first rest =>
    dsimp only
    rw [bind_eq_ok]
    exact (and_iff_right (List.cons_ne_nil first rest)).symm

/-- An object without unknown keys is read as the same proposal in every order of its children. -/
theorem fromDict_reordered {members others : List (Text × Document)}
    (reordered : Reordered members others) {proposal : CoordinatorProposal}
    (made : fromDict (.object members) = .ok proposal) (known : proposal.rejectedFields = []) :
    fromDict (.object others) = .ok proposal := by
  obtain ⟨items, items', children, children', perm⟩ := reordered.children
  obtain ⟨inhabited, requests, read, made⟩ := (fromDict_eq_ok children).mp made
  obtain ⟨version, parent, candidate, some_child, distinct, paths, sorted⟩ := make_eq_ok.mp made
  obtain ⟨requests', read', same⟩ := mapM_child_perm perm read
  rw [known, fieldPaths_eq_nil, rejectedKeys_eq_nil] at paths
  have keep : ∀ key : String, name key ≠ name "children" → field others key = field members key :=
    fun key other => (reordered.fields (name key) other).symm
  have rejected : rejectedKeys others items' = [] := by
    refine rejectedKeys_eq_nil.mpr ⟨fun key present => ?_, fun item member => ?_⟩
    · by_cases which : key = name "children"
      · rw [which]
        decide
      · exact paths.1 key (by rw [reordered.fields key which]; exact present)
    · exact paths.2 item (perm.mem_iff.mpr member)
  refine (fromDict_eq_ok children').mpr ⟨?_, requests', read', make_eq_ok.mpr ?_⟩
  · rintro rfl
    exact inhabited perm.eq_nil
  · rw [keep "schema_version" (by decide), keep "parent_plan_digest" (by decide),
      keep "source_candidate_digest" (by decide), rejected, known]
    refine ⟨version, parent, candidate, ?_, ?_, fieldPaths_eq_nil.mpr rfl, ?_⟩
    · rintro rfl
      exact some_child same.symm.eq_nil
    · exact ((same.map _).nodup_iff).mpr distinct
    · rw [← sorted]
      exact sortOn_eq_of_perm same fun left there right here equal =>
        List.inj_on_of_nodup_map (((same.map _).nodup_iff).mpr distinct) there here equal

end Macr.Coordinator
