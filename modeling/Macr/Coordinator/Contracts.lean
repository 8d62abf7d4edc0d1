import Macr.Lib.JsonValues
import Macr.Lib.Sorting
import Macr.ScopeText
import Macr.TargetLeases
import Mathlib.Data.String.Basic

/-!
# Coordinator proposals

What a coordinating model may propose: children with their tasks, contexts, capabilities and cost
ceilings. A proposal comes as the bytes of a JSON text. The texts of a record are of ASCII once its
checks have passed, and costs are exact. What `tuple` makes of a value that is no array is kept.
-/

namespace Macr.Coordinator

open Lib Lib.JsonText

/-! ## Checks of one value -/

/-- A text of `_IDENTIFIER`. -/
abbrev Identifier := {text : String // isIdentifier text = true}

/-- A finite cost that is not negative. -/
abbrev Cost := {cost : ℚ // 0 ≤ cost}

/-- A set of checked texts, in ascending order. -/
abbrev TextSet (test : String → Bool) :=
  {items : List {text : String // test text = true} //
    items ≠ [] ∧ items.Pairwise (·.val < ·.val)}

/-- A character of `_FIELD_PATH`. -/
def isFieldPathChar (c : Char) : Bool := c.isAlphanum || c ∈ ['_', '.', '[', ']', '-']

/-- `_FIELD_PATH.fullmatch`. -/
def isFieldPath (text : String) : Bool :=
  1 ≤ text.toList.length && text.toList.length ≤ 256 && text.toList.all isFieldPathChar

/-- `_digest` and `_identifier`, by their test. -/
def checkedText (test : String → Bool) (message : String) :
    Option Document → Except MacrError {text : String // test text = true}
  | some (.string text) =>
    if passes : test (toChars text) = true then .ok ⟨toChars text, passes⟩
    else .error (.valueError message)
  | _ => .error (.valueError message)

/-- `_digest`. -/
def digest (name : String) (value : Option Document) : Except MacrError Sha256Text :=
  checkedText isSha256 (name ++ " must be a lowercase SHA-256 digest") value

/-- `_identifier`. -/
def identifier (name : String) (value : Option Document) : Except MacrError Identifier :=
  checkedText isIdentifier (name ++ " must be a bounded identifier") value

/-- `_cost`: an integer that no float holds is raised by `float`. -/
def cost (name : String) : Option Document → Except MacrError Cost
  | some (.number number) =>
    if number.isInteger && !isFloat number.exact then .error (.other "OverflowError")
    else if valid : isFloat number.exact ∧ 0 ≤ number.exact then .ok ⟨number.exact, valid.2⟩
    else .error (.valueError (name ++ " must be finite non-negative"))
  | _ => .error (.valueError (name ++ " must be finite non-negative"))

/-- `tuple` of a decoded value: a string gives its characters and an object its keys. -/
def tuple : Option Document → Except MacrError (List Document)
  | none => .ok []
  | some (.array items) => .ok items
  | some (.string text) => .ok (text.map (fun c => .string [c]))
  | some (.object members) => .ok (members.map (fun pair => .string pair.1))
  | some (.null) | some (.bool _) | some (.constant _) | some (.number _) =>
    .error (.other "TypeError")

/-- `_digest_set` and `_identifier_set` of a tuple that is required, by the check of an item. -/
def textSet {test : String → Bool}
    (check : String → Option Document → Except MacrError {text : String // test text = true})
    (name : String) (values : List Document) : Except MacrError (TextSet test) := do
  let normalized ← values.mapM (fun item => check (name ++ " item") (some item))
  if inhabited : normalized = [] then
    .error (.valueError (name ++ " must not be empty"))
  else if distinct : (normalized.map (·.val)).Nodup then
    .ok ⟨sortOn (·.val) normalized, by
      rw [ne_eq, ← List.length_eq_zero_iff, length_sortOn, List.length_eq_zero_iff]
      exact inhabited, sortOn_strict distinct⟩
  else .error (.valueError (name ++ " must not contain duplicates"))

/-- `_field_paths`. -/
def fieldPaths (values : List Text) : Except MacrError (List String) := do
  raiseIf (values.any (fun item => !isFieldPath (toChars item)))
    (.valueError "rejected field path is invalid")
  return sortOn id (values.map toChars).dedup

/-! ## Records -/

/-- `CoordinatorChildRequest`. -/
structure CoordinatorChildRequest where
  /-- `child_id`. -/
  childId : Identifier
  /-- `task_digest`. -/
  taskDigest : Sha256Text
  /-- `role_template_digest`. -/
  roleTemplateDigest : Sha256Text
  /-- `context_capsule_ids`. -/
  contextCapsuleIds : TextSet isSha256
  /-- `required_capabilities`. -/
  requiredCapabilities : TextSet isIdentifier
  /-- `cost_ceiling_usd`. -/
  costCeilingUsd : Cost
deriving DecidableEq

/-- The array of a set of texts. -/
def TextSet.toJson {test : String → Bool} (items : TextSet test) : Json :=
  .arr (items.val.map (fun item => .str item.val))

/-- `CoordinatorChildRequest.to_dict`. -/
def CoordinatorChildRequest.toDict (child : CoordinatorChildRequest) : Json :=
  .obj [("child_id", .str child.childId.val), ("task_digest", .str child.taskDigest.val),
    ("role_template_digest", .str child.roleTemplateDigest.val),
    ("context_capsule_ids", TextSet.toJson child.contextCapsuleIds),
    ("required_capabilities", TextSet.toJson child.requiredCapabilities),
    ("cost_ceiling_usd", .num child.costCeilingUsd.val)]

/-- `_PROPOSAL_KEYS`. -/
def proposalKeys : List Text :=
  ["schema_version", "parent_plan_digest", "source_candidate_digest", "children"].map name

/-- `_CHILD_KEYS`. -/
def childKeys : List Text :=
  ["child_id", "task_digest", "role_template_digest", "context_capsule_ids",
    "required_capabilities", "cost_ceiling_usd"].map name

/-- The construction of a child from the fields of an object. -/
def childRequest (fields : List (Text × Document)) : Except MacrError CoordinatorChildRequest := do
  let contexts ← tuple (field fields "context_capsule_ids")
  let capabilities ← tuple (field fields "required_capabilities")
  let childId ← identifier "child_id" (field fields "child_id")
  let taskDigest ← digest "task_digest" (field fields "task_digest")
  let roleTemplateDigest ← digest "role_template_digest" (field fields "role_template_digest")
  let contextCapsuleIds ← textSet digest "context_capsule_ids" contexts
  let requiredCapabilities ← textSet identifier "required_capabilities" capabilities
  let costCeilingUsd ← cost "cost_ceiling_usd" (field fields "cost_ceiling_usd")
  return ⟨childId, taskDigest, roleTemplateDigest, contextCapsuleIds, requiredCapabilities,
    costCeilingUsd⟩

/-- One child of the loop of `from_dict`. -/
def child : Document → Except MacrError CoordinatorChildRequest
  | .object fields => childRequest fields
  | _ => .error (.valueError "coordinator proposal child must be an object")

/-- The unknown keys of a child. -/
def rejectedOf (index : Nat) : Document → List Text
  | .object fields => ((fields.map (·.1)).filter (· ∉ childKeys)).map
      (fun key => name "children[" ++ name (toString index) ++ name "]." ++ key)
  | _ => []

/-- `CoordinatorProposal`. -/
structure CoordinatorProposal where
  /-- `schema_version`, as it was given. -/
  schemaVersion : Json
  /-- `parent_plan_digest`. -/
  parentPlanDigest : Sha256Text
  /-- `source_candidate_digest`. -/
  sourceCandidateDigest : Sha256Text
  /-- `children`. -/
  children : List CoordinatorChildRequest
  /-- `rejected_fields`. -/
  rejectedFields : List String
  /-- There is a child. -/
  inhabited : children ≠ []
  /-- The children are in the order of their ids, which are distinct. -/
  ordered : children.Pairwise (·.childId.val < ·.childId.val)

/-- `CoordinatorProposal.to_dict`. -/
def CoordinatorProposal.toDict (proposal : CoordinatorProposal) : Json :=
  .obj [("schema_version", proposal.schemaVersion),
    ("parent_plan_digest", .str proposal.parentPlanDigest.val),
    ("source_candidate_digest", .str proposal.sourceCandidateDigest.val),
    ("children", .arr (proposal.children.map (·.toDict))),
    ("rejected_fields", .arr (proposal.rejectedFields.map .str))]

/-- A number that a float rounds to one. -/
def roundsToOne (number : ℚ) : Bool := 1 - 1 / 2 ^ 54 ≤ number && number ≤ 1 + 1 / 2 ^ 53

/-- The values that are equal to one: the integer, a float and `True`. -/
def schemaOne : Option Document → Option Json
  | some (.number number) =>
    if number.isInteger then if number.exact = 1 then some (.int 1) else none
    else if roundsToOne number.exact then some (.num 1) else none
  | some (.bool true) => some (.bool true)
  | _ => none

/-- `CoordinatorProposal.__post_init__`. -/
def CoordinatorProposal.make (schemaVersion parentPlanDigest sourceCandidateDigest :
    Option Document) (children : List CoordinatorChildRequest) (rejected : List Text) :
    Except MacrError CoordinatorProposal := do
  let schemaVersion ← require (schemaOne schemaVersion)
    (.valueError "coordinator proposal schema_version must be 1")
  let parentPlanDigest ← digest "parent_plan_digest" parentPlanDigest
  let sourceCandidateDigest ← digest "source_candidate_digest" sourceCandidateDigest
  if inhabited : children = [] then
    .error (.valueError "coordinator proposal children must contain child requests")
  else if distinct : (children.map (·.childId.val)).Nodup then do
    let rejectedFields ← fieldPaths rejected
    return {
      schemaVersion := schemaVersion
      parentPlanDigest := parentPlanDigest
      sourceCandidateDigest := sourceCandidateDigest
      children := sortOn (·.childId.val) children
      rejectedFields := rejectedFields
      inhabited := by
        rw [ne_eq, ← List.length_eq_zero_iff, length_sortOn, List.length_eq_zero_iff]
        exact inhabited
      ordered := sortOn_strict distinct }
  else .error (.valueError "coordinator proposal contains duplicate child_id")

/-- `CoordinatorProposal.from_dict`. -/
def fromDict : Document → Except MacrError CoordinatorProposal
  | .object members =>
    match field members "children" with
    | some (.array (first :: rest)) => do
      let children ← (first :: rest).mapM child
      CoordinatorProposal.make (field members "schema_version")
        (field members "parent_plan_digest") (field members "source_candidate_digest") children
        ((members.map (·.1)).filter (· ∉ proposalKeys) ++
          (first :: rest).zipIdx.flatMap (fun item => rejectedOf item.2 item.1))
    | _ => .error (.valueError "coordinator proposal children must be a non-empty array")
  | _ => .error (.valueError "coordinator proposal must be an object")

/-- What `json.loads` makes of a reading; an integer of too many digits is a `ValueError`. -/
def readingError : ReadError → MacrError
  | .duplicateKey => .valueError "coordinator proposal JSON has duplicate keys"
  | .malformed => .valueError "coordinator proposal JSON is invalid"
  | .overlong => .valueError "Exceeds the limit for integer string conversion"
  | .tooDeep => .other "RecursionError"

/-- `CoordinatorProposal.from_json` of bytes. -/
def fromJson (maxDigits nesting : Nat) (raw : List UInt8) :
    Except MacrError CoordinatorProposal := do
  raiseIf (1024 * 1024 < raw.length) (.valueError "coordinator proposal JSON exceeds 1 MiB")
  let text ← require (decodeUtf8 raw) (.valueError "coordinator proposal JSON must be UTF-8")
  let decoded ← (loads maxDigits nesting text).mapError readingError
  fromDict decoded

end Macr.Coordinator
