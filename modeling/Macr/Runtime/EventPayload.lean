import Macr.Canonical
import Macr.Errors
import Macr.Lib.Sorting
import Macr.Lib.Text
import Mathlib.Data.String.Basic

/-!
# Event payloads

What the event log admits as a payload. An operational event has a fixed set of fields, each of a
kind; on top of that no payload may carry a forbidden key or a text that looks like a local path.
Paths are read as CPython 3.12 reads them; a text is a sequence of Unicode scalar values.
-/

namespace Macr

open Lib

/-! ## Local paths -/

/-- A slash of either kind. -/
def isSlash (c : Char) : Bool := c = '/' || c = '\\'

/-- `PureWindowsPath(text).drive` is not empty: a share, or a drive of one character. -/
def hasDrive : List Char → Bool
  | first :: second :: _ => (isSlash first && isSlash second) || (!isSlash first && second = ':')
  | _ => false

/-- `[a-z]` under `(?i)`, with the four letters outside ASCII that the flag adds. -/
def isFoldedLetter (c : Char) : Bool :=
  c.isAlpha || c.toNat = 0x130 || c.toNat = 0x131 || c.toNat = 0x17F || c.toNat = 0x212A

/-- `\\\\[^\\/\s]+[\\/]` after its two backslashes. -/
def isShareName (text : List Char) : Bool :=
  match text.dropWhile (fun c => !isSlash c && !isSpace c) with
  | next :: _ => isSlash next && !(text.head?.any (fun c => isSlash c || isSpace c))
  | [] => false

/-- The alternatives of `_LOCAL_PATH_MARKER`, at the start of a text. -/
def markerHere : List Char → Bool
  | first :: ':' :: third :: _ => isFoldedLetter first && isSlash third
  | '\\' :: '\\' :: rest => isShareName rest
  | _ => false

/-- `_LOCAL_PATH_MARKER` matches somewhere behind a character. -/
def markerBehind (before : Option Char) : List Char → Bool
  | [] => false
  | first :: rest =>
    (!before.any (fun c => isFoldedLetter c || c.isDigit) && markerHere (first :: rest)) ||
      markerBehind (some first) rest

/-- `_contains_local_path`. -/
def containsLocalPath (text : String) : Bool :=
  hasDrive (strip text).toList || markerBehind none text.toList

/-! ## Keys -/

/-- The key with an underscore before each capital that starts a word. -/
def separateWords (before : Option Char) : List Char → List Char
  | [] => []
  | first :: rest =>
    let startsWord := first.isUpper &&
      (before.any (fun c => c.isLower || c.isDigit) ||
        (before.any Char.isUpper && rest.head?.any Char.isLower))
    (if startsWord then ['_', first] else [first]) ++ separateWords (some first) rest

/-- `_normalize_payload_key`. -/
def normalizePayloadKey (key : String) : String :=
  String.ofList ((separateWords none (strip key).toList).map
    (fun c => if c = '-' then '_' else c.toLower))

/-- `_FORBIDDEN_PAYLOAD_KEYS`. -/
def forbiddenPayloadKeys : List String :=
  ["answer", "api_key", "authorization", "authorization_header", "bearer_token", "body", "content",
    "credential", "path", "paths", "private_key", "prompt", "raw_response"]

/-- `_FORBIDDEN_PAYLOAD_KEY_SUFFIXES`. -/
def forbiddenPayloadKeySuffixes : List String := ["_body", "_content", "_path", "_paths"]

/-- A key that no payload may have. -/
def isForbiddenKey (key : String) : Bool :=
  let normalized := normalizePayloadKey key
  normalized ∈ forbiddenPayloadKeys ||
    forbiddenPayloadKeySuffixes.any (fun suffix => suffix.toList.isSuffixOf normalized.toList)

/-! ## Payloads -/

mutual

/-- `_validate_payload`. -/
def validatePayload : Json → Except MacrError Unit
  | .obj fields => validateFields fields
  | .arr items => validateItems items
  | .str text =>
    raiseIf (containsLocalPath text = true) (.valueError "event payload contains a path-like value")
  | .null | .bool _ | .int _ | .num _ | .hex _ | .time _ => .ok ()

/-- `_validate_payload` of a sequence. -/
def validateItems : List Json → Except MacrError Unit
  | [] => .ok ()
  | item :: rest => do
    validatePayload item
    validateItems rest

/-- `_validate_payload` of a mapping. -/
def validateFields : List (String × Json) → Except MacrError Unit
  | [] => .ok ()
  | (key, child) :: rest => do
    raiseIf (isForbiddenKey key = true) (.valueError s!"forbidden payload key: {key}")
    validatePayload child
    validateFields rest

end

/-- The digits that `int.__repr__` writes at most, `sys.int_info.default_max_str_digits`. -/
def maxStrDigits : Nat := 4300

mutual

/-- No integer of the document is too long to be written. -/
def Json.writable : Json → Bool
  | .int value => value.natAbs < 10 ^ maxStrDigits
  | .arr items => Json.writableItems items
  | .obj fields => Json.writableFields fields
  | .null | .bool _ | .num _ | .str _ | .hex _ | .time _ => true

/-- No integer of an array is too long. -/
def Json.writableItems : List Json → Bool
  | [] => true
  | item :: rest => item.writable && Json.writableItems rest

/-- No integer of an object is too long. -/
def Json.writableFields : List (String × Json) → Bool
  | [] => true
  | (_, child) :: rest => child.writable && Json.writableFields rest

end

/-- The fields of a payload, in the order of its keyword arguments. -/
abbrev Payload := List (String × Json)

/-- `_canonical_json`. -/
def canonicalPayload (payload : Payload) : Except MacrError Json := do
  validatePayload (.obj payload)
  raiseIf ((Json.obj payload).writable = false)
    (.valueError "event payload must be canonical JSON data")
  pure (.obj payload)

/-! ## Operational payloads -/

/-- The kinds of `_matches_field_kind`. -/
inductive FieldKind where
  | text
  | optionalText
  | integer
  | optionalInteger
  | optionalNumber
  | boolean
  | optionalBoolean
  | optionalCapture
deriving DecidableEq

/-- `_field_kind_description`. -/
def FieldKind.description : FieldKind → String
  | .text => "a non-empty string"
  | .optionalText => "a non-empty string or null"
  | .integer => "a non-negative integer"
  | .optionalInteger => "a non-negative integer or null"
  | .optionalNumber => "a finite non-negative number or null"
  | .boolean => "a boolean"
  | .optionalBoolean => "a boolean or null"
  | .optionalCapture => "an object or null"

/-- A text that is not blank; hexadecimal texts and timestamps never are. -/
def Json.isText : Json → Bool
  | .str text => strip text ≠ ""
  | .hex _ | .time _ => true
  | _ => false

/-- An integer that is not negative. -/
def Json.isCount : Json → Bool
  | .int value => 0 ≤ value
  | _ => false

/-- `_matches_field_kind`. -/
def matchesFieldKind (value : Json) : FieldKind → Bool
  | .text => value.isText
  | .optionalText => value = .null || value.isText
  | .integer => value.isCount
  | .optionalInteger => value = .null || value.isCount
  | .optionalNumber =>
    match value with
    | .null => true
    | .int amount => 0 ≤ amount
    | .num amount => 0 ≤ amount
    | _ => false
  | .boolean => match value with
    | .bool _ => true
    | _ => false
  | .optionalBoolean => match value with
    | .null | .bool _ => true
    | _ => false
  | .optionalCapture => match value with
    | .null | .obj _ => true
    | _ => false

/-- The event types with fixed fields. -/
inductive OperationalEvent where
  | dispatchRequested
  | candidateCompleted
deriving DecidableEq, Repr

namespace OperationalEvent

/-- The stored text of an event type. -/
def value : OperationalEvent → String
  | .dispatchRequested => "provider.dispatch_requested"
  | .candidateCompleted => "provider.candidate_completed"

/-- `_OPERATIONAL_FIELD_KINDS`, whose keys are also `_OPERATIONAL_PAYLOAD_KEYS`. -/
def fieldKinds : OperationalEvent → List (String × FieldKind)
  | .dispatchRequested =>
    [("dispatch_contract_version", .integer), ("provider_id", .text), ("task_id", .text),
      ("task_type", .text), ("interaction_plane", .text), ("origin_host", .text),
      ("origin_identifier_kind", .text), ("origin_native_id", .text),
      ("authority_source_kind", .text), ("authority_source_id", .text),
      ("authority_digest", .text), ("authority_revision", .integer), ("authority_epoch", .integer),
      ("authority_scope_sha256", .text), ("policy_snapshot_sha256", .text),
      ("model_token_policy_digest", .optionalText),
      ("provider_tier_binding_digest", .optionalText),
      ("project_binding_digest", .optionalText), ("admission_lane", .optionalText),
      ("provider_admission_policy_digest", .optionalText), ("batch_id", .optionalText),
      ("member_digest", .optionalText), ("relay_is_authorship", .boolean),
      ("fencing_token", .integer), ("plan_digest", .optionalText),
      ("plan_revision", .optionalInteger), ("role_slot_id", .optionalText),
      ("route_id", .optionalText)]
  | .candidateCompleted =>
    [("terminal_contract_version", .integer), ("provider_id", .text), ("task_id", .text),
      ("dispatch_event_id", .text), ("status", .text), ("model", .optionalText),
      ("response_id", .optionalText), ("finish_reason", .optionalText), ("provider_state", .text),
      ("input_tokens", .optionalInteger), ("output_tokens", .optionalInteger),
      ("reasoning_tokens", .optionalInteger), ("cached_tokens", .optionalInteger),
      ("currency_cost_usd", .optionalNumber), ("cost_kind", .optionalText),
      ("pricing_basis_version", .optionalText), ("duration_ms", .optionalInteger),
      ("network_attempted", .optionalBoolean), ("response_received", .optionalBoolean),
      ("provider_http_status", .optionalInteger), ("provider_error_code", .optionalText),
      ("transport_stage", .optionalText), ("input_media_count", .optionalInteger),
      ("input_media_bytes", .optionalInteger), ("output_artifact_count", .optionalInteger),
      ("output_artifact_bytes", .optionalInteger), ("billing_state", .text),
      ("capture_state", .text), ("candidate_capture", .optionalCapture),
      ("return_contract_state", .text), ("return_contract_reason", .optionalText),
      ("failure_type", .optionalText), ("failure_stage", .optionalText),
      ("authority_digest", .text), ("authority_revision", .integer), ("authority_epoch", .integer),
      ("plan_digest", .optionalText), ("plan_revision", .optionalInteger),
      ("role_slot_id", .optionalText), ("route_id", .optionalText),
      ("provider_tier_binding_digest", .optionalText),
      ("project_binding_digest", .optionalText), ("admission_lane", .optionalText),
      ("provider_admission_policy_digest", .optionalText)]

/-- `_OPERATIONAL_REQUIRED_KEYS`. -/
def requiredKeys : OperationalEvent → List String
  | .dispatchRequested => ["provider_id"]
  | .candidateCompleted => ["status"]

end OperationalEvent

/-- `_CANDIDATE_CAPTURE_FIELD_KINDS`, whose keys are also `_CANDIDATE_CAPTURE_KEYS`. -/
def candidateCaptureFieldKinds : List (String × FieldKind) :=
  [("capture_id", .text), ("run_id", .text), ("provider_id", .text), ("answer_sha256", .text),
    ("answer_bytes", .integer), ("task_digest", .text), ("approval_digest", .optionalText),
    ("captured_at", .text)]

/-- The kind a table gives a key. -/
def kindOf? (kinds : List (String × FieldKind)) (key : String) : Option FieldKind :=
  (kinds.find? (fun entry => entry.1 = key)).map (·.2)

/-- The first of the keys, in the order of texts, that are not among others. -/
def firstMissing (keys others : List String) : Option String :=
  (sortOn (fun key => key) (keys.filter (fun key => key ∉ others))).head?

/-- An error for the first missing key, if there is one. -/
def raiseMissing (keys others : List String) (message : String → String) :
    Except MacrError Unit :=
  match firstMissing keys others with
  | some key => .error (.valueError (message key))
  | none => .ok ()

/-- The fields match their kinds. -/
def checkKinds (kinds : List (String × FieldKind)) (owner : String) :
    Payload → Except MacrError Unit
  | [] => .ok ()
  | (key, value) :: rest => do
    let kind ← require (kindOf? kinds key) (.other "KeyError")
    raiseIf (matchesFieldKind value kind = false)
      (.valueError s!"{owner}{key} must be {kind.description}")
    checkKinds kinds owner rest

/-- The fields of a candidate capture are its own, all of them and of their kinds. -/
def checkCapture : Option Json → Except MacrError Unit
  | some (.obj capture) => do
    let keys := capture.map (·.1)
    let known := candidateCaptureFieldKinds.map (·.1)
    raiseMissing keys known (fun key => s!"candidate capture payload key is not allowed: {key}")
    raiseMissing known keys
      (fun key => s!"candidate capture payload is missing required key: {key}")
    checkKinds candidateCaptureFieldKinds "candidate_capture." capture
  | _ => .ok ()

/-- `_validate_operational_payload`. -/
def validateOperationalPayload (event : OperationalEvent) (payload : Payload) :
    Except MacrError Unit := do
  let keys := payload.map (·.1)
  raiseMissing keys (event.fieldKinds.map (·.1))
    (fun key => s!"event payload key is not allowed for {event.value}: {key}")
  raiseMissing event.requiredKeys keys
    (fun key => s!"event payload is missing required key for {event.value}: {key}")
  checkKinds event.fieldKinds "" payload
  match event with
  | .candidateCompleted =>
    checkCapture ((payload.find? (fun field => field.1 = "candidate_capture")).map (·.2))
  | .dispatchRequested => pure ()
  validatePayload (.obj payload)

/-- `_canonical_operational_json`. -/
def canonicalOperationalJson (event : OperationalEvent) (payload : Payload) :
    Except MacrError Json := do
  validateOperationalPayload event payload
  canonicalPayload payload

/-! ## When a payload passes -/

/-- What is checked of a field of a payload. -/
structure FieldPasses (kinds : List (String × FieldKind)) (field : String × Json) : Prop where
  /-- It is of its kind. -/
  kind : ∃ kind, kindOf? kinds field.1 = some kind ∧ matchesFieldKind field.2 kind = true
  /-- Its key may be stored. -/
  key : isForbiddenKey field.1 = false
  /-- So may its value. -/
  stored : validatePayload field.2 = .ok ()
  /-- Its integers can be written. -/
  written : field.2.writable = true

/-- Nothing is missing where all is there. -/
theorem raiseMissing_eq_ok {keys others : List String} {message : String → String} {done : Unit} :
    raiseMissing keys others message = .ok done ↔ keys ⊆ others := by
  have empty : firstMissing keys others = none ↔ keys ⊆ others := by
    rw [firstMissing, List.head?_eq_none_iff, ← List.length_eq_zero_iff, length_sortOn,
      List.length_eq_zero_iff, List.filter_eq_nil_iff]
    simp [List.subset_def]
  rw [← empty, raiseMissing]
  cases firstMissing keys others <;> simp

/-- Fields match their kinds when each does. -/
theorem checkKinds_eq_ok {kinds : List (String × FieldKind)} {owner : String} {payload : Payload}
    {done : Unit} : checkKinds kinds owner payload = .ok done ↔ ∀ field ∈ payload,
      ∃ kind, kindOf? kinds field.1 = some kind ∧ matchesFieldKind field.2 kind = true := by
  induction payload with
  | nil => simp [checkKinds]
  | cons field rest ih =>
    obtain ⟨key, value⟩ := field
    simp only [checkKinds, bind_eq_ok, require_eq_ok, raiseIf_eq_ok, exists_const, ih,
      List.forall_mem_cons, Bool.not_eq_false]
    constructor
    · rintro ⟨kind, found, matching, later⟩
      exact ⟨⟨kind, found, matching⟩, later⟩
    · rintro ⟨⟨kind, found, matching⟩, later⟩
      exact ⟨kind, found, matching, later⟩

/-- Fields may be stored when each may. -/
theorem validateFields_eq_ok {fields : List (String × Json)} {done : Unit} :
    validateFields fields = .ok done ↔
      ∀ field ∈ fields, isForbiddenKey field.1 = false ∧ validatePayload field.2 = .ok () := by
  induction fields with
  | nil => simp [validateFields]
  | cons field rest ih =>
    obtain ⟨key, value⟩ := field
    simp only [validateFields, bind_eq_ok, raiseIf_eq_ok, exists_const, ih, List.forall_mem_cons,
      Bool.not_eq_true, and_assoc]
    refine and_congr_right fun _ => ⟨?_, fun both => ⟨(), both⟩⟩
    rintro ⟨_, stored, later⟩
    exact ⟨stored, later⟩

/-- Fields can be written when each can. -/
theorem writableFields_iff {fields : List (String × Json)} :
    Json.writableFields fields = true ↔ ∀ field ∈ fields, field.2.writable = true := by
  induction fields with
  | nil => simp [Json.writableFields]
  | cons field rest ih =>
    obtain ⟨key, value⟩ := field
    simp [Json.writableFields, ih]

/-- The capture of a payload, where its event has one. -/
def captureOf (event : OperationalEvent) (payload : Payload) : Option Json :=
  match event with
  | .candidateCompleted =>
    (payload.find? (fun field => field.1 = "candidate_capture")).map (·.2)
  | .dispatchRequested => none

/-- A payload passes when its fields may be stored and can be written. -/
theorem canonicalPayload_eq_ok {payload : Payload} {document : Json} :
    canonicalPayload payload = .ok document ↔
      (∀ field ∈ payload, isForbiddenKey field.1 = false ∧ validatePayload field.2 = .ok ()) ∧
        (∀ field ∈ payload, field.2.writable = true) ∧ .obj payload = document := by
  simp only [canonicalPayload, validatePayload, bind_eq_ok, validateFields_eq_ok, raiseIf_eq_ok,
    exists_const, pure_eq_ok, Bool.not_eq_false]
  rw [Json.writable, writableFields_iff]

/-- An operational payload is valid when its keys are those of its event, its fields are of their
kinds and may be stored, and so is its capture. -/
theorem validateOperationalPayload_eq_ok {event : OperationalEvent} {payload : Payload}
    {done : Unit} : validateOperationalPayload event payload = .ok done ↔
      payload.map (·.1) ⊆ event.fieldKinds.map (·.1) ∧
        event.requiredKeys ⊆ payload.map (·.1) ∧
        (∀ field ∈ payload, ∃ kind,
          kindOf? event.fieldKinds field.1 = some kind ∧ matchesFieldKind field.2 kind = true) ∧
        checkCapture (captureOf event payload) = .ok () ∧
        ∀ field ∈ payload, isForbiddenKey field.1 = false ∧ validatePayload field.2 = .ok () := by
  cases event with
  | dispatchRequested =>
    simp only [validateOperationalPayload, captureOf, checkCapture, validatePayload, bind_eq_ok,
      raiseMissing_eq_ok, checkKinds_eq_ok, validateFields_eq_ok, exists_const, true_and]
  | candidateCompleted =>
    have single : ∀ capture, (∃ done, checkCapture capture = .ok done) ↔
        checkCapture capture = .ok () :=
      fun capture => ⟨fun ⟨_, passed⟩ => passed, fun passed => ⟨(), passed⟩⟩
    simp only [validateOperationalPayload, captureOf, validatePayload, bind_eq_ok,
      raiseMissing_eq_ok, checkKinds_eq_ok, validateFields_eq_ok, exists_const, exists_and_right,
      single]

/-- A payload passes when its keys are those of its event, each of its fields passes and so does
its capture. -/
theorem canonicalOperationalJson_iff {event : OperationalEvent} {payload : Payload} :
    canonicalOperationalJson event payload = .ok (.obj payload) ↔
      payload.map (·.1) ⊆ event.fieldKinds.map (·.1) ∧
        event.requiredKeys ⊆ payload.map (·.1) ∧
        (∀ field ∈ payload, FieldPasses event.fieldKinds field) ∧
        checkCapture (captureOf event payload) = .ok () := by
  rw [canonicalOperationalJson, bind_eq_ok]
  simp only [canonicalPayload_eq_ok, validateOperationalPayload_eq_ok, exists_const, and_true]
  constructor
  · rintro ⟨⟨known, required, kinds, captured, fields⟩, _, written⟩
    exact ⟨known, required, fun field listed => ⟨kinds field listed, (fields field listed).1,
      (fields field listed).2, written field listed⟩, captured⟩
  · rintro ⟨known, required, passes, captured⟩
    have fields : ∀ field ∈ payload, isForbiddenKey field.1 = false ∧
        validatePayload field.2 = .ok () :=
      fun field listed => ⟨(passes field listed).key, (passes field listed).stored⟩
    exact ⟨⟨known, required, fun field listed => (passes field listed).kind, captured, fields⟩,
      fields, fun field listed => (passes field listed).written⟩

end Macr
