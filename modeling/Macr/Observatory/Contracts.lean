import Macr.Planning.Planner
import Macr.Runtime.EventPayload

/-!
# Observatory payloads and records

A payload is a JSON object that names no raw content and is at most 64 KiB in its canonical form.
It is stored with its fields in order, so two payloads that differ in the order of their fields
are one. Every text of a payload that a caller supplies is a plain text, a digest's included;
`repr` of a float is a parameter. Records are stored under the digest of their other columns.
-/

namespace Macr

open Lib

/-- Different documents have different identifiers. -/
def Sha256.Distinguishes (sha : Sha256) : Prop :=
  ∀ space, Function.Injective (sha.sha256Id space)

namespace Observatory

/-- `_MAX_CANONICAL_BYTES`. -/
def maxCanonicalBytes : Nat := 64 * 1024

/-- `_RAW_CONTENT_KEYS`. -/
def rawContentKeys : List String :=
  ["answer", "api_key", "authorization", "content", "description", "local_path", "path", "prompt",
    "raw_body", "raw_bytes", "raw_response", "remote_body", "source_path"]

/-- `_RAW_CONTENT_KEY_SUFFIXES`. -/
def rawContentKeySuffixes : List String := ["_body", "_content", "_path", "_paths"]

/-! ## Raw content -/

/-- `str.lower` of one character, with the one letter outside ASCII that becomes an ASCII letter
alone. -/
def lowerChar (c : Char) : Char := if c = '\u212a' then 'k' else c.toLower

/-- A key as it is compared with the keys of raw content. -/
def normalizedKey (key : String) : List Char :=
  (separateWords none (strip key).toList).map (fun c => if c = '-' then '_' else lowerChar c)

/-- The key names raw content. -/
def isRawContentKey (key : String) : Bool :=
  (rawContentKeys.map String.toList).contains (normalizedKey key) ||
    rawContentKeySuffixes.any (fun suffix => suffix.toList.isSuffixOf (normalizedKey key))

mutual

/-- `_validate_no_raw_content`. -/
def validateNoRawContent : Json → Except MacrError Unit
  | .obj fields => validateNoRawFields fields
  | .arr items => validateNoRawItems items
  | .null | .bool _ | .int _ | .num _ | .str _ | .hex _ | .time _ => .ok ()

/-- `_validate_no_raw_content` of the items of an array. -/
def validateNoRawItems : List Json → Except MacrError Unit
  | [] => .ok ()
  | item :: rest => do
    validateNoRawContent item
    validateNoRawItems rest

/-- `_validate_no_raw_content` of the fields of an object. -/
def validateNoRawFields : List (String × Json) → Except MacrError Unit
  | [] => .ok ()
  | (key, value) :: rest => do
    raiseIf (isRawContentKey key)
      (.valueError s!"canonical payload contains raw content key: {key}")
    validateNoRawContent value
    validateNoRawFields rest

end

/-! ## Canonical form -/

/-- How many bytes a character takes in a JSON text. -/
def charBytes (c : Char) : Nat :=
  if c = '"' || c = '\\' || c = '\n' || c = '\r' || c = '\t' || c.toNat = 8 || c.toNat = 12 then 2
  else if c.toNat < 32 then 6 else c.utf8Size

/-- How many bytes a text takes, with its quotes. -/
def textBytes (text : String) : Nat := (text.toList.map charBytes).sum + 2

/-- How many bytes an integer takes. -/
def intBytes (value : Int) : Nat :=
  (if value < 0 then 1 else 0) + (Nat.toDigits 10 value.natAbs).length

/-- How many bytes a timestamp takes: a whole second has no fraction. -/
def timeBytes (value : Timestamp) : Nat := if value % 1000000 = 0 then 27 else 34

mutual

/-- The length of `canonical_json_bytes`, which the order of the fields does not change. -/
def byteLength (floatRepr : ℚ → String) : Json → Nat
  | .null => 4
  | .bool value => if value then 4 else 5
  | .int value => intBytes value
  | .num value => (floatRepr value).length
  | .str value => textBytes value
  | .hex _ => 66
  | .time value => timeBytes value
  | .arr items => max 2 (1 + itemBytes floatRepr items)
  | .obj fields => max 2 (1 + fieldBytes floatRepr fields)

/-- The items of an array, each with the comma or the bracket behind it. -/
def itemBytes (floatRepr : ℚ → String) : List Json → Nat
  | [] => 0
  | item :: rest => byteLength floatRepr item + 1 + itemBytes floatRepr rest

/-- The fields of an object, each with its key, a colon and the comma or the brace behind it. -/
def fieldBytes (floatRepr : ℚ → String) : List (String × Json) → Nat
  | [] => 0
  | (key, value) :: rest =>
    textBytes key + 1 + byteLength floatRepr value + 1 + fieldBytes floatRepr rest

end

mutual

/-- A document with the fields of every object in order. -/
def canonical : Json → Json
  | .obj fields => .obj (sortOn (·.1) (canonicalFields fields))
  | .arr items => .arr (canonicalItems items)
  | .null => .null
  | .bool value => .bool value
  | .int value => .int value
  | .num value => .num value
  | .str value => .str value
  | .hex value => .hex value
  | .time value => .time value

/-- The items of an array, each in order. -/
def canonicalItems : List Json → List Json
  | [] => []
  | item :: rest => canonical item :: canonicalItems rest

/-- The values of the fields, each in order. -/
def canonicalFields : List (String × Json) → List (String × Json)
  | [] => []
  | (key, value) :: rest => (key, canonical value) :: canonicalFields rest

end

/-- `_canonical_payload`. -/
def canonicalPayload (floatRepr : ℚ → String) (value : Json) : Except MacrError Json :=
  match value with
  | .obj fields => do
    validateNoRawContent (.obj fields)
    raiseIf ((Json.obj fields).writable = false) (.valueError "canonical data must be finite JSON")
    raiseIf (maxCanonicalBytes < byteLength floatRepr (.obj fields))
      (.valueError "canonical payload exceeds 64 KiB")
    return canonical (.obj fields)
  | .null | .bool _ | .int _ | .num _ | .str _ | .hex _ | .time _ | .arr _ =>
    .error (.valueError "payload must be a JSON object")

end Observatory

/-! ## Identities -/

/-- The form of `_text`: trimmed, not empty and bounded in its bytes. -/
def isTrimmedText (maximum : Nat) (text : String) : Bool :=
  text ≠ "" && strip text = text && text.utf8ByteSize ≤ maximum

/-- `ModelSubject`. -/
structure ModelSubject where
  /-- Who makes the model. -/
  vendor : String
  /-- What its maker calls it. -/
  vendorModelId : String
  /-- Which revision it is. -/
  concreteRevision : Option String
  /-- Whether the model is known. -/
  identityStatus : IdentityStatus
  /-- Where it was first seen. -/
  firstSeenSnapshotId : Digest
  /-- The vendor is a bounded identifier. -/
  vendor_valid : isIdentifier vendor
  /-- The name is a bounded text. -/
  model_valid : isTrimmedText 512 vendorModelId
  /-- So is the revision. -/
  revision_valid : ∀ revision ∈ concreteRevision, isTrimmedText 512 revision

namespace ModelSubject

/-- The fields of `ModelSubject.canonical_identity`. -/
def identityFields (subject : ModelSubject) : List (String × Json) :=
  [("vendor", .str subject.vendor), ("vendor_model_id", .str subject.vendorModelId),
    ("concrete_revision", .optStr subject.concreteRevision)]

/-- `ModelSubject.subject_id`, which the constructor compares with the identity. -/
def subjectId (sha : Sha256) (subject : ModelSubject) : Digest :=
  sha.sha256Id "model_subject_v1" (.obj subject.identityFields)

end ModelSubject

/-- `ExecutionRouteIdentity`. -/
structure ExecutionRouteIdentity where
  /-- The model. -/
  modelSubjectId : Digest
  /-- Who offers it. -/
  providerId : String
  /-- Where it is called. -/
  endpointIdentity : String
  /-- What the provider calls it. -/
  providerModelId : String
  /-- The parameters it is called with. -/
  parameterProfileDigest : Digest
  /-- How its prompts are compiled. -/
  promptCompilerVersion : String
  /-- How data may be used. -/
  dataPolicySnapshotId : Digest
  /-- The names are bounded identifiers. -/
  identifiers : isIdentifier providerId ∧ isIdentifier promptCompilerVersion
  /-- The texts are bounded. -/
  texts_valid : isTrimmedText 2048 endpointIdentity ∧ isTrimmedText 512 providerModelId

namespace ExecutionRouteIdentity

/-- `ExecutionRouteIdentity.canonical_identity`. -/
def canonicalIdentity (route : ExecutionRouteIdentity) : Json :=
  .obj [("model_subject_id", .hex route.modelSubjectId), ("provider_id", .str route.providerId),
    ("endpoint_identity", .str route.endpointIdentity),
    ("provider_model_id", .str route.providerModelId),
    ("parameter_profile_digest", .hex route.parameterProfileDigest),
    ("prompt_compiler_version", .str route.promptCompilerVersion),
    ("data_policy_snapshot_id", .hex route.dataPolicySnapshotId)]

/-- `ExecutionRouteIdentity.route_id`, which the constructor compares with the identity. -/
def routeId (sha : Sha256) (route : ExecutionRouteIdentity) : Digest :=
  sha.sha256Id "execution_route_v1" route.canonicalIdentity

end ExecutionRouteIdentity

/-! ## Records -/

/-- The columns a snapshot is identified by. -/
structure SnapshotIdentity where
  /-- What was read. -/
  sourceId : String
  /-- When it was read. -/
  observedAt : Timestamp
  /-- The shape of the request. -/
  requestShapeSha256 : Digest
  /-- The bytes that came. -/
  rawBytesSha256 : Digest
  /-- What parses them. -/
  parserVersion : String
deriving DecidableEq

/-- The identity of a snapshot. -/
def SnapshotIdentity.toDict (identity : SnapshotIdentity) : Json :=
  .obj [("source_id", .str identity.sourceId), ("observed_at", .time identity.observedAt),
    ("request_shape_sha256", .hex identity.requestShapeSha256),
    ("raw_bytes_sha256", .hex identity.rawBytesSha256),
    ("parser_version", .str identity.parserVersion)]

/-- `SnapshotRecord`. The name of its private file is its identifier. -/
structure SnapshotRecord extends SnapshotIdentity where
  /-- Its identifier. -/
  snapshotId : Digest
  /-- The bytes after normalisation. -/
  normalizedBytesSha256 : Option Digest
deriving DecidableEq

/-- `ModelSubjectRecord`. -/
structure ModelSubjectRecord where
  /-- The model. -/
  subjectId : Digest
  /-- Its identity and identity status. -/
  canonicalJson : Json
  /-- Where it was first seen. -/
  firstSeenSnapshotId : Digest
deriving DecidableEq

/-- `ExecutionRouteRecord`. -/
structure ExecutionRouteRecord where
  /-- The route. -/
  routeId : Digest
  /-- The model. -/
  modelSubjectId : Digest
  /-- The identity of the route. -/
  canonicalJson : Json
deriving DecidableEq

/-- The columns an observation is identified by. -/
structure ObservationIdentity where
  /-- The model. -/
  subjectId : Digest
  /-- The route it was made on. -/
  routeId : Option Digest
  /-- The snapshot it was read from. -/
  snapshotId : Digest
  /-- What was observed. -/
  kind : String
  /-- The payload. -/
  canonicalJson : Json
  /-- When. -/
  observedAt : Timestamp
deriving DecidableEq

/-- The identity of an observation. -/
def ObservationIdentity.toDict (identity : ObservationIdentity) : Json :=
  .obj [("subject_id", .hex identity.subjectId), ("route_id", .optHex identity.routeId),
    ("snapshot_id", .hex identity.snapshotId), ("kind", .str identity.kind),
    ("canonical_json", identity.canonicalJson), ("observed_at", .time identity.observedAt)]

/-- `ObservationRecord`. -/
structure ObservationRecord extends ObservationIdentity where
  /-- Its identifier. -/
  observationId : Digest
deriving DecidableEq

/-- The columns an evidence item is identified by. -/
structure EvidenceIdentity where
  /-- What it is evidence for. -/
  qualificationKey : Digest
  /-- What kind of evidence it is. -/
  kind : String
  /-- The model. -/
  subjectDigest : Digest
  /-- The payload. -/
  canonicalJson : Json
  /-- When it was observed. -/
  observedAt : Timestamp
deriving DecidableEq

/-- The identity of an evidence item. -/
def EvidenceIdentity.toDict (identity : EvidenceIdentity) : Json :=
  .obj [("qualification_key", .hex identity.qualificationKey), ("kind", .str identity.kind),
    ("subject_digest", .hex identity.subjectDigest), ("canonical_json", identity.canonicalJson),
    ("observed_at", .time identity.observedAt)]

/-- `EvidenceRecord`. -/
structure EvidenceRecord extends EvidenceIdentity where
  /-- Its identifier. -/
  evidenceId : Digest
deriving DecidableEq

/-- The columns a decision is identified by. -/
structure DecisionIdentity where
  /-- What was decided on. -/
  qualificationKey : Digest
  /-- What was decided. -/
  state : String
  /-- The evidence. -/
  evidenceSetDigest : Digest
  /-- The payload. -/
  canonicalJson : Json
  /-- When. -/
  decidedAt : Timestamp
deriving DecidableEq

/-- The identity of a decision. -/
def DecisionIdentity.toDict (identity : DecisionIdentity) : Json :=
  .obj [("qualification_key", .hex identity.qualificationKey), ("state", .str identity.state),
    ("evidence_set_digest", .hex identity.evidenceSetDigest),
    ("canonical_json", identity.canonicalJson), ("decided_at", .time identity.decidedAt)]

/-- `QualificationDecisionRecord`. -/
structure QualificationDecisionRecord extends DecisionIdentity where
  /-- Its identifier. -/
  decisionId : Digest
deriving DecidableEq

/-- The columns an invalidation is identified by. -/
structure InvalidationIdentity where
  /-- What is no longer valid. -/
  qualificationKey : Digest
  /-- Why. -/
  reasonCode : String
  /-- Who found out. -/
  sourceId : String
  /-- When. -/
  invalidatedAt : Timestamp
deriving DecidableEq

/-- The identity of an invalidation. -/
def InvalidationIdentity.toDict (identity : InvalidationIdentity) : Json :=
  .obj [("qualification_key", .hex identity.qualificationKey),
    ("reason_code", .str identity.reasonCode), ("source_id", .str identity.sourceId),
    ("invalidated_at", .time identity.invalidatedAt)]

/-- `QualificationInvalidationRecord`. -/
structure QualificationInvalidationRecord extends InvalidationIdentity where
  /-- Its identifier. -/
  invalidationId : Digest
deriving DecidableEq

/-- `CoordinationPlanRecord`. -/
structure CoordinationPlanRecord where
  /-- The digest of the plan. -/
  planDigest : Digest
  /-- The identifier of the plan. -/
  planId : Uuid
  /-- How often it was revised. -/
  planRevision : Nat
  /-- When it was planned. -/
  plannedAt : Timestamp
  /-- The plan. -/
  canonicalJson : Json
  /-- When it was stored. -/
  persistedAt : Timestamp
deriving DecidableEq

/-- The columns a comparison is identified by. -/
structure ComparisonIdentity where
  /-- The plan. -/
  planDigest : Digest
  /-- The route in use. -/
  baselineRouteId : Digest
  /-- The route the plan proposes. -/
  proposedRouteId : Digest
  /-- The payload. -/
  canonicalJson : Json
  /-- When. -/
  observedAt : Timestamp
deriving DecidableEq

/-- The identity of a comparison. -/
def ComparisonIdentity.toDict (identity : ComparisonIdentity) : Json :=
  .obj [("plan_digest", .hex identity.planDigest),
    ("baseline_route_id", .hex identity.baselineRouteId),
    ("proposed_route_id", .hex identity.proposedRouteId),
    ("canonical_json", identity.canonicalJson), ("observed_at", .time identity.observedAt)]

/-- `ShadowComparisonRecord`. -/
structure ShadowComparisonRecord extends ComparisonIdentity where
  /-- Its identifier. -/
  comparisonId : Digest
deriving DecidableEq

/-! ## Identities tell records apart -/

theorem DecisionIdentity.toDict_injective : Function.Injective DecisionIdentity.toDict := by
  rintro ⟨⟩ ⟨⟩ same
  simpa [toDict] using same

end Macr
