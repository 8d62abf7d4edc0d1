import Macr.Runtime.Invoke

/-!
# When the terminal event is admitted

The terminal payload has the keys of its event in their order, so what the event log admits of it
is one condition for each value. Most values pass by their types; the others are the texts that
may look like a local path, the counts that may be too long to write and the failure type that the
provider chose. What the dispatch event carried passes again.
-/

namespace Macr

open Lib

/-! ## Keys -/

/-- The characters of a normalised key. -/
def normalizedChars (key : List Char) : List Char :=
  (separateWords none ((key.dropWhile isSpace).reverse.dropWhile isSpace).reverse).map
    (fun c => if c = '-' then '_' else c.toLower)

/-- A key that no payload may have, by its characters. -/
def isForbiddenChars (key : List Char) : Bool :=
  let normalized := normalizedChars key
  normalized ∈ forbiddenPayloadKeys.map String.toList ||
    (forbiddenPayloadKeySuffixes.map String.toList).any (·.isSuffixOf normalized)

/-- A key is forbidden by its characters. -/
theorem isForbiddenKey_eq (key : String) : isForbiddenKey key = isForbiddenChars key.toList := by
  have normal : normalizePayloadKey key = String.ofList (normalizedChars key.toList) := by
    simp [normalizePayloadKey, normalizedChars, strip]
  have member : String.ofList (normalizedChars key.toList) ∈ forbiddenPayloadKeys ↔
      normalizedChars key.toList ∈ forbiddenPayloadKeys.map String.toList := by
    rw [List.mem_map]
    constructor
    · intro listed
      exact ⟨_, listed, String.toList_ofList⟩
    · rintro ⟨forbidden, listed, same⟩
      rw [← same, String.ofList_toList]
      exact listed
  rw [isForbiddenKey, normal]
  simp only [isForbiddenChars, member, String.toList_ofList, List.any_map, Function.comp_def]

/-- Each entry of a table of kinds may be stored and is found under its key. -/
def TableSound (kinds : List (String × FieldKind)) : Prop :=
  ∀ entry ∈ kinds, isForbiddenChars entry.1.toList = false ∧ kindOf? kinds entry.1 = some entry.2

instance (kinds : List (String × FieldKind)) : Decidable (TableSound kinds) :=
  inferInstanceAs (Decidable (∀ entry ∈ kinds, _ ∧ _))

/-- The tables of the events are sound. -/
theorem tableSound_event (event : OperationalEvent) : TableSound event.fieldKinds := by
  cases event <;> decide +kernel

/-- So is the table of captures. -/
theorem tableSound_capture : TableSound candidateCaptureFieldKinds := by decide +kernel

/-! ## Values -/

/-- A value passes as a field of a kind. -/
def Json.Passes (kind : FieldKind) (value : Json) : Prop :=
  matchesFieldKind value kind = true ∧ validatePayload value = .ok () ∧ value.writable = true

/-- Fields that have the keys of a table pass when each value passes as its kind. -/
theorem fieldsPass_iff {kinds : List (String × FieldKind)} (sound : TableSound kinds)
    {payload : Payload} (keys : payload.map (·.1) = kinds.map (·.1)) :
    (∀ field ∈ payload, FieldPasses kinds field) ↔
      List.Forall₂ (fun field entry => Json.Passes entry.2 field.2) payload kinds := by
  -- The induction is over the part of the table that is still ahead.
  have ahead : ∀ part : List (String × FieldKind), part ⊆ kinds → ∀ payload : Payload,
      payload.map (·.1) = part.map (·.1) → ((∀ field ∈ payload, FieldPasses kinds field) ↔
        List.Forall₂ (fun field entry => Json.Passes entry.2 field.2) payload part) := by
    intro part
    induction part with
    | nil =>
      intro _ payload same
      simp [List.map_eq_nil_iff.mp same]
    | cons entry rest ih =>
      intro subset payload same
      cases payload with
      | nil => simp at same
      | cons field later =>
        simp only [List.map_cons, List.cons.injEq] at same
        have listed := sound entry (subset List.mem_cons_self)
        rw [List.forall_mem_cons, List.forall₂_cons,
          ih (fun _ member => subset (List.mem_cons_of_mem _ member)) later same.2]
        refine and_congr_left fun _ => ⟨fun passes => ?_, fun passes => ?_⟩
        · obtain ⟨kind, found, matching⟩ := passes.kind
          rw [same.1, listed.2, Option.some.injEq] at found
          exact ⟨found ▸ matching, passes.stored, passes.written⟩
        · refine ⟨⟨entry.2, same.1 ▸ listed.2, passes.1⟩, ?_, passes.2.1, passes.2.2⟩
          rw [isForbiddenKey_eq, same.1]
          exact listed.1
  exact ahead kinds (fun _ member => member) payload keys

/-- A text that the event log stores. -/
def Storable (text : String) : Prop := strip text ≠ "" ∧ containsLocalPath text = false

instance (text : String) : Decidable (Storable text) := inferInstanceAs (Decidable (_ ∧ _))

section Values

variable {number : Nat} {integer : Int} {text : String} {flag : Bool}

attribute [local simp] Json.Passes matchesFieldKind Json.isText Json.isCount validatePayload
  Json.writable

@[simp] theorem passes_str : Json.Passes .text (.str text) ↔ Storable text := by
  simp [Storable]

@[simp] theorem passes_hex : Json.Passes .text (.hex number) := by simp

@[simp] theorem passes_time : Json.Passes .text (.time number) := by simp

@[simp] theorem passes_bool : Json.Passes .boolean (.bool flag) := by simp

@[simp] theorem passes_int :
    Json.Passes .integer (.int integer) ↔ 0 ≤ integer ∧ integer.natAbs < 10 ^ maxStrDigits := by
  simp

@[simp] theorem passes_optStr {value : Option String} :
    Json.Passes .optionalText (.optStr value) ↔ ∀ text ∈ value, Storable text := by
  cases value <;> simp [Json.optStr, Storable]

@[simp] theorem passes_optHex {value : Option Nat} :
    Json.Passes .optionalText (.optHex value) := by
  cases value <;> simp [Json.optHex]

@[simp] theorem passes_optNat {value : Option Nat} :
    Json.Passes .optionalInteger (.optNat value) ↔
      ∀ number ∈ value, number < 10 ^ maxStrDigits := by
  cases value <;> simp [Json.optNat]

@[simp] theorem passes_optNum {value : Option ℚ} :
    Json.Passes .optionalNumber (.optNum value) ↔ ∀ amount ∈ value, 0 ≤ amount := by
  cases value <;> simp [Json.optNum]

@[simp] theorem passes_optBool {value : Option Bool} :
    Json.Passes .optionalBoolean (.optBool value) := by
  cases value <;> simp [Json.optBool]

end Values

/-! ## Identifiers -/

/-- No marker stands in a text without a colon and a backslash. -/
theorem markerBehind_eq_false {text : List Char} (plain : ∀ c ∈ text, c ≠ ':' ∧ c ≠ '\\')
    (before : Option Char) : markerBehind before text = false := by
  induction text generalizing before with
  | nil => rfl
  | cons first rest ih =>
    have here : markerHere (first :: rest) = false := by
      have noBackslash := (plain first List.mem_cons_self).2
      unfold markerHere
      split
      · rename_i _ third later same
        injection same with _ same
        have second := plain ':' (same ▸ List.mem_cons_of_mem _ List.mem_cons_self)
        exact absurd rfl second.1
      · rename_i later same
        injection same with same _
        exact absurd same noBackslash
      · rfl
    rw [markerBehind, here, ih (fun c member => plain c (List.mem_cons_of_mem _ member))]
    simp

/-- A stripped text has no characters of its own. -/
theorem mem_of_mem_strip {text : String} {c : Char} (member : c ∈ (strip text).toList) :
    c ∈ text.toList := by
  rw [strip, String.toList_ofList, List.mem_reverse] at member
  have inner := List.dropWhile_subset _ member
  rw [List.mem_reverse] at inner
  exact List.dropWhile_subset _ inner

/-- A text without slashes and colons is no path. -/
theorem containsLocalPath_eq_false {text : String}
    (plain : ∀ c ∈ text.toList, c ≠ ':' ∧ isSlash c = false) : containsLocalPath text = false := by
  have drive : hasDrive (strip text).toList = false := by
    have stripped : ∀ c ∈ (strip text).toList, c ≠ ':' ∧ isSlash c = false :=
      fun c member => plain c (mem_of_mem_strip member)
    unfold hasDrive
    split
    · rename_i first second later same
      have one := stripped first (same ▸ List.mem_cons_self)
      have two := stripped second (same ▸ List.mem_cons_of_mem _ List.mem_cons_self)
      simp [one.2, two.1]
    · rfl
  have marker : markerBehind none text.toList = false := markerBehind_eq_false (fun c member =>
    ⟨(plain c member).1, fun same => by simpa [same, isSlash] using (plain c member).2⟩) none
  rw [containsLocalPath, drive, marker]
  rfl

/-- A letter or digit of ASCII has one of their codes. -/
theorem code_of_isAlphanum {c : Char} (alnum : c.isAlphanum = true) :
    (48 ≤ c.toNat ∧ c.toNat ≤ 57) ∨ (65 ≤ c.toNat ∧ c.toNat ≤ 90) ∨
      (97 ≤ c.toNat ∧ c.toNat ≤ 122) := by
  rcases (Bool.or_eq_true ..).mp alnum with letter | digit
  · rcases (Bool.or_eq_true ..).mp letter with upper | lower
    · exact .inr (.inl (of_decide_eq_true upper))
    · obtain ⟨low, high⟩ := (Bool.and_eq_true ..).mp lower
      exact .inr (.inr ⟨of_decide_eq_true low, of_decide_eq_true high⟩)
  · obtain ⟨low, high⟩ := (Bool.and_eq_true ..).mp digit
    exact .inl ⟨of_decide_eq_true low, of_decide_eq_true high⟩

/-- A character of a name is no colon, no slash and no space. -/
theorem plain_of_isNameCharacter {c : Char} (named : isNameCharacter c = true) :
    c ≠ ':' ∧ isSlash c = false ∧ isSpace c = false := by
  simp only [isNameCharacter, Bool.or_eq_true, decide_eq_true_eq, List.mem_cons, List.not_mem_nil,
    or_false] at named
  rcases named with alnum | rfl | rfl | rfl
  · have code := code_of_isAlphanum alnum
    have apart : ∀ other : Char, other.toNat ∈ [47, 58, 92] → c ≠ other := by
      rintro other listed rfl
      simp only [List.mem_cons, List.not_mem_nil, or_false] at listed
      omega
    refine ⟨apart ':' (by decide), ?_, ?_⟩
    · simp [isSlash, apart '/' (by decide), apart '\\' (by decide)]
    · simp only [isSpace, Bool.or_eq_false_iff, Bool.and_eq_false_iff, decide_eq_false_iff_not]
      omega
  all_goals decide

/-- A name is stored. -/
theorem storable_of_name {text : String} (nonempty : text ≠ "")
    (named : ∀ c ∈ text.toList, isNameCharacter c = true) : Storable text := by
  have plain := fun c member => plain_of_isNameCharacter (named c member)
  refine ⟨?_, containsLocalPath_eq_false fun c member =>
    ⟨(plain c member).1, (plain c member).2.1⟩⟩
  rw [strip_of_no_space fun c member => (plain c member).2.2]
  exact nonempty

/-- A failure identifier is stored. -/
theorem storable_of_isFailureId {text : String} (valid : isFailureId text = true) :
    Storable text := by
  unfold isFailureId at valid
  split at valid
  · cases valid
  · rename_i first rest chars
    simp only [Bool.and_eq_true, List.all_eq_true] at valid
    refine storable_of_name ?_ fun c member => ?_
    · rintro rfl
      simp at chars
    · rw [chars, List.mem_cons] at member
      rcases member with rfl | later
      · simp [isNameCharacter, Char.isAlphanum, valid.1.1]
      · exact valid.1.2 c later

/-! ## What the dispatch carried -/

/-- What both events carry of a call passes. -/
structure CarriedPasses (call : Invocation) (context : RunContext) : Prop where
  /-- The provider is named. -/
  provider : Storable call.providerId
  /-- So is the role slot. -/
  roleSlot : ∀ slot ∈ context.roleSlotId, Storable slot
  /-- The revision can be written. -/
  revision : context.authorization.revision < 10 ^ maxStrDigits
  /-- So can the epoch. -/
  epoch : context.authorization.epoch < 10 ^ maxStrDigits
  /-- And the revision of the plan. -/
  planRevision : ∀ revision ∈ context.planRevision, revision < 10 ^ maxStrDigits

/-- A dispatch event that was stored carried what passes. -/
theorem carriedPasses_of_dispatch {sha : Sha256} {call : Invocation} {context : RunContext}
    {fencingToken : Nat}
    (stored : canonicalOperationalJson .dispatchRequested
      (dispatchPayload sha call context fencingToken) =
        .ok (.obj (dispatchPayload sha call context fencingToken))) :
    CarriedPasses call context := by
  obtain ⟨_, _, fields, _⟩ := canonicalOperationalJson_iff.mp stored
  rw [fieldsPass_iff (tableSound_event _) rfl] at fields
  simp only [dispatchPayload, OperationalEvent.fieldKinds, List.forall₂_cons, passes_str,
    passes_optStr, passes_int, passes_optNat, Int.natAbs_natCast] at fields
  obtain ⟨_, provider, _, _, _, _, _, _, _, _, _, revision, epoch, _, _, _, _, _, _, _, _, _, _, _, _,
    planRevision, roleSlot, _⟩ := fields
  exact ⟨provider, roleSlot, revision.2, epoch.2, planRevision⟩

/-! ## The terminal payload -/

/-- The texts of an observation that the terminal event carries. -/
def ProviderObservation.texts (observation : ProviderObservation) : List String :=
  observation.model.toList ++ observation.responseId.toList ++ observation.finishReason.toList ++
    observation.costKind.toList ++ observation.pricingBasisVersion.toList ++
    observation.providerErrorCode.toList ++ observation.transportStage.toList

/-- The metrics that the terminal event counts. -/
def countedMetrics : List String :=
  ["input_media_count", "input_media_bytes", "output_artifact_count", "output_artifact_bytes"]

/-- A counted metric can be written. -/
def MetricWritable (metrics : Payload) (name : String) : Prop :=
  ∀ value : Int, metrics.get name = some (.int value) → value < 10 ^ maxStrDigits

/-- The reasons of the validations of a return contract. -/
def returnReasons : List String :=
  ["answer_blank", "exact_text_match", "exact_text_mismatch", "plain_source_has_fence_or_prose",
    "plain_source_valid", "json_object_valid", "json_not_object", "json_duplicate_key",
    "json_invalid", "free_text_nonblank"]

/-- The texts that the runtime itself writes into a terminal event are stored. -/
theorem storable_of_constant : ∀ text ∈ returnReasons ++
    ["candidate_success", "candidate_failure", "completed", "incomplete", "malformed",
      "dispatched", "provider_reported", "estimated", "zero_local", "unknown_after_dispatch",
      "captured", "absent", "valid", "invalid", "not_evaluated", "interactive", "routine", "bulk"],
    Storable text := by
  decide +kernel

/-- A counted metric passes when it can be written. -/
theorem passes_safeCount {metrics : Payload} {name : String} :
    Json.Passes .optionalInteger (safeCount metrics name) ↔ MetricWritable metrics name := by
  have nothing : Json.Passes .optionalInteger .null := by
    simp [Json.Passes, matchesFieldKind, validatePayload, Json.writable]
  unfold MetricWritable
  cases found : metrics.get name with
  | none => simp [safeCount, found, nothing]
  | some value =>
    cases value with
    | int value =>
      by_cases counted : 0 ≤ value
      · simp only [safeCount, found, if_pos counted, Option.some.injEq, Json.int.injEq,
          forall_eq']
        simp only [Json.Passes, matchesFieldKind, Json.isCount, validatePayload, Json.writable,
          counted, decide_true, Bool.or_true, true_and, decide_eq_true_eq]
        have same : (value.natAbs : Int) = value := Int.natAbs_of_nonneg counted
        constructor
        · intro short
          rw [← same]
          exact_mod_cast short
        · intro short
          rw [← same] at short
          exact_mod_cast short
      · have small : value < 10 ^ maxStrDigits :=
          lt_of_lt_of_le (not_le.mp counted) (by positivity)
        simp [safeCount, found, counted, nothing, small]
    | null | bool | num | str | hex | time | arr | obj => simp [safeCount, found, nothing]

/-- What `sqlite3` binds can be written. -/
theorem writable_of_bindable {number : Nat} (bound : number < 2 ^ 63) :
    number < 10 ^ maxStrDigits :=
  calc
    number < 2 ^ 63 := bound
    _ ≤ 10 ^ 63 := Nat.pow_le_pow_left (by decide) 63
    _ ≤ 10 ^ maxStrDigits := Nat.pow_le_pow_right (by decide) (by decide)

/-- A bounded identifier is not blank. -/
theorem strip_ne_of_isTelemetryIdentifier {text : String}
    (valid : isTelemetryIdentifier text = true) : strip text ≠ "" := by
  simp only [isTelemetryIdentifier, isSafeIdentifier, Bool.and_eq_true] at valid
  obtain ⟨valid, _⟩ := valid
  split at valid
  · cases valid
  · rename_i first rest chars
    simp only [Bool.and_eq_true, List.all_eq_true, Bool.or_eq_true, decide_eq_true_eq,
      List.mem_cons, List.not_mem_nil, or_false] at valid
    have dense : ∀ c ∈ text.toList, isSpace c = false := by
      intro c member
      rw [chars, List.mem_cons] at member
      rcases member with rfl | later
      · have named : isNameCharacter c = true := by simp [isNameCharacter, valid.1]
        exact (plain_of_isNameCharacter named).2.2
      · rcases valid.2 c later with alnum | rfl | rfl | rfl | rfl
        · have named : isNameCharacter c = true := by simp [isNameCharacter, alnum]
          exact (plain_of_isNameCharacter named).2.2
        all_goals decide
    rw [strip_of_no_space dense]
    rintro rfl
    simp at chars

/-- A task identifier is stored. -/
theorem storable_of_isTaskId {text : String} (valid : isTaskId text = true) : Storable text := by
  unfold isTaskId at valid
  split at valid
  · cases valid
  · rename_i first rest chars
    simp only [Bool.and_eq_true, List.all_eq_true] at valid
    refine storable_of_name ?_ fun c member => ?_
    · rintro rfl
      simp at chars
    · rw [chars, List.mem_cons] at member
      rcases member with rfl | later
      · simp [isNameCharacter, valid.1.1]
      · exact valid.1.2 c later

/-- The public form of a capture passes. -/
theorem capture_passes {row : CaptureRow} (provider : Storable row.providerId)
    (bounded : row.byteCount < 2 ^ 63) :
    checkCapture (some row.toPublicDict) = .ok () ∧
      Json.Passes .optionalCapture row.toPublicDict := by
  have short := writable_of_bindable bounded
  have each : ∀ fields, row.toPublicDict = .obj fields →
      fields.map (·.1) = candidateCaptureFieldKinds.map (·.1) ∧
        ∀ field ∈ fields, FieldPasses candidateCaptureFieldKinds field := by
    intro fields same
    have keys : fields.map (·.1) = candidateCaptureFieldKinds.map (·.1) := by
      cases same
      rfl
    refine ⟨keys, (fieldsPass_iff tableSound_capture keys).mpr ?_⟩
    cases same
    simp only [candidateCaptureFieldKinds, List.forall₂_cons, passes_hex, passes_str, passes_int,
      passes_optHex, passes_time, provider, Int.natAbs_natCast, Int.natCast_nonneg, short,
      and_true, List.Forall₂.nil]
  obtain ⟨fields, same⟩ : ∃ fields, row.toPublicDict = .obj fields := ⟨_, rfl⟩
  obtain ⟨keys, passes⟩ := each fields same
  rw [same]
  refine ⟨?_, ?_⟩
  · simp only [checkCapture, bind_eq_ok, raiseMissing_eq_ok, checkKinds_eq_ok, exists_const]
    exact ⟨keys ▸ fun _ listed => listed, keys ▸ fun _ listed => listed,
      fun field listed => (passes field listed).kind⟩
  · refine ⟨rfl, ?_, ?_⟩
    · rw [validatePayload, validateFields_eq_ok]
      exact fun field listed => ⟨(passes field listed).key, (passes field listed).stored⟩
    · rw [Json.writable, writableFields_iff]
      exact fun field listed => (passes field listed).written

/-- No text of an observation is blank, so it is stored unless it looks like a local path. -/
theorem storable_iff_of_texts {observation : ProviderObservation} {text : String}
    (listed : text ∈ observation.texts) : Storable text ↔ containsLocalPath text = false := by
  refine and_iff_right ?_
  simp only [ProviderObservation.texts, List.mem_append, Option.mem_toList] at listed
  have own := observation.texts_nonblank text
  simp only [List.mem_append, Option.mem_toList] at own
  rcases listed with ((((((model | response) | finish) | kind) | basis) | code) | stage)
  · exact own (.inl (.inl (.inl (.inl model))))
  · exact own (.inl (.inl (.inl (.inr response))))
  · exact own (.inl (.inl (.inr finish)))
  · exact own (.inl (.inr kind))
  · exact own (.inr basis)
  · exact strip_ne_of_isTelemetryIdentifier (observation.errorCode_safe text code)
  · exact strip_ne_of_isTelemetryIdentifier (observation.transportStage_safe text stage)

/-- What every terminal event carries of its own passes. -/
structure TerminalPasses (execution : ProviderExecution) (returnReason : Option String) : Prop where
  /-- The status is named. -/
  status : Storable execution.result.status.value
  /-- So is the state of the provider. -/
  providerState : Storable execution.observation.providerState.value
  /-- And the billing state. -/
  billing : Storable (billingState execution.observation)
  /-- And the state of the capture. -/
  captureState : Storable execution.captureState.value
  /-- And that of the return contract. -/
  returnState : Storable execution.returnContractState.value
  /-- With its reason. -/
  reason : ∀ reason ∈ returnReason, Storable reason
  /-- And the stage of a failure. -/
  failureStage : ∀ stage ∈ execution.result.failureStage, Storable stage
  /-- The counts can be written. -/
  counts : ∀ count ∈ [execution.observation.usage.inputTokens,
    execution.observation.usage.outputTokens, execution.observation.usage.reasoningTokens,
    execution.observation.usage.cachedTokens, execution.observation.durationMs,
    execution.observation.providerHttpStatus], ∀ number ∈ count, number < 10 ^ maxStrDigits

/-- An execution whose counts can be bound has a terminal event whose own values pass. -/
theorem terminalPasses {execution : ProviderExecution} {returnReason : Option String}
    (counts : countsBindable execution.observation = true)
    (reasons : ∀ reason ∈ returnReason, reason ∈ returnReasons) :
    TerminalPasses execution returnReason where
  status := storable_of_constant _ (by cases execution.result.status <;> decide)
  providerState :=
    storable_of_constant _ (by cases execution.observation.providerState <;> decide)
  billing := by
    unfold billingState
    exact storable_of_constant _
      (by cases execution.observation.toRawProviderObservation.billingState <;> decide)
  captureState := storable_of_constant _ (by cases execution.captureState <;> decide)
  returnState := storable_of_constant _ (by cases execution.returnContractState <;> decide)
  reason := fun reason given =>
    storable_of_constant _ (List.mem_append_left _ (reasons reason given))
  failureStage := fun stage given =>
    storable_of_isFailureId (execution.result.failureStage_valid stage given)
  counts := by
    simp only [countsBindable, bindable, Bool.and_eq_true, Option.all_eq_true, decide_eq_true_eq]
      at counts
    obtain ⟨⟨⟨⟨input, output⟩, reasoning⟩, cached⟩, duration⟩ := counts
    intro count listed number given
    refine writable_of_bindable ?_
    simp only [List.mem_cons, List.not_mem_nil, or_false] at listed
    rcases listed with rfl | rfl | rfl | rfl | rfl | rfl
    · exact input number given
    · exact output number given
    · exact reasoning number given
    · exact cached number given
    · exact duration number given
    · have status := (execution.observation.httpStatus_bounded number given).2
      omega

/-- A call for a provider that is not reached. -/
def sampleCall : Invocation where
  providerId := "grok"
  task := ⟨"task-1", "review", 1, 2, [], 60, none, ⟨.freeText, none, none⟩, by decide⟩
  context :=
    { runId := 1
      origin := ⟨"codex", "thread_id", "t-1"⟩
      plane := .delegation
      policySnapshotSha256 := 5
      providerTierBindingDigest := none
      authorization := AdmissionSystem.sampleReference foldDigest "delegation" 7 }
  permit := none
  request := none
  answers :=
    { taskConsistent := .ok ()
      registered := .ok ()
      tokenPolicy := .ok none
      budgetDiagnostic := []
      capabilityBinding := none
      effectiveBinding := none
      approval := none
      requiresAdmission := false
      directory := []
      guardIsKernel := false
      transportBinding := none
      requestedModel := none
      behaviour := ⟨false, .error ⟨"TimeoutError", .ok []⟩, fun _ => .error ⟨"Error", .ok []⟩, 5⟩ }
  readers := ⟨fun _ _ => false, fun _ => .object⟩
  requestId := 1
  dispatchEventId := 2
  terminalEventId := 3
  captureId := 4
  outboxId := 5
  clocks := fun _ => ⟨2, 2, 2⟩
  fault := fun _ => none

end Macr
