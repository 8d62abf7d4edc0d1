import Macr.CanonicalCode
import Macr.Observatory.Evaluation
import Mathlib.Algebra.Order.BigOperators.Group.List

/-!
# When a decision fits

A decision is stored with the identifiers of all its trials and invalidations and with everything
that is not known, in one payload of at most 64 KiB. Nothing else can keep `evaluate` from
returning, so it returns exactly when that payload fits; its length is computed here from the
stored rows.
-/

namespace Macr.QualificationEngine

open Lib Observatory ObservatoryDb

/-! ## Lengths -/

/-- The length of a list of digests. -/
def idBytes (count : Nat) : Nat := max 2 (1 + 67 * count)

/-- The length of a list of texts. -/
def textsBytes (texts : List String) : Nat :=
  max 2 (1 + (texts.map (fun text => textBytes text + 1)).sum)

theorem byteLength_hexes (floatRepr : ℚ → String) (digests : List Digest) :
    byteLength floatRepr (.hexes digests) = idBytes digests.length := by
  have items : ∀ digests : List Digest,
      itemBytes floatRepr (digests.map .hex) = 67 * digests.length := by
    intro digests
    induction digests with
    | nil => rfl
    | cons digest rest ih =>
      rw [List.map_cons, itemBytes, ih, List.length_cons, byteLength]
      omega
  rw [Json.hexes, byteLength, items, idBytes]

theorem byteLength_strs (floatRepr : ℚ → String) (texts : List String) :
    byteLength floatRepr (.strs texts) = textsBytes texts := by
  have items : ∀ texts : List String, itemBytes floatRepr (texts.map .str) =
      (texts.map (fun text => textBytes text + 1)).sum := by
    intro texts
    induction texts with
    | nil => rfl
    | cons text rest ih =>
      rw [List.map_cons, itemBytes, ih, List.map_cons, List.sum_cons, byteLength]
  rw [Json.strs, byteLength, items, textsBytes]

theorem textsBytes_perm {texts others : List String} (perm : texts.Perm others) :
    textsBytes texts = textsBytes others := by
  unfold textsBytes
  rw [(perm.map _).sum_nat]

/-- A text takes its own bytes in every list of texts. -/
theorem textBytes_le_of_mem {texts : List String} {text : String} (member : text ∈ texts) :
    textBytes text ≤ textsBytes texts := by
  have part : textBytes text + 1 ≤ (texts.map (fun text => textBytes text + 1)).sum :=
    List.single_le_sum (by simp) _ (List.mem_map_of_mem member)
  unfold textsBytes
  omega

/-! ## Raw content -/

theorem noRaw_hexes (digests : List Digest) : validateNoRawContent (.hexes digests) = .ok () := by
  rw [Json.hexes, validateNoRawContent]
  induction digests with
  | nil => rfl
  | cons digest rest ih =>
    rw [List.map_cons, validateNoRawItems, validateNoRawContent, ok_bind]
    exact ih

theorem noRaw_strs (texts : List String) : validateNoRawContent (.strs texts) = .ok () := by
  rw [Json.strs, validateNoRawContent]
  induction texts with
  | nil => rfl
  | cons text rest ih =>
    rw [List.map_cons, validateNoRawItems, validateNoRawContent, ok_bind]
    exact ih

theorem writable_hexes (digests : List Digest) : (Json.hexes digests).writable = true := by
  rw [Json.hexes, Json.writable]
  induction digests with
  | nil => rfl
  | cons digest rest ih => simpa [Json.writableItems, Json.writable] using ih

theorem writable_strs (texts : List String) : (Json.strs texts).writable = true := by
  rw [Json.strs, Json.writable]
  induction texts with
  | nil => rfl
  | cons text rest ih => simpa [Json.writableItems, Json.writable] using ih

/-- A count of less than six digits can be written. -/
theorem writable_count {count : Nat} (small : count < 10 ^ 5) :
    (Json.int count).writable = true := by
  rw [Json.writable]
  apply decide_eq_true
  exact Nat.lt_of_lt_of_le small (Nat.pow_le_pow_right (by decide) (by decide))

/-! ## The payload of a decision -/

section Payload

variable {B : Type} [LinearOrder B] [Zero B] [One B] (sha : Sha256) (floatRepr : ℚ → String)
  (confidence : Confidence B) (key : QualificationKey) (policy : QualificationPolicy B)
  (assessment : Assessment B)

/-- The fields of a decision name no raw content. -/
theorem decisionPayload_noRaw :
    validateNoRawContent (decisionPayload sha confidence key policy assessment) = .ok () := by
  have field : ∀ {name : String} {value : Json} {rest : List (String × Json)},
      isRawContentKey name = false → validateNoRawContent value = .ok () →
      validateNoRawFields rest = .ok () → validateNoRawFields ((name, value) :: rest) = .ok () := by
    intro name value rest harmless plain later
    rw [validateNoRawFields, harmless, raiseIf_bind_of_not Bool.false_ne_true, plain, ok_bind]
    exact later
  unfold decisionPayload
  rw [validateNoRawContent]
  refine field (by decide) rfl (field (by decide) rfl (field (by decide) rfl
    (field (by decide) rfl (field (by decide) rfl (field (by decide) rfl (field (by decide) rfl
    (field (by decide) (noRaw_hexes _) (field (by decide) (noRaw_hexes _)
    (field (by decide) rfl (field (by decide) rfl (field (by decide) rfl
    (field (by decide) (noRaw_strs _) rfl))))))))))))

/-- A decision can be written when its counts can. -/
theorem decisionPayload_writable
    (successes : (Json.int assessment.successes).writable = true)
    (trials : (Json.int assessment.trials).writable = true) :
    (decisionPayload sha confidence key policy assessment).writable = true := by
  rw [Json.writable] at successes
  rw [Json.writable] at trials
  unfold decisionPayload
  simp only [Json.writable, Json.writableFields, writable_hexes, writable_strs, Bool.true_and,
    Bool.and_true, Bool.and_eq_true]
  exact ⟨successes, trials⟩

/-- The length of a decision. -/
theorem decisionPayload_bytes :
    byteLength floatRepr (decisionPayload sha confidence key policy assessment) =
      608 + textBytes key.contextClass + idBytes assessment.evidenceIds.length +
        idBytes assessment.invalidationIds.length + intBytes assessment.successes +
        intBytes assessment.trials +
        (floatRepr (confidence.written assessment.lowerBound)).length +
        textsBytes assessment.blindSpots := by
  unfold decisionPayload
  simp only [byteLength, fieldBytes, byteLength_hexes, byteLength_strs,
    show textBytes "policy_digest" = 15 by decide, show textBytes "model_subject_id" = 18 by decide,
    show textBytes "route_id" = 10 by decide, show textBytes "role_digest" = 13 by decide,
    show textBytes "context_class" = 15 by decide,
    show textBytes "verifier_suite_digest" = 23 by decide,
    show textBytes "probe_digest" = 14 by decide, show textBytes "evidence_ids" = 14 by decide,
    show textBytes "invalidation_ids" = 18 by decide, show textBytes "successes" = 11 by decide,
    show textBytes "trials" = 8 by decide, show textBytes "lower_bound" = 13 by decide,
    show textBytes "blind_spots" = 13 by decide]
  omega

end Payload

/-! ## What is not known -/

section Noted

variable {B : Type} [LinearOrder B] [Zero B] [One B] {sha : Sha256} (confidence : Confidence B)
  (registry : ProbeRegistry sha) (db : ObservatoryDb) (key : QualificationKey)
  (policy : QualificationPolicy B) (decidedAt : Timestamp)

/-- What is noted of the probe. -/
def probeTexts : List String :=
  match registry.get key.probeDigest with
  | none => ["probe_definition_missing"]
  | some probe => if probeMatchesKey sha probe key then [] else ["probe_binding_changed"]

/-- What is noted of the subject. -/
def subjectTexts : List String :=
  match db.readModelSubject key.modelSubjectId with
  | none => ["model_subject_missing"]
  | some subject =>
    let status := field? subject.canonicalJson "identity_status"
    if status = some (.str "resolved") ∨ status = some (.str "claimed") then []
    else if status = some (.str "unresolved") then ["identity_unresolved"]
    else ["identity_status_invalid"]

/-- What is noted of the route. -/
def routeTexts : List String :=
  match db.readExecutionRoute key.routeId with
  | none => ["execution_route_missing"]
  | some route =>
    if route.modelSubjectId = key.modelSubjectId then [] else ["route_subject_binding_changed"]

theorem checkProbe_blindSpots (standing : Standing) :
    (checkProbe registry key standing).blindSpots =
      addAll standing.blindSpots (probeTexts registry key) := by
  unfold checkProbe probeTexts
  cases registry.get key.probeDigest with
  | none => rfl
  | some probe =>
    dsimp only
    cases probeMatchesKey sha probe key <;> rfl

theorem checkSubject_blindSpots (standing : Standing) :
    (checkSubject db key standing).blindSpots =
      addAll standing.blindSpots (subjectTexts db key) := by
  unfold checkSubject subjectTexts
  cases db.readModelSubject key.modelSubjectId with
  | none => rfl
  | some subject =>
    dsimp only
    split
    · rfl
    · split <;> rfl

theorem checkRoute_blindSpots (standing : Standing) :
    (checkRoute db key standing).blindSpots =
      addAll standing.blindSpots (routeTexts db key) := by
  unfold checkRoute routeTexts
  cases db.readExecutionRoute key.routeId with
  | none => rfl
  | some route =>
    dsimp only
    split <;> rfl

/-- What is noted of the components of the key. -/
theorem standing_blindSpots : (standing registry db key).blindSpots =
    addAll [] (probeTexts registry key ++ subjectTexts db key ++ routeTexts db key) := by
  unfold standing
  rw [checkRoute_blindSpots, checkSubject_blindSpots, checkProbe_blindSpots, addAll_append,
    addAll_append]

/-- The subject is stored as one that is not resolved. -/
def isUnresolved : Bool :=
  (db.readModelSubject key.modelSubjectId).any
    (fun subject => field? subject.canonicalJson "identity_status" = some (.str "unresolved"))

theorem standing_unresolved : (standing registry db key).identityStatus =
    some (.str "unresolved") ↔ isUnresolved db key = true := by
  have probed : (checkProbe registry key ⟨none, [], none⟩).identityStatus = none := by
    unfold checkProbe
    split
    · rfl
    · split <;> rfl
  unfold standing isUnresolved
  rw [checkRoute_identity]
  unfold checkSubject
  cases db.readModelSubject key.modelSubjectId with
  | none => simp [Standing.force, probed]
  | some subject =>
    dsimp only
    split
    · simp
    · split <;> simp [Standing.force]

/-- Nothing in the trials speaks against the model. -/
def allClean : Bool :=
  (trialsOf sha db key decidedAt).all (fun item =>
    !rejects policy.requireNegativeControls item && !isStale key item && !isOrphan key item) &&
    ((trialsOf sha db key decidedAt).filterMap trial?).Nodup

theorem allClean_iff : @allClean _ _ _ _ sha db key policy decidedAt = true ↔
    (trialScan registry db key policy decidedAt).sawRejection = false ∧
      (trialScan registry db key policy decidedAt).sawStale = false ∧
      (trialScan registry db key policy decidedAt).sawIncompleteLineage = false := by
  rw [trialScan_clean]
  unfold allClean
  simp only [cleanTrial_iff, Bool.and_eq_true, List.all_eq_true, Bool.not_eq_true',
    decide_eq_true_eq, and_assoc]

/-- Every trial is too old. -/
def allOld : Bool :=
  (trialsOf sha db key decidedAt).all (fun item =>
    item.observedAt + policy.maxEvidenceAgeDays * dayMicroseconds < decidedAt)

/-- What the verdict notes of the trials. -/
def evidenceTexts : List String :=
  if trialsOf sha db key decidedAt = [] then ["no_probe_evidence"]
  else if !@allClean _ _ _ _ sha db key policy decidedAt || isUnresolved db key then []
  else if (trialsOf sha db key decidedAt).length < policy.minTrials then
    ["minimum_trials_not_met"]
  else if @trialBound _ sha confidence db key decidedAt < policy.minimumLowerBound then
    ["confidence_lower_bound_below_policy"]
  else []

/-- What the verdict notes of the age of the trials. -/
def ageTexts : List String :=
  if trialsOf sha db key decidedAt ≠ [] ∧ @allOld _ _ _ _ sha db key policy decidedAt = true then
    ["evidence_stale"] else []

/-- What the verdict notes of invalidations. -/
def invalidationTexts : List String :=
  if invalidationsOf sha db key decidedAt = [] then [] else ["qualification_invalidated"]

theorem evidenceVerdict_texts : (evidenceVerdict policy (standing registry db key).identityStatus
    (trialScan registry db key policy decidedAt)
    (@trialBound _ sha confidence db key decidedAt)
    (evidenceUpTo sha db key decidedAt)).2 =
      addAll (trialScan registry db key policy decidedAt).blindSpots
        (@evidenceTexts _ _ _ _ sha confidence db key policy decidedAt) := by
  have empty : evidenceUpTo sha db key decidedAt = [] ↔ trialsOf sha db key decidedAt = [] := by
    rw [← List.length_eq_zero_iff, ← List.length_eq_zero_iff,
      (evidenceUpTo_perm sha db key decidedAt).length_eq]
  have clean := allClean_iff registry db key policy decidedAt
  have unresolved := standing_unresolved registry db key
  unfold evidenceVerdict evidenceTexts
  rw [trialScan_trials]
  by_cases none : trialsOf sha db key decidedAt = []
  · rw [if_pos (empty.mpr none), if_pos none]
    rfl
  rw [if_neg (fun given => none (empty.mp given)), if_neg none]
  cases rejection : (trialScan registry db key policy decidedAt).sawRejection with
  | true => simp_all
  | false =>
    cases stale : (trialScan registry db key policy decidedAt).sawStale with
    | true => simp_all
    | false =>
      cases incomplete : (trialScan registry db key policy decidedAt).sawIncompleteLineage with
      | true => simp_all
      | false =>
        have isClean := clean.mpr ⟨rejection, stale, incomplete⟩
        cases open_ : isUnresolved db key with
        | true => simp [unresolved.mpr open_]
        | false =>
          have resolved : (standing registry db key).identityStatus ≠ some (.str "unresolved") :=
            fun given => by simp [unresolved.mp given] at open_
          simp only [Bool.false_eq_true, if_false, resolved, or_self, isClean, Bool.not_true]
          split
          · rfl
          · split <;> rfl

theorem isTooOld_eq : isTooOld policy decidedAt (evidenceUpTo sha db key decidedAt) = true ↔
    trialsOf sha db key decidedAt ≠ [] ∧ @allOld _ _ _ _ sha db key policy decidedAt = true := by
  have empty : evidenceUpTo sha db key decidedAt = [] ↔ trialsOf sha db key decidedAt = [] := by
    rw [← List.length_eq_zero_iff, ← List.length_eq_zero_iff,
      (evidenceUpTo_perm sha db key decidedAt).length_eq]
  by_cases none : evidenceUpTo sha db key decidedAt = []
  · simp [none, empty.mp none, isTooOld]
  · rw [← Bool.not_eq_false, isTooOld_eq_false db key policy decidedAt none]
    have some_trial : trialsOf sha db key decidedAt ≠ [] := fun given => none (empty.mpr given)
    simp only [some_trial, ne_eq, not_false_eq_true, true_and, allOld, List.all_eq_true,
      decide_eq_true_eq, not_exists, not_and, not_le]

/-- Everything that is not known. -/
def notedTexts : List String :=
  probeTexts registry key ++ subjectTexts db key ++ routeTexts db key ++
    (trialsOf sha db key decidedAt).flatMap (itemTexts key policy.requireNegativeControls) ++
    (if ((trialsOf sha db key decidedAt).filterMap trial?).Nodup then [] else [repeatText]) ++
    @evidenceTexts _ _ _ _ sha confidence db key policy decidedAt ++
    @ageTexts _ _ _ _ sha db key policy decidedAt ++
    @invalidationTexts sha db key decidedAt

theorem trialVerdict_eq : (trialVerdict confidence registry db key policy decidedAt).2 =
    addAll (trialScan registry db key policy decidedAt).blindSpots
      (@evidenceTexts _ _ _ _ sha confidence db key policy decidedAt ++
        @ageTexts _ _ _ _ sha db key policy decidedAt ++
        @invalidationTexts sha db key decidedAt) := by
  have nothing : invalidationsUpTo sha db key decidedAt = [] ↔
      invalidationsOf sha db key decidedAt = [] := by
    rw [← List.length_eq_zero_iff, ← List.length_eq_zero_iff,
      (invalidationsUpTo_perm sha db key decidedAt).length_eq]
  have aged : ∀ verdict : Verdict,
      (ageVerdict (isTooOld policy decidedAt (evidenceUpTo sha db key decidedAt)) verdict).2 =
        addAll verdict.2 (@ageTexts _ _ _ _ sha db key policy decidedAt) := by
    intro verdict
    unfold ageVerdict ageTexts
    by_cases old : isTooOld policy decidedAt (evidenceUpTo sha db key decidedAt) = true
    · rw [if_pos old, if_pos ((isTooOld_eq db key policy decidedAt).mp old)]
      rfl
    · rw [if_neg old, if_neg (fun given => old ((isTooOld_eq db key policy decidedAt).mpr given))]
      rfl
  have overruled : ∀ verdict : Verdict,
      (invalidationVerdict (invalidationsUpTo sha db key decidedAt) verdict).2 =
        addAll verdict.2 (@invalidationTexts sha db key decidedAt) := by
    intro verdict
    unfold invalidationVerdict invalidationTexts
    by_cases none : invalidationsOf sha db key decidedAt = []
    · rw [if_pos (nothing.mpr none), if_pos none]
      rfl
    · rw [if_neg (fun given => none (nothing.mp given)), if_neg none]
      rfl
  unfold trialVerdict
  rw [overruled, aged, evidenceVerdict_texts, addAll_append, addAll_append]

/-- What is not known is a set of texts. -/
theorem trialVerdict_perm : (trialVerdict confidence registry db key policy decidedAt).2.Perm
    (notedTexts confidence registry db key policy decidedAt).dedup := by
  have perm := evidenceUpTo_perm sha db key decidedAt
  have apart : (trialScan registry db key policy decidedAt).blindSpots.Nodup := by
    unfold trialScan scanEvidence
    apply fold_nodup
    rw [standing_blindSpots]
    exact nodup_addAll List.nodup_nil
  rw [trialVerdict_eq]
  apply (List.perm_ext_iff_of_nodup (nodup_addAll apart) (List.nodup_dedup _)).mpr
  intro text
  have scanned : text ∈ (trialScan registry db key policy decidedAt).blindSpots ↔
      text ∈ probeTexts registry key ++ subjectTexts db key ++ routeTexts db key ∨
        text ∈ (trialsOf sha db key decidedAt).flatMap
          (itemTexts key policy.requireNegativeControls) ∨
        text ∈ (if ((trialsOf sha db key decidedAt).filterMap trial?).Nodup then []
          else [repeatText]) := by
    have same := (perm.filterMap trial?).nodup_iff
    unfold trialScan scanEvidence
    rw [mem_fold_blindSpots, standing_blindSpots, mem_addAll]
    simp only [List.not_mem_nil, false_or, List.mem_flatMap, perm.mem_iff, Repeats, and_false,
      exists_false, or_false, same]
    by_cases distinct : ((trialsOf sha db key decidedAt).filterMap trial?).Nodup
    · simp [distinct]
    · simp [distinct]
  rw [mem_addAll, scanned, List.mem_dedup]
  unfold notedTexts
  simp only [List.mem_append, or_assoc]

end Noted

/-! ## When it is stored -/

/-- A payload is accepted when it names no raw content, can be written and is short enough. -/
theorem canonicalPayload_obj {floatRepr : ℚ → String} {fields : List (String × Json)}
    {document : Json} :
    Observatory.canonicalPayload floatRepr (.obj fields) = .ok document ↔
      validateNoRawContent (.obj fields) = .ok () ∧ (Json.obj fields).writable = true ∧
        byteLength floatRepr (.obj fields) ≤ maxCanonicalBytes ∧
        document = canonical (.obj fields) := by
  unfold Observatory.canonicalPayload
  simp only [bind_eq_ok, raiseIf_eq_ok, pure_eq_ok, Bool.not_eq_false, not_lt]
  constructor
  · rintro ⟨_, plain, _, writable, _, fits, rfl⟩
    exact ⟨plain, writable, fits, rfl⟩
  · rintro ⟨plain, writable, fits, rfl⟩
    exact ⟨(), plain, (), writable, (), fits, rfl⟩

/-- The text of a state is a bounded identifier. -/
theorem state_valid (state : QualificationState) : isIdentifier state.value = true := by
  cases state <;> decide

section Stored

variable {kernel : ObservatoryKernel} {db next : ObservatoryDb} {data : DecisionMetadata}

/-- A decision whose payload is accepted is stored if no other row has its identifier. -/
theorem appendQualificationDecision_of_apart {document : Json}
    (state : isIdentifier data.state = true) (unexpected : data.expectedId = none)
    (accepted : Observatory.canonicalPayload kernel.floatRepr data.payload = .ok document)
    (apart : ∀ record, decisionRecord kernel data = .ok record → ∀ other ∈ db.decisions.rows,
      other.decisionId = record.decisionId → other = record) :
    ∃ result, db.appendQualificationDecision kernel data = .ok result := by
  obtain ⟨record, recorded⟩ : ∃ record, decisionRecord kernel data = .ok record := by
    unfold decisionRecord
    rw [identifier_eq_ok.mpr ⟨state, rfl⟩, ok_bind, accepted, ok_bind]
    dsimp only
    rw [expectedOrConflict_eq_ok.mpr ⟨fun digest given => by simp [unexpected] at given, rfl⟩,
      ok_bind]
    exact ⟨_, rfl⟩
  obtain ⟨table, added, appended⟩ := Table.append?_isSome (apart record recorded)
  refine ⟨({ db with decisions := table }, record), ?_⟩
  unfold appendQualificationDecision
  rw [recorded, ok_bind, appendRow_eq_ok.mpr ⟨added, appended, fun _ => trivial⟩]
  rfl

/-- A decision whose payload is accepted is stored, found or added. -/
theorem appendQualificationDecision_eq_ok (injective : kernel.sha.Distinguishes)
    (valid : Valid kernel db) (state : isIdentifier data.state = true)
    (unexpected : data.expectedId = none) :
    (∃ result, db.appendQualificationDecision kernel data = .ok result) ↔
      ∃ document, Observatory.canonicalPayload kernel.floatRepr data.payload = .ok document := by
  constructor
  · rintro ⟨⟨later, record⟩, done⟩
    simp only [appendQualificationDecision, bind_eq_ok, pure_eq_ok] at done
    obtain ⟨made, recorded, _⟩ := done
    exact ⟨made.canonicalJson, (decisionRecord_eq_ok recorded).2.1⟩
  · rintro ⟨document, accepted⟩
    refine appendQualificationDecision_of_apart state unexpected accepted ?_
    intro record recorded other stored same
    obtain ⟨addressed, _⟩ := decisionRecord_eq_ok recorded
    rw [addressed, valid.decisions other stored] at same
    have identity := DecisionIdentity.toDict_injective (injective _ same)
    obtain ⟨otherIdentity, otherId⟩ := other
    obtain ⟨recordIdentity, recordId⟩ := record
    simp only at identity addressed
    rw [identity] at stored ⊢
    have given := valid.decisions _ stored
    simp only at given
    rw [given, addressed]

/-- A stored decision is in its table. -/
theorem stored_of_appendQualificationDecision {record : QualificationDecisionRecord}
    (done : db.appendQualificationDecision kernel data = .ok (next, record)) :
    record ∈ next.decisions.rows ∧ decisionRecord kernel data = .ok record := by
  simp only [appendQualificationDecision, bind_eq_ok, pure_eq_ok] at done
  obtain ⟨made, recorded, table, appended, same⟩ := done
  cases same
  obtain ⟨added, found, _⟩ := appendRow_eq_ok.mp appended
  exact ⟨Table.stored_of_append? found, recorded⟩

end Stored

/-! ## When a decision is returned -/

section Returned

variable {B : Type} [LinearOrder B] [Zero B] [One B] (kernel : ObservatoryKernel)
  (confidence : Confidence B) (registry : ProbeRegistry kernel.sha) (db : ObservatoryDb)
  (key : QualificationKey) (policy : QualificationPolicy B) (asOf : Timestamp)

/-- The length of the decision: 608 bytes of names and digests, 67 for the identifier of every
trial and invalidation, the class of contexts, two counts and the bound, and everything that is
not known. -/
def decisionBytes : Nat :=
  608 + textBytes key.contextClass + idBytes (trialsOf kernel.sha db key asOf).length +
    idBytes (invalidationsOf kernel.sha db key asOf).length +
    intBytes ((trialsOf kernel.sha db key asOf).countP succeeds) +
    intBytes (trialsOf kernel.sha db key asOf).length +
    (kernel.floatRepr (confidence.written
      (@trialBound _ kernel.sha confidence db key asOf))).length +
    textsBytes (notedTexts confidence registry db key policy asOf).dedup

/-- What is assessed. -/
def assessed : Assessment B where
  state := forcedVerdict (standing registry db key).forcedState
    (trialVerdict confidence registry db key policy asOf).1
  blindSpots := sortOn id (trialVerdict confidence registry db key policy asOf).2
  evidenceIds := (evidenceUpTo kernel.sha db key asOf).map (·.evidenceId)
  invalidationIds := (invalidationsUpTo kernel.sha db key asOf).map (·.invalidationId)
  successes := (trialsOf kernel.sha db key asOf).countP succeeds
  trials := (trialsOf kernel.sha db key asOf).length
  lowerBound := @trialBound _ kernel.sha confidence db key asOf

/-- The metadata of the decision. -/
def decisionMetadata : DecisionMetadata where
  qualificationKey := key.digest kernel.sha
  state := (assessed kernel confidence registry db key policy asOf).state.value
  evidenceSetDigest :=
    evidenceSetDigest kernel.sha (assessed kernel confidence registry db key policy asOf)
  decidedAt := asOf
  payload := decisionPayload kernel.sha confidence key policy
    (assessed kernel confidence registry db key policy asOf)
  expectedId := none

/-- The length of the decision is that of its payload. -/
theorem assessed_bytes : byteLength kernel.floatRepr
    (decisionMetadata kernel confidence registry db key policy asOf).payload =
      decisionBytes kernel confidence registry db key policy asOf := by
  have noted : textsBytes (assessed kernel confidence registry db key policy asOf).blindSpots =
      textsBytes (notedTexts confidence registry db key policy asOf).dedup :=
    textsBytes_perm ((sortOn_perm _ _).trans
      (trialVerdict_perm confidence registry db key policy asOf))
  have evidence : (assessed kernel confidence registry db key policy asOf).evidenceIds.length =
      (trialsOf kernel.sha db key asOf).length := by
    rw [assessed, List.length_map]
    exact (evidenceUpTo_perm kernel.sha db key asOf).length_eq
  have invalidations :
      (assessed kernel confidence registry db key policy asOf).invalidationIds.length =
        (invalidationsOf kernel.sha db key asOf).length := by
    rw [assessed, List.length_map]
    exact (invalidationsUpTo_perm kernel.sha db key asOf).length_eq
  unfold decisionMetadata decisionBytes
  rw [decisionPayload_bytes, noted, evidence, invalidations]
  rfl

/-- The payload of a decision is accepted exactly when it is short enough. -/
theorem assessed_accepted_iff :
    (∃ document, Observatory.canonicalPayload kernel.floatRepr
      (decisionMetadata kernel confidence registry db key policy asOf).payload = .ok document) ↔
      decisionBytes kernel confidence registry db key policy asOf ≤ maxCanonicalBytes := by
  have bytes := assessed_bytes kernel confidence registry db key policy asOf
  have plain := decisionPayload_noRaw kernel.sha confidence key policy
    (assessed kernel confidence registry db key policy asOf)
  have written := decisionPayload_writable kernel.sha confidence key policy
    (assessed kernel confidence registry db key policy asOf)
  unfold decisionMetadata at bytes ⊢
  unfold decisionPayload at bytes plain written ⊢
  simp only [canonicalPayload_obj, bytes]
  constructor
  · rintro ⟨document, _, _, fits, _⟩
    exact fits
  · intro fits
    have few : (trialsOf kernel.sha db key asOf).length < 10 ^ 5 := by
      unfold decisionBytes idBytes maxCanonicalBytes at fits
      omega
    have fewer : (trialsOf kernel.sha db key asOf).countP succeeds < 10 ^ 5 :=
      lt_of_le_of_lt List.countP_le_length few
    exact ⟨_, plain, written (writable_count fewer) (writable_count few), fits, rfl⟩

/-- The returned decision, under the identifier it is stored with. -/
abbrev decisionUnder (decisionId : Digest) : QualificationDecision B :=
  let result := assessed kernel confidence registry db key policy asOf
  { decisionId := decisionId
    qualificationKey := key.digest kernel.sha
    state := result.state
    evidenceSetDigest := evidenceSetDigest kernel.sha result
    policyDigest := policyDigest kernel.sha confidence policy
    decidedAt := asOf
    evidenceIds := result.evidenceIds
    invalidationIds := result.invalidationIds
    successes := result.successes
    trials := result.trials
    lowerBound := result.lowerBound
    blindSpots := result.blindSpots }

/-- What `evaluate` does: it assesses, and stores what it assessed. -/
theorem evaluate_eq : evaluate kernel confidence registry db key policy asOf =
    (db.appendQualificationDecision kernel
      (decisionMetadata kernel confidence registry db key policy asOf)).map (fun result =>
        (result.1, decisionUnder kernel confidence registry db key policy asOf
          result.2.decisionId)) := by
  unfold evaluate
  rw [assess_eq, ok_bind]
  show (db.appendQualificationDecision kernel
    (decisionMetadata kernel confidence registry db key policy asOf) >>= _) = _
  cases db.appendQualificationDecision kernel
    (decisionMetadata kernel confidence registry db key policy asOf) <;> rfl

/-- What is returned is what was assessed, under the identifier it is stored with. -/
theorem evaluate_eq_ok {next : ObservatoryDb} {decision : QualificationDecision B}
    (done : evaluate kernel confidence registry db key policy asOf = .ok (next, decision)) :
    ∃ record, db.appendQualificationDecision kernel
        (decisionMetadata kernel confidence registry db key policy asOf) = .ok (next, record) ∧
      decision = decisionUnder kernel confidence registry db key policy asOf
        record.decisionId := by
  rw [evaluate_eq, except_map_eq_ok] at done
  obtain ⟨⟨later, record⟩, appended, same⟩ := done
  cases same
  exact ⟨record, appended, rfl⟩

/-- `evaluate` returns exactly when its decision is short enough. -/
theorem evaluate_returns_iff (injective : kernel.sha.Distinguishes) (valid : Valid kernel db) :
    (∃ result, evaluate kernel confidence registry db key policy asOf = .ok result) ↔
      decisionBytes kernel confidence registry db key policy asOf ≤ maxCanonicalBytes := by
  rw [← assessed_accepted_iff, ← @appendQualificationDecision_eq_ok _ db _ injective valid
    (state_valid _) rfl, evaluate_eq]
  constructor
  · rintro ⟨result, done⟩
    obtain ⟨found, appended, _⟩ := except_map_eq_ok.mp done
    exact ⟨found, appended⟩
  · rintro ⟨found, appended⟩
    exact ⟨_, except_map_eq_ok.mpr ⟨found, appended, rfl⟩⟩

/-- Where no decision is stored, a decision that is short enough is returned. -/
theorem evaluate_of_undecided (undecided : db.decisions.rows = [])
    (fits : decisionBytes kernel confidence registry db key policy asOf ≤ maxCanonicalBytes) :
    ∃ next decision, evaluate kernel confidence registry db key policy asOf =
        .ok (next, decision) ∧
      decision.state = (assessed kernel confidence registry db key policy asOf).state ∧
      decision.trials = (trialsOf kernel.sha db key asOf).length := by
  obtain ⟨document, accepted⟩ :=
    (assessed_accepted_iff kernel confidence registry db key policy asOf).mpr fits
  obtain ⟨found, appended⟩ := @appendQualificationDecision_of_apart _ db _ _
    (state_valid _) rfl accepted (fun record _ other stored => by simp [undecided] at stored)
  exact ⟨_, _, by rw [evaluate_eq, appended]; rfl, rfl, rfl⟩

/-- A revoking invalidation revokes. -/
theorem assessed_revoked
    (revoked : ∃ item ∈ invalidationsOf kernel.sha db key asOf, reasonHas "revok" item = true) :
    (assessed kernel confidence registry db key policy asOf).state = .revoked := by
  obtain ⟨item, stored, revokes⟩ := revoked
  have read := (invalidationsUpTo_perm kernel.sha db key asOf).mem_iff.mpr stored
  have verdict : (trialVerdict confidence registry db key policy asOf).1 = .revoked := by
    unfold trialVerdict invalidationVerdict
    rw [if_neg (List.ne_nil_of_mem read), if_pos (List.any_eq_true.mpr ⟨item, read, revokes⟩)]
  unfold assessed forcedVerdict
  rw [verdict]
  cases (standing registry db key).forcedState <;> simp

/-- What an evaluation is to do: it returns a decision that is stored, revoked where an
invalidation revokes, and qualified where nothing speaks against the model. -/
def Evaluates : Prop :=
  ∃ next decision, evaluate kernel confidence registry db key policy asOf = .ok (next, decision) ∧
    (∃ row ∈ next.decisions.rows, row.decisionId = decision.decisionId ∧
      row.qualificationKey = key.digest kernel.sha ∧ row.state = decision.state.value ∧
      row.evidenceSetDigest = decision.evidenceSetDigest ∧ row.decidedAt = asOf) ∧
    ((∃ item ∈ invalidationsOf kernel.sha db key asOf, reasonHas "revok" item = true) →
      decision.state = .revoked) ∧
    (Qualifies confidence registry db key policy asOf → decision.state = .qualified)

/-- An evaluation that returns does what it is to do. -/
theorem evaluates_of_returned
    (returned : ∃ result, evaluate kernel confidence registry db key policy asOf = .ok result) :
    Evaluates kernel confidence registry db key policy asOf := by
  obtain ⟨⟨next, decision⟩, done⟩ := returned
  obtain ⟨record, appended, rfl⟩ := evaluate_eq_ok kernel confidence registry db key policy asOf done
  obtain ⟨stored, recorded⟩ := stored_of_appendQualificationDecision appended
  obtain ⟨_, _, sameKey, sameState, sameSet, sameTime⟩ := decisionRecord_eq_ok recorded
  refine ⟨next, _, done, ⟨record, stored, rfl, sameKey, sameState, sameSet, sameTime⟩, ?_, ?_⟩
  · exact assessed_revoked kernel confidence registry db key policy asOf
  · exact (assessed_qualified_iff confidence registry db key policy asOf).mpr

/-- An evaluation over a valid database does what it is to do exactly when its decision is short
enough. -/
theorem evaluates_iff (injective : kernel.sha.Distinguishes) (valid : Valid kernel db) :
    Evaluates kernel confidence registry db key policy asOf ↔
      decisionBytes kernel confidence registry db key policy asOf ≤ maxCanonicalBytes := by
  rw [← evaluate_returns_iff kernel confidence registry db key policy asOf injective valid]
  constructor
  · rintro ⟨next, decision, done, _⟩
    exact ⟨(next, decision), done⟩
  · exact evaluates_of_returned kernel confidence registry db key policy asOf

/-- An evaluation over a database that calls lead to does what it is to do exactly when its
decision is short enough. -/
theorem evaluation_total (injective : kernel.sha.Distinguishes) (reached : Reachable kernel db) :
    Evaluates kernel confidence registry db key policy asOf ↔
      decisionBytes kernel confidence registry db key policy asOf ≤ maxCanonicalBytes :=
  evaluates_iff kernel confidence registry db key policy asOf injective reached.valid

end Returned

/-! ## A database whose trial says too much -/

/-- A digest that can be evaluated, and `repr` of zero. -/
def sampleKernel : ObservatoryKernel := ⟨packedDigest, fun _ => "0.0"⟩

theorem sampleKernel_distinguishes : sampleKernel.sha.Distinguishes :=
  packedDigest_sha256Id_injective

/-- A bound that is zero, as it is without a success. -/
def zeroConfidence : Confidence ℚ := ⟨fun _ _ => 0, id⟩

/-- A registry without a definition. -/
def emptyRegistry : ProbeRegistry sampleKernel.sha := ⟨[], List.nodup_nil, List.nodup_nil⟩

/-- A key. -/
def sampleKey : QualificationKey := ⟨1, 2, 3, "bounded_worker", 4, 5, by decide⟩

/-- A policy that asks for one trial. -/
def samplePolicy : QualificationPolicy ℚ :=
  ⟨1, 0, 1, false, by decide, by decide, by decide⟩

/-- Without a trial there is room for the decision. -/
theorem evaluates_initial :
    Evaluates sampleKernel zeroConfidence emptyRegistry initial sampleKey samplePolicy 7 :=
  (evaluation_total sampleKernel zeroConfidence emptyRegistry initial sampleKey samplePolicy 7
    sampleKernel_distinguishes ⟨[], rfl⟩).mpr (by decide)

section Speaking

variable (text : String)

/-- A trial that names a blind spot. -/
def speakingTrial : EvidenceMetadata where
  qualificationKey := sampleKey.digest packedDigest
  kind := "probe_result"
  subjectDigest := 1
  observedAt := 5
  payload := .obj [("blind_spots", .arr [.str text])]
  expectedId := none

/-- The record of the trial. -/
def speakingRecord : EvidenceRecord :=
  let identity : EvidenceIdentity := ⟨sampleKey.digest packedDigest, "probe_result", 1,
    .obj [("blind_spots", .arr [.str text])], 5⟩
  ⟨identity, packedDigest.sha256Id "evidence_item_v1" identity.toDict⟩

/-- The database with the trial. -/
def speakingDb : ObservatoryDb := (machine sampleKernel).run initial [.evidence (speakingTrial text)]

variable {text}

/-- A payload with a text that leaves room for its name is accepted. -/
theorem speakingTrial_accepted (short : textBytes text ≤ 65518) :
    Observatory.canonicalPayload sampleKernel.floatRepr (speakingTrial text).payload =
      .ok (.obj [("blind_spots", .arr [.str text])]) := by
  refine canonicalPayload_obj.mpr ⟨by rfl, by rfl, ?_, by rfl⟩
  simp only [byteLength, fieldBytes, itemBytes, maxCanonicalBytes,
    show textBytes "blind_spots" = 13 by decide]
  omega

theorem speakingRecord_made (short : textBytes text ≤ 65518) :
    evidenceRecord sampleKernel (speakingTrial text) = .ok (speakingRecord text) := by
  have kind : identifier "kind" (speakingTrial text).kind = .ok "probe_result" :=
    identifier_eq_ok.mpr ⟨(by decide : isIdentifier "probe_result" = true), rfl⟩
  unfold evidenceRecord
  rw [kind, ok_bind, speakingTrial_accepted short, ok_bind]
  rfl

theorem speakingDb_evidence (short : textBytes text ≤ 65518) :
    (speakingDb text).evidence.rows = [speakingRecord text] := by
  have appended : initial.evidence.append? (speakingRecord text) =
      some (Table.empty.insert (speakingRecord text) (by simp), true) := rfl
  have stepped : initial.append sampleKernel (.evidence (speakingTrial text)) =
      .ok { initial with evidence := Table.empty.insert (speakingRecord text) (by simp) } := by
    show (·.1) <$> initial.appendEvidence sampleKernel (speakingTrial text) = _
    unfold appendEvidence
    rw [speakingRecord_made short, ok_bind,
      appendRow_eq_ok.mpr ⟨true, appended, fun _ => trivial⟩]
    rfl
  unfold speakingDb
  rw [Machine.run_cons, Machine.run_nil]
  show (step sampleKernel initial (.evidence (speakingTrial text))).evidence.rows = _
  unfold step
  rw [stepped]
  rfl

/-- A decision that has to repeat the text is too long. -/
theorem not_evaluates_speakingDb (short : textBytes text ≤ 65518) (long : 64929 ≤ textBytes text)
    (inhabited : text ≠ "") :
    ¬Evaluates sampleKernel zeroConfidence emptyRegistry (speakingDb text) sampleKey samplePolicy
      7 := by
  rw [evaluates_iff sampleKernel zeroConfidence emptyRegistry (speakingDb text) sampleKey
    samplePolicy 7 sampleKernel_distinguishes (Reachable.valid ⟨_, rfl⟩)]
  have stored : speakingRecord text ∈ trialsOf sampleKernel.sha (speakingDb text) sampleKey 7 := by
    unfold trialsOf
    rw [speakingDb_evidence short]
    exact List.mem_filter.mpr ⟨List.mem_singleton.mpr rfl, by
      simp [isTrial, speakingRecord, sampleKernel]⟩
  have said : text ∈ itemTexts sampleKey false (speakingRecord text) := by
    have read : blindSpots? (speakingRecord text).canonicalJson = some [text] := by
      show [Json.str text].mapM nonEmptyText? = some [text]
      simp [nonEmptyText?, inhabited]
    unfold itemTexts
    rw [read]
    exact List.mem_append_left _ (List.mem_singleton.mpr rfl)
  have noted : text ∈ (notedTexts zeroConfidence emptyRegistry (speakingDb text) sampleKey
      samplePolicy 7).dedup := by
    rw [List.mem_dedup]
    unfold notedTexts
    simp only [List.mem_append, List.mem_flatMap]
    exact .inl (.inl (.inl (.inl (.inr ⟨_, stored, said⟩))))
  have part := textBytes_le_of_mem noted
  unfold decisionBytes maxCanonicalBytes
  omega

end Speaking

/-- A letter takes one byte. -/
theorem textBytes_replicate (count : Nat) :
    textBytes (String.ofList (List.replicate count 'a')) = count + 2 := by
  have letters : ((List.replicate count 'a').map charBytes).sum = count := by
    induction count with
    | zero => rfl
    | succ fewer ih =>
      rw [List.replicate_succ, List.map_cons, List.sum_cons, ih, Nat.add_comm]
      rfl
  unfold textBytes
  rw [String.toList_ofList, letters]

/-- A blind spot of 65000 characters. -/
def longText : String := String.ofList (List.replicate 65000 'a')

theorem textBytes_longText : textBytes longText = 65002 := textBytes_replicate 65000

/-- The database with a trial of that blind spot is one that calls lead to, and no decision on it
is returned. -/
theorem not_evaluates_longText : Reachable sampleKernel (speakingDb longText) ∧
    ¬Evaluates sampleKernel zeroConfidence emptyRegistry (speakingDb longText) sampleKey
      samplePolicy 7 := by
  have inhabited : longText ≠ "" := by
    intro empty
    have bytes := textBytes_longText
    rw [empty] at bytes
    exact absurd bytes (by decide)
  have length := textBytes_longText
  exact ⟨⟨_, rfl⟩, not_evaluates_speakingDb (by omega) (by omega) inhabited⟩

end Macr.QualificationEngine
