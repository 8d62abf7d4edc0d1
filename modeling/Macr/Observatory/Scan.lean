import Macr.Observatory.Qualification

/-!
# What the scan of the evidence gathers

Each item speaks for itself, except that a trial seen before rejects the evidence. So the scan
ends in counts of items, in whether some item is stale, incomplete or to be rejected, and in the
set of what items note; none of these depends on the order of the items.
-/

namespace Macr.QualificationEngine

open Lib Observatory

/-! ## Items -/

/-- The trial of an item whose blind spots can be read. -/
def trial? (item : EvidenceRecord) : Option String :=
  (blindSpots? item.canonicalJson).bind (fun _ => trialId? item.canonicalJson)

/-- What a well-formed item states of itself. -/
def judged? (item : EvidenceRecord) : Option TrialOutcome :=
  (trial? item).bind (fun _ => outcome? item.canonicalJson)

/-- The item counts as a success. -/
def succeeds (item : EvidenceRecord) : Bool := (judged? item).any TrialOutcome.succeeded

/-- The item alone rejects the evidence. -/
def rejects (required : Bool) (item : EvidenceRecord) : Bool :=
  (judged? item).all (fun outcome =>
    outcome.conflicting || (required && !outcome.negativeControlPassed))

/-- The item is about other components, or about old versions. -/
def isStale (key : QualificationKey) (item : EvidenceRecord) : Bool :=
  ((trial? item).isSome && !isBound key item.canonicalJson) ||
    (judged? item).any (fun outcome => !outcome.boundVersionsCurrent)

/-- The item is about another subject, or its lineage is incomplete. -/
def isOrphan (key : QualificationKey) (item : EvidenceRecord) : Bool :=
  ((trial? item).isSome && item.subjectDigest ≠ key.modelSubjectId) ||
    (judged? item).any (fun outcome => !outcome.lineageComplete)

/-- What a trial notes of itself. -/
def outcomeTexts (required : Bool) (outcome : TrialOutcome) : List String :=
  (if outcome.boundVersionsCurrent then [] else ["bound_versions_stale"]) ++
    (if outcome.lineageComplete then [] else ["lineage_incomplete"]) ++
    (if outcome.conflicting then ["conflicting_verifier_evidence"] else []) ++
    (if required && !outcome.negativeControlPassed then ["negative_control_failed"] else []) ++
    (if outcome.verifierPassed then [] else ["verifier_failures_observed"])

/-- What an item notes after its blind spots and its trial are read. -/
def laterTexts (key : QualificationKey) (required : Bool) (item : EvidenceRecord) : List String :=
  (if (trial? item).isSome && item.subjectDigest ≠ key.modelSubjectId then
      ["evidence_subject_mismatch"] else []) ++
    (if (trial? item).isSome && !isBound key item.canonicalJson then
      ["bound_version_or_identity_mismatch"] else []) ++
    match judged? item with
    | none => ["malformed_probe_evidence"]
    | some outcome => outcomeTexts required outcome

/-- What an item notes, apart from a trial seen before. -/
def itemTexts (key : QualificationKey) (required : Bool) (item : EvidenceRecord) : List String :=
  (blindSpots? item.canonicalJson).getD [] ++ laterTexts key required item

/-- What is noted of a trial seen before. -/
def repeatText : String := "duplicate_or_conflicting_trial_id"

/-- Some trial occurs twice, or is one of those given. -/
def Repeats (trialIds : List String) (evidence : List EvidenceRecord) : Prop :=
  ¬(evidence.filterMap trial?).Nodup ∨ ∃ trialId ∈ evidence.filterMap trial?, trialId ∈ trialIds

/-! ## Sets of texts -/

/-- Texts added to a set. -/
def addAll (items texts : List String) : List String :=
  texts.foldl (fun held new => held.insert new) items

@[simp] theorem addAll_nil (items : List String) : addAll items [] = items := rfl

theorem addAll_append (items first second : List String) :
    addAll items (first ++ second) = addAll (addAll items first) second := by
  simp [addAll]

/-- A text added under a condition. -/
theorem insert_if {condition : Bool} {items : List String} {new : String} :
    (if condition = true then items.insert new else items) =
      addAll items (if condition = true then [new] else []) := by
  cases condition <;> rfl

/-- A text added unless a condition holds. -/
theorem insert_unless {condition : Bool} {items : List String} {new : String} :
    (if condition = true then items else items.insert new) =
      addAll items (if condition = true then [] else [new]) := by
  cases condition <;> rfl

@[simp] theorem mem_addAll {texts items : List String} {text : String} :
    text ∈ addAll items texts ↔ text ∈ items ∨ text ∈ texts := by
  induction texts generalizing items with
  | nil => simp
  | cons first rest ih =>
    show text ∈ addAll (items.insert first) rest ↔ _
    rw [ih, List.mem_insert_iff, List.mem_cons]
    tauto

theorem nodup_addAll {texts items : List String} (distinct : items.Nodup) :
    (addAll items texts).Nodup := by
  induction texts generalizing items with
  | nil => exact distinct
  | cons first rest ih => exact ih distinct.insert

namespace Scan

variable (scan : Scan) (key : QualificationKey) (required : Bool) (item : EvidenceRecord)

/-! ## What a trial states -/

section Judge

variable (outcome : TrialOutcome)

theorem judge_sawRejection : (scan.judge required outcome).sawRejection =
    (scan.sawRejection || outcome.conflicting || (required && !outcome.negativeControlPassed)) := by
  unfold judge
  simp only [apply_ite Scan.sawRejection, note, reject, age, orphan, ite_self]
  cases outcome.conflicting <;> cases required <;> cases outcome.negativeControlPassed <;> simp

theorem judge_sawStale : (scan.judge required outcome).sawStale =
    (scan.sawStale || !outcome.boundVersionsCurrent) := by
  unfold judge
  simp only [apply_ite Scan.sawStale, note, reject, age, orphan, ite_self]
  cases outcome.boundVersionsCurrent <;> simp

theorem judge_sawIncompleteLineage : (scan.judge required outcome).sawIncompleteLineage =
    (scan.sawIncompleteLineage || !outcome.lineageComplete) := by
  unfold judge
  simp only [apply_ite Scan.sawIncompleteLineage, note, reject, age, orphan, ite_self]
  cases outcome.lineageComplete <;> simp

theorem judge_successes : (scan.judge required outcome).successes =
    scan.successes + if outcome.succeeded then 1 else 0 := by
  unfold judge
  simp only [apply_ite Scan.successes, note, reject, age, orphan, ite_self]
  cases outcome.succeeded <;> simp

@[simp] theorem judge_trials : (scan.judge required outcome).trials = scan.trials := by
  unfold judge
  simp only [apply_ite Scan.trials, note, reject, age, orphan, ite_self]

@[simp] theorem judge_trialIds : (scan.judge required outcome).trialIds = scan.trialIds := by
  unfold judge
  simp only [apply_ite Scan.trialIds, note, reject, age, orphan, ite_self]

theorem judge_blindSpots : (scan.judge required outcome).blindSpots =
    addAll scan.blindSpots (outcomeTexts required outcome) := by
  have passed : outcome.verifierPassed = false → outcome.succeeded = false := by
    intro failed
    simp [TrialOutcome.succeeded, failed]
  unfold judge outcomeTexts
  simp only [apply_ite Scan.blindSpots, note, reject, age, orphan, addAll_append, insert_if,
    insert_unless]
  cases verified : outcome.verifierPassed with
  | true => simp only [if_true, ite_self, addAll_nil]
  | false =>
    rw [passed verified]
    rfl

end Judge

/-! ## One turn -/

theorem noteAll_eq (texts : List String) :
    scan.noteAll texts = { scan with blindSpots := addAll scan.blindSpots texts } := by
  induction texts generalizing scan with
  | nil => rfl
  | cons first rest ih => exact ih (scan.note first)

/-- What is noted of a trial seen before. -/
def repeatTexts (trialId : Option String) : List String :=
  if trialId.any (fun trial => trial ∈ scan.trialIds) then [repeatText] else []

/-- What a turn notes. -/
def turnTexts : List String :=
  (blindSpots? item.canonicalJson).getD [] ++ scan.repeatTexts (trial? item) ++
    laterTexts key required item

/-- A trial that can be read is compared with those before it and with the key. -/
def compare (trialId : String) : Scan :=
  ((scan.takeTrial trialId).checkSubject key item).checkBindings key item

theorem compare_eq (trialId : String) : scan.compare key item trialId =
    { blindSpots := addAll (addAll (addAll scan.blindSpots (scan.repeatTexts (some trialId)))
        (if item.subjectDigest ≠ key.modelSubjectId then ["evidence_subject_mismatch"] else []))
        (if !isBound key item.canonicalJson then ["bound_version_or_identity_mismatch"] else [])
      successes := scan.successes
      trials := scan.trials
      sawRejection := scan.sawRejection || trialId ∈ scan.trialIds
      sawStale := scan.sawStale || !isBound key item.canonicalJson
      sawIncompleteLineage := scan.sawIncompleteLineage ||
        item.subjectDigest ≠ key.modelSubjectId
      trialIds := if trialId ∈ scan.trialIds then scan.trialIds
        else trialId :: scan.trialIds } := by
  unfold compare takeTrial checkSubject checkBindings repeatTexts repeatText
  by_cases seen : trialId ∈ scan.trialIds <;>
    by_cases other : item.subjectDigest ≠ key.modelSubjectId <;>
    cases bound : isBound key item.canonicalJson <;>
    simp [seen, other, reject, orphan, age, note, addAll]

/-- A turn, as far as the item can be read. -/
theorem turn_eq : turn key required scan item =
    match blindSpots? item.canonicalJson with
    | none => ({ scan with trials := scan.trials + 1 } : Scan).malformed
    | some texts =>
      let noted : Scan := { scan with
        trials := scan.trials + 1, blindSpots := addAll scan.blindSpots texts }
      match trialId? item.canonicalJson with
      | none => noted.malformed
      | some trialId =>
        match outcome? item.canonicalJson with
        | none => (noted.compare key item trialId).malformed
        | some outcome => (noted.compare key item trialId).judge required outcome := by
  unfold turn
  simp only [noteAll_eq]
  rfl

theorem turn_trials : (turn key required scan item).trials = scan.trials + 1 := by
  rw [turn_eq]
  cases blindSpots? item.canonicalJson with
  | none => rfl
  | some texts =>
    cases trialId? item.canonicalJson with
    | none => rfl
    | some trialId =>
      cases outcome? item.canonicalJson <;>
        simp [compare_eq, malformed, reject, note]

theorem turn_successes : (turn key required scan item).successes =
    scan.successes + if succeeds item then 1 else 0 := by
  rw [turn_eq]
  unfold succeeds judged? trial?
  cases blindSpots? item.canonicalJson with
  | none => rfl
  | some texts =>
    cases trialId? item.canonicalJson with
    | none => rfl
    | some trialId =>
      cases outcome? item.canonicalJson <;>
        simp [compare_eq, malformed, reject, note, judge_successes]

theorem turn_sawStale : (turn key required scan item).sawStale =
    (scan.sawStale || isStale key item) := by
  rw [turn_eq]
  unfold isStale judged? trial?
  cases blindSpots? item.canonicalJson with
  | none => simp [malformed, reject, note]
  | some texts =>
    cases trialId? item.canonicalJson with
    | none => simp [malformed, reject, note]
    | some trialId =>
      cases outcome? item.canonicalJson <;>
        simp [compare_eq, malformed, reject, note, judge_sawStale, Bool.or_assoc]

theorem turn_sawIncompleteLineage : (turn key required scan item).sawIncompleteLineage =
    (scan.sawIncompleteLineage || isOrphan key item) := by
  rw [turn_eq]
  unfold isOrphan judged? trial?
  cases blindSpots? item.canonicalJson with
  | none => simp [malformed, reject, note]
  | some texts =>
    cases trialId? item.canonicalJson with
    | none => simp [malformed, reject, note]
    | some trialId =>
      cases outcome? item.canonicalJson <;>
        simp [compare_eq, malformed, reject, note, judge_sawIncompleteLineage, Bool.or_assoc]

theorem turn_sawRejection : (turn key required scan item).sawRejection =
    (scan.sawRejection || rejects required item ||
      (trial? item).any (fun trial => trial ∈ scan.trialIds)) := by
  rw [turn_eq]
  unfold rejects judged? trial?
  cases blindSpots? item.canonicalJson with
  | none => simp [malformed, reject, note]
  | some texts =>
    cases trialId? item.canonicalJson with
    | none => simp [malformed, reject, note]
    | some trialId =>
      cases outcome? item.canonicalJson with
      | none => simp [malformed, reject, note]
      | some outcome =>
        simp only [compare_eq, judge_sawRejection, Option.bind_some, Option.all_some,
          Option.any_some]
        cases scan.sawRejection <;> cases outcome.conflicting <;> simp [Bool.or_comm]

theorem turn_trialIds : (turn key required scan item).trialIds =
    match trial? item with
    | none => scan.trialIds
    | some trialId => if trialId ∈ scan.trialIds then scan.trialIds
      else trialId :: scan.trialIds := by
  rw [turn_eq]
  unfold trial?
  cases blindSpots? item.canonicalJson with
  | none => rfl
  | some texts =>
    cases trialId? item.canonicalJson with
    | none => rfl
    | some trialId =>
      cases outcome? item.canonicalJson <;>
        simp [compare_eq, malformed, reject, note]

theorem turn_blindSpots : (turn key required scan item).blindSpots =
    addAll scan.blindSpots (scan.turnTexts key required item) := by
  have single : ∀ (items : List String) (new : String), items.insert new = addAll items [new] :=
    fun _ _ => rfl
  rw [turn_eq]
  unfold turnTexts laterTexts judged? trial?
  cases blindSpots? item.canonicalJson with
  | none => simp [malformed, reject, note, single, repeatTexts]
  | some texts =>
    cases trialId? item.canonicalJson with
    | none => simp [malformed, reject, note, single, repeatTexts, addAll_append]
    | some trialId =>
      cases outcome? item.canonicalJson <;>
        simp [compare_eq, malformed, reject, note, single, repeatTexts, addAll_append,
          judge_blindSpots]

end Scan

/-! ## The whole scan -/

section Whole

variable (key : QualificationKey) (required : Bool) (evidence : List EvidenceRecord)

theorem fold_trials (scan : Scan) :
    (evidence.foldl (Scan.turn key required) scan).trials = scan.trials + evidence.length := by
  induction evidence generalizing scan with
  | nil => rfl
  | cons item rest ih =>
    rw [List.foldl_cons, ih, Scan.turn_trials, List.length_cons]
    omega

theorem fold_successes (scan : Scan) :
    (evidence.foldl (Scan.turn key required) scan).successes =
      scan.successes + evidence.countP succeeds := by
  induction evidence generalizing scan with
  | nil => rfl
  | cons item rest ih =>
    rw [List.foldl_cons, ih, Scan.turn_successes, List.countP_cons]
    omega

theorem fold_sawStale (scan : Scan) :
    (evidence.foldl (Scan.turn key required) scan).sawStale =
      (scan.sawStale || evidence.any (isStale key)) := by
  induction evidence generalizing scan with
  | nil => simp
  | cons item rest ih =>
    rw [List.foldl_cons, ih, Scan.turn_sawStale, List.any_cons, Bool.or_assoc]

theorem fold_sawIncompleteLineage (scan : Scan) :
    (evidence.foldl (Scan.turn key required) scan).sawIncompleteLineage =
      (scan.sawIncompleteLineage || evidence.any (isOrphan key)) := by
  induction evidence generalizing scan with
  | nil => simp
  | cons item rest ih =>
    rw [List.foldl_cons, ih, Scan.turn_sawIncompleteLineage, List.any_cons, Bool.or_assoc]

/-- A trial repeats one of those seen when it is one of them, or a later one repeats it or one of
them. -/
theorem repeats_cons (scan : Scan) (item : EvidenceRecord) (rest : List EvidenceRecord) :
    Repeats scan.trialIds (item :: rest) ↔
      (trial? item).any (fun trial => trial ∈ scan.trialIds) = true ∨
        Repeats (Scan.turn key required scan item).trialIds rest := by
  rw [Scan.turn_trialIds]
  unfold Repeats
  cases readable : trial? item with
  | none => simp [readable]
  | some trialId =>
    rw [List.filterMap_cons_some readable]
    by_cases seen : trialId ∈ scan.trialIds
    · simp [seen]
    · simp only [List.nodup_cons, List.mem_cons, if_neg seen, Option.any_some,
        decide_eq_true_eq]
      constructor
      · rintro (repeated | ⟨other, rfl | later, known⟩)
        · by_cases again : trialId ∈ rest.filterMap trial?
          · exact .inr (.inr ⟨trialId, again, .inl rfl⟩)
          · exact .inr (.inl fun distinct => repeated ⟨again, distinct⟩)
        · exact .inl known
        · exact .inr (.inr ⟨other, later, .inr known⟩)
      · rintro (known | repeated | ⟨other, later, rfl | known⟩)
        · exact absurd known seen
        · exact .inl fun distinct => repeated distinct.2
        · exact .inl fun distinct => distinct.1 later
        · exact .inr ⟨other, .inr later, known⟩

theorem fold_sawRejection (scan : Scan) :
    (evidence.foldl (Scan.turn key required) scan).sawRejection = true ↔
      scan.sawRejection = true ∨ evidence.any (rejects required) = true ∨
        Repeats scan.trialIds evidence := by
  induction evidence generalizing scan with
  | nil => simp [Repeats]
  | cons item rest ih =>
    rw [List.foldl_cons, ih, Scan.turn_sawRejection, repeats_cons key required, List.any_cons]
    simp only [Bool.or_eq_true]
    tauto

theorem fold_nodup (scan : Scan) (distinct : scan.blindSpots.Nodup) :
    (evidence.foldl (Scan.turn key required) scan).blindSpots.Nodup := by
  induction evidence generalizing scan with
  | nil => exact distinct
  | cons item rest ih =>
    apply ih
    rw [Scan.turn_blindSpots]
    exact nodup_addAll distinct

theorem mem_fold_blindSpots (scan : Scan) (text : String) :
    text ∈ (evidence.foldl (Scan.turn key required) scan).blindSpots ↔
      text ∈ scan.blindSpots ∨ (∃ item ∈ evidence, text ∈ itemTexts key required item) ∨
        (Repeats scan.trialIds evidence ∧ text = repeatText) := by
  induction evidence generalizing scan with
  | nil => simp [Repeats]
  | cons item rest ih =>
    have here : text ∈ scan.turnTexts key required item ↔
        text ∈ itemTexts key required item ∨
          ((trial? item).any (fun trial => trial ∈ scan.trialIds) = true ∧ text = repeatText) := by
      unfold Scan.turnTexts itemTexts Scan.repeatTexts
      split <;> simp_all [or_comm, or_left_comm]
    rw [List.foldl_cons, ih, Scan.turn_blindSpots, mem_addAll, here, repeats_cons key required]
    simp only [List.mem_cons, exists_eq_or_imp]
    rw [or_and_right]
    apply iff_of_eq
    ac_rfl

end Whole

end Macr.QualificationEngine
