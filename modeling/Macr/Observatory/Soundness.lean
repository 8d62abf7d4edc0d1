import Macr.Lib.Wilson
import Macr.Observatory.Totality

/-!
# What a qualification rests on

A model is qualified only on clean trials, enough of them and new enough, and on nothing that was
stored for another key or after the instant asked for. The Wilson bound is taken in the real
numbers. A failed trial lowers the bound, but it is counted, and it may be the newest: it can
complete a number of trials or renew their age, and does nothing else in favour of a model.
-/

namespace Macr.QualificationEngine

open Lib Observatory ObservatoryDb

/-- The Wilson bound of 1.96 standard deviations, in the real numbers. -/
noncomputable def wilsonConfidence (written : ℝ → ℚ) : Confidence ℝ :=
  ⟨wilsonLowerBound 1.96, written⟩

/-! ## What a decision depends on -/

/-- Two databases know the same of a key up to an instant. -/
structure SameKnowledge (sha : Sha256) (key : QualificationKey) (decidedAt : Timestamp)
    (db other : ObservatoryDb) : Prop where
  /-- The subject is the same. -/
  subject : db.readModelSubject key.modelSubjectId = other.readModelSubject key.modelSubjectId
  /-- The route is the same. -/
  route : db.readExecutionRoute key.routeId = other.readExecutionRoute key.routeId
  /-- The trials are the same. -/
  trials : ∀ item, item ∈ trialsOf sha db key decidedAt ↔ item ∈ trialsOf sha other key decidedAt
  /-- The invalidations are the same. -/
  invalidations : ∀ item,
    item ∈ invalidationsOf sha db key decidedAt ↔ item ∈ invalidationsOf sha other key decidedAt

namespace SameKnowledge

variable {sha : Sha256} {key : QualificationKey} {decidedAt : Timestamp} {db other : ObservatoryDb}
  (same : SameKnowledge sha key decidedAt db other)

include same

theorem trials_perm :
    (trialsOf sha db key decidedAt).Perm (trialsOf sha other key decidedAt) :=
  (List.perm_ext_iff_of_nodup (db.evidence.nodup_rows.filter _)
    (other.evidence.nodup_rows.filter _)).mpr same.trials

theorem invalidations_perm :
    (invalidationsOf sha db key decidedAt).Perm (invalidationsOf sha other key decidedAt) :=
  (List.perm_ext_iff_of_nodup (db.invalidations.nodup_rows.filter _)
    (other.invalidations.nodup_rows.filter _)).mpr same.invalidations

/-- The trials are read in the same order. -/
theorem evidence_eq : evidenceUpTo sha db key decidedAt = evidenceUpTo sha other key decidedAt := by
  rw [evidenceUpTo_eq, evidenceUpTo_eq]
  apply sortOn_eq_of_perm same.trials_perm
  intro left here right there equal
  have ids := congrArg (fun pair => (ofLex pair).2) equal
  exact db.evidence.eq_of_key (List.mem_of_mem_filter here) (List.mem_of_mem_filter there) ids

/-- So are the invalidations. -/
theorem invalidations_eq :
    invalidationsUpTo sha db key decidedAt = invalidationsUpTo sha other key decidedAt := by
  rw [invalidationsUpTo_eq, invalidationsUpTo_eq]
  apply sortOn_eq_of_perm same.invalidations_perm
  intro left here right there equal
  have ids := congrArg (fun pair => (ofLex pair).2) equal
  exact db.invalidations.eq_of_key (List.mem_of_mem_filter here) (List.mem_of_mem_filter there) ids

theorem standing_eq (registry : ProbeRegistry sha) :
    standing registry db key = standing registry other key := by
  unfold standing checkRoute checkSubject
  rw [same.subject, same.route]

end SameKnowledge

section Depends

variable {B : Type} [LinearOrder B] [Zero B] [One B] (kernel : ObservatoryKernel)
  (confidence : Confidence B) (registry : ProbeRegistry kernel.sha) {db other : ObservatoryDb}
  (key : QualificationKey) (policy : QualificationPolicy B) (asOf : Timestamp)

/-- The same is assessed of what is known alike. -/
theorem assessed_congr (same : SameKnowledge kernel.sha key asOf db other) :
    assessed kernel confidence registry db key policy asOf =
      assessed kernel confidence registry other key policy asOf := by
  have successes := same.trials_perm.countP_eq succeeds
  have trials := same.trials_perm.length_eq
  unfold assessed trialVerdict trialScan trialBound
  rw [same.standing_eq registry, same.evidence_eq, same.invalidations_eq, successes, trials]

/-- So the decisions returned on it are the same. -/
theorem decision_congr (same : SameKnowledge kernel.sha key asOf db other)
    {next later : ObservatoryDb} {decision second : QualificationDecision B}
    (done : evaluate kernel confidence registry db key policy asOf = .ok (next, decision))
    (again : evaluate kernel confidence registry other key policy asOf = .ok (later, second)) :
    decision = second := by
  have assessments := assessed_congr kernel confidence registry key policy asOf same
  obtain ⟨record, appended, rfl⟩ :=
    evaluate_eq_ok kernel confidence registry db key policy asOf done
  obtain ⟨found, stored, rfl⟩ :=
    evaluate_eq_ok kernel confidence registry other key policy asOf again
  have recorded := (stored_of_appendQualificationDecision appended).2
  have repeated := (stored_of_appendQualificationDecision stored).2
  have sameData : decisionMetadata kernel confidence registry db key policy asOf =
      decisionMetadata kernel confidence registry other key policy asOf := by
    unfold decisionMetadata
    rw [assessments]
  rw [sameData, repeated, Except.ok.injEq] at recorded
  unfold decisionUnder
  rw [assessments, recorded]

end Depends

/-! ## One more trial that does not succeed -/

section Failure

variable {kernel : ObservatoryKernel} {db more : ObservatoryDb} {data : EvidenceMetadata}
  {record : EvidenceRecord} (done : db.appendEvidence kernel data = .ok (more, record))

include done

/-- An item is added, or was there; nothing else changes. -/
theorem added_of_appendEvidence :
    (more.evidence.rows = db.evidence.rows ∨ more.evidence.rows = db.evidence.rows ++ [record]) ∧
      more.subjects = db.subjects ∧ more.routes = db.routes ∧
      more.invalidations = db.invalidations := by
  simp only [appendEvidence, bind_eq_ok, pure_eq_ok] at done
  obtain ⟨made, recorded, table, appended, same⟩ := done
  cases same
  obtain ⟨added, found, _⟩ := appendRow_eq_ok.mp appended
  refine ⟨?_, rfl, rfl, rfl⟩
  rcases Table.append?_eq_some.mp found with ⟨inserted, _⟩ | ⟨_, rfl, _⟩
  · exact .inr (Table.rows_of_insert? inserted)
  · exact .inl rfl

/-- The trials are those before, and possibly the item. -/
theorem trialsOf_added (key : QualificationKey) (asOf : Timestamp) :
    trialsOf kernel.sha more key asOf = trialsOf kernel.sha db key asOf ∨
      trialsOf kernel.sha more key asOf = trialsOf kernel.sha db key asOf ++ [record] := by
  unfold trialsOf
  rcases (added_of_appendEvidence done).1 with same | grown
  · exact .inl (by rw [same])
  · rw [grown, List.filter_append]
    by_cases counts : isTrial kernel.sha key asOf record = true
    · exact .inr (by rw [List.filter_cons_of_pos counts, List.filter_nil])
    · exact .inl (by rw [List.filter_cons_of_neg counts, List.filter_nil, List.append_nil])

/-- A model that qualifies with a trial that does not succeed qualifies without it, if there were
enough trials and one was new enough. -/
theorem qualifies_without_failure {written : ℝ → ℚ} {registry : ProbeRegistry kernel.sha}
    {key : QualificationKey} {policy : QualificationPolicy ℝ} {asOf : Timestamp}
    (failed : succeeds record = false)
    (enough : policy.minTrials ≤ (trialsOf kernel.sha db key asOf).length)
    (fresh : ∃ item ∈ trialsOf kernel.sha db key asOf,
      asOf ≤ item.observedAt + policy.maxEvidenceAgeDays * dayMicroseconds)
    (qualifies : Qualifies (wilsonConfidence written) registry more key policy asOf) :
    Qualifies (wilsonConfidence written) registry db key policy asOf := by
  obtain ⟨_, subjects, routes, invalidations⟩ := added_of_appendEvidence done
  have member : ∀ item ∈ trialsOf kernel.sha db key asOf,
      item ∈ trialsOf kernel.sha more key asOf := by
    intro item held
    rcases trialsOf_added done key asOf with same | grown
    · exact same ▸ held
    · rw [grown]
      exact List.mem_append_left _ held
  have distinct : ((trialsOf kernel.sha db key asOf).filterMap trial?).Nodup := by
    have all := qualifies.distinct
    rcases trialsOf_added done key asOf with same | grown
    · rw [same] at all
      exact all
    · rw [grown, List.filterMap_append] at all
      exact all.of_append_left
  have some_trial : 0 < (trialsOf kernel.sha db key asOf).length :=
    lt_of_lt_of_le policy.trials_range.1 enough
  have bound : @trialBound _ kernel.sha (wilsonConfidence written) more key asOf ≤
      @trialBound _ kernel.sha (wilsonConfidence written) db key asOf := by
    have width : (0 : ℝ) ≤ 1.96 := by norm_num
    unfold trialBound
    rcases trialsOf_added done key asOf with same | grown
    · rw [same]
    · rw [grown, List.countP_append, List.countP_singleton, failed, if_neg Bool.false_ne_true,
        Nat.add_zero, List.length_append, List.length_singleton]
      unfold wilsonConfidence
      dsimp only
      exact wilsonLowerBound_antitone width some_trial (Nat.le_add_right _ _)
  exact {
    probe := qualifies.probe
    subject := by
      have known := qualifies.subject
      unfold SubjectKnown readModelSubject at known ⊢
      rw [← subjects]
      exact known
    route := by
      have known := qualifies.route
      unfold RouteBound readExecutionRoute at known ⊢
      rw [← routes]
      exact known
    clean := fun item held => qualifies.clean item (member item held)
    distinct := distinct
    enough := enough
    bound := le_trans qualifies.bound bound
    fresh := (newest_of_fresh asOf).mp fresh
    standing := by
      have empty := qualifies.standing
      unfold invalidationsOf at empty ⊢
      rw [← invalidations]
      exact empty }

end Failure

/-! ## Soundness -/

/-- A decision is the qualified one only on what qualifies; it depends only on what is known of
the key up to its instant; and one more trial that does not succeed makes a model qualified only
by completing the number of trials or by renewing their age. -/
theorem qualification_sound (kernel : ObservatoryKernel) (written : ℝ → ℚ)
    (registry : ProbeRegistry kernel.sha) (key : QualificationKey)
    (policy : QualificationPolicy ℝ) (asOf : Timestamp) :
    (∀ db next decision,
      evaluate kernel (wilsonConfidence written) registry db key policy asOf =
        .ok (next, decision) → decision.state = .qualified →
      Qualifies (wilsonConfidence written) registry db key policy asOf) ∧
    (∀ db other next later decision second, SameKnowledge kernel.sha key asOf db other →
      evaluate kernel (wilsonConfidence written) registry db key policy asOf =
        .ok (next, decision) →
      evaluate kernel (wilsonConfidence written) registry other key policy asOf =
        .ok (later, second) → decision = second) ∧
    (∀ db more data record next later decision second,
      db.appendEvidence kernel data = .ok (more, record) → succeeds record = false →
      evaluate kernel (wilsonConfidence written) registry db key policy asOf =
        .ok (next, decision) →
      evaluate kernel (wilsonConfidence written) registry more key policy asOf =
        .ok (later, second) →
      policy.minTrials ≤ decision.trials →
      (∃ item ∈ trialsOf kernel.sha db key asOf,
        asOf ≤ item.observedAt + policy.maxEvidenceAgeDays * dayMicroseconds) →
      second.state = .qualified → decision.state = .qualified) := by
  have state_iff : ∀ db next decision,
      evaluate kernel (wilsonConfidence written) registry db key policy asOf =
        .ok (next, decision) → (decision.state = .qualified ↔
      Qualifies (wilsonConfidence written) registry db key policy asOf) := by
    intro db next decision done
    obtain ⟨record, _, rfl⟩ :=
      evaluate_eq_ok kernel (wilsonConfidence written) registry db key policy asOf done
    exact assessed_qualified_iff (wilsonConfidence written) registry db key policy asOf
  refine ⟨?_, ?_, ?_⟩
  · intro db next decision done qualified
    exact (state_iff db next decision done).mp qualified
  · intro db other next later decision second same done again
    exact decision_congr kernel (wilsonConfidence written) registry key policy asOf same done again
  · intro db more data record next later decision second added failed done again enough fresh
      qualified
    have counted : decision.trials = (trialsOf kernel.sha db key asOf).length := by
      obtain ⟨_, _, rfl⟩ :=
        evaluate_eq_ok kernel (wilsonConfidence written) registry db key policy asOf done
      rfl
    rw [counted] at enough
    exact (state_iff db next decision done).mpr (qualifies_without_failure added failed enough fresh
      ((state_iff more later second again).mp qualified))

/-! ## A failed trial that completes the number of trials -/

section Undisputed

variable {B : Type} [LinearOrder B] [Zero B] [One B] {sha : Sha256} (registry : ProbeRegistry sha)
  (db : ObservatoryDb) (key : QualificationKey) (policy : QualificationPolicy B)
  (decidedAt : Timestamp) (count : Nat)

/-- Nothing is noted of a probe that is current. -/
theorem probeTexts_eq_nil : probeTexts registry key = [] ↔ ProbeCurrent registry key := by
  unfold probeTexts ProbeCurrent
  cases registry.get key.probeDigest with
  | none => simp
  | some probe => cases current : probeMatchesKey sha probe key <;> simp [current]

/-- Nothing is noted of a subject that is known. -/
theorem subjectTexts_eq_nil : subjectTexts db key = [] ↔ SubjectKnown db key := by
  unfold subjectTexts SubjectKnown
  cases db.readModelSubject key.modelSubjectId with
  | none => simp
  | some subject =>
    simp only [Option.some.injEq, exists_eq_left']
    split
    · simp_all
    · split <;> simp_all

/-- Nothing is noted of a route that is bound. -/
theorem routeTexts_eq_nil : routeTexts db key = [] ↔ RouteBound db key := by
  unfold routeTexts RouteBound
  cases db.readExecutionRoute key.routeId with
  | none => simp
  | some route =>
    simp only [Option.some.injEq, exists_eq_left']
    split <;> simp_all

/-- So many trials, and nothing speaks against them but their number and their bound. -/
def Undisputed : Prop :=
  probeTexts registry key = [] ∧ subjectTexts db key = [] ∧ routeTexts db key = [] ∧
    (trialsOf sha db key decidedAt).length = count ∧
    @allClean _ _ _ _ sha db key policy decidedAt = true ∧
    (trialsOf sha db key decidedAt).flatMap (itemTexts key policy.requireNegativeControls) = [] ∧
    @allOld _ _ _ _ sha db key policy decidedAt = false ∧
    invalidationsOf sha db key decidedAt = [] ∧ db.decisions.rows = []

instance : Decidable (Undisputed registry db key policy decidedAt count) :=
  inferInstanceAs (Decidable (_ ∧ _))

end Undisputed

section Evaluated

variable (kernel : ObservatoryKernel) (confidence : Confidence ℝ)
  (registry : ProbeRegistry kernel.sha) (db : ObservatoryDb) (key : QualificationKey)
  (policy : QualificationPolicy ℝ) (asOf : Timestamp) {count : Nat}

/-- Trials that nothing speaks against qualify when there are enough of them and their bound
reaches the minimum. -/
theorem qualifies_of_undisputed
    (undisputed : Undisputed registry db key policy asOf count) :
    Qualifies confidence registry db key policy asOf ↔ policy.minTrials ≤ count ∧
      policy.minimumLowerBound ≤ @trialBound _ kernel.sha confidence db key asOf := by
  obtain ⟨probe, subject, route, counted, clean, _, young, empty, _⟩ := undisputed
  obtain ⟨each, distinct⟩ := (trialScan_clean registry db key policy asOf).mp
    ((allClean_iff registry db key policy asOf).mp clean)
  constructor
  · intro qualifies
    exact ⟨counted ▸ qualifies.enough, qualifies.bound⟩
  · rintro ⟨enough, bound⟩
    have fresh : ∃ item ∈ trialsOf kernel.sha db key asOf,
        asOf ≤ item.observedAt + policy.maxEvidenceAgeDays * dayMicroseconds := by
      obtain ⟨item, held, new⟩ := List.all_eq_false.mp young
      exact ⟨item, held, by simpa using new⟩
    exact {
      probe := (probeTexts_eq_nil registry key).mp probe
      subject := (subjectTexts_eq_nil db key).mp subject
      route := (routeTexts_eq_nil db key).mp route
      clean := each
      distinct := distinct
      enough := counted ▸ enough
      bound := bound
      fresh := (newest_of_fresh asOf).mp fresh
      standing := empty }

/-- All that is noted of them is their number or their bound. -/
theorem notedTexts_of_undisputed
    (undisputed : Undisputed registry db key policy asOf count) :
    notedTexts confidence registry db key policy asOf =
      @evidenceTexts _ _ _ _ kernel.sha confidence db key policy asOf := by
  obtain ⟨probe, subject, route, counted, clean, silent, young, empty, _⟩ := undisputed
  obtain ⟨_, distinct⟩ := (trialScan_clean registry db key policy asOf).mp
    ((allClean_iff registry db key policy asOf).mp clean)
  unfold notedTexts ageTexts invalidationTexts
  rw [probe, subject, route, silent, if_pos distinct, young, if_pos empty]
  simp

/-- What is noted of the number or the bound is short. -/
theorem evidenceTexts_short :
    textsBytes (@evidenceTexts _ _ _ _ kernel.sha confidence db key policy asOf).dedup ≤ 100 := by
  unfold evidenceTexts
  split
  · decide
  split
  · decide
  split
  · decide
  split <;> decide

/-- Few digits write a number below a million. -/
theorem intBytes_le {count : Nat} (small : count < 1000000) : intBytes count ≤ 6 := by
  unfold intBytes
  rw [if_neg (by omega), Nat.zero_add, Int.natAbs_natCast]
  exact Nat.toDigits_length 10 count 6 (by decide) small

/-- A few trials that nothing speaks against are decided on. -/
theorem evaluate_of_undisputed (few : count ≤ 900)
    (class_short : textBytes key.contextClass ≤ 100)
    (written_short : ∀ value, (kernel.floatRepr value).length ≤ 24)
    (undisputed : Undisputed registry db key policy asOf count) :
    ∃ next decision, evaluate kernel confidence registry db key policy asOf =
        .ok (next, decision) ∧
      (decision.state = .qualified ↔ policy.minTrials ≤ count ∧
        policy.minimumLowerBound ≤ @trialBound _ kernel.sha confidence db key asOf) := by
  obtain ⟨_, _, _, counted, _, _, _, empty, undecided⟩ := id undisputed
  have noted := evidenceTexts_short kernel confidence db key policy asOf
  rw [← notedTexts_of_undisputed kernel confidence registry db key policy asOf
    undisputed] at noted
  have fits : decisionBytes kernel confidence registry db key policy asOf ≤ maxCanonicalBytes := by
    have written := written_short (confidence.written
      (@trialBound _ kernel.sha confidence db key asOf))
    have successes := @intBytes_le ((trialsOf kernel.sha db key asOf).countP succeeds)
      (by have := List.countP_le_length (p := succeeds) (l := trialsOf kernel.sha db key asOf); omega)
    have trials := @intBytes_le (trialsOf kernel.sha db key asOf).length (by omega)
    unfold decisionBytes idBytes maxCanonicalBytes
    rw [empty, counted] at *
    simp only [List.length_nil]
    omega
  obtain ⟨next, decision, done, state, _⟩ :=
    evaluate_of_undecided kernel confidence registry db key policy asOf undecided fits
  refine ⟨next, decision, done, ?_⟩
  rw [state, ← qualifies_of_undisputed kernel confidence registry db key policy asOf
    undisputed]
  exact assessed_qualified_iff confidence registry db key policy asOf

end Evaluated


/-- A digest that can be evaluated, and at most 24 characters for a float. -/
def decimalKernel : ObservatoryKernel where
  sha := foldDigest
  floatRepr value := String.ofList ((toString value).toList.take 24)

/-- A bound cut off behind 17 decimals. -/
noncomputable def cutOff (bound : ℝ) : ℚ := ⌊bound * 10 ^ 17⌋ / 10 ^ 17

/-- A snapshot. -/
def sampleSnapshot : SnapshotMetadata where
  sourceId := "model_watch"
  observedAt := 1
  requestShapeSha256 := 11
  rawBytesSha256 := 12
  parserVersion := "v1"
  normalizedBytesSha256 := none
  expectedId := none

/-- A model that was resolved. -/
def sampleSubject : ModelSubject where
  vendor := "vendor"
  vendorModelId := "model-1"
  concreteRevision := none
  identityStatus := .resolved
  firstSeenSnapshotId :=
    foldDigest.sha256Id "source_snapshot_v1" sampleSnapshot.toSnapshotIdentity.toDict
  vendor_valid := by decide
  model_valid := by decide
  revision_valid := by decide

/-- A route to it. -/
def sampleRoute : ExecutionRouteIdentity where
  modelSubjectId := sampleSubject.subjectId foldDigest
  providerId := "provider"
  endpointIdentity := "https://provider.example/v1"
  providerModelId := "model-1"
  parameterProfileDigest := 13
  promptCompilerVersion := "v1"
  dataPolicySnapshotId := 14
  identifiers := by decide
  texts_valid := by decide

/-- A probe. -/
def sampleProbe : ProbeDefinition where
  probeId := "probe"
  probeClass := "P0_exact_output"
  version := "v1"
  roleDigest := 3
  contextClass := "bounded_worker"
  verifierSuiteDigest := 4
  taskPackDigest := 15
  heldOutVariantCount := 1
  costCeilingUsd := 0
  mutationControls := []
  contaminationNotesDigest := none
  identifiers := by decide
  class_known := by decide
  count_range := samplePolicy.trials_range
  cost_nonneg := le_refl 0
  controls_valid := by decide

/-- Its registry. -/
def sampleRegistry : ProbeRegistry decimalKernel.sha :=
  ⟨[sampleProbe], List.nodup_singleton _, List.nodup_singleton _⟩

/-- The key of the model, its route and the probe. -/
def boundKey : QualificationKey where
  modelSubjectId := sampleSubject.subjectId foldDigest
  routeId := sampleRoute.routeId foldDigest
  roleDigest := 3
  contextClass := "bounded_worker"
  verifierSuiteDigest := 4
  probeDigest := sampleProbe.probeDigest foldDigest
  context_valid := sampleKey.context_valid

/-- A policy that asks for two trials, and for no bound. -/
noncomputable def twoTrials : QualificationPolicy ℝ where
  minTrials := 2
  minimumLowerBound := 0
  maxEvidenceAgeDays := 1
  requireNegativeControls := false
  trials_range := by decide
  bound_range := by norm_num
  age_range := samplePolicy.age_range

/-- A trial bound to the key. -/
def boundTrial (trialId : Nat) (passed : Bool) : EvidenceMetadata where
  qualificationKey := boundKey.digest foldDigest
  kind := "probe_result"
  subjectDigest := boundKey.modelSubjectId
  observedAt := 5
  payload := .obj (bindings boundKey ++
    [("blind_spots", .arr []), ("trial_id", .str (digestText trialId)),
      ("provider_terminal_success", .bool passed), ("verifier_passed", .bool true),
      ("negative_control_passed", .bool true), ("bound_versions_current", .bool true),
      ("lineage_complete", .bool true), ("conflicting", .bool false)])
  expectedId := none

/-- A database with a clean trial. -/
def cleanDb : ObservatoryDb := (machine decimalKernel).run initial
  [.snapshot sampleSnapshot, .modelSubject sampleSubject, .executionRoute sampleRoute,
    .evidence (boundTrial 1 true)]

/-- Nothing speaks against the trial. -/
theorem cleanDb_undisputed : Undisputed sampleRegistry cleanDb boundKey twoTrials 7 1 := by
  decide +kernel

/-- Nor against it and a failed one. -/
theorem failed_undisputed : ∃ more record,
    cleanDb.appendEvidence decimalKernel (boundTrial 2 false) = .ok (more, record) ∧
      succeeds record = false ∧ Undisputed sampleRegistry more boundKey twoTrials 7 2 := by
  have decided : (cleanDb.appendEvidence decimalKernel (boundTrial 2 false)).toOption.any
      (fun result => !succeeds result.2 &&
        decide (Undisputed sampleRegistry result.1 boundKey twoTrials 7 2)) = true := by
    decide +kernel
  obtain ⟨⟨more, record⟩, added, passed⟩ := exists_ok_of_any decided
  rw [Bool.and_eq_true, Bool.not_eq_true', decide_eq_true_eq] at passed
  exact ⟨more, record, added, passed.1, passed.2⟩

/-- The kernel writes floats in at most 24 characters. -/
theorem decimalKernel_short (value : ℚ) : (decimalKernel.floatRepr value).length ≤ 24 := by
  show (String.ofList _).length ≤ 24
  rw [String.length_ofList]
  exact List.length_take_le 24 _

/-- A database that calls lead to, where a trial that does not succeed makes a model qualified:
it completes the number of trials. -/
theorem qualified_by_failure : Reachable decimalKernel cleanDb ∧ ∃ more record next decision later
    second, cleanDb.appendEvidence decimalKernel (boundTrial 2 false) = .ok (more, record) ∧
      succeeds record = false ∧
      evaluate decimalKernel (wilsonConfidence cutOff) sampleRegistry cleanDb boundKey twoTrials 7 =
        .ok (next, decision) ∧ decision.state ≠ .qualified ∧
      evaluate decimalKernel (wilsonConfidence cutOff) sampleRegistry more boundKey twoTrials 7 =
        .ok (later, second) ∧ second.state = .qualified := by
  obtain ⟨more, record, added, failed, both⟩ := failed_undisputed
  have named : textBytes boundKey.contextClass ≤ 100 := by decide
  obtain ⟨next, decision, done, first⟩ := evaluate_of_undisputed decimalKernel
    (wilsonConfidence cutOff) sampleRegistry cleanDb boundKey twoTrials 7 (by decide) named
    decimalKernel_short cleanDb_undisputed
  obtain ⟨later, second, again, state⟩ := evaluate_of_undisputed decimalKernel
    (wilsonConfidence cutOff) sampleRegistry more boundKey twoTrials 7 (by decide) named
    decimalKernel_short both
  refine ⟨⟨_, rfl⟩, more, record, next, decision, later, second, added, failed, done, ?_, again, ?_⟩
  · intro qualified
    have enough : 2 ≤ 1 := (first.mp qualified).1
    exact absurd enough (by decide)
  · exact state.mpr ⟨Nat.le_refl 2, wilsonLowerBound_nonneg _ _ _⟩

/-- Both trials together qualify, and the decision on them rests on what qualifies. -/
theorem qualified_soundly : ∃ more record later second,
    cleanDb.appendEvidence decimalKernel (boundTrial 2 false) = .ok (more, record) ∧
      evaluate decimalKernel (wilsonConfidence cutOff) sampleRegistry more boundKey twoTrials 7 =
        .ok (later, second) ∧
      Qualifies (wilsonConfidence cutOff) sampleRegistry more boundKey twoTrials 7 := by
  obtain ⟨more, record, added, _, both⟩ := failed_undisputed
  obtain ⟨later, second, done, state⟩ := evaluate_of_undisputed decimalKernel
    (wilsonConfidence cutOff) sampleRegistry more boundKey twoTrials 7 (by decide) (by decide)
    decimalKernel_short both
  have qualified := state.mpr ⟨Nat.le_refl 2, wilsonLowerBound_nonneg _ _ _⟩
  exact ⟨more, record, later, second, added, done,
    (qualification_sound decimalKernel cutOff sampleRegistry boundKey twoTrials 7).1 more later
      second done qualified⟩

end Macr.QualificationEngine
