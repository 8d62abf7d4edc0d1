import Macr.Observatory.Additions
import Macr.Observatory.Scan
import Mathlib.Data.Finset.Max

/-!
# When a model is qualified

The state is computed by a cascade in which each stage overrules the one before. A model comes out
of it qualified exactly when no stage has anything against it, and this is said of the stored rows
without their order.
-/

namespace Macr.QualificationEngine

open Lib Observatory ObservatoryDb

section Trials

variable (sha : Sha256) (db : ObservatoryDb) (key : QualificationKey) (decidedAt : Timestamp)

/-- The item is a trial of the key up to an instant. -/
def isTrial (item : EvidenceRecord) : Bool :=
  item.qualificationKey = key.digest sha && item.kind = "probe_result" &&
    item.observedAt ≤ decidedAt

/-- The trials of the key up to an instant, as they were stored. -/
def trialsOf : List EvidenceRecord := db.evidence.rows.filter (isTrial sha key decidedAt)

/-- The invalidation is one of the key up to an instant. -/
def isInvalidation (item : QualificationInvalidationRecord) : Bool :=
  item.qualificationKey = key.digest sha && item.invalidatedAt ≤ decidedAt

/-- The invalidations of the key up to an instant, as they were stored. -/
def invalidationsOf : List QualificationInvalidationRecord :=
  db.invalidations.rows.filter (isInvalidation sha key decidedAt)

/-- What is read is what is stored, in order. -/
theorem evidenceUpTo_eq : evidenceUpTo sha db key decidedAt =
    sortOn (fun item => toLex (item.observedAt, item.evidenceId))
      (trialsOf sha db key decidedAt) := by
  unfold evidenceUpTo readEvidence trialsOf
  rw [filter_sortOn, List.filter_filter]
  congr 2
  funext item
  simp only [isTrial, Bool.decide_and, Bool.and_assoc, Bool.and_comm, Bool.and_left_comm]

/-- The same of invalidations, which are sorted twice. -/
theorem invalidationsUpTo_eq : invalidationsUpTo sha db key decidedAt =
    sortOn (fun item => toLex (item.invalidatedAt, item.invalidationId))
      (invalidationsOf sha db key decidedAt) := by
  unfold invalidationsUpTo readQualificationInvalidations invalidationsOf
  rw [filter_sortOn, List.filter_filter]
  have again : ∀ items : List QualificationInvalidationRecord,
      sortOn (fun item => toLex (item.invalidatedAt, item.invalidationId))
        (sortOn (fun item => toLex (item.invalidatedAt, item.invalidationId)) items) =
      sortOn (fun item => toLex (item.invalidatedAt, item.invalidationId)) items :=
    fun items => List.Pairwise.insertionSort_eq (sortOn_pairwise items)
  rw [again]
  congr 2
  funext item
  simp only [isInvalidation, Bool.and_comm]

theorem evidenceUpTo_perm :
    (evidenceUpTo sha db key decidedAt).Perm (trialsOf sha db key decidedAt) := by
  rw [evidenceUpTo_eq]
  exact sortOn_perm _ _

theorem invalidationsUpTo_perm :
    (invalidationsUpTo sha db key decidedAt).Perm (invalidationsOf sha db key decidedAt) := by
  rw [invalidationsUpTo_eq]
  exact sortOn_perm _ _

/-- No trial was observed after the last that is read. -/
theorem observedAt_le_of_last {latest : EvidenceRecord}
    (last : (evidenceUpTo sha db key decidedAt).getLast? = some latest) :
    ∀ item ∈ evidenceUpTo sha db key decidedAt, item.observedAt ≤ latest.observedAt := by
  have sorted := @sortOn_pairwise _ _ _ (fun item : EvidenceRecord =>
    toLex (item.observedAt, item.evidenceId)) (trialsOf sha db key decidedAt)
  rw [← evidenceUpTo_eq] at sorted
  obtain ⟨front, split⟩ := List.getLast?_eq_some_iff.mp last
  intro item member
  rw [split] at sorted member
  rcases List.mem_append.mp member with before | here
  · have less := (List.pairwise_append.mp sorted).2.2 item before latest (List.mem_singleton.mpr rfl)
    rcases Prod.Lex.toLex_le_toLex.mp less with earlier | ⟨same, _⟩
    · exact earlier.le
    · exact same.le
  · rw [List.mem_singleton.mp here]

end Trials

/-! ## The components of the key -/

section Standing

variable {sha : Sha256} (registry : ProbeRegistry sha) (db : ObservatoryDb)
  (key : QualificationKey)

/-- The probe is registered and bound to the key. -/
def ProbeCurrent : Prop :=
  ∃ probe, registry.get key.probeDigest = some probe ∧ probeMatchesKey sha probe key = true

/-- The subject is resolved or claimed. -/
def SubjectKnown : Prop :=
  ∃ subject, db.readModelSubject key.modelSubjectId = some subject ∧
    (field? subject.canonicalJson "identity_status" = some (.str "resolved") ∨
      field? subject.canonicalJson "identity_status" = some (.str "claimed"))

/-- The route is one of the subject. -/
def RouteBound : Prop :=
  ∃ route, db.readExecutionRoute key.routeId = some route ∧
    route.modelSubjectId = key.modelSubjectId

/-- A state is forced that is not the qualified one. -/
def Unforced (standing : Standing) : Prop := standing.forcedState ≠ some .qualified

theorem checkProbe_forced (standing : Standing) :
    (checkProbe registry key standing).forcedState = none ↔
      standing.forcedState = none ∧ ProbeCurrent registry key := by
  unfold checkProbe ProbeCurrent
  cases found : registry.get key.probeDigest with
  | none => simp [Standing.force]
  | some probe =>
    cases matched : probeMatchesKey sha probe key <;> simp [Standing.force, matched]

theorem checkProbe_unforced {standing : Standing} (unforced : Unforced standing) :
    Unforced (checkProbe registry key standing) := by
  unfold checkProbe
  split
  · simp [Unforced, Standing.force]
  · split
    · exact unforced
    · simp [Unforced, Standing.force]

theorem checkSubject_forced (standing : Standing) :
    (checkSubject db key standing).forcedState = none ↔
      standing.forcedState = none ∧ SubjectKnown db key := by
  unfold checkSubject SubjectKnown
  cases found : db.readModelSubject key.modelSubjectId with
  | none => simp [Standing.force]
  | some subject =>
    by_cases known : field? subject.canonicalJson "identity_status" = some (.str "resolved") ∨
        field? subject.canonicalJson "identity_status" = some (.str "claimed")
    · simp [known]
    · by_cases open_ : field? subject.canonicalJson "identity_status" = some (.str "unresolved") <;>
        simp [known, open_, Standing.force]

theorem checkSubject_unforced {standing : Standing} (unforced : Unforced standing) :
    Unforced (checkSubject db key standing) := by
  unfold checkSubject
  split
  · simp [Unforced, Standing.force]
  · dsimp only
    split
    · exact unforced
    · split <;> simp [Unforced, Standing.force]

/-- A subject that is known is not unresolved. -/
theorem checkSubject_identity (standing : Standing) (known : SubjectKnown db key) :
    (checkSubject db key standing).identityStatus ≠ some (.str "unresolved") := by
  obtain ⟨subject, found, status⟩ := known
  unfold checkSubject
  rw [found]
  dsimp only
  rw [if_pos status]
  rcases status with resolved | claimed
  · simp [resolved]
  · simp [claimed]

theorem checkRoute_forced (standing : Standing) :
    (checkRoute db key standing).forcedState = none ↔
      standing.forcedState = none ∧ RouteBound db key := by
  unfold checkRoute RouteBound
  cases found : db.readExecutionRoute key.routeId with
  | none => simp [Standing.force]
  | some route =>
    by_cases same : route.modelSubjectId = key.modelSubjectId <;> simp [Standing.force, same]

theorem checkRoute_unforced {standing : Standing} (unforced : Unforced standing) :
    Unforced (checkRoute db key standing) := by
  unfold checkRoute
  split
  · simp [Unforced, Standing.force]
  · split
    · exact unforced
    · simp [Unforced, Standing.force]

@[simp] theorem checkRoute_identity (standing : Standing) :
    (checkRoute db key standing).identityStatus = standing.identityStatus := by
  unfold checkRoute
  split
  · rfl
  · split <;> rfl

/-- No state is forced when every component is current. -/
theorem standing_forced : (standing registry db key).forcedState = none ↔
    ProbeCurrent registry key ∧ SubjectKnown db key ∧ RouteBound db key := by
  unfold standing
  rw [checkRoute_forced, checkSubject_forced, checkProbe_forced]
  simp [and_assoc]

theorem standing_unforced : Unforced (standing registry db key) :=
  checkRoute_unforced db key (checkSubject_unforced db key (checkProbe_unforced registry key
    (by simp [Unforced])))

theorem standing_identity (known : SubjectKnown db key) :
    (standing registry db key).identityStatus ≠ some (.str "unresolved") := by
  unfold standing
  rw [checkRoute_identity]
  exact checkSubject_identity db key _ known

end Standing

/-! ## The cascade -/

section Cascade

variable {B : Type} [LinearOrder B] [Zero B] [One B]

theorem forcedVerdict_qualified {forcedState : Option QualificationState}
    {state : QualificationState} (unforced : forcedState ≠ some .qualified) :
    forcedVerdict forcedState state = .qualified ↔ forcedState = none ∧ state = .qualified := by
  unfold forcedVerdict
  cases forcedState with
  | none => simp
  | some forced =>
    have other : forced ≠ .qualified := fun same => unforced (congrArg some same)
    by_cases kept : state = .rejected ∨ state = .revoked ∨ state = .suspended
    · simp only [if_pos kept, reduceCtorEq, false_and, iff_false]
      rintro rfl
      simp at kept
    · simp [if_neg kept, other]

theorem invalidationVerdict_qualified {invalidations : List QualificationInvalidationRecord}
    {verdict : Verdict} : (invalidationVerdict invalidations verdict).1 = .qualified ↔
      invalidations = [] ∧ verdict.1 = .qualified := by
  unfold invalidationVerdict
  by_cases none : invalidations = []
  · simp [none]
  · rw [if_neg none]
    simp only [none, false_and, iff_false]
    split
    · exact nofun
    · split
      · exact nofun
      · split <;> exact nofun

theorem ageVerdict_qualified {tooOld : Bool} {verdict : Verdict} :
    (ageVerdict tooOld verdict).1 = .qualified ↔ tooOld = false ∧ verdict.1 = .qualified := by
  unfold ageVerdict
  cases tooOld with
  | false => simp
  | true =>
    simp only [if_true, Bool.true_eq_false, false_and, iff_false]
    split <;> simp

theorem evidenceVerdict_qualified {policy : QualificationPolicy B} {identityStatus : Option Json}
    {scan : Scan} {lowerBound : B} {evidence : List EvidenceRecord} :
    (evidenceVerdict policy identityStatus scan lowerBound evidence).1 = .qualified ↔
      evidence ≠ [] ∧ scan.sawRejection = false ∧ scan.sawStale = false ∧
        scan.sawIncompleteLineage = false ∧ identityStatus ≠ some (.str "unresolved") ∧
        policy.minTrials ≤ scan.trials ∧ policy.minimumLowerBound ≤ lowerBound := by
  unfold evidenceVerdict
  by_cases none : evidence = []
  · simp [none]
  cases rejection : scan.sawRejection with
  | true => simp [none]
  | false =>
    cases stale : scan.sawStale with
    | true => simp [none]
    | false =>
      cases incomplete : scan.sawIncompleteLineage with
      | true => simp [none]
      | false =>
        by_cases unresolved : identityStatus = some (.str "unresolved")
        · simp [none, unresolved]
        by_cases few : scan.trials < policy.minTrials
        · simp [none, unresolved, few]
        by_cases low : lowerBound < policy.minimumLowerBound
        · simp [none, unresolved, few, low]
        · simp [none, unresolved, few, low, not_lt.mp few, not_lt.mp low]

end Cascade

/-! ## Clean trials -/

/-- A trial is well formed, bound to the key, of complete lineage and not contradicted, and has
passed the negative control where that is required. -/
structure CleanTrial (key : QualificationKey) (required : Bool) (item : EvidenceRecord) : Prop where
  /-- It states so itself. -/
  states : ∃ outcome, judged? item = some outcome ∧ outcome.boundVersionsCurrent = true ∧
    outcome.lineageComplete = true ∧ outcome.conflicting = false ∧
    (required = true → outcome.negativeControlPassed = true)
  /-- It is about the subject. -/
  subject : item.subjectDigest = key.modelSubjectId
  /-- It is about the components. -/
  bound : isBound key item.canonicalJson = true

theorem trial_of_judged {item : EvidenceRecord} {outcome : TrialOutcome}
    (judged : judged? item = some outcome) : (trial? item).isSome = true := by
  unfold judged? at judged
  cases readable : trial? item with
  | none => simp [readable] at judged
  | some trialId => rfl

/-- A trial is clean when nothing in it speaks against the evidence. -/
theorem cleanTrial_iff {key : QualificationKey} {required : Bool} {item : EvidenceRecord} :
    CleanTrial key required item ↔
      rejects required item = false ∧ isStale key item = false ∧ isOrphan key item = false := by
  unfold rejects isStale isOrphan
  cases judged : judged? item with
  | none =>
    constructor
    · rintro ⟨⟨outcome, stated, _⟩, _⟩
      rw [judged] at stated
      cases stated
    · rintro ⟨rejected, _⟩
      cases rejected
  | some outcome =>
    simp only [trial_of_judged judged, Option.all_some, Option.any_some, Bool.true_and,
      Bool.or_eq_false_iff, Bool.not_eq_false', Bool.and_eq_false_iff, decide_eq_false_iff_not,
      not_not]
    constructor
    · rintro ⟨⟨other, stated, versions, lineage, agreed, control⟩, subject, bound⟩
      rw [judged] at stated
      cases stated
      refine ⟨⟨agreed, ?_⟩, ⟨bound, versions⟩, subject, lineage⟩
      cases required with
      | false => exact .inl rfl
      | true => exact .inr (control rfl)
    · rintro ⟨⟨agreed, control⟩, ⟨bound, versions⟩, subject, lineage⟩
      refine ⟨⟨outcome, judged, versions, lineage, agreed, fun isRequired => ?_⟩, subject, bound⟩
      rcases control with free | passed
      · rw [isRequired] at free
        cases free
      · exact passed

/-! ## The decision -/

section Decision

variable {B : Type} [LinearOrder B] [Zero B] [One B] {sha : Sha256} (confidence : Confidence B)
  (registry : ProbeRegistry sha) (db : ObservatoryDb) (key : QualificationKey)
  (policy : QualificationPolicy B) (decidedAt : Timestamp)

/-- The scan of the trials that are read. -/
def trialScan : Scan :=
  scanEvidence key policy (standing registry db key).blindSpots (evidenceUpTo sha db key decidedAt)

theorem trialScan_trials : (trialScan registry db key policy decidedAt).trials =
    (trialsOf sha db key decidedAt).length := by
  unfold trialScan scanEvidence
  rw [fold_trials, Nat.zero_add]
  exact (evidenceUpTo_perm sha db key decidedAt).length_eq

theorem trialScan_successes : (trialScan registry db key policy decidedAt).successes =
    (trialsOf sha db key decidedAt).countP succeeds := by
  unfold trialScan scanEvidence
  rw [fold_successes, Nat.zero_add]
  exact (evidenceUpTo_perm sha db key decidedAt).countP_eq succeeds

/-- The confidence bound of the trials. -/
def trialBound : B :=
  confidence.lowerBound ((trialsOf sha db key decidedAt).countP succeeds)
    (trialsOf sha db key decidedAt).length

/-- The verdict before a state is forced. -/
def trialVerdict : Verdict :=
  invalidationVerdict (invalidationsUpTo sha db key decidedAt)
    (ageVerdict (isTooOld policy decidedAt (evidenceUpTo sha db key decidedAt))
      (evidenceVerdict policy (standing registry db key).identityStatus
        (trialScan registry db key policy decidedAt)
        (@trialBound _ sha confidence db key decidedAt) (evidenceUpTo sha db key decidedAt)))

/-- What `assess` returns: the counts always pass their check. -/
theorem assess_eq : assess confidence registry db key policy decidedAt = .ok {
    state := forcedVerdict (standing registry db key).forcedState
      (trialVerdict confidence registry db key policy decidedAt).1
    blindSpots := sortOn id (trialVerdict confidence registry db key policy decidedAt).2
    evidenceIds := (evidenceUpTo sha db key decidedAt).map (·.evidenceId)
    invalidationIds := (invalidationsUpTo sha db key decidedAt).map (·.invalidationId)
    successes := (trialsOf sha db key decidedAt).countP succeeds
    trials := (trialsOf sha db key decidedAt).length
    lowerBound := @trialBound _ sha confidence db key decidedAt } := by
  have counts : ¬(trialScan registry db key policy decidedAt).trials <
      (trialScan registry db key policy decidedAt).successes := by
    rw [trialScan_trials, trialScan_successes]
    exact not_lt.mpr List.countP_le_length
  have bound : confidence.wilson (trialScan registry db key policy decidedAt).successes
      (trialScan registry db key policy decidedAt).trials =
      .ok (@trialBound _ sha confidence db key decidedAt) := by
    unfold Confidence.wilson
    rw [raiseIf_bind_of_not counts, trialScan_trials, trialScan_successes]
    rfl
  unfold assess
  show (confidence.wilson (trialScan registry db key policy decidedAt).successes
    (trialScan registry db key policy decidedAt).trials >>= _) = _
  rw [bound, ok_bind, ← trialScan_trials registry db key policy decidedAt,
    ← trialScan_successes registry db key policy decidedAt]
  rfl

/-- Some trial is new enough: the newest is. -/
theorem isTooOld_eq_false (some_trial : evidenceUpTo sha db key decidedAt ≠ []) :
    isTooOld policy decidedAt (evidenceUpTo sha db key decidedAt) = false ↔
      ∃ item ∈ trialsOf sha db key decidedAt,
        decidedAt ≤ item.observedAt + policy.maxEvidenceAgeDays * dayMicroseconds := by
  unfold isTooOld
  cases last : (evidenceUpTo sha db key decidedAt).getLast? with
  | none => exact absurd (List.getLast?_eq_none_iff.mp last) some_trial
  | some latest =>
    have member : latest ∈ evidenceUpTo sha db key decidedAt := List.mem_of_getLast? last
    have stored := (evidenceUpTo_perm sha db key decidedAt).mem_iff.mp member
    simp only [decide_eq_false_iff_not, not_lt]
    constructor
    · intro young
      exact ⟨latest, stored, Nat.sub_le_iff_le_add'.mp young⟩
    · rintro ⟨item, held, young⟩
      have before := observedAt_le_of_last sha db key decidedAt last item
        ((evidenceUpTo_perm sha db key decidedAt).mem_iff.mpr held)
      exact Nat.sub_le_iff_le_add'.mpr (le_trans young (Nat.add_le_add_right before _))

/-- Nothing speaks against the model. -/
structure Qualifies : Prop where
  /-- The probe is registered and bound to the key. -/
  probe : ProbeCurrent registry key
  /-- The subject is resolved or claimed. -/
  subject : SubjectKnown db key
  /-- The route is bound to the subject. -/
  route : RouteBound db key
  /-- Every trial is clean. -/
  clean : ∀ item ∈ trialsOf sha db key decidedAt,
    CleanTrial key policy.requireNegativeControls item
  /-- No trial occurs twice. -/
  distinct : ((trialsOf sha db key decidedAt).filterMap trial?).Nodup
  /-- There are enough of them. -/
  enough : policy.minTrials ≤ (trialsOf sha db key decidedAt).length
  /-- The bound reaches the minimum. -/
  bound : policy.minimumLowerBound ≤ @trialBound _ sha confidence db key decidedAt
  /-- The newest is new enough. -/
  fresh : ∃ newest ∈ trialsOf sha db key decidedAt,
    (∀ item ∈ trialsOf sha db key decidedAt, item.observedAt ≤ newest.observedAt) ∧
      decidedAt ≤ newest.observedAt + policy.maxEvidenceAgeDays * dayMicroseconds
  /-- There is no invalidation. -/
  standing : invalidationsOf sha db key decidedAt = []

/-- Some trial is new enough exactly when a newest one is. -/
theorem newest_of_fresh {items : List EvidenceRecord} {limit : Nat} :
    (∃ item ∈ items, decidedAt ≤ item.observedAt + limit) ↔
      ∃ newest ∈ items, (∀ item ∈ items, item.observedAt ≤ newest.observedAt) ∧
        decidedAt ≤ newest.observedAt + limit := by
  constructor
  · rintro ⟨item, held, young⟩
    have some_item : items.toFinset.Nonempty := ⟨item, List.mem_toFinset.mpr held⟩
    obtain ⟨newest, member, last⟩ := items.toFinset.exists_max_image (·.observedAt) some_item
    have after := last item (List.mem_toFinset.mpr held)
    exact ⟨newest, List.mem_toFinset.mp member,
      fun other listed => last other (List.mem_toFinset.mpr listed),
      le_trans young (Nat.add_le_add_right after _)⟩
  · rintro ⟨newest, member, _, young⟩
    exact ⟨newest, member, young⟩

/-- The scan has nothing against the evidence exactly when every trial is clean and none occurs
twice. -/
theorem trialScan_clean :
    ((trialScan registry db key policy decidedAt).sawRejection = false ∧
      (trialScan registry db key policy decidedAt).sawStale = false ∧
      (trialScan registry db key policy decidedAt).sawIncompleteLineage = false) ↔
      (∀ item ∈ trialsOf sha db key decidedAt,
        CleanTrial key policy.requireNegativeControls item) ∧
      ((trialsOf sha db key decidedAt).filterMap trial?).Nodup := by
  have perm := evidenceUpTo_perm sha db key decidedAt
  have rejection : (trialScan registry db key policy decidedAt).sawRejection = false ↔
      (∀ item ∈ trialsOf sha db key decidedAt,
        rejects policy.requireNegativeControls item = false) ∧
      ((trialsOf sha db key decidedAt).filterMap trial?).Nodup := by
    rw [← Bool.not_eq_true, trialScan, scanEvidence, fold_sawRejection,
      ← (perm.filterMap trial?).nodup_iff]
    simp [Repeats, perm.mem_iff]
  have stale : (trialScan registry db key policy decidedAt).sawStale = false ↔
      ∀ item ∈ trialsOf sha db key decidedAt, isStale key item = false := by
    rw [trialScan, scanEvidence, fold_sawStale]
    simp [perm.mem_iff]
  have incomplete : (trialScan registry db key policy decidedAt).sawIncompleteLineage = false ↔
      ∀ item ∈ trialsOf sha db key decidedAt, isOrphan key item = false := by
    rw [trialScan, scanEvidence, fold_sawIncompleteLineage]
    simp [perm.mem_iff]
  rw [rejection, stale, incomplete]
  simp only [cleanTrial_iff]
  constructor
  · rintro ⟨⟨first, distinct⟩, second, third⟩
    exact ⟨fun item held => ⟨first item held, second item held, third item held⟩, distinct⟩
  · rintro ⟨all, distinct⟩
    exact ⟨⟨fun item held => (all item held).1, distinct⟩, fun item held => (all item held).2.1,
      fun item held => (all item held).2.2⟩

/-- The state is the qualified one exactly when nothing speaks against the model. -/
theorem assessed_qualified_iff :
    forcedVerdict (standing registry db key).forcedState
        (trialVerdict confidence registry db key policy decidedAt).1 = .qualified ↔
      Qualifies confidence registry db key policy decidedAt := by
  have perm := evidenceUpTo_perm sha db key decidedAt
  have nothing : invalidationsUpTo sha db key decidedAt = [] ↔
      invalidationsOf sha db key decidedAt = [] := by
    rw [← List.length_eq_zero_iff, ← List.length_eq_zero_iff,
      (invalidationsUpTo_perm sha db key decidedAt).length_eq]
  rw [forcedVerdict_qualified (standing_unforced registry db key), standing_forced, trialVerdict,
    invalidationVerdict_qualified, ageVerdict_qualified, evidenceVerdict_qualified,
    trialScan_trials, nothing]
  constructor
  · rintro ⟨⟨probe, subject, route⟩, empty, young, some_trial, rejection, stale, incomplete, _,
      enough, bound⟩
    obtain ⟨clean, distinct⟩ := (trialScan_clean registry db key policy decidedAt).mp
      ⟨rejection, stale, incomplete⟩
    have fresh := (isTooOld_eq_false db key policy decidedAt some_trial).mp young
    exact ⟨probe, subject, route, clean, distinct, enough, bound,
      (newest_of_fresh decidedAt).mp fresh, empty⟩
  · rintro ⟨probe, subject, route, clean, distinct, enough, bound, young, empty⟩
    obtain ⟨newest, held, _⟩ := id young
    have some_trial : evidenceUpTo sha db key decidedAt ≠ [] :=
      List.ne_nil_of_mem (perm.mem_iff.mpr held)
    obtain ⟨rejection, stale, incomplete⟩ := (trialScan_clean registry db key policy decidedAt).mpr
      ⟨clean, distinct⟩
    exact ⟨⟨probe, subject, route⟩, empty,
      (isTooOld_eq_false db key policy decidedAt some_trial).mpr
        ((newest_of_fresh decidedAt).mpr young),
      some_trial, rejection, stale, incomplete, standing_identity registry db key subject, enough,
      bound⟩

end Decision

end Macr.QualificationEngine
