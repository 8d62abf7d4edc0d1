import Macr.Planning.HardGates

/-!
# Chains of fallback plans

A revision never binds a route twice and always prices the binding it makes. Its records are those
of the first plan without the routes bound since; whether they describe the state the revision was
given decides whether the revision is right for that state.
-/

namespace Macr.DynamicCoordinationPlanner

open Lib

variable {sha : Sha256}

/-- A candidate ranks before another when both can be ranked and its key is smaller. -/
def RanksBefore (candidate other : PlanningCandidate) : Prop :=
  ∃ lower higher, rankKey candidate = .ok lower ∧ rankKey other = .ok higher ∧ lower < higher

/-- The records of the candidates of a state that pass every gate, without the used routes. -/
def openRecords (sha : Sha256) (input : PlanningInput) (state : PlanningState sha)
    (used : List Digest) : List EligibleCandidate :=
  ((allowed sha input state).filterMap
    (fun candidate => (eligibleRecord sha candidate).toOption)).filter (·.routeId ∉ used)

/-- The records of the candidates of a state that a gate excludes, without the used routes. -/
def closedRecords (sha : Sha256) (input : PlanningInput) (state : PlanningState sha)
    (used : List Digest) : List ExcludedCandidate :=
  (excluded sha input state).filter (·.routeId ∉ used)

/-- The routes that plans bind. -/
def boundRoutes (plans : List CoordinationPlan) : List Digest :=
  plans.flatMap (fun plan => plan.bindings.map (·.routeId))

/-- A plan is right for a state, given the routes bound before it. -/
structure RightFor (input : PlanningInput) (state : PlanningState sha) (used : List Digest)
    (plan : CoordinationPlan) (chosen : PlanningCandidate) : Prop where
  /-- The chosen candidate is one of the state's. -/
  known : chosen ∈ state.candidates
  /-- It is the one bound. -/
  bound : plan.bindings = [binding sha state chosen]
  /-- It passes every hard gate. -/
  gates : PassesGates input state chosen
  /-- Its route was not bound before. -/
  unused : chosen.routeId ∉ used
  /-- No candidate that also qualifies ranks before it. -/
  best : ∀ other ∈ state.candidates, PassesGates input state other → other.routeId ∉ used →
    ¬RanksBefore other chosen
  /-- The budget evaluation is that of its cost. -/
  budget : ∃ cost priced, plan.budgetEvaluation = budgetEvaluation input chosen cost priced
  /-- The eligible records are those of the state. -/
  eligible : plan.eligibleCandidates = openRecords sha input state used
  /-- So are the excluded records, a used route apart. -/
  excluded : plan.excludedCandidates.filter (·.routeId ∉ used) =
    closedRecords sha input state used
  /-- A used route is excluded because its provider failed. -/
  failed : ∀ route ∈ used, ∃ record ∈ plan.excludedCandidates,
    record.routeId = route ∧ record.reasonCode = ExclusionReason.providerUnavailable.value

/-- The candidates of a new state on unused routes have the verdicts, reasons and ranking records
they had in the first state. -/
structure Unchanged (input : PlanningInput) (first state : PlanningState sha)
    (used : List Digest) : Prop where
  /-- The same candidates pass, with the same records. -/
  eligible : openRecords sha input state used = openRecords sha input first used
  /-- The same candidates are excluded, with the same records. -/
  excluded : closedRecords sha input state used = closedRecords sha input first used

/-! ## Ranking -/

/-- Ranking keeps each candidate beside its own key. -/
theorem keyed_of_mapM {candidates : List PlanningCandidate}
    {keyed : List (RankKey × PlanningCandidate)}
    (done : candidates.mapM (fun candidate => do return (← rankKey candidate, candidate)) =
      .ok keyed) :
    keyed.map Prod.snd = candidates ∧ ∀ entry ∈ keyed, rankKey entry.2 = .ok entry.1 := by
  induction candidates generalizing keyed with
  | nil =>
    rw [List.mapM_nil, pure_eq_ok] at done
    subst done
    simp
  | cons candidate rest ih =>
    rw [List.mapM_cons, bind_eq_ok] at done
    obtain ⟨entry, ranked, done⟩ := done
    rw [bind_eq_ok] at ranked done
    obtain ⟨key, known, given⟩ := ranked
    obtain ⟨later, mapped, joined⟩ := done
    rw [pure_eq_ok] at given joined
    subst given
    subst joined
    have kept := ih mapped
    refine ⟨by rw [List.map_cons, kept.1], ?_⟩
    intro entry listed
    cases List.mem_cons.mp listed with
    | inl here => exact here ▸ known
    | inr there => exact kept.2 entry there

/-- Ranking permutes the candidates. -/
theorem ranked_perm {candidates result : List PlanningCandidate}
    (done : ranked candidates = .ok result) : result.Perm candidates := by
  rw [ranked, bind_eq_ok] at done
  obtain ⟨keyed, mapped, sorted⟩ := done
  rw [pure_eq_ok] at sorted
  have perm := (List.perm_insertionSort
    (fun left right : RankKey × PlanningCandidate => left.1 ≤ right.1) keyed).map Prod.snd
  rw [sorted, (keyed_of_mapM mapped).1] at perm
  exact perm

/-- No candidate ranks before the head of the ranking. -/
theorem ranked_head {candidates result : List PlanningCandidate} {chosen : PlanningCandidate}
    (done : ranked candidates = .ok result) (first : result.head? = some chosen) :
    ∀ other ∈ candidates, ¬RanksBefore other chosen := by
  rw [ranked, bind_eq_ok] at done
  obtain ⟨keyed, mapped, sorted⟩ := done
  rw [pure_eq_ok] at sorted
  have keys := keyed_of_mapM mapped
  rw [← sorted, List.head?_map, Option.map_eq_some_iff] at first
  obtain ⟨least, isHead, isChosen⟩ := first
  intro other listed ⟨lower, higher, ofOther, ofChosen, less⟩
  rw [← keys.1] at listed
  obtain ⟨entry, held, isOther⟩ := List.mem_map.mp listed
  have least_held : least ∈ keyed := by
    have inSorted := List.mem_of_mem_head? (Option.mem_def.mpr isHead)
    exact (List.mem_insertionSort _).mp inSorted
  have least_key : least.1 = higher := by
    have own := keys.2 least least_held
    rw [isChosen, ofChosen] at own
    exact (Except.ok.inj own).symm
  have entry_key : entry.1 = lower := by
    have own := keys.2 entry held
    rw [isOther, ofOther] at own
    exact (Except.ok.inj own).symm
  have : Std.Total (fun left right : RankKey × PlanningCandidate => left.1 ≤ right.1) :=
    ⟨fun left right => le_total left.1 right.1⟩
  have : IsTrans (RankKey × PlanningCandidate) (fun left right => left.1 ≤ right.1) :=
    ⟨fun _ _ _ before after => le_trans before after⟩
  cases head_insertionSort_le isHead held with
  | inl same => exact absurd (by rw [← entry_key, same, least_key]) (ne_of_lt less)
  | inr before =>
    rw [least_key, entry_key] at before
    exact absurd less (not_lt.mpr before)

/-! ## Records -/

/-- A candidate has a record exactly when its cost is known. -/
theorem eligibleRecord_eq_ok {candidate : PlanningCandidate} {record : EligibleCandidate} :
    eligibleRecord sha candidate = .ok record ↔
      ∃ cost known, recordOf sha candidate cost known = record := by
  unfold eligibleRecord
  split
  · next cost known =>
    constructor
    · intro given
      exact ⟨cost, known, Except.ok.inj given⟩
    · intro ⟨other, priced, given⟩
      have same : other = cost := Option.some.inj (priced.symm.trans known)
      subst same
      rw [given]
  · next missing =>
    constructor
    · exact nofun
    · intro ⟨cost, known, _⟩
      rw [missing] at known
      exact absurd known nofun

/-- A record names the route of its candidate. -/
theorem routeId_of_record {candidate : PlanningCandidate} {record : EligibleCandidate}
    (recorded : (eligibleRecord sha candidate).toOption = some record) :
    record.routeId = candidate.routeId := by
  cases made : eligibleRecord sha candidate with
  | error raised =>
    rw [made] at recorded
    exact absurd recorded nofun
  | ok given =>
    rw [made] at recorded
    obtain ⟨cost, known, rfl⟩ := eligibleRecord_eq_ok.mp made
    rw [← Option.some.inj recorded]
    rfl

/-- The candidates of a state are in the order of their routes. -/
theorem candidates_pairwise (state : PlanningState sha) :
    state.candidates.Pairwise (fun left right => left.routeId < right.routeId) :=
  List.pairwise_map.mp state.candidates_ascending

/-- Two candidates of a state with one route are the same. -/
theorem candidate_of_route {state : PlanningState sha} {left right : PlanningCandidate}
    (here : left ∈ state.candidates) (there : right ∈ state.candidates)
    (same : left.routeId = right.routeId) : left = right :=
  eq_of_key_ascending state.candidates_ascending here there same

/-- The open records are in the order of their routes. -/
theorem openRecords_ascending (input : PlanningInput) (state : PlanningState sha)
    (used : List Digest) : Ascending ((openRecords sha input state used).map (·.routeId)) := by
  have sorted := (candidates_pairwise state).filter
    (fun candidate => (eligibility sha input state candidate).allowed)
  rw [Ascending, List.pairwise_map]
  apply List.Pairwise.filter
  apply sorted.filterMap
  intro left right before record recorded other listed
  rw [routeId_of_record recorded, routeId_of_record listed]
  exact before

/-- The closed records are in the order of their routes. -/
theorem closedRecords_ascending (input : PlanningInput) (state : PlanningState sha)
    (used : List Digest) : Ascending ((closedRecords sha input state used).map (·.routeId)) := by
  rw [Ascending, List.pairwise_map]
  apply List.Pairwise.filter
  apply (candidates_pairwise state).filterMap
  intro left right before record recorded other listed
  obtain ⟨reason, _, made⟩ := Option.map_eq_some_iff.mp recorded
  obtain ⟨another, _, built⟩ := Option.map_eq_some_iff.mp listed
  rw [← made, ← built]
  exact before

/-- A route has an open record exactly when an unused candidate on it passes every gate. -/
theorem mem_openRecords {input : PlanningInput} {state : PlanningState sha} {used : List Digest}
    {route : Digest} : route ∈ (openRecords sha input state used).map (·.routeId) ↔
      route ∉ used ∧ ∃ candidate ∈ state.candidates,
        candidate.routeId = route ∧ PassesGates input state candidate := by
  simp only [openRecords, allowed, List.mem_map, List.mem_filter, List.mem_filterMap,
    decide_eq_true_eq, allowed_iff]
  constructor
  · intro ⟨record, ⟨⟨candidate, ⟨listed, gates⟩, recorded⟩, unused⟩, named⟩
    rw [named] at unused
    exact ⟨unused, candidate, listed, (routeId_of_record recorded).symm.trans named, gates⟩
  · intro ⟨unused, candidate, listed, named, gates⟩
    obtain ⟨cost, known, _⟩ := gates.affordable
    have recorded : (eligibleRecord sha candidate).toOption =
        some (recordOf sha candidate cost known) := by
      rw [eligibleRecord_eq_ok.mpr ⟨cost, known, rfl⟩]
      rfl
    have route_eq := (routeId_of_record recorded).trans named
    refine ⟨recordOf sha candidate cost known, ⟨⟨candidate, ⟨listed, gates⟩, recorded⟩, ?_⟩,
      route_eq⟩
    rw [route_eq]
    exact unused

/-- Leaving a route out of the open records uses it up. -/
theorem openRecords_filter (input : PlanningInput) (state : PlanningState sha)
    (used : List Digest) (route : Digest) :
    (openRecords sha input state used).filter (·.routeId ≠ route) =
      openRecords sha input state (used ++ [route]) := by
  rw [openRecords, openRecords, List.filter_filter]
  apply List.filter_congr
  intro record _
  simp [and_comm]

/-- Leaving a route out of the closed records uses it up. -/
theorem closedRecords_filter (input : PlanningInput) (state : PlanningState sha)
    (used : List Digest) (route : Digest) :
    (closedRecords sha input state used).filter (·.routeId ≠ route) =
      closedRecords sha input state (used ++ [route]) := by
  rw [closedRecords, closedRecords, List.filter_filter]
  apply List.filter_congr
  intro record _
  simp [and_comm]

/-- Recording a list of candidates one by one is recording those that can be recorded. -/
theorem recorded_of_mapM {candidates : List PlanningCandidate} {records : List EligibleCandidate}
    (done : candidates.mapM (eligibleRecord sha) = .ok records) :
    records = candidates.filterMap (fun candidate => (eligibleRecord sha candidate).toOption) := by
  induction candidates generalizing records with
  | nil =>
    rw [List.mapM_nil, pure_eq_ok] at done
    exact done.symm
  | cons candidate rest ih =>
    rw [List.mapM_cons, bind_eq_ok] at done
    obtain ⟨record, made, done⟩ := done
    rw [bind_eq_ok] at done
    obtain ⟨later, mapped, joined⟩ := done
    rw [pure_eq_ok] at joined
    rw [← joined, List.filterMap_cons, made, ih mapped]
    rfl

/-! ## Sorted records -/

/-- Eligible records with ascending routes are the sorted form of any permutation of them. -/
theorem sortEligible_of_perm {records sorted : List EligibleCandidate}
    (perm : records.Perm sorted) (ascending : Ascending (sorted.map (·.routeId))) :
    CoordinationPlan.sortEligible records = sorted := by
  have : Std.Total (fun left right : EligibleCandidate =>
      left.qualificationKey ≤ right.qualificationKey) := ⟨fun _ _ => Nat.le_total ..⟩
  have : IsTrans EligibleCandidate (fun left right =>
      left.qualificationKey ≤ right.qualificationKey) := ⟨fun _ _ _ => Nat.le_trans⟩
  exact insertionSort_eq_of_perm perm ascending

/-- What a filter keeps of sorted excluded records, when its routes ascend. -/
theorem filter_sortExcluded {records sorted : List ExcludedCandidate}
    {keep : ExcludedCandidate → Bool} (perm : (records.filter keep).Perm sorted)
    (ascending : Ascending (sorted.map (·.routeId))) :
    (CoordinationPlan.sortExcluded records).filter keep = sorted := by
  have : Std.Total (fun left right : ExcludedCandidate => left.reasonCode ≤ right.reasonCode) :=
    ⟨fun _ _ => le_total ..⟩
  have : IsTrans ExcludedCandidate (fun left right => left.reasonCode ≤ right.reasonCode) :=
    ⟨fun _ _ _ => le_trans⟩
  exact filter_insertionSort_eq perm ascending

/-- What `create` keeps of the values it is given, as far as revisions read them. -/
structure Created (values plan : CoordinationPlan) : Prop where
  /-- The bindings are sorted. -/
  bindings : plan.bindings = CoordinationPlan.sortBindings values.bindings
  /-- The eligible records are sorted. -/
  eligible : plan.eligibleCandidates = CoordinationPlan.sortEligible values.eligibleCandidates
  /-- The excluded records are sorted. -/
  excluded : plan.excludedCandidates = CoordinationPlan.sortExcluded values.excludedCandidates
  /-- The budget evaluation is kept. -/
  budget : plan.budgetEvaluation = values.budgetEvaluation

/-- A plan that was created keeps its values. -/
theorem created_of_create {values plan : CoordinationPlan}
    (done : CoordinationPlan.create sha values = .ok plan) : Created values plan := by
  simp only [CoordinationPlan.create, bind_eq_ok, pure_eq_ok] at done
  obtain ⟨_, _, _, _, _, _, capsules, _, _, _, _, _, policies, _, evidence, _, _, _, tieBreaks, _,
    _, _, made⟩ := done
  rw [← made]
  exact ⟨rfl, rfl, rfl, rfl⟩

/-! ## Steps of a chain -/

/-- A plan of a chain, as the first state and the routes bound before the plan determine it. -/
structure Follows (input : PlanningInput) (first : PlanningState sha) (used : List Digest)
    (plan : CoordinationPlan) : Prop where
  /-- The eligible records are those of the first state. -/
  eligible : plan.eligibleCandidates = openRecords sha input first used
  /-- So are the excluded records, a used route apart. -/
  excluded : plan.excludedCandidates.filter (·.routeId ∉ used) =
    closedRecords sha input first used
  /-- A used route is excluded because its provider failed. -/
  failed : ∀ route ∈ used, ∃ record ∈ plan.excludedCandidates,
    record.routeId = route ∧ record.reasonCode = ExclusionReason.providerUnavailable.value
  /-- The budget mode is that of the input. -/
  mode : plan.budgetEvaluation.budgetMode = input.operatorPolicy.budgetMode
  /-- The threshold is that of the input. -/
  threshold : plan.budgetEvaluation.warningThresholdUsd = some input.maxCostUsd

/-- What a revision binds, as the first state and the used routes determine it. -/
structure Rebinds (input : PlanningInput) (first state : PlanningState sha) (used : List Digest)
    (plan : CoordinationPlan) (chosen : PlanningCandidate) : Prop where
  /-- The chosen candidate is one of the new state's. -/
  known : chosen ∈ state.candidates
  /-- It is the one bound. -/
  bound : plan.bindings = [binding sha state chosen]
  /-- An unused candidate on its route passed every gate in the first state. -/
  recorded : chosen.routeId ∈ (openRecords sha input first used).map (·.routeId)
  /-- No candidate on such a route ranks before it. -/
  best : ∀ other ∈ state.candidates,
    other.routeId ∈ (openRecords sha input first used).map (·.routeId) → ¬RanksBefore other chosen
  /-- The budget evaluation is that of its cost. -/
  budget : ∃ cost priced, plan.budgetEvaluation = budgetEvaluation input chosen cost priced

/-- At the mode and threshold of the input, a revised budget is a budget evaluated anew. -/
theorem revisedBudget_eq {input : PlanningInput} {old : BudgetEvaluation}
    (mode : old.budgetMode = input.operatorPolicy.budgetMode)
    (threshold : old.warningThresholdUsd = some input.maxCostUsd)
    (candidate : PlanningCandidate) (cost : ℚ)
    (priced : candidate.expectedTotalCostUsd = some cost) :
    revisedBudget old candidate cost priced = budgetEvaluation input candidate cost priced := by
  simp [revisedBudget, budgetEvaluation, mode, threshold]

/-- The chosen candidate of the first plan is the best that passes every gate. -/
theorem follows_of_plan {planId : Uuid} {input : PlanningInput} {first : PlanningState sha}
    {planned : CoordinationPlan} (done : plan sha planId input first = .ok planned) :
    Follows input first [] planned ∧ ∃ chosen, RightFor input first [] planned chosen := by
  rw [plan, bind_eq_ok] at done
  obtain ⟨_, _, done⟩ := done
  rw [bind_eq_ok] at done
  obtain ⟨_, _, done⟩ := done
  rw [bind_eq_ok] at done
  obtain ⟨order, sorted, done⟩ := done
  rw [bind_eq_ok] at done
  obtain ⟨chosen, head, done⟩ := done
  rw [bind_eq_ok] at done
  obtain ⟨records, recorded, done⟩ := done
  rw [require_eq_ok] at head
  have perm := ranked_perm sorted
  split at done
  · exact absurd done nofun
  next cost priced =>
  have created := created_of_create done
  have eligible : planned.eligibleCandidates = openRecords sha input first [] := by
    rw [created.eligible]
    apply sortEligible_of_perm _ (openRecords_ascending input first [])
    rw [openRecords, List.filter_eq_self.mpr (by simp), recorded_of_mapM recorded]
    exact perm.filterMap _
  have excluded : planned.excludedCandidates.filter (·.routeId ∉ ([] : List Digest)) =
      closedRecords sha input first [] := by
    rw [created.excluded]
    exact filter_sortExcluded (List.Perm.refl _) (closedRecords_ascending input first [])
  have member : chosen ∈ allowed sha input first :=
    perm.mem_iff.mp (List.mem_of_mem_head? (Option.mem_def.mpr head))
  have passed := List.mem_filter.mp member
  refine ⟨⟨eligible, excluded, nofun, ?_, ?_⟩, chosen, ?_⟩
  · rw [created.budget]
    rfl
  · rw [created.budget]
    rfl
  · refine ⟨passed.1, created.bindings, allowed_iff.mp passed.2, List.not_mem_nil, ?_,
      ⟨cost, priced, created.budget⟩, eligible, excluded, nofun⟩
    intro other listed gates _
    exact ranked_head sorted head other (List.mem_filter.mpr ⟨listed, allowed_iff.mpr gates⟩)

/-- A record added for a used route does not count among the closed records. -/
theorem closed_of_failed {input : PlanningInput} {first : PlanningState sha} {used : List Digest}
    {records : List ExcludedCandidate} (record : ExcludedCandidate)
    (kept : records.filter (·.routeId ∉ used) = closedRecords sha input first used) :
    (records ++ [record]).filter (·.routeId ∉ used ++ [record.routeId]) =
      closedRecords sha input first (used ++ [record.routeId]) := by
  have others : records.filter (·.routeId ∉ used ++ [record.routeId]) =
      (records.filter (·.routeId ∉ used)).filter (·.routeId ≠ record.routeId) := by
    rw [List.filter_filter]
    apply List.filter_congr
    intro other _
    simp [and_comm]
  rw [List.filter_append, others, kept, closedRecords_filter]
  simp

/-- A revision uses up the route it replaces and binds the best candidate on a remaining one. -/
theorem follows_of_revise {input : PlanningInput} {first state : PlanningState sha}
    {used : List Digest} {plan revised : CoordinationPlan} {reason : String}
    (follows : Follows input first used plan)
    (done : reviseForFailure sha plan reason state = .ok revised) :
    Follows input first (used ++ plan.bindings.map (·.routeId)) revised ∧
      ∃ chosen, Rebinds input first state (used ++ plan.bindings.map (·.routeId)) revised
        chosen := by
  rw [reviseForFailure] at done
  split at done
  · next reasonValid =>
    rw [bind_eq_ok] at done
    obtain ⟨_, single, done⟩ := done
    rw [bind_eq_ok] at done
    obtain ⟨prior, head, done⟩ := done
    rw [bind_eq_ok] at done
    obtain ⟨_, _, done⟩ := done
    rw [bind_eq_ok] at done
    obtain ⟨order, sorted, done⟩ := done
    rw [bind_eq_ok] at done
    obtain ⟨chosen, chosenHead, done⟩ := done
    rw [raiseIf_eq_ok, not_not] at single
    rw [require_eq_ok] at head chosenHead
    have bound : plan.bindings = [prior] := by
      obtain ⟨only, isOnly⟩ := List.length_eq_one_iff.mp single
      rw [isOnly] at head ⊢
      rw [Option.some.inj head]
    rw [bound]
    split at done
    · exact absurd done nofun
    next cost priced =>
    have created := created_of_create done
    have remaining : plan.eligibleCandidates.filter (·.routeId ≠ prior.routeId) =
        openRecords sha input first (used ++ [prior.routeId]) := by
      rw [follows.eligible, openRecords_filter]
    rw [remaining] at sorted
    have eligible : revised.eligibleCandidates =
        openRecords sha input first (used ++ [prior.routeId]) := by
      rw [created.eligible, remaining]
      exact sortEligible_of_perm (List.Perm.refl _) (openRecords_ascending input first _)
    have budget : revised.budgetEvaluation = budgetEvaluation input chosen cost priced := by
      rw [created.budget]
      exact revisedBudget_eq follows.mode follows.threshold chosen cost priced
    have perm := ranked_perm sorted
    have member := List.mem_filter.mp
      (perm.mem_iff.mp (List.mem_of_mem_head? (Option.mem_def.mpr chosenHead)))
    refine ⟨⟨eligible, ?_, ?_, ?_, ?_⟩, chosen, ?_⟩
    · rw [created.excluded]
      apply filter_sortExcluded _ (closedRecords_ascending input first _)
      exact List.Perm.of_eq (closed_of_failed
        (failureRecord prior (failureEvidence sha plan prior reason)) follows.excluded)
    · intro route listed
      rw [created.excluded, CoordinationPlan.sortExcluded]
      simp only [List.mem_insertionSort, List.mem_append, List.mem_singleton]
      cases List.mem_append.mp listed with
      | inl earlier =>
        obtain ⟨record, held, names⟩ := follows.failed route earlier
        exact ⟨record, .inl held, names⟩
      | inr last => exact ⟨_, .inr rfl, (List.mem_singleton.mp last).symm, rfl⟩
    · rw [budget]
      rfl
    · rw [budget]
      rfl
    · refine ⟨member.1, created.bindings, of_decide_eq_true member.2, ?_, ⟨cost, priced, budget⟩⟩
      intro other listed recorded
      exact ranked_head sorted chosenHead other
        (List.mem_filter.mpr ⟨listed, decide_eq_true recorded⟩)
  · exact absurd done nofun

/-- A revision is right for its state exactly when the state's unused candidates have the records
they had in the first state. -/
theorem rightFor_iff {input : PlanningInput} {first state : PlanningState sha}
    {used : List Digest} {revised : CoordinationPlan}
    (follows : Follows input first used revised) {chosen : PlanningCandidate}
    (rebinds : Rebinds input first state used revised chosen) :
    (∃ candidate, RightFor input state used revised candidate) ↔
      Unchanged input first state used := by
  constructor
  · intro ⟨candidate, right⟩
    exact ⟨right.eligible.symm.trans follows.eligible,
      right.excluded.symm.trans follows.excluded⟩
  · intro unchanged
    have recorded_iff : ∀ candidate ∈ state.candidates,
        candidate.routeId ∈ (openRecords sha input first used).map (·.routeId) ↔
          candidate.routeId ∉ used ∧ PassesGates input state candidate := by
      intro candidate listed
      rw [← unchanged.eligible, mem_openRecords]
      apply and_congr_right
      intro _
      constructor
      · intro ⟨other, held, same, gates⟩
        exact candidate_of_route held listed same ▸ gates
      · intro gates
        exact ⟨candidate, listed, rfl, gates⟩
    have passed := (recorded_iff chosen rebinds.known).mp rebinds.recorded
    refine ⟨chosen, rebinds.known, rebinds.bound, passed.2, passed.1, ?_, rebinds.budget,
      follows.eligible.trans unchanged.eligible.symm,
      follows.excluded.trans unchanged.excluded.symm, follows.failed⟩
    intro other listed gates unused
    exact rebinds.best other listed ((recorded_iff other listed).mpr ⟨unused, gates⟩)

/-- There is one revision for each fallback. -/
theorem length_of_revisions {plan : CoordinationPlan} {fallbacks : List (Fallback sha)}
    {later : List CoordinationPlan} (done : revisions sha plan fallbacks = .ok later) :
    later.length = fallbacks.length := by
  induction fallbacks generalizing plan later with
  | nil =>
    rw [revisions, pure_eq_ok] at done
    exact congrArg List.length done.symm
  | cons fallback rest ih =>
    rw [revisions, bind_eq_ok] at done
    obtain ⟨revised, _, done⟩ := done
    rw [bind_eq_ok] at done
    obtain ⟨further, more, joined⟩ := done
    rw [pure_eq_ok] at joined
    rw [← joined, List.length_cons, List.length_cons, ih more]

/-- Each revision of a chain is right for its state exactly when the state's unused candidates
have the records they had in the first state. -/
theorem rightFor_of_revisions {input : PlanningInput} {first : PlanningState sha}
    {used : List Digest} {plan : CoordinationPlan} {fallbacks : List (Fallback sha)}
    {later : List CoordinationPlan} (follows : Follows input first used plan)
    (done : revisions sha plan fallbacks = .ok later) {i : Nat} {fallback : Fallback sha}
    {revised : CoordinationPlan} (given : fallbacks[i]? = some fallback)
    (made : later[i]? = some revised) :
    (∃ chosen, RightFor input fallback.state
        (used ++ boundRoutes ((plan :: later).take (i + 1))) revised chosen) ↔
      Unchanged input first fallback.state
        (used ++ boundRoutes ((plan :: later).take (i + 1))) := by
  induction fallbacks generalizing plan used later i with
  | nil => exact absurd given nofun
  | cons head rest ih =>
    rw [revisions, bind_eq_ok] at done
    obtain ⟨next, revise, done⟩ := done
    rw [bind_eq_ok] at done
    obtain ⟨further, more, joined⟩ := done
    rw [pure_eq_ok] at joined
    subst joined
    obtain ⟨nextFollows, chosen, rebinds⟩ := follows_of_revise follows revise
    cases i with
    | zero =>
      have isHead : head = fallback := Option.some.inj given
      have isNext : next = revised := Option.some.inj made
      subst isHead
      subst isNext
      have routes : boundRoutes [plan] = plan.bindings.map (·.routeId) := by
        simp [boundRoutes]
      rw [List.take_succ_cons, List.take_zero, routes]
      exact rightFor_iff nextFollows rebinds
    | succ i =>
      have step := ih nextFollows more given made
      have routes : used ++ boundRoutes ((plan :: next :: further).take (i + 1 + 1)) =
          used ++ plan.bindings.map (·.routeId) ++
            boundRoutes ((next :: further).take (i + 1)) := by
        rw [List.take_succ_cons]
        simp [boundRoutes]
      rw [routes]
      exact step

/-- In a chain that returns its plans, every plan is right for the state it was made from exactly
when, at each revision, the candidates on routes not yet bound have the verdicts, reasons and
ranking records they had in the first state. -/
theorem hard_gates_along_chain {planId : Uuid} {input : PlanningInput} {first : PlanningState sha}
    {fallbacks : List (Fallback sha)} {plans : List CoordinationPlan}
    (returned : chain sha planId input first fallbacks = .ok plans) :
    (∀ i state plan, (first :: fallbacks.map (·.state))[i]? = some state → plans[i]? = some plan →
        ∃ chosen, RightFor input state (boundRoutes (plans.take i)) plan chosen) ↔
      ∀ i fallback, fallbacks[i]? = some fallback →
        Unchanged input first fallback.state (boundRoutes (plans.take (i + 1))) := by
  rw [chain, bind_eq_ok] at returned
  obtain ⟨planned, made, returned⟩ := returned
  rw [bind_eq_ok] at returned
  obtain ⟨later, revised, joined⟩ := returned
  rw [pure_eq_ok] at joined
  subst joined
  obtain ⟨follows, right⟩ := follows_of_plan made
  have lengths := length_of_revisions revised
  have each := fun i fallback next given listed =>
    @rightFor_of_revisions _ _ _ _ _ _ _ follows revised i fallback next given listed
  simp only [List.nil_append] at each
  constructor
  · intro gated i fallback given
    have within : i < later.length := lengths ▸ (List.getElem?_eq_some_iff.mp given).1
    have listed : later[i]? = some later[i] := List.getElem?_eq_getElem within
    apply (each i fallback later[i] given listed).mp
    exact gated (i + 1) fallback.state later[i] (by simp [given]) listed
  · intro unchanged i state plan given listed
    cases i with
    | zero =>
      have isFirst : first = state := Option.some.inj given
      have isPlanned : planned = plan := Option.some.inj listed
      subst isFirst
      subst isPlanned
      exact right
    | succ i =>
      rw [List.getElem?_cons_succ, List.getElem?_map, Option.map_eq_some_iff] at given
      obtain ⟨fallback, held, isState⟩ := given
      subst isState
      exact (each i fallback plan held listed).mpr (unchanged i fallback held)

/-! ## A chain whose second state changed -/

private theorem free_nonneg : (0 : ℚ) ≤ 0 := le_refl 0

private theorem dollar_nonneg : ∀ cost ∈ some (1 : ℚ), 0 ≤ cost := by decide

/-- A policy that warns. -/
def samplePolicy : OperatorPolicyProfile where
  profileId := "owner-warn-only-v1"
  budgetMode := .warn
  approvalMode := .exactMember
  modelWatchEnabled := false
  discoveryOnly := true
  autoProbeMaxCostUsdPerDay := 0
  fallbackMode := .explicitPlanRevision
  maxParallelism := 1
  accountingRequired := true
  profile_valid := by decide
  cost_nonneg := free_nonneg
  parallelism_positive := Nat.one_pos
  parallelism_bounded := by decide

/-- A graph of one verifier. -/
def sampleGraph : VerifierGraph where
  nodes := [{
    nodeId := "compile"
    tool := "python"
    version := "1.0.0"
    inputDigests := [5]
    dependsOn := []
    configDigest := none
    required := true
    identifiers := by decide
    inputs_required := by decide
    sets_ascending := by decide
    dependencies_valid := by decide
    not_self := by decide }]
  nodes_required := by simp
  nodes_distinct := by decide

/-- A capsule for the role 10 and the routes 1 and 2. -/
def sampleCapsule : ContextCapsule where
  sourceItems := [{
    sourceId := "task"
    byteSha256 := 6
    selectedRanges := [(0, 16)]
    selectionAuthorityDigest := none
    ranges_positive := by decide
    ranges_disjoint := by decide
    direct_selected := by decide +kernel }]
  compiledBytesSha256 := 7
  compilerVersion := "context-v1"
  tokenEstimate := 10
  dataClassification := .publicLevel
  redactionProfile := "none-v1"
  allowedRoleIds := [10]
  allowedRouteIds := [1, 2]
  expiresAt := none
  parentCapsuleIds := []
  sources_required := by simp
  sources_distinct := by decide
  identifiers := by decide
  tokens_bounded := by decide
  roles_required := by decide
  routes_required := by decide
  sets_ascending := by decide

/-- A qualified candidate on a route. -/
def sampleCandidate (routeId : Digest) (available : Bool) : PlanningCandidate where
  modelSubjectId := 20
  identityStatus := .claimed
  providerId := "glm_flash_worker"
  routeId := routeId
  parameterProfileDigest := 21
  qualificationKey := ⟨20, routeId, 10, "public_text", 22, 23, by decide⟩
  qualificationState := .qualified
  qualificationEvidenceSetDigest := 3
  approvedPrivacy := [.publicLevel]
  capabilities := ["text_generation"]
  verifierGraphDigest := sampleGraph.graphDigest foldDigest
  routeAllowlisted := true
  available := available
  expectedTotalCostUsd := some 1
  expectedLatencyMs := 100
  verifiedUtilityLowerBound := 1
  evidenceFreshnessEpoch := 1
  reasonEvidenceDigest := 24
  provider_valid := by decide
  key_binds := ⟨rfl, rfl⟩
  privacy_set := by decide
  capabilities_set := by decide
  cost_nonneg := dollar_nonneg
  latency_nonneg := by decide
  utility_range := by decide

/-- A slot for the role 10. -/
def sampleSlot : RoleSlot where
  slotId := "worker"
  roleDefinitionDigest := 10
  authority := ["candidate_generate"]
  contextCapsuleIds := [sampleCapsule.capsuleId foldDigest]
  verifierGraphDigest := sampleGraph.graphDigest foldDigest
  required := true
  slot_valid := by decide
  authority_required := by decide
  authority_valid := by decide
  capsules_required := by simp
  sets_ascending := by simp

/-- Two candidates, of which the second answers or not. -/
def sampleState (available : Bool) : PlanningState foldDigest where
  roleSlot := sampleSlot
  verifierGraph := sampleGraph
  contextCapsules := [sampleCapsule]
  candidates := [sampleCandidate 1 true, sampleCandidate 2 available]
  graph_matches := rfl
  capsules_set := by simp
  candidates_ascending := by simp [sampleCandidate]

/-- A task for the role 10. -/
def sampleInput : PlanningInput where
  taskDigest := 30
  requiredRoleDigest := 10
  contextClass := "public_text"
  requiredCapabilities := ["text_generation"]
  privacy := .publicLevel
  maxCostUsd := 2
  latencyObjectiveMs := 1000
  contextCapsuleIds := [sampleCapsule.capsuleId foldDigest]
  operatorPolicy := samplePolicy
  qualificationSnapshotId := 31
  routeSnapshotId := 32
  availabilitySnapshotId := 33
  pricingSnapshotId := 34
  evidenceSnapshotIds := [3]
  topologyRegistryDigest := 35
  plannerVersion := "planner-v1"
  topologyId := .t0DirectVerified
  planRevision := 1
  plannedAt := 0
  identifiers := by decide
  capabilities_set := by decide
  cost_nonneg := by decide
  latency_nonneg := by decide
  capsules_set := by simp
  evidence_set := by decide
  revision_positive := Nat.one_pos

/-- The chain of the sample: the provider of the first binding fails. -/
def sampleChain (available : Bool) : Except MacrError (List CoordinationPlan) :=
  chain foldDigest 1 sampleInput (sampleState true)
    [⟨"provider_unavailable", sampleState available⟩]

/-- The chain binds the first route and then the second, whether it answers or not. -/
theorem routes_of_sampleChain (available : Bool) :
    (sampleChain available).map (fun plans => plans.map (·.bindings.map (·.routeId))) =
      .ok [[1], [2]] := by
  cases available <;> decide +kernel

/-- While nothing changes, both plans of the chain are right for their states. -/
theorem hard_gates_of_sampleChain : ∃ plans, sampleChain true = .ok plans ∧
    ∀ i state plan, [sampleState true, sampleState true][i]? = some state →
      plans[i]? = some plan →
      ∃ chosen, RightFor sampleInput state (boundRoutes (plans.take i)) plan chosen := by
  obtain ⟨plans, returned, _⟩ := except_map_eq_ok.mp (routes_of_sampleChain true)
  refine ⟨plans, returned, (hard_gates_along_chain returned).mpr ?_⟩
  intro i fallback given
  cases i with
  | zero =>
    rw [← Option.some.inj given]
    exact ⟨rfl, rfl⟩
  | succ i => exact absurd given nofun

/-- The revision binds the second route although its provider no longer answers. -/
theorem chain_ungated_of_unavailable : ∃ plans revised, sampleChain false = .ok plans ∧
    plans[1]? = some revised ∧
    ¬∃ chosen, RightFor sampleInput (sampleState false) (boundRoutes (plans.take 1)) revised
      chosen := by
  obtain ⟨plans, returned, routes⟩ := except_map_eq_ok.mp (routes_of_sampleChain false)
  have second : (plans.map (·.bindings.map (·.routeId)))[1]? = some [2] := by
    rw [routes]
    rfl
  rw [List.getElem?_map, Option.map_eq_some_iff] at second
  obtain ⟨revised, listed, named⟩ := second
  refine ⟨plans, revised, returned, listed, ?_⟩
  intro ⟨chosen, right⟩
  rw [right.bound] at named
  have route : chosen.routeId = 2 := List.head_eq_of_cons_eq named
  have unavailable : chosen = sampleCandidate 2 false := by
    apply candidate_of_route right.known _ route
    simp [sampleState]
  rw [unavailable] at right
  exact absurd right.gates.available (by simp [sampleCandidate])

end Macr.DynamicCoordinationPlanner
