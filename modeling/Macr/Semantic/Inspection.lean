import Macr.Semantic.Indexed

/-!
# Inspecting a projection

The inspection reads the bindings of a run in the order of their digests, and sorts those it
expects as tuples that begin with what is bound. In every run it therefore reports an exact match
for the runs whose header lists its bindings in both orders, and for no others.
-/

namespace Macr

open Lib

/-- A projection is read from the row that holds it. -/
theorem AgentRunRow.projection_of_holds {sha : Sha256} {row : AgentRunRow}
    {projection : AgentRunProjection} (holds : row.Holds sha projection) :
    row.projection sha = .ok projection := by
  have valid : row.initialHeader.IsCreation ∧ 0 < row.stateRevision := by
    rw [holds.initialHeader, holds.stateRevision]
    exact ⟨projection.creation, projection.positive⟩
  have same : (⟨row.initialHeader, row.state, row.stateRevision, row.epoch, row.updatedAt, valid.1,
      valid.2⟩ : AgentRunProjection) = projection := by
    cases projection
    simp only [AgentRunProjection.mk.injEq]
    exact ⟨holds.initialHeader, holds.state, holds.stateRevision, holds.epoch, holds.updatedAt⟩
  unfold AgentRunRow.projection
  rw [dif_pos valid, same]
  show (raiseIf _ _ >>= _) = _
  rw [raiseIf_bind_of_not (not_not.mpr holds.agentRunId.symm)]
  rw [raiseIf_bind_of_not (not_not.mpr holds.subjectDigest.symm)]
  rw [raiseIf_bind_of_not (not_not.mpr holds.stateDigest.symm)]
  rfl

/-- The header lists its bindings, which ascend by their digests, also in the order in which Python
sorts their tuples, and Python can sort them. -/
structure AgentRunHeader.Inspectable (sha : Sha256) (header : AgentRunHeader) : Prop where
  /-- The worlds. -/
  worlds : (worldRows sha header).Pairwise (fun left right => left.tuple ≤ right.tuple)
  /-- The memories. -/
  memories : (memoryRows sha header).Pairwise (fun left right => left.tuple ≤ right.tuple)
  /-- No memory lacks a head where another of its subject has one. -/
  comparable : ∀ left ∈ memoryRows sha header, ∀ right ∈ memoryRows sha header,
    ¬left.Incomparable right

namespace IndexedTables

variable {sha : Sha256} {db : IndexedTables} {row : AgentRunRow}

/-- The inspection reports an exact match. -/
def ReportsExactMatch (sha : Sha256) (db : IndexedTables) (agentRunId : Uuid) : Prop :=
  ∃ inspection, db.inspectProjection sha agentRunId = .ok inspection ∧
    inspection.status = .exactMatch

/-- Items in the order of a key are sorted as they are. -/
theorem sortOn_eq_self {α κ : Type} [LinearOrder κ] {key : α → κ} {items : List α} :
    items = sortOn key items ↔ items.Pairwise (fun left right => key left ≤ key right) := by
  constructor
  · intro same
    rw [same]
    exact sortOn_pairwise items
  · intro ordered
    exact ordered.insertionSort_eq.symm

/-- Rows read in the order of their digests are the rows that ascend by them. -/
theorem read_rows {α : Type} {key : α → Digest} {rows expected : List α}
    (listed : rows = expected)
    (ascending : expected.Pairwise (fun left right => key left < key right)) :
    sortOn key rows = expected := by
  rw [listed]
  exact (sortOn_eq_self.mpr (ascending.imp le_of_lt)).symm

/-- The expected lineages are those of the children, and the run's own. -/
theorem mem_expectedChildren {child : AgentChildRow} :
    child ∈ db.agent.expectedChildren row.agentRunId row.initialHeader ↔
      child ∈ db.agent.expectedOutgoingChildren row.agentRunId ∨
        AgentTables.LineageOf child row := by
  obtain ⟨parent, run, reference⟩ := child
  simp only [AgentTables.expectedChildren, List.mem_append, Option.mem_toList,
    Option.map_eq_some_iff, AgentTables.LineageOf, Prod.exists, AgentChildRow.mk.injEq]
  refine or_congr_right ?_
  constructor
  · rintro ⟨_, _, delegated, rfl, rfl, rfl⟩
    exact ⟨rfl, delegated⟩
  · rintro ⟨rfl, delegated⟩
    exact ⟨parent, reference, delegated, rfl, rfl, rfl⟩

/-- The stored lineages that name a run are the expected ones. -/
theorem children_match (sourced : db.agent.Sourced sha) (indexed : db.Indexed sha)
    (stored : row ∈ db.agent.runs.rows) (child : AgentChildRow) :
    child ∈ db.agent.childRows row.agentRunId ↔
      child ∈ db.agent.expectedChildren row.agentRunId row.initialHeader := by
  rw [AgentTables.childRows, mem_expectedChildren, sourced.mem_expectedOutgoingChildren,
    List.mem_filter, indexed.children, decide_eq_true_iff]
  constructor
  · rintro ⟨⟨other, present, lineage⟩, named | named⟩
    · have same : other = row := db.agent.runs.eq_of_key present stored
        (lineage.1.symm.trans named)
      exact .inr (same ▸ lineage)
    · exact .inl ⟨named, other, present, lineage⟩
  · rintro (⟨named, derived⟩ | lineage)
    · exact ⟨derived, .inr named⟩
    · exact ⟨⟨row, stored, lineage⟩, .inl lineage.1⟩

/-- The bindings of a stored run match when Python can sort its memories and its worlds and
memories are listed in the order of their tuples. -/
theorem bindingIndexesMatch_of_stored (sourced : db.agent.Sourced sha)
    (indexed : db.Indexed sha) (stored : row ∈ db.agent.runs.rows)
    {projection : AgentRunProjection} (holds : row.Holds sha projection) :
    db.bindingIndexesMatch sha projection = .ok true ↔ row.initialHeader.Inspectable sha := by
  have constructed := indexed.constructed row stored
  have goals : sortOn VersionedBindingRow.bindingDigest (db.indexes.goals.rows.filter
      (fun goal => goal.agentRunId = row.agentRunId)) = goalRows sha row.initialHeader :=
    read_rows (indexed.listed.goals.listed row stored) (List.pairwise_singleton _ _)
  have worlds := read_rows (indexed.listed.worlds.listed row stored) constructed.worlds
  have memories := read_rows (indexed.listed.memories.listed row stored) constructed.memories
  have plans : sortOn VersionedBindingRow.bindingDigest (db.indexes.plans.rows.filter
      (fun plan => plan.agentRunId = row.agentRunId)) = planRows sha row.initialHeader := by
    apply read_rows (indexed.listed.plans.listed row stored)
    unfold planRows
    cases row.initialHeader.activePlan with
    | none => exact List.Pairwise.nil
    | some plan => exact List.pairwise_singleton _ _
  have children := children_match sourced indexed stored
  have both : db.agent.childRows row.agentRunId ⊆
        db.agent.expectedChildren row.agentRunId row.initialHeader ∧
      db.agent.expectedChildren row.agentRunId row.initialHeader ⊆
        db.agent.childRows row.agentRunId :=
    ⟨fun child member => (children child).mp member,
      fun child member => (children child).mpr member⟩
  unfold bindingIndexesMatch
  rw [← holds.agentRunId, ← holds.initialHeader]
  simp only [goals, worlds, memories, plans, decide_eq_true both, decide_true, Bool.true_and,
    Bool.and_true, sortedMemories]
  by_cases comparable : ∃ left ∈ memoryRows sha row.initialHeader,
      ∃ right ∈ memoryRows sha row.initialHeader, left.Incomparable right
  · rw [raiseIf_bind_of comparable]
    constructor
    · intro impossible
      cases impossible
    · intro inspectable
      obtain ⟨left, here, right, there, apart⟩ := comparable
      exact absurd apart (inspectable.comparable left here right there)
  · rw [raiseIf_bind_of_not comparable]
    show (Except.ok (decide (worldRows sha row.initialHeader =
        sortOn VersionedBindingRow.tuple (worldRows sha row.initialHeader)) &&
      decide (memoryRows sha row.initialHeader =
        sortOn MemoryBindingRow.tuple (memoryRows sha row.initialHeader))) :
          Except MacrError Bool) = .ok true ↔ _
    rw [Except.ok.injEq, Bool.and_eq_true, decide_eq_true_iff, decide_eq_true_iff, sortOn_eq_self,
      sortOn_eq_self]
    constructor
    · rintro ⟨inOrder, ascending⟩
      exact ⟨inOrder, ascending,
        fun left here right there apart => comparable ⟨left, here, right, there, apart⟩⟩
    · rintro ⟨inOrder, ascending, _⟩
      exact ⟨inOrder, ascending⟩

/-- The inspection of a stored run reports an exact match just when its bindings match. -/
theorem reportsExactMatch_iff (sourced : db.agent.Sourced sha) (indexed : db.Indexed sha)
    (stored : row ∈ db.agent.runs.rows) :
    db.ReportsExactMatch sha row.agentRunId ↔ row.initialHeader.Inspectable sha := by
  obtain ⟨projection, replayed, holds⟩ := sourced.replayed row stored
  have some_event : db.agent.history row.agentRunId ≠ [] := by
    intro none
    obtain ⟨event, member, _⟩ := (chainHeader_of_replay replayed).found projection rfl
    rw [none] at member
    exact absurd member List.not_mem_nil
  have chain : db.agent.loadEventChain row.agentRunId = .ok (db.agent.history row.agentRunId) := by
    rw [AgentTables.loadEventChain, if_neg some_event]
  have found : db.agent.runs.find? row.agentRunId = some row := db.agent.runs.find?_self stored
  have observed : observedProjection sha row (db.agent.history row.agentRunId) =
      .ok (projection, row.semanticState) := by
    have bound := sourced.bound row stored
    rw [holds.initialHeader] at bound
    rw [observedProjection, AgentRunRow.projection_of_holds holds, ok_bind, bound]
    rfl
  rw [← bindingIndexesMatch_of_stored sourced indexed stored holds]
  unfold ReportsExactMatch inspectProjection
  rw [chain, ok_bind, replayed, ok_bind]
  simp only [found, observed]
  cases matches_ : db.bindingIndexesMatch sha projection with
  | error raised =>
    constructor
    · rintro ⟨_, impossible, _⟩
      cases impossible
    · intro impossible
      cases impossible
  | ok indexesMatch =>
    simp only [ok_bind, pure_eq_ok, decide_true, Bool.true_and, Bool.and_true, Except.ok.injEq]
    constructor
    · rintro ⟨inspection, rfl, status⟩
      cases indexesMatch
      · cases status
      · rfl
    · rintro rfl
      exact ⟨_, rfl, rfl⟩

end IndexedTables

namespace IndexedSystem

/-- In every run, with rebuilds between the other operations, the inspection of a stored run
reports an exact match if and only if the header lists its worlds and memories, which ascend by
their digests, in the order of their tuples too, and no two memories of a subject differ in having
a head. -/
theorem inspection_exact_iff (kernel : SemanticKernel) (actions : List IndexedAction) :
    ∀ row ∈ ((machine kernel).run initial actions).agents.db.agent.runs.rows,
      ((machine kernel).run initial actions).tables.ReportsExactMatch kernel.sha row.agentRunId ↔
        row.initialHeader.Inspectable kernel.sha := by
  intro row stored
  have held : ((machine kernel).run initial actions).Lawful kernel := lawful_run actions
  exact IndexedTables.reportsExactMatch_iff held.sourced held.indexed stored

/-- A run without worlds and memories is inspected as an exact match after a commit. -/
theorem inspection_exact_of_committed :
    ((machine AgentSystem.sampleSemanticKernel).run initial
      committedActions).tables.ReportsExactMatch foldDigest 1 := by
  have stored : (((machine AgentSystem.sampleSemanticKernel).run initial
      committedActions).agents.db.agent.runs.find? 1).any (fun row =>
        decide (row.initialHeader = AgentSystem.sampleHeader)) = true := by
    decide +kernel
  cases found : ((machine AgentSystem.sampleSemanticKernel).run initial
      committedActions).agents.db.agent.runs.find? 1 with
  | none =>
    rw [found] at stored
    cases stored
  | some row =>
    rw [found] at stored
    have same : row.initialHeader = AgentSystem.sampleHeader := of_decide_eq_true stored
    obtain ⟨present, named⟩ := (Table.find?_eq_some _ _ _).mp found
    have inspectable : row.initialHeader.Inspectable foldDigest := by
      rw [same]
      exact ⟨List.Pairwise.nil, List.Pairwise.nil, fun _ member => absurd member List.not_mem_nil⟩
    have reported := (inspection_exact_iff AgentSystem.sampleSemanticKernel committedActions row
      present).mpr inspectable
    rw [named] at reported
    exact reported

/-! ## Worlds in two orders -/

/-- A header with two worlds. -/
def worldlyHeader : AgentRunHeader :=
  { AgentSystem.sampleHeader with
    worldBindings := [⟨.text "b", 1, 1, Nat.one_pos⟩, ⟨.text "a", 9, 1, Nat.one_pos⟩] }

/-- A run of that header. -/
def worldlyActions : List IndexedAction :=
  [.agent (.call (.createAgentRun AgentSystem.noFault worldlyHeader 1))]

/-- The inspection of the run of a header with two worlds reports a conflict. -/
theorem inspection_conflicts_of_worlds :
    ¬∀ actions : List IndexedAction, ∀ row ∈ ((machine AgentSystem.sampleSemanticKernel).run initial
        actions).agents.db.agent.runs.rows,
      ((machine AgentSystem.sampleSemanticKernel).run initial
        actions).tables.ReportsExactMatch foldDigest row.agentRunId := by
  intro always
  have runs : ((machine AgentSystem.sampleSemanticKernel).run initial
      worldlyActions).agents.db.agent.runs.rows.map (·.agentRunId) = [1] := by
    decide +kernel
  have status : (((machine AgentSystem.sampleSemanticKernel).run initial
      worldlyActions).tables.inspectProjection foldDigest 1).map (·.status) = .ok .conflict := by
    decide +kernel
  have listed : 1 ∈ ((machine AgentSystem.sampleSemanticKernel).run initial
      worldlyActions).agents.db.agent.runs.rows.map (·.agentRunId) := by
    rw [runs]
    exact List.mem_singleton.mpr rfl
  obtain ⟨row, stored, named⟩ := List.mem_map.mp listed
  obtain ⟨inspection, inspected, exact_match⟩ := always worldlyActions row stored
  rw [named] at inspected
  rw [inspected] at status
  have conflict : inspection.status = .conflict := Except.ok.inj status
  rw [conflict] at exact_match
  cases exact_match

end IndexedSystem

end Macr
