import Macr.Coordinator.Grammar

/-!
# Grammar and containment of proposals

The reading of a proposal, its compilation, and the order of its children, each with the condition
under which the code does what the format says.
-/

namespace Macr.Coordinator

open Lib Lib.JsonText

variable {sha : Sha256} {maxDigits nesting : Nat}

/-- The parent has a next revision, and no two members have one digest. -/
def Followable (sha : Sha256) (constraints : CoordinatorConstraints)
    (proposal : CoordinatorProposal) : Prop :=
  constraints.parentPlanRevision < 2147483647 ∧
    (proposal.children.map (memberDigest sha constraints)).Nodup

/-- What a revision has of its proposal: the members are the children, the aggregate is the sum of
their ceilings, and nothing is outside the constraints. -/
structure Exact (constraints : CoordinatorConstraints) (proposal : CoordinatorProposal)
    (revision : PlanRevisionProposal) : Prop where
  /-- The members. -/
  members : revision.members.map (·.toCoordinatorChildRequest) = proposal.children
  /-- The aggregate. -/
  aggregate : revision.aggregateCostCeilingUsd = memberCosts revision.members
  /-- The parent. -/
  parent : revision.parentPlanDigest = constraints.parentPlanDigest ∧
    revision.proposedRevision = constraints.parentPlanRevision + 1
  /-- Each member is contained. -/
  contained : ∀ member ∈ revision.members,
    ChildContained constraints member.toCoordinatorChildRequest

/-- The bytes of two texts whose objects differ in the order of their children. -/
def ReorderedTexts (maxDigits nesting : Nat) (raw other : List UInt8) : Prop :=
  other.length ≤ 1024 * 1024 ∧ ∃ text text' members others,
    decodeUtf8 raw = some text ∧ WritesText maxDigits nesting (.object members) text ∧
    decodeUtf8 other = some text' ∧ WritesText maxDigits nesting (.object others) text' ∧
    Reordered members others

/-- A revision that was compiled is exact. -/
theorem exact_of_compile {constraints : CoordinatorConstraints} {proposal : CoordinatorProposal}
    {revision : PlanRevisionProposal}
    (compiled : compileCoordinatorProposal sha constraints proposal = .ok revision) :
    Exact constraints proposal revision := by
  obtain ⟨contained, -, -, rfl⟩ := compile_eq_ok.mp compiled
  refine ⟨?_, (memberCosts_map _).symm, ⟨rfl, rfl⟩, ?_⟩
  · dsimp only [revisionOf]
    rw [List.map_map]
    exact List.map_id _
  · intro member listed
    obtain ⟨child, inside, rfl⟩ := List.mem_map.mp listed
    exact contained.children child inside

/-- A text that compiles compiles to the same revision in every order of its children. -/
theorem compile_reordered {constraints : CoordinatorConstraints} {raw other : List UInt8}
    {proposal : CoordinatorProposal} {revision : PlanRevisionProposal}
    (reordered : ReorderedTexts maxDigits nesting raw other)
    (read : fromJson maxDigits nesting raw = .ok proposal)
    (compiled : compileCoordinatorProposal sha constraints proposal = .ok revision) :
    fromJson maxDigits nesting other = .ok proposal := by
  obtain ⟨short, text, text', members, others, decoded, written, decoded', written', same⟩ :=
    reordered
  obtain ⟨-, found, document, decoded'', loaded, made⟩ := fromJson_eq_ok.mp read
  obtain rfl := Option.some.inj (decoded.symm.trans decoded'')
  obtain rfl := Except.ok.inj ((loads_eq_ok.mpr written).symm.trans loaded)
  have known := (compile_eq_ok.mp compiled).1.known
  exact fromJson_eq_ok.mpr ⟨short, text', _, decoded', loads_eq_ok.mpr written',
    fromDict_reordered same made known⟩

/-- A child whose contexts are `null`. -/
def nullContexts : List UInt8 :=
  asciiBytes "\x7b\"children\":[\x7b\"context_capsule_ids\":null\x7d]\x7d"

end Macr.Coordinator
