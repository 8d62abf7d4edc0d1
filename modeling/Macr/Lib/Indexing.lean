import Macr.Lib.Table

/-!
# Index tables

Some tables hold nothing of their own: for each record of another table they list rows that the
record determines. Rows are added with their record and never changed, so the rows of a record are
a list computed from it; deleting them and adding the list again leaves the rows there were.
-/

namespace Macr.Lib

variable {α κ ω ρ : Type} {key : α → κ} {owner : α → ω} {nameOf : ρ → ω}
  {rowsOf : ρ → List α} {records others : List ρ}

/-- A table lists the rows of each record under the record's name, and no others. -/
structure Indexes (owner : α → ω) (nameOf : ρ → ω) (rowsOf : ρ → List α) (records : List ρ)
    [DecidableEq ω] (table : Table key) : Prop where
  /-- The rows of a record. -/
  listed : ∀ record ∈ records,
    table.rows.filter (fun row => owner row = nameOf record) = rowsOf record
  /-- A row belongs to a record. -/
  owned : ∀ row ∈ table.rows, ∃ record ∈ records, nameOf record = owner row

section Owners

variable [DecidableEq ω] {table next : Table key}

/-- An empty table indexes no records. -/
theorem Indexes.empty : Indexes owner nameOf rowsOf [] (Table.empty : Table key) := by
  constructor <;> intro _ member <;> exact absurd member (by simp)

/-- Records of the same names and rows are indexed alike. -/
theorem Indexes.of_records (held : Indexes owner nameOf rowsOf records table)
    (known : ∀ other ∈ others, ∃ record ∈ records,
      nameOf record = nameOf other ∧ rowsOf record = rowsOf other)
    (kept : ∀ record ∈ records, ∃ other ∈ others, nameOf other = nameOf record) :
    Indexes owner nameOf rowsOf others table := by
  constructor
  · intro other member
    obtain ⟨record, stored, name, rows⟩ := known other member
    rw [← name, ← rows]
    exact held.listed record stored
  · intro row member
    obtain ⟨record, stored, name⟩ := held.owned row member
    obtain ⟨other, present, same⟩ := kept record stored
    exact ⟨other, present, same.trans name⟩

/-- The rows of a new record are listed when they are appended. -/
theorem Indexes.appended {record : ρ} (held : Indexes owner nameOf rowsOf records table)
    (fresh : ∀ other ∈ records, nameOf other ≠ nameOf record)
    (named : ∀ row ∈ rowsOf record, owner row = nameOf record)
    (grows : next.rows = table.rows ++ rowsOf record) :
    Indexes owner nameOf rowsOf (records ++ [record]) next := by
  constructor
  · intro other member
    rw [grows, List.filter_append]
    rcases List.mem_append.mp member with old | new
    · have apart : (rowsOf record).filter (fun row => owner row = nameOf other) = [] := by
        rw [List.filter_eq_nil_iff]
        intro row inside same
        exact fresh other old ((of_decide_eq_true same).symm.trans (named row inside))
      rw [apart, List.append_nil]
      exact held.listed other old
    · rw [List.mem_singleton.mp new]
      have absent : table.rows.filter (fun row => owner row = nameOf record) = [] := by
        rw [List.filter_eq_nil_iff]
        intro row inside same
        obtain ⟨other, old, name⟩ := held.owned row inside
        exact fresh other old (name.trans (of_decide_eq_true same))
      rw [absent, List.nil_append, List.filter_eq_self]
      intro row inside
      exact decide_eq_true (named row inside)
  · intro row member
    rw [grows] at member
    rcases List.mem_append.mp member with old | new
    · obtain ⟨other, stored, name⟩ := held.owned row old
      exact ⟨other, List.mem_append_left _ stored, name⟩
    · exact ⟨record, by simp, (named row new).symm⟩

/-- Deleting the rows of a record and adding them again leaves the rows there were. -/
theorem Indexes.perm_of_rebuilt {record : ρ} (held : Indexes owner nameOf rowsOf records table)
    (stored : record ∈ records)
    (grows : next.rows =
      (table.delete (fun row => owner row = nameOf record)).rows ++ rowsOf record) :
    next.rows.Perm table.rows := by
  have again := table.perm_of_delete_append (fun row => owner row = nameOf record)
  rw [held.listed record stored] at again
  rw [grows]
  exact again

/-- The table still lists what it listed. -/
theorem Indexes.rebuilt {record : ρ} (held : Indexes owner nameOf rowsOf records table)
    (distinct : ∀ other ∈ records, nameOf other = nameOf record → rowsOf other = rowsOf record)
    (stored : record ∈ records)
    (grows : next.rows =
      (table.delete (fun row => owner row = nameOf record)).rows ++ rowsOf record) :
    Indexes owner nameOf rowsOf records next := by
  have perm := held.perm_of_rebuilt stored grows
  constructor
  · intro other member
    rw [grows, List.filter_append, Table.delete, List.filter_filter]
    by_cases same : nameOf other = nameOf record
    · rw [distinct other member same, same]
      have none : table.rows.filter (fun row => decide (owner row = nameOf record) &&
          !decide (owner row = nameOf record)) = [] := by
        rw [List.filter_eq_nil_iff]
        simp
      rw [none, List.nil_append, List.filter_eq_self]
      intro row inside
      rw [← held.listed record stored] at inside
      exact (List.mem_filter.mp inside).2
    · have kept : table.rows.filter (fun row => decide (owner row = nameOf other) &&
          !decide (owner row = nameOf record)) =
            table.rows.filter (fun row => owner row = nameOf other) := by
        apply List.filter_congr
        intro row _
        by_cases name : owner row = nameOf other
        · simp [name, same]
        · simp [name]
      have apart : (rowsOf record).filter (fun row => owner row = nameOf other) = [] := by
        rw [← held.listed record stored, List.filter_filter, List.filter_eq_nil_iff]
        intro row _ both
        simp only [Bool.and_eq_true, decide_eq_true_eq] at both
        exact same (both.1.symm.trans both.2)
      rw [kept, apart, List.append_nil]
      exact held.listed other member
  · intro row member
    exact held.owned row (perm.mem_iff.mp member)

end Owners

/-! ## Rows added one after another -/

namespace Table

variable [DecidableEq κ]

/-- Insert rows one after another; a stored key refuses. -/
def insertAll? (table : Table key) (rows : List α) : Option (Table key) :=
  rows.foldlM insert? table

/-- Inserted rows are appended. -/
theorem rows_of_insertAll? {table next : Table key} {rows : List α}
    (inserted : table.insertAll? rows = some next) : next.rows = table.rows ++ rows := by
  induction rows generalizing table with
  | nil =>
    have same : table = next := Option.some.inj inserted
    rw [same, List.append_nil]
  | cons row rest ih =>
    obtain ⟨middle, first, later⟩ := Option.bind_eq_some_iff.mp inserted
    rw [ih later, rows_of_insert? first, List.append_assoc]
    rfl

end Table

end Macr.Lib
