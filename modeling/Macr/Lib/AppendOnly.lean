import Macr.Lib.Table

/-!
# Append-only tables

A row is added to an append-only table, found there, or refused because another row has its key.
Rows whose keys tell them apart, such as rows stored under a digest of their contents, are never
refused.
-/

namespace Macr.Lib.Table

variable {κ α : Type} {key : α → κ} [DecidableEq κ] [DecidableEq α]

/-- The table with a row, and whether the row is new; none when another row has its key. -/
def append? (table : Table key) (row : α) : Option (Table key × Bool) :=
  match table.find? (key row) with
  | none => (table.insert? row).map (fun next => (next, true))
  | some existing => if existing = row then some (table, false) else none

/-- A row is added where no row has its key, and found where it is stored. -/
theorem append?_eq_some {table next : Table key} {row : α} {added : Bool} :
    table.append? row = some (next, added) ↔
      (table.insert? row = some next ∧ added = true) ∨
        (row ∈ table.rows ∧ next = table ∧ added = false) := by
  unfold append?
  cases found : table.find? (key row) with
  | none =>
    have absent : row ∉ table.rows := fun stored =>
      (table.find?_eq_none _).mp found row stored rfl
    simp [absent]
  | some existing =>
    obtain ⟨stored, same⟩ := (table.find?_eq_some _ _).mp found
    have refused : table.insert? row ≠ some next := by
      intro inserted
      exact fresh_of_insert? inserted existing stored same
    by_cases equal : existing = row
    · subst equal
      simp [refused, stored, eq_comm]
    · have absent : row ∉ table.rows := fun other =>
        equal (table.eq_of_key stored other same)
      simp [equal, refused, absent]

/-- The rows after an addition are the rows before it and the row. -/
theorem mem_append? {table next : Table key} {row : α} {added : Bool}
    (appended : table.append? row = some (next, added)) (other : α) :
    other ∈ next.rows ↔ other ∈ table.rows ∨ other = row := by
  rcases append?_eq_some.mp appended with ⟨inserted, _⟩ | ⟨stored, rfl, _⟩
  · rw [rows_of_insert? inserted, List.mem_append, List.mem_singleton]
  · constructor
    · exact Or.inl
    · rintro (held | rfl)
      · exact held
      · exact stored

/-- A row that was added is stored. -/
theorem stored_of_append? {table next : Table key} {row : α} {added : Bool}
    (appended : table.append? row = some (next, added)) : row ∈ next.rows :=
  (mem_append? appended row).mpr (.inr rfl)

/-- No addition removes a row. -/
theorem kept_of_append? {table next : Table key} {row other : α} {added : Bool}
    (appended : table.append? row = some (next, added)) (stored : other ∈ table.rows) :
    other ∈ next.rows :=
  (mem_append? appended other).mpr (.inl stored)

/-- A property of all rows that the new row has is one of all rows after an addition. -/
theorem forall_of_append? {table next : Table key} {row : α} {added : Bool} {p : α → Prop}
    (appended : table.append? row = some (next, added)) (held : ∀ other ∈ table.rows, p other)
    (new : p row) : ∀ other ∈ next.rows, p other := by
  intro other stored
  rcases (mem_append? appended other).mp stored with before | rfl
  · exact held other before
  · exact new

/-- A row is refused exactly when another row has its key. -/
theorem append?_eq_none {table : Table key} {row : α} :
    table.append? row = none ↔ ∃ other ∈ table.rows, key other = key row ∧ other ≠ row := by
  unfold append?
  cases found : table.find? (key row) with
  | none =>
    have absent := (table.find?_eq_none _).mp found
    have fresh : key row ∉ table.rows.map key := by
      intro repeated
      obtain ⟨other, stored, same⟩ := List.mem_map.mp repeated
      exact absent other stored same
    have inserted : table.insert? row = some (table.insert row fresh) :=
      (insert?_eq_some _ _ _).mpr ⟨fresh, rfl⟩
    simp only [inserted, Option.map_some, reduceCtorEq, false_iff]
    rintro ⟨other, stored, same, _⟩
    exact absent other stored same
  | some existing =>
    obtain ⟨stored, same⟩ := (table.find?_eq_some _ _).mp found
    by_cases equal : existing = row
    · subst equal
      simp only [if_true, reduceCtorEq, false_iff]
      rintro ⟨other, held, again, different⟩
      exact different (table.eq_of_key held stored again)
    · simp only [if_neg equal, true_iff]
      exact ⟨existing, stored, same, equal⟩

/-- A row is never refused where keys tell the rows apart from it. -/
theorem append?_isSome {table : Table key} {row : α}
    (apart : ∀ other ∈ table.rows, key other = key row → other = row) :
    ∃ next added, table.append? row = some (next, added) := by
  cases appended : table.append? row with
  | none =>
    obtain ⟨other, stored, same, different⟩ := append?_eq_none.mp appended
    exact absurd (apart other stored same) different
  | some result => exact ⟨result.1, result.2, rfl⟩

end Macr.Lib.Table
