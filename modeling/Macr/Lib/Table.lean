import Mathlib.Data.List.Basic
import Mathlib.Data.List.Nodup
import Mathlib.Tactic.Common

/-!
# Keyed tables

A table is a list of rows with pairwise distinct keys; the key law is a field, so a duplicated
key cannot be built. The operations are those of a relational store: lookup by key, checked
insertion, and an update of every row that meets a condition. An update may not change a key,
which each caller proves of its own assignment.
-/

namespace Macr.Lib

/-- A measure that tells the rows of a list apart tells them from a row it gives a new value. -/
theorem injective_concat {α β : Type} {measure : α → β} {rows : List α} {row : α}
    (held : ∀ first ∈ rows, ∀ second ∈ rows, measure first = measure second → first = second)
    (fresh : ∀ other ∈ rows, measure other ≠ measure row) :
    ∀ first ∈ rows ++ [row], ∀ second ∈ rows ++ [row],
      measure first = measure second → first = second := by
  intro first firstMember second secondMember same
  rcases List.mem_append.mp firstMember with firstOld | firstNew <;>
    rcases List.mem_append.mp secondMember with secondOld | secondNew
  · exact held first firstOld second secondOld same
  · rw [List.mem_singleton.mp secondNew] at same
    exact absurd same (fresh first firstOld)
  · rw [List.mem_singleton.mp firstNew] at same
    exact absurd same.symm (fresh second secondOld)
  · rw [List.mem_singleton.mp firstNew, List.mem_singleton.mp secondNew]

/-- Rows in insertion order, with a proof that no key occurs twice. -/
structure Table {κ α : Type} (key : α → κ) where
  /-- The stored rows. -/
  rows : List α
  /-- The primary-key constraint. -/
  distinct : (rows.map key).Nodup

namespace Table

variable {κ α : Type} {key : α → κ}

/-- The table with no row. -/
def empty : Table key := ⟨[], List.nodup_nil⟩

@[simp] theorem empty_rows : (empty : Table key).rows = [] := rfl

/-- Two tables with the same rows are the same table. -/
theorem ext_rows {left right : Table key} (same : left.rows = right.rows) : left = right := by
  cases left
  cases right
  cases same
  rfl

/-- Two stored rows with one key are one row. -/
theorem eq_of_key (table : Table key) {left right : α} (hl : left ∈ table.rows)
    (hr : right ∈ table.rows) (same : key left = key right) : left = right :=
  List.inj_on_of_nodup_map table.distinct hl hr same

/-- No row is stored twice. -/
theorem nodup_rows (table : Table key) : table.rows.Nodup := List.Nodup.of_map key table.distinct

/-- Assign to every row that meets the condition. -/
def update (table : Table key) (condition : α → Bool) (assign : α → α)
    (keeps : ∀ row, key (assign row) = key row := by intro _; rfl) : Table key where
  rows := table.rows.map (fun row => if condition row then assign row else row)
  distinct := by
    have same : key ∘ (fun row => if condition row then assign row else row) = key := by
      funext row
      by_cases h : condition row <;> simp [h, keeps]
    rw [List.map_map, same]
    exact table.distinct

/-- A row after an update is a row before it, assigned when it met the condition. -/
theorem mem_update (table : Table key) (condition : α → Bool) (assign : α → α)
    (keeps : ∀ row, key (assign row) = key row) (row : α) :
    row ∈ (table.update condition assign keeps).rows ↔
      ∃ old ∈ table.rows, (if condition old then assign old else old) = row := by
  simp [update]

/-- A stored row is there after an update, assigned when it met the condition. -/
theorem mem_update_of_mem (table : Table key) (condition : α → Bool) (assign : α → α)
    (keeps : ∀ row, key (assign row) = key row) {row : α} (stored : row ∈ table.rows) :
    (if condition row then assign row else row) ∈ (table.update condition assign keeps).rows :=
  (table.mem_update condition assign keeps _).mpr ⟨row, stored, rfl⟩

/-- An update whose condition no row meets changes nothing. -/
theorem update_none (table : Table key) (condition : α → Bool) (assign : α → α)
    (keeps : ∀ row, key (assign row) = key row)
    (unmet : ∀ row ∈ table.rows, condition row = false) :
    table.update condition assign keeps = table := by
  apply ext_rows
  simp only [update]
  conv_rhs => rw [← List.map_id table.rows]
  apply List.map_congr_left
  intro row stored
  simp [unmet row stored]

/-- A condition that some stored row meets, and only rows with one key, is met by every stored row
with that key. -/
theorem met_of_countP (table : Table key) {condition : α → Bool} {k : κ}
    (found : table.rows.countP condition ≠ 0) (alone : ∀ row, condition row = true → key row = k)
    {row : α} (stored : row ∈ table.rows) (same : key row = k) : condition row = true := by
  obtain ⟨other, held, met⟩ := List.countP_pos_iff.mp (Nat.pos_of_ne_zero found)
  have equal : other = row := table.eq_of_key held stored ((alone other met).trans same.symm)
  rw [← equal]
  exact met

/-- Add a row whose key is new. -/
def insert (table : Table key) (row : α) (fresh : key row ∉ table.rows.map key) : Table key where
  rows := table.rows ++ [row]
  distinct := by
    rw [List.map_append, List.map_singleton]
    exact List.Nodup.append table.distinct (List.nodup_singleton _)
      (List.disjoint_singleton.mpr fresh)

@[simp] theorem insert_rows (table : Table key) (row : α)
    (fresh : key row ∉ table.rows.map key) :
    (table.insert row fresh).rows = table.rows ++ [row] := rfl

/-- Remove every row that meets the condition. -/
def delete (table : Table key) (condition : α → Bool) : Table key where
  rows := table.rows.filter (fun row => !condition row)
  distinct := table.distinct.sublist (List.filter_sublist.map key)

/-- A row is left by a deletion when it was stored and did not meet the condition. -/
@[simp] theorem mem_delete (table : Table key) (condition : α → Bool) (row : α) :
    row ∈ (table.delete condition).rows ↔ row ∈ table.rows ∧ condition row = false := by
  simp [delete]

/-- Rows deleted and appended again are the rows there were. -/
theorem perm_of_delete_append (table : Table key) (condition : α → Bool) :
    ((table.delete condition).rows ++ table.rows.filter condition).Perm table.rows :=
  List.perm_append_comm.trans (List.filter_append_perm condition table.rows)

/-! ## Agreement on some rows -/

/-- Two tables hold the same rows of a kind. -/
def Agree (kind : α → Prop) (before after : Table key) : Prop :=
  ∀ row, kind row → (row ∈ after.rows ↔ row ∈ before.rows)

namespace Agree

variable {kind : α → Prop} {before mid after : Table key}

/-- A table agrees with itself. -/
theorem refl (kind : α → Prop) (table : Table key) : Agree kind table table :=
  fun _ _ => Iff.rfl

/-- Agreement passes from one table over a second to a third. -/
theorem trans (earlier : Agree kind before mid) (later : Agree kind mid after) :
    Agree kind before after :=
  fun row is_kind => (later row is_kind).trans (earlier row is_kind)

/-- A new row of another kind leaves the rows of the kind. -/
theorem of_append {row : α} (other : ¬kind row) (rows : after.rows = before.rows ++ [row]) :
    Agree kind before after := by
  intro held is_kind
  have different : held ≠ row := by
    rintro rfl
    exact other is_kind
  simp [rows, different]

/-- An update that reaches no row of the kind, and makes none, leaves the rows of the kind. -/
theorem of_update {condition : α → Bool} {assign : α → α}
    (rows : after.rows = before.rows.map (fun row => if condition row then assign row else row))
    (apart : ∀ row ∈ before.rows, condition row = true → ¬kind row ∧ ¬kind (assign row)) :
    Agree kind before after := by
  intro row is_kind
  rw [rows, List.mem_map]
  constructor
  · rintro ⟨old, held, rfl⟩
    by_cases met : condition old = true
    · rw [if_pos met] at is_kind
      exact absurd is_kind (apart old held met).2
    · rw [if_neg met]
      exact held
  · intro held
    have unmet : ¬condition row = true := fun met => (apart row held met).1 is_kind
    exact ⟨row, held, if_neg unmet⟩

end Agree

/-! ## Lookup -/

variable [DecidableEq κ]

/-- The row with a key, if one is stored. -/
def find? (table : Table key) (k : κ) : Option α := table.rows.find? (fun row => key row = k)

/-- Lookup answers with a row exactly when that row is stored under the key. -/
theorem find?_eq_some (table : Table key) (k : κ) (row : α) :
    table.find? k = some row ↔ row ∈ table.rows ∧ key row = k := by
  constructor
  · intro found
    have matching := List.find?_some found
    exact ⟨List.mem_of_find?_eq_some found, by simpa using matching⟩
  · rintro ⟨stored, same⟩
    cases found : table.find? k with
    | none =>
      have absent := List.find?_eq_none.mp found row stored
      simp [same] at absent
    | some other =>
      have matching := List.find?_some found
      have equal := table.eq_of_key (List.mem_of_find?_eq_some found) stored
        (by rw [same]; simpa using matching)
      rw [equal]

/-- Lookup fails exactly when no stored row has the key. -/
theorem find?_eq_none (table : Table key) (k : κ) :
    table.find? k = none ↔ ∀ row ∈ table.rows, key row ≠ k := by
  simp [find?]

/-- A stored row is found under its own key. -/
theorem find?_self (table : Table key) {row : α} (stored : row ∈ table.rows) :
    table.find? (key row) = some row :=
  (table.find?_eq_some _ _).mpr ⟨stored, rfl⟩

/-- Lookup after an update finds the updated row. -/
theorem find?_update (table : Table key) (condition : α → Bool) (assign : α → α)
    (keeps : ∀ row, key (assign row) = key row) (k : κ) :
    (table.update condition assign keeps).find? k =
      (table.find? k).map (fun row => if condition row then assign row else row) := by
  have same : ∀ row, key (if condition row then assign row else row) = key row := by
    intro row
    by_cases h : condition row <;> simp [h, keeps]
  simp only [find?, update, List.find?_map, Function.comp_def, same]

/-- Lookup after an insertion finds the new row under its key and every other row as before. -/
theorem find?_insert (table : Table key) (row : α) (fresh : key row ∉ table.rows.map key) (k : κ) :
    (table.insert row fresh).find? k = if key row = k then some row else table.find? k := by
  by_cases same : key row = k
  · rw [if_pos same]
    exact (find?_eq_some _ _ _).mpr ⟨by simp, same⟩
  · rw [if_neg same]
    simp [find?, List.find?_append, same]

/-- Insertion checked against the primary key; a stored key refuses. -/
def insert? (table : Table key) (row : α) : Option (Table key) :=
  if fresh : key row ∉ table.rows.map key then some (table.insert row fresh) else none

/-- A checked insertion that succeeds appends the row, whose key was new. -/
theorem insert?_eq_some (table next : Table key) (row : α) :
    table.insert? row = some next ↔
      ∃ fresh : key row ∉ table.rows.map key, next = table.insert row fresh := by
  unfold insert?
  split
  · rename_i fresh
    simp only [Option.some.injEq]
    exact ⟨fun h => ⟨fresh, h.symm⟩, fun ⟨_, h⟩ => h.symm⟩
  · rename_i stored
    simp only [reduceCtorEq, false_iff]
    rintro ⟨fresh, _⟩
    exact stored fresh

/-- The rows after a checked insertion. -/
theorem rows_of_insert? {table next : Table key} {row : α} (inserted : table.insert? row = some next) :
    next.rows = table.rows ++ [row] := by
  obtain ⟨_, rfl⟩ := (table.insert?_eq_some next row).mp inserted
  rfl

/-- No stored row had the key of a row that was inserted. -/
theorem fresh_of_insert? {table next : Table key} {row : α}
    (inserted : table.insert? row = some next) : ∀ other ∈ table.rows, key other ≠ key row := by
  obtain ⟨fresh, _⟩ := (table.insert?_eq_some next row).mp inserted
  intro other stored same
  exact fresh (List.mem_map.mpr ⟨other, stored, same⟩)

/-- Nor was the row itself. -/
theorem not_mem_of_insert? {table next : Table key} {row : α}
    (inserted : table.insert? row = some next) : row ∉ table.rows :=
  fun stored => fresh_of_insert? inserted row stored rfl

/-- No lookup finds the key of a row that was inserted. -/
theorem absent_of_insert? {table next : Table key} {row : α}
    (inserted : table.insert? row = some next) : table.find? (key row) = none :=
  (table.find?_eq_none (key row)).mpr (fresh_of_insert? inserted)

/-- The rows with the key of a stored row are that row. -/
theorem filter_key (table : Table key) {row : α} (stored : row ∈ table.rows) :
    table.rows.filter (fun other => key other = key row) = [row] := by
  apply List.perm_singleton.mp
  apply (List.perm_ext_iff_of_nodup (table.nodup_rows.filter _) (List.nodup_singleton row)).mpr
  intro other
  rw [List.mem_filter, List.mem_singleton]
  constructor
  · rintro ⟨member, same⟩
    exact table.eq_of_key member stored (of_decide_eq_true same)
  · rintro rfl
    exact ⟨stored, decide_eq_true rfl⟩

/-- A stored row deleted by its key can be inserted again, and leaves the rows there were. -/
theorem insert?_of_delete (table : Table key) {row : α} (stored : row ∈ table.rows) :
    ∃ next : Table key, (table.delete (fun other => key other = key row)).insert? row = some next ∧
      next.rows.Perm table.rows := by
  have fresh : key row ∉ (table.delete (fun other => key other = key row)).rows.map key := by
    intro repeated
    obtain ⟨other, member, same⟩ := List.mem_map.mp repeated
    obtain ⟨_, apart⟩ := (table.mem_delete _ _).mp member
    exact of_decide_eq_false apart same
  refine ⟨_, (insert?_eq_some _ _ _).mpr ⟨fresh, rfl⟩, ?_⟩
  have again := table.perm_of_delete_append (fun other => key other = key row)
  rw [table.filter_key stored] at again
  exact again

/-- Lookup after a checked insertion. -/
theorem find?_of_insert? {table next : Table key} {row : α}
    (inserted : table.insert? row = some next) (k : κ) :
    next.find? k = if key row = k then some row else table.find? k := by
  obtain ⟨fresh, rfl⟩ := (table.insert?_eq_some next row).mp inserted
  exact table.find?_insert row fresh k

/-- Rewriting one stored row moves a count by that row's own change. -/
theorem countP_update_key (table : Table key) (assign : α → α)
    (keeps : ∀ row, key (assign row) = key row) (count : α → Bool) {row : α}
    (stored : row ∈ table.rows) :
    (table.update (fun other => key other = key row) assign keeps).rows.countP count +
        (if count row then 1 else 0) =
      table.rows.countP count + (if count (assign row) then 1 else 0) := by
  obtain ⟨rows, distinct⟩ := table
  simp only [update]
  simp only at stored
  induction rows with
  | nil => simp at stored
  | cons head rest ih =>
    rw [List.map_cons, List.nodup_cons] at distinct
    by_cases same : key head = key row
    · have untouched : ∀ other ∈ rest, key other ≠ key row := by
        intro other held equal
        exact distinct.1 (List.mem_map.mpr ⟨other, held, by rw [equal, same]⟩)
      have isHead : row = head := by
        rcases List.mem_cons.mp stored with rfl | held
        · rfl
        · exact absurd rfl (untouched row held)
      subst isHead
      have rest_same : rest.map (fun other => if decide (key other = key row) = true
          then assign other else other) = rest := by
        conv_rhs => rw [← List.map_id rest]
        apply List.map_congr_left
        intro other held
        simp [untouched other held]
      simp only [List.map_cons, decide_true, if_true, List.countP_cons, rest_same]
      omega
    · have held : row ∈ rest := by
        rcases List.mem_cons.mp stored with rfl | held
        · exact absurd rfl same
        · exact held
      have step := ih distinct.2 held
      simp only [List.map_cons, same, decide_false, Bool.false_eq_true, if_false,
        List.countP_cons]
      omega

/-- A condition that one stored row meets, and that no other key meets, counts one row. -/
theorem countP_eq_one (table : Table key) {row : α} (stored : row ∈ table.rows)
    {condition : α → Bool} (met : condition row = true)
    (alone : ∀ other, condition other = true → key other = key row) :
    table.rows.countP condition = 1 := by
  have same : table.rows.countP condition = table.rows.countP (fun other => key other = key row) := by
    apply List.countP_congr
    intro other held
    simp only [decide_eq_true_eq]
    constructor
    · exact alone other
    · intro equal
      rw [table.eq_of_key held stored equal]
      exact met
  rw [same]
  obtain ⟨rows, distinct⟩ := table
  simp only at stored ⊢
  clear same met alone
  induction rows with
  | nil => simp at stored
  | cons head rest ih =>
    rw [List.map_cons, List.nodup_cons] at distinct
    rcases List.mem_cons.mp stored with rfl | held
    · have none_later : rest.countP (fun other => key other = key row) = 0 := by
        rw [List.countP_eq_zero]
        intro other later
        simp only [decide_eq_true_eq]
        intro equal
        exact distinct.1 (List.mem_map.mpr ⟨other, later, equal⟩)
      simp [none_later]
    · have head_other : key head ≠ key row := by
        intro equal
        exact distinct.1 (List.mem_map.mpr ⟨row, held, equal.symm⟩)
      rw [List.countP_cons, ih distinct.2 held]
      simp [head_other]

end Table
end Macr.Lib
