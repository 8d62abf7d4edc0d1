import Mathlib.Data.List.Basic
import Mathlib.Tactic.Common

/-!
# Chains of records

An append-only log in which the record at each place carries the number of that place, counted
from one, and the digest of the record before it. What a log must satisfy is stated over places;
appending one record is the only rule a growing log needs.
-/

namespace Macr.Lib

/-- How the records of a chain name their place and their predecessor. -/
structure ChainSpec (α β : Type) where
  /-- The place, counted from one. -/
  revision : α → Nat
  /-- The predecessor's digest. -/
  prior : α → β
  /-- The record's own digest. -/
  digest : α → β
  /-- What the first record names. -/
  zero : β

namespace ChainSpec

variable {α β : Type} (spec : ChainSpec α β)

/-- The digest the next record must name. -/
def head (log : List α) : β := (log.getLast?.map spec.digest).getD spec.zero

/-- Every record has the number of its place and names the record before it. -/
def Linked (log : List α) : Prop :=
  ∀ i record, log[i]? = some record →
    spec.revision record = i + 1 ∧ spec.prior record = spec.head (log.take i)

@[simp] theorem head_nil : spec.head [] = spec.zero := rfl

@[simp] theorem head_concat (log : List α) (record : α) :
    spec.head (log ++ [record]) = spec.digest record := by
  simp [head]

/-- The empty log is linked. -/
theorem linked_nil : spec.Linked [] := by
  intro i record found
  simp at found

/-- A record continues a linked log when it has the next number and names the head. -/
theorem linked_concat {log : List α} {record : α} :
    spec.Linked (log ++ [record]) ↔
      spec.Linked log ∧ spec.revision record = log.length + 1 ∧
        spec.prior record = spec.head log := by
  constructor
  · intro linked
    refine ⟨?_, ?_⟩
    · intro i earlier found
      have bound : i < log.length := (List.getElem?_eq_some_iff.mp found).1
      have place := linked i earlier (by rw [List.getElem?_append_left bound]; exact found)
      rw [List.take_append_of_le_length (Nat.le_of_lt bound)] at place
      exact place
    · have place := linked log.length record (by simp)
      rw [List.take_append_of_le_length (Nat.le_refl _), List.take_length] at place
      exact place
  · rintro ⟨linked, number, names⟩ i found at_place
    by_cases earlier : i < log.length
    · rw [List.getElem?_append_left earlier] at at_place
      rw [List.take_append_of_le_length (Nat.le_of_lt earlier)]
      exact linked i found at_place
    · have bound := (List.getElem?_eq_some_iff.mp at_place).1
      have last : i = log.length := by
        rw [List.length_append, List.length_singleton] at bound
        omega
      subst last
      have same : record = found := by simpa using at_place
      subst same
      rw [List.take_append_of_le_length (Nat.le_refl _), List.take_length]
      exact ⟨number, names⟩

variable {spec}

/-- The numbers of a linked log run from one to its length. -/
theorem Linked.revisions {log : List α} (linked : spec.Linked log) :
    log.map spec.revision = List.range' 1 log.length := by
  apply List.ext_getElem
  · simp
  · intro i left _
    have bound : i < log.length := by simpa using left
    have place := (linked i log[i] (List.getElem?_eq_getElem bound)).1
    simp [place, Nat.add_comm]

/-- A record of a linked log stands at the place it numbers. -/
theorem Linked.getElem?_of_mem {log : List α} (linked : spec.Linked log) {record : α}
    (member : record ∈ log) : log[spec.revision record - 1]? = some record := by
  obtain ⟨i, bound, rfl⟩ := List.getElem_of_mem member
  have found := List.getElem?_eq_getElem bound
  rw [(linked i _ found).1]
  simp

/-- The last record of a linked log has the log's length as its number. -/
theorem Linked.revision_getLast {log : List α} (linked : spec.Linked log) {record : α}
    (last : log.getLast? = some record) : spec.revision record = log.length := by
  rw [List.getLast?_eq_getElem?] at last
  have bound := (List.getElem?_eq_some_iff.mp last).1
  rw [(linked _ _ last).1]
  omega

end ChainSpec
end Macr.Lib
