import Mathlib.Data.List.Basic
import Mathlib.Data.List.Induction
import Mathlib.Tactic.Common

/-!
# Service in rotation

A log lists who was served, in order; the last turn of a party is the position of its last
service, counted from one, and zero for a party never served. A scheduler that serves no party
ahead of one with an older last turn passes no waiting party over twice: between two services of
one party, every party it was preferred to at the second has been served.
-/

namespace Macr.Lib

variable {κ : Type} [DecidableEq κ]

/-- The last turn of a party in a log. -/
def lastServed (log : List κ) (party : κ) : Nat := log.length - log.reverse.idxOf party

@[simp] theorem lastServed_nil (party : κ) : lastServed [] party = 0 := rfl

/-- A service is the last turn of the party served and leaves the others'. -/
theorem lastServed_concat (log : List κ) (served party : κ) :
    lastServed (log ++ [served]) party =
      if served = party then log.length + 1 else lastServed log party := by
  unfold lastServed
  rw [List.reverse_append, List.reverse_singleton, List.singleton_append, List.length_append,
    List.length_singleton]
  by_cases same : served = party
  · rw [if_pos same, same, List.idxOf_cons_self]
    omega
  · rw [if_neg same, List.idxOf_cons_ne _ same]
    omega

/-- No last turn lies behind the log. -/
theorem lastServed_le (log : List κ) (party : κ) : lastServed log party ≤ log.length :=
  Nat.sub_le _ _

/-- A service is no later than the last turn of the party served. -/
theorem lt_lastServed {log : List κ} {index : Nat} {party : κ}
    (served : log[index]? = some party) : index < lastServed log party := by
  induction log using List.reverseRecOn with
  | nil => simp at served
  | append_singleton log last ih =>
    rw [lastServed_concat]
    have bound : index < (log ++ [last]).length := (List.getElem?_eq_some_iff.mp served).1
    rw [List.length_append, List.length_singleton] at bound
    split
    · exact bound
    · rename_i other
      by_cases earlier : index < log.length
      · rw [List.getElem?_append_left earlier] at served
        exact ih served
      · have same : index = log.length := by omega
        rw [same, List.getElem?_concat_length, Option.some.injEq] at served
        exact absurd served other

/-- A party with a last turn was served then. -/
theorem served_of_lastServed {log : List κ} {party : κ} (turn : 0 < lastServed log party) :
    log[lastServed log party - 1]? = some party := by
  induction log using List.reverseRecOn with
  | nil => simp at turn
  | append_singleton log last ih =>
    rw [lastServed_concat] at turn ⊢
    split
    · rename_i same
      rw [Nat.add_sub_cancel, List.getElem?_concat_length, same]
    · rename_i other
      rw [if_neg other] at turn
      have bound := lastServed_le log party
      rw [List.getElem?_append_left (by omega)]
      exact ih turn

/-- The rotation rule: a party served at a position, and preferred later to another whose last turn
is no older, leaves a service of the other in between. -/
theorem served_between {log : List κ} {index : Nat} {party other : κ}
    (served : log[index]? = some party) (different : other ≠ party)
    (preferred : lastServed log party ≤ lastServed log other) :
    ∃ later, index < later ∧ log[later]? = some other := by
  have turn := lt_lastServed served
  have here := served_of_lastServed (show 0 < lastServed log other by omega)
  refine ⟨lastServed log other - 1, ?_, here⟩
  by_contra early
  have same : lastServed log other - 1 = index := by omega
  rw [same, served, Option.some.injEq] at here
  exact different here.symm

end Macr.Lib
