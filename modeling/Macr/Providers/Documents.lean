import Macr.Lib.JsonValues

/-!
# Values in a response

What a value of a document has to be for an adapter: absent, a count, a counter. A count is a JSON
integer that is not negative; `-0` is one.
-/

namespace Macr.Providers

open Lib Lib.JsonText

/-- A value that is missing or null. -/
def Absent (value : Option Document) : Prop := value = none ∨ value = some .null

/-- A non-negative integer. -/
def IsCount (value : Option Document) (count : Nat) : Prop :=
  ∃ number, value = some (.number number) ∧ number.isInteger = true ∧ number.integer = count

/-- A usage counter: absent, or a non-negative integer. -/
def Counter (value : Option Document) : Prop := Absent value ∨ ∃ count, IsCount value count

/-- A value is one count. -/
theorem IsCount.unique {value : Option Document} {count other : Nat} (counts : IsCount value count)
    (others : IsCount value other) : count = other := by
  obtain ⟨number, rfl, -, same⟩ := counts
  obtain ⟨number', given, -, same'⟩ := others
  obtain rfl := Document.number.inj (Option.some.inj given)
  exact Int.natCast_inj.mp (same.symm.trans same')

end Macr.Providers
