import Macr.ProviderAdmission.Tables

/-!
# The runtime database

One SQLite file that every store opens. Each store operation is one serialised write transaction
over it, so it is one state here.
-/

namespace Macr

/-- The tables of the runtime database. -/
structure RuntimeDb where
  /-- `fencing_counter`. -/
  fencingCounter : Nat
  /-- `authority_epoch` and `dispatch_authorities`. -/
  authority : AuthorityTables
  /-- The provider admission tables. -/
  admission : AdmissionTables

/-- A new database. -/
def RuntimeDb.initial : RuntimeDb := ⟨0, .initial, .initial⟩

end Macr
