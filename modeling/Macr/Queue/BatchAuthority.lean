import Macr.TargetLeases

/-!
# Batch authorities

A batch authority allows a set of dispatchers to claim the members of one plan, in their order,
under an aggregate cost ceiling. Its row holds the scope beside its digest; a reference repeats
the digest, and is current while the row is unrevoked and its expiry lies ahead.
-/

namespace Macr

open Lib

/-- `BatchMemberScope`. -/
@[ext]
structure BatchMemberScope where
  /-- The member. -/
  memberDigest : Digest
  /-- Its provider. -/
  providerId : String
  /-- Its route. -/
  routeId : Digest
  /-- Its role. -/
  roleDigest : Digest
  /-- Its privacy class. -/
  privacy : String
  /-- Its context class. -/
  contextClass : String
  /-- What one attempt may cost. -/
  costCeilingUsd : ℚ
  /-- The texts are bounded identifiers. -/
  identifiers : isIdentifier providerId ∧ isIdentifier privacy ∧ isIdentifier contextClass
  /-- A ceiling is not negative. -/
  ceiling_nonneg : 0 ≤ costCeilingUsd

instance : DecidableEq BatchMemberScope :=
  fun _ _ => decidable_of_iff' _ BatchMemberScope.ext_iff

/-- `BatchMemberScope.to_dict`. -/
def BatchMemberScope.toDict (scope : BatchMemberScope) : List (String × Json) :=
  [("member_digest", .hex scope.memberDigest), ("provider_id", .str scope.providerId),
    ("route_id", .hex scope.routeId), ("role_digest", .hex scope.roleDigest),
    ("privacy", .str scope.privacy), ("context_class", .str scope.contextClass),
    ("cost_ceiling_usd", .num scope.costCeilingUsd)]

/-- `BatchScope`, with its dispatchers sorted. -/
@[ext]
structure BatchScope where
  /-- The plan. -/
  planDigest : Digest
  /-- Its members in order. -/
  orderedMembers : List BatchMemberScope
  /-- What the batch may cost. -/
  aggregateCostCeilingUsd : ℚ
  /-- When the authority expires. -/
  expiresAt : Timestamp
  /-- Who may claim. -/
  authorizedDispatchers : List String
  /-- There is a member. -/
  members_required : orderedMembers ≠ []
  /-- No member occurs twice. -/
  members_distinct : (orderedMembers.map (·.memberDigest)).Nodup
  /-- A ceiling is not negative. -/
  aggregate_nonneg : 0 ≤ aggregateCostCeilingUsd
  /-- There is a dispatcher. -/
  dispatchers_required : authorizedDispatchers ≠ []
  /-- No dispatcher occurs twice. -/
  dispatchers_distinct : authorizedDispatchers.Nodup
  /-- Dispatchers are bounded identifiers. -/
  dispatchers_valid : ∀ dispatcher ∈ authorizedDispatchers, isIdentifier dispatcher

instance : DecidableEq BatchScope :=
  fun _ _ => decidable_of_iff' _ BatchScope.ext_iff

/-- `BatchScope.to_dict`. -/
def BatchScope.toDict (scope : BatchScope) : Json :=
  .obj [("plan_digest", .hex scope.planDigest),
    ("ordered_members", .arr (scope.orderedMembers.map (fun member => .obj member.toDict))),
    ("aggregate_cost_ceiling_usd", .num scope.aggregateCostCeilingUsd),
    ("expires_at", .time scope.expiresAt),
    ("authorized_dispatchers", .arr (scope.authorizedDispatchers.map .str))]

/-- `BatchAuthorityReference`. -/
structure BatchAuthorityReference where
  /-- The row's identifier. -/
  authorityId : Uuid
  /-- The digest of the issued body. -/
  digest : Digest
  /-- The plan's revision of the authority. -/
  revision : Nat
  /-- The plan. -/
  planDigest : Digest
deriving DecidableEq

/-- The hashed body of a batch authority. -/
structure BatchAuthorityBody where
  /-- The row's identifier. -/
  authorityId : Uuid
  /-- The plan's revision of the authority. -/
  revision : Nat
  /-- When it was issued. -/
  issuedAt : Timestamp
  /-- What it allows. -/
  scope : BatchScope
deriving DecidableEq

/-- The document written to `body_json`. -/
def BatchAuthorityBody.toDict (body : BatchAuthorityBody) : Json :=
  .obj [("authority_id", .hex body.authorityId), ("revision", .int body.revision),
    ("issued_at", .time body.issuedAt), ("scope", body.scope.toDict)]

/-- A row of `batch_authorities`. -/
structure BatchAuthorityRow where
  /-- Primary key. -/
  authorityId : Uuid
  /-- `body_json`. -/
  body : BatchAuthorityBody
  /-- `body_sha256`. -/
  bodySha256 : Digest
  /-- `scope_json`. -/
  scope : BatchScope
  /-- `scope_sha256`. -/
  scopeSha256 : Digest
  /-- The plan. -/
  planDigest : Digest
  /-- The plan's revision of the authority. -/
  revision : Nat
  /-- When it was issued. -/
  issuedAt : Timestamp
  /-- When it expires. -/
  expiresAt : Timestamp
  /-- When it was revoked. -/
  revokedAt : Option Timestamp
deriving DecidableEq

/-- `batch_authorities`. -/
abbrev BatchAuthorities := Table (fun row : BatchAuthorityRow => row.authorityId)

namespace BatchAuthorities

/-- `COALESCE(MAX(revision), 0) + 1` of a plan. -/
def nextRevision (authorities : BatchAuthorities) (planDigest : Digest) : Nat :=
  ((authorities.rows.filter (fun row => row.planDigest = planDigest)).map (·.revision)).foldr
    max 0 + 1

/-- The row an issue inserts. -/
def issuedRow (sha : Sha256) (authorities : BatchAuthorities) (scope : BatchScope)
    (now : Timestamp) (authorityId : Uuid) : BatchAuthorityRow :=
  let revision := authorities.nextRevision scope.planDigest
  let body : BatchAuthorityBody := ⟨authorityId, revision, now, scope⟩
  { authorityId := authorityId
    body := body
    bodySha256 := sha.sha256 body.toDict
    scope := scope
    scopeSha256 := sha.sha256 scope.toDict
    planDigest := scope.planDigest
    revision := revision
    issuedAt := now
    expiresAt := scope.expiresAt
    revokedAt := none }

/-- The reference of a row. -/
def referenceOf (row : BatchAuthorityRow) : BatchAuthorityReference :=
  ⟨row.authorityId, row.bodySha256, row.revision, row.planDigest⟩

/-- `BatchAuthorityStore.issue`; the identifier is the drawn UUID. -/
def issue (sha : Sha256) (authorities : BatchAuthorities) (scope : BatchScope) (now : Timestamp)
    (authorityId : Uuid) :
    Except MacrError (Committed BatchAuthorities BatchAuthorityReference) := do
  raiseIf (scope.expiresAt ≤ now) (.valueError "batch authority expires_at must be in the future")
  let row := authorities.issuedRow sha scope now authorityId
  raiseIf (∃ other ∈ authorities.rows, other.bodySha256 = row.bodySha256) .integrity
  let authorities ← require (authorities.insert? row) .integrity
  commit authorities (referenceOf row)

/-- `BatchAuthorityStore._load_scope`. -/
def loadScope (sha : Sha256) (authorities : BatchAuthorities)
    (reference : BatchAuthorityReference) (now : Timestamp) : Except MacrError BatchScope := do
  let row ← require (authorities.find? reference.authorityId)
    (.dispatchAuthorization "batch authorization record is missing")
  raiseIf (sha.sha256 row.body.toDict ≠ row.bodySha256 ∨
      sha.sha256 row.body.toDict ≠ reference.digest ∨
      sha.sha256 row.scope.toDict ≠ row.scopeSha256 ∨ row.body.scope ≠ row.scope ∨
      row.planDigest ≠ reference.planDigest ∨ row.revision ≠ reference.revision ∨
      row.scope.planDigest ≠ reference.planDigest)
    (.dispatchAuthorization "batch authorization digest is invalid")
  raiseIf (row.revokedAt ≠ none) (.dispatchAuthorization "batch authorization is revoked")
  raiseIf (row.expiresAt ≤ now) (.dispatchAuthorization "batch authorization is expired")
  pure row.scope

/-- `BatchAuthorityStore.scope`. -/
def scope (sha : Sha256) (authorities : BatchAuthorities) (reference : BatchAuthorityReference)
    (dispatcherId : Option String) (now : Timestamp) : Except MacrError BatchScope := do
  let scope ← loadScope sha authorities reference now
  match dispatcherId with
  | none => pure scope
  | some dispatcher =>
    raiseIf (¬isIdentifier dispatcher)
      (.valueError "dispatcher_id must be a bounded identifier")
    raiseIf (dispatcher ∉ scope.authorizedDispatchers)
      (.dispatchAuthorization "batch authorization does not permit dispatcher")
    pure scope

/-- `BatchAuthorityStore.revoke`. -/
def revoke (authorities : BatchAuthorities) (reference : BatchAuthorityReference)
    (now : Timestamp) : Except MacrError (Committed BatchAuthorities Bool) := do
  let row ← require (authorities.find? reference.authorityId)
    (.dispatchAuthorization "batch authorization record is missing")
  raiseIf (row.bodySha256 ≠ reference.digest ∨ row.revision ≠ reference.revision ∨
      row.planDigest ≠ reference.planDigest)
    (.dispatchAuthorization "batch authorization digest is invalid")
  if row.revokedAt = none then
    commit (authorities.update (fun other => other.authorityId = reference.authorityId)
      (fun other => { other with revokedAt := some now })) true
  else
    commit authorities false

end BatchAuthorities

end Macr
