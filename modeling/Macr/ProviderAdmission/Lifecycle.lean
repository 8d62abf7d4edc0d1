import Macr.ProviderAdmission.System

/-!
# The life of a request

A request keeps its identity and moves along the edges of one graph; its fencing token is drawn
when it is granted and never changes again. Both are read off the effects once, in each direction:
what becomes of a stored request, and where a stored request comes from.
-/

namespace Macr

open Lib Relation

/-- The moves of a request. -/
inductive Edge : RequestState → RequestState → Prop where
  | grant : Edge .waiting .granted
  | withdraw : Edge .waiting .cancelled
  | dispatch : Edge .granted .dispatched
  | cancel : Edge .granted .cancelled
  | complete : Edge .dispatched .completed
  | uncertain : Edge .dispatched .reconciliationRequired
  | resolve : Edge .reconciliationRequired .reconciled

/-- Any number of moves. -/
abbrev Lifecycle : RequestState → RequestState → Prop := ReflTransGen Edge

/-- A request whose transport may have started. -/
def RequestState.started : RequestState → Bool
  | .dispatched | .completed | .reconciliationRequired | .reconciled => true
  | _ => false

/-- A started transport stays started. -/
theorem started_of_lifecycle {first last : RequestState} (moves : Lifecycle first last)
    (started : first.started = true) : last.started = true := by
  induction moves with
  | refl => exact started
  | tail _ edge ih =>
    cases edge with
    | grant | withdraw | dispatch | cancel => exact absurd ih (by decide)
    | complete | uncertain | resolve => rfl

namespace ProviderAdmissionKernel

variable {sha : Sha256} {kernel : ProviderAdmissionKernel} {provider : String}
  {kind : EffectKind} {before after : RuntimeDb}

/-- Moves of the kernel's effects are moves of the graph. -/
theorem edge_of_moves {first last : RequestState} (edge : Moves kind first last) :
    Edge first last := by
  cases edge with
  | withdraw => exact Edge.withdraw
  | dispatch => exact Edge.dispatch
  | uncertain => exact Edge.uncertain

/-- Releases of the kernel's effects are moves of the graph. -/
theorem edge_of_releases {first last : RequestState} (edge : Releases first last) :
    Edge first last := by
  cases edge with
  | cancel => exact Edge.cancel
  | complete => exact Edge.complete
  | resolve => exact Edge.resolve

/-- What one effect does to a request: nothing, a move under its token, or a grant under the next
token. -/
inductive Advances (kind : EffectKind) (counter : Nat) (row next : RequestRow) : Prop where
  | stays (same : next = row)
  | moves (edge : Edge row.state next.state) (token : next.fencingToken = row.fencingToken)
  | granted (named : kind = .grant) (waiting : row.state = .waiting)
      (grant : next.state = .granted) (token : next.fencingToken = some (counter + 1))

/-- An advance is along the graph. -/
theorem Advances.lifecycle {counter : Nat} {row next : RequestRow}
    (advances : Advances kind counter row next) : Lifecycle row.state next.state := by
  cases advances with
  | stays same => exact same ▸ ReflTransGen.refl
  | moves edge token => exact ReflTransGen.single edge
  | granted named waiting grant token =>
    rw [waiting, grant]
    exact ReflTransGen.single Edge.grant

/-- What one effect does to all requests: each advances, and none is lost; a new one waits. -/
structure RequestsAdvance (kind : EffectKind) (counter : Nat) (before after : AdmissionTables) :
    Prop where
  /-- A stored request is still stored. -/
  kept : ∀ row ∈ before.requests.rows, ∃ next ∈ after.requests.rows,
    next.toRequestIdentity = row.toRequestIdentity ∧ Advances kind counter row next
  /-- A stored request was stored before, or is inserted. -/
  origin : ∀ next ∈ after.requests.rows,
    (∃ row ∈ before.requests.rows,
      next.toRequestIdentity = row.toRequestIdentity ∧ Advances kind counter row next) ∨
    (kind = .enqueue ∧ next.state = .waiting ∧ next.fencingToken = none ∧
      ∀ row ∈ before.requests.rows, row.requestId ≠ next.requestId)

/-- Where the requests are as they were, each stays. -/
theorem advance_of_requests {counter : Nat} {tables next : AdmissionTables}
    (requests : next.requests = tables.requests) : RequestsAdvance kind counter tables next where
  kept := fun row held => ⟨row, requests ▸ held, rfl, Advances.stays rfl⟩
  origin := fun row member => Or.inl ⟨row, requests ▸ member, rfl, Advances.stays rfl⟩

/-- Rewriting a request advances it and leaves the others. -/
theorem advance_of_rewrite {counter : Nat} {tables mid : AdmissionTables} {row : RequestRow}
    {progress : RequestProgress} (requests : mid.requests = tables.requests)
    (stored : row ∈ tables.requests.rows)
    (advance : Advances kind counter row { row with toRequestProgress := progress }) :
    RequestsAdvance kind counter tables (mid.rewriteRequest row progress) where
  kept := by
    intro old held
    by_cases same : old.requestId = row.requestId
    · have equal := tables.requests.eq_of_key held stored same
      subst equal
      exact ⟨_, (mid.mem_rewriteRequest (requests ▸ stored) progress _).mpr (Or.inr rfl), rfl,
        advance⟩
    · exact ⟨old, (mid.mem_rewriteRequest (requests ▸ stored) progress _).mpr
        (Or.inl ⟨requests ▸ held, same⟩), rfl, Advances.stays rfl⟩
  origin := by
    intro next member
    rcases (mid.mem_rewriteRequest (requests ▸ stored) progress next).mp member with
      ⟨held, _⟩ | rfl
    · exact Or.inl ⟨next, requests ▸ held, rfl, Advances.stays rfl⟩
    · exact Or.inl ⟨row, stored, rfl, advance⟩

/-- An insertion appends the request, whose identifier is new. -/
theorem insertRequest_rows {tables next : AdmissionTables} {row : RequestRow}
    (inserted : insertRequest tables row = .ok next) :
    next.requests.rows = tables.requests.rows ++ [row] ∧
      ∀ other ∈ tables.requests.rows, other.requestId ≠ row.requestId := by
  simp only [insertRequest, bind_eq_ok, raiseIf_eq_ok, exists_const, require_eq_ok,
    Table.insert?_eq_some, pure_eq_ok] at inserted
  obtain ⟨_, requests, ⟨fresh, rfl⟩, rfl⟩ := inserted
  refine ⟨rfl, fun other stored same => fresh ?_⟩
  exact same ▸ List.mem_map_of_mem stored

/-- Every effect advances the requests, under the counter it meets. -/
theorem advance_of_effect (effect : Effect sha kernel provider kind before after) :
    RequestsAdvance kind before.fencingCounter before.admission after.admission := by
  cases effect with
  | move stored own edge token =>
    exact advance_of_rewrite rfl stored (Advances.moves (edge_of_moves edge) token)
  | release stored own edge token decremented =>
    have requests := (AdmissionTables.decrementProject_eq_ok decremented).1.2.2.2
    exact advance_of_rewrite requests stored (Advances.moves (edge_of_releases edge) token)
  | enqueue own ownPolicy governs circuit probe inserted =>
    obtain ⟨rows, absent⟩ := insertRequest_rows inserted
    constructor
    · intro row held
      refine ⟨row, ?_, rfl, Advances.stays rfl⟩
      rw [rows]
      exact List.mem_append_left _ held
    · intro next member
      rw [rows, List.mem_append, List.mem_singleton] at member
      rcases member with held | rfl
      · exact Or.inl ⟨next, held, rfl, Advances.stays rfl⟩
      · exact Or.inr ⟨rfl, rfl, rfl, absent⟩
  | @grant _ state row request now own ownPolicy governs circuit probe stored named waiting =>
    have requests := (reserved before.admission state request now).requests
    rw [grant_admission stored named waiting]
    exact advance_of_rewrite requests stored (Advances.granted rfl waiting rfl rfl)
  | receipt named governs stored own about target notHalfOpen stop appended =>
    exact advance_of_requests appended.requests
  | target governs wasClosed closed formed about idle appended =>
    exact advance_of_requests appended.requests
  | halfOpen governs wasOpen halfOpen target about idle appended =>
    exact advance_of_requests appended.requests
  | supersede governs notHalfOpen sameProvider closed formed about settled capacity projectCap
      policy appended =>
    exact advance_of_requests (appended.requests.trans policy.requests)
  | genesis absent closed formed about policy transitions states others =>
    exact advance_of_requests (others.2.2.trans policy.requests)
  | policy policy => exact advance_of_requests policy.requests
  | authority => exact advance_of_requests rfl
  | token => exact advance_of_requests rfl

/-! ## Effects in sequence -/

/-- Requests are kept and move along the graph; a new one starts waiting. -/
structure RequestsMove (before after : AdmissionTables) : Prop where
  /-- A stored request is still stored. -/
  kept : ∀ row ∈ before.requests.rows, ∃ next ∈ after.requests.rows,
    next.toRequestIdentity = row.toRequestIdentity ∧ Lifecycle row.state next.state
  /-- A stored request was stored before, or is new. -/
  origin : ∀ next ∈ after.requests.rows,
    (∃ row ∈ before.requests.rows,
      next.toRequestIdentity = row.toRequestIdentity ∧ Lifecycle row.state next.state) ∨
    (Lifecycle .waiting next.state ∧ ∀ row ∈ before.requests.rows, row.requestId ≠ next.requestId)

namespace RequestsMove

/-- No move. -/
theorem refl (tables : AdmissionTables) : RequestsMove tables tables where
  kept := fun row held => ⟨row, held, rfl, ReflTransGen.refl⟩
  origin := fun row held => Or.inl ⟨row, held, rfl, ReflTransGen.refl⟩

/-- Moves after moves. -/
theorem trans {first mid last : AdmissionTables} (earlier : RequestsMove first mid)
    (later : RequestsMove mid last) : RequestsMove first last where
  kept := by
    intro row held
    obtain ⟨old, oldHeld, same, moves⟩ := earlier.kept row held
    obtain ⟨next, nextHeld, identity, more⟩ := later.kept old oldHeld
    exact ⟨next, nextHeld, identity.trans same, moves.trans more⟩
  origin := by
    intro next member
    rcases later.origin next member with ⟨old, oldHeld, identity, more⟩ | ⟨more, absent⟩
    · rcases earlier.origin old oldHeld with ⟨row, held, same, moves⟩ | ⟨moves, unknown⟩
      · exact Or.inl ⟨row, held, identity.trans same, moves.trans more⟩
      · refine Or.inr ⟨moves.trans more, fun row held => ?_⟩
        rw [identity]
        exact unknown row held
    · refine Or.inr ⟨more, fun row held same => ?_⟩
      obtain ⟨old, oldHeld, identity, _⟩ := earlier.kept row held
      have oldId : old.requestId = row.requestId := congrArg (·.requestId) identity
      exact absent old oldHeld (oldId.trans same)

/-- A stored request's next row is found under its identifier. -/
theorem next_of_stored {before after : AdmissionTables} (moves : RequestsMove before after)
    {row next : RequestRow} (stored : row ∈ before.requests.rows)
    (member : next ∈ after.requests.rows) (named : next.requestId = row.requestId) :
    next.toRequestIdentity = row.toRequestIdentity ∧ Lifecycle row.state next.state := by
  obtain ⟨other, held, identity, path⟩ := moves.kept row stored
  have otherId : other.requestId = row.requestId := congrArg (·.requestId) identity
  have same := after.requests.eq_of_key member held (named.trans otherId.symm)
  exact same ▸ ⟨identity, path⟩

end RequestsMove

/-- Every effect moves the requests. -/
theorem moves_of_effect (effect : Effect sha kernel provider kind before after) :
    RequestsMove before.admission after.admission := by
  have advance := advance_of_effect effect
  constructor
  · intro row held
    obtain ⟨next, member, same, advances⟩ := advance.kept row held
    exact ⟨next, member, same, advances.lifecycle⟩
  · intro next member
    rcases advance.origin next member with ⟨row, held, same, advances⟩ | ⟨_, waiting, _, absent⟩
    · exact Or.inl ⟨row, held, same, advances.lifecycle⟩
    · exact Or.inr ⟨waiting ▸ ReflTransGen.refl, absent⟩

/-- A sequence of effects moves the requests. -/
theorem moves_of_effects {kinds : List EffectKind}
    (effects : Effects sha kernel provider kinds before after) :
    RequestsMove before.admission after.admission :=
  effects.invariant (fun db => RequestsMove before.admission db.admission)
    (fun _ _ _ _ held effect => held.trans (moves_of_effect effect)) (RequestsMove.refl _)

/-! ## Fencing tokens -/

/-- Fencing tokens of requests have been drawn, and no two requests have one. -/
structure TokenInvariant (db : RuntimeDb) : Prop where
  /-- A token is at most the counter. -/
  drawn : ∀ row ∈ db.admission.requests.rows, ∀ token, row.fencingToken = some token →
    token ≤ db.fencingCounter
  /-- A token is one request's. -/
  distinct : ∀ left ∈ db.admission.requests.rows, ∀ right ∈ db.admission.requests.rows,
    left.fencingToken ≠ none → left.fencingToken = right.fencingToken →
      left.requestId = right.requestId

/-- The counter only rises, and a grant raises it by one. -/
theorem counter_of_effect (effect : Effect sha kernel provider kind before after) :
    before.fencingCounter ≤ after.fencingCounter ∧
      (kind = .grant → after.fencingCounter = before.fencingCounter + 1) := by
  cases effect with
  | move stored own edge token =>
    refine ⟨le_refl _, fun grant => ?_⟩
    subst grant
    cases edge
  | receipt named => exact ⟨le_refl _, fun grant => by simp [grant] at named⟩
  | grant => exact ⟨Nat.le_succ _, fun _ => rfl⟩
  | token => exact ⟨Nat.le_succ _, fun grant => by cases grant⟩
  | release | enqueue | target | halfOpen | supersede | genesis | policy | authority =>
    exact ⟨le_refl _, fun grant => by cases grant⟩

/-- A request's token after an effect is its own, or the next of the counter, drawn by a grant. -/
theorem token_of_effect (effect : Effect sha kernel provider kind before after)
    {next : RequestRow} (member : next ∈ after.admission.requests.rows) {token : Nat}
    (drawn : next.fencingToken = some token) :
    (∃ row ∈ before.admission.requests.rows, row.requestId = next.requestId ∧
      row.fencingToken = some token) ∨
    (kind = .grant ∧ token = before.fencingCounter + 1) := by
  rcases (advance_of_effect effect).origin next member with
    ⟨row, held, same, advances⟩ | ⟨_, _, unset, _⟩
  · have named : row.requestId = next.requestId := (congrArg (·.requestId) same).symm
    cases advances with
    | stays equal => exact Or.inl ⟨row, held, named, equal ▸ drawn⟩
    | moves edge kept => exact Or.inl ⟨row, held, named, kept ▸ drawn⟩
    | granted grant waiting granted new =>
      rw [new, Option.some.injEq] at drawn
      exact Or.inr ⟨grant, drawn.symm⟩
  · rw [unset] at drawn
    exact absurd drawn (by simp)

/-- A grant draws its token for one request. -/
theorem granted_alone (effect : Effect sha kernel provider .grant before after)
    {left right : RequestRow} (leftHeld : left ∈ after.admission.requests.rows)
    (rightHeld : right ∈ after.admission.requests.rows)
    (leftNew : left ∉ before.admission.requests.rows)
    (rightNew : right ∉ before.admission.requests.rows) : left = right := by
  cases effect with
  | move stored own edge => cases edge
  | receipt named => simp at named
  | @grant _ state row request now own ownPolicy governs circuit probe stored named waiting =>
    rw [grant_admission stored named waiting] at leftHeld rightHeld
    have there : row ∈ (reserve before.admission state request now).requests.rows := stored
    have leftIs := (AdmissionTables.mem_rewriteRequest _ there _ left).mp leftHeld
    have rightIs := (AdmissionTables.mem_rewriteRequest _ there _ right).mp rightHeld
    rw [leftIs.resolve_left (fun old => leftNew old.1),
      rightIs.resolve_left (fun old => rightNew old.1)]

/-- Every effect keeps tokens drawn and distinct. -/
theorem tokenInvariant_of_effect (effect : Effect sha kernel provider kind before after)
    (inv : TokenInvariant before) : TokenInvariant after := by
  obtain ⟨rises, raised⟩ := counter_of_effect effect
  constructor
  · intro row member token drawn
    rcases token_of_effect effect member drawn with ⟨old, held, _, kept⟩ | ⟨grant, new⟩
    · exact (inv.drawn old held token kept).trans rises
    · rw [raised grant, new]
  · intro left leftHeld right rightHeld set same
    obtain ⟨token, drawn⟩ := Option.ne_none_iff_exists'.mp set
    have rightDrawn : right.fencingToken = some token := same ▸ drawn
    rcases token_of_effect effect leftHeld drawn with
      ⟨oldLeft, heldLeft, namedLeft, keptLeft⟩ | ⟨grant, new⟩
    · rcases token_of_effect effect rightHeld rightDrawn with
        ⟨oldRight, heldRight, namedRight, keptRight⟩ | ⟨_, new⟩
      · have oldSame := inv.distinct oldLeft heldLeft oldRight heldRight
          (by rw [keptLeft]; simp) (keptLeft.trans keptRight.symm)
        exact namedLeft.symm.trans (oldSame.trans namedRight)
      · have below := inv.drawn oldLeft heldLeft token keptLeft
        omega
    · rcases token_of_effect effect rightHeld rightDrawn with
        ⟨oldRight, heldRight, _, keptRight⟩ | _
      · have below := inv.drawn oldRight heldRight token keptRight
        omega
      · -- Both tokens are new, and a grant draws one.
        have unused : ∀ row ∈ before.admission.requests.rows, row.fencingToken ≠ some token := by
          intro row held kept
          have below := inv.drawn row held token kept
          omega
        subst grant
        rw [granted_alone effect leftHeld rightHeld (fun old => unused left old drawn)
          (fun old => unused right old rightDrawn)]

/-- Tokens after effects without a grant were there before, and the counter never falls. -/
theorem tokens_of_effects {kinds : List EffectKind}
    (effects : Effects sha kernel provider kinds before after) (noGrant : .grant ∉ kinds) :
    before.fencingCounter ≤ after.fencingCounter ∧
      ∀ next ∈ after.admission.requests.rows, ∀ token, next.fencingToken = some token →
        ∃ row ∈ before.admission.requests.rows, row.requestId = next.requestId ∧
          row.fencingToken = some token := by
  refine effects.invariant (fun db => before.fencingCounter ≤ db.fencingCounter ∧
    ∀ next ∈ db.admission.requests.rows, ∀ token, next.fencingToken = some token →
      ∃ row ∈ before.admission.requests.rows, row.requestId = next.requestId ∧
        row.fencingToken = some token) ?_ ⟨le_refl _, fun row held _ drawn => ⟨row, held, rfl, drawn⟩⟩
  intro kind listed first last held effect
  refine ⟨held.1.trans (counter_of_effect effect).1, ?_⟩
  intro next member token drawn
  rcases token_of_effect effect member drawn with ⟨old, oldHeld, named, kept⟩ | ⟨grant, _⟩
  · obtain ⟨row, rowHeld, same, set⟩ := held.2 old oldHeld token kept
    exact ⟨row, rowHeld, same.trans named, set⟩
  · exact absurd (grant ▸ listed) noGrant

end ProviderAdmissionKernel

namespace AdmissionSystem

open ProviderAdmissionKernel

variable {sha : Sha256} {system : AdmissionSystem}

/-- A step moves the requests along their graph. -/
theorem moves_step (sound : Sound sha system) (action : AdmissionAction) :
    RequestsMove system.db.admission (step sha system action).db.admission :=
  step_invariant (fun db => RequestsMove system.db.admission db.admission)
    (fun _ _ _ _ _ _ held effect => held.trans (moves_of_effect effect)) sound
    (RequestsMove.refl _) action

end AdmissionSystem
end Macr
