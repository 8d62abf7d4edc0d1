import Macr.Lib.Sorting
import Mathlib.Data.Set.Finite.Basic
import Mathlib.Logic.Relation
import Mathlib.Order.WellFounded

/-!
# Dependencies between named items

Items that name the items they need are put in an order in which every item comes after its
needs, a layer at a time: a layer is the items that wait for no item still ahead, in the order of
their keys. The order exists exactly when the needs have no cycle, and it does not depend on the
order the items came in. A depth-first search finds what an item needs, directly or not.
-/

namespace Macr.Lib

section Needs

variable {α κ : Type} (key : α → κ) (needs : α → List κ)

/-- One key needs another. -/
def Needs (items : List α) (name need : κ) : Prop :=
  ∃ item ∈ items, key item = name ∧ need ∈ needs item

/-- No key needs itself, directly or not. -/
def Acyclic (items : List α) : Prop := ∀ name, ¬Relation.TransGen (Needs key needs items) name name

/-- Every need is the key of an item. -/
def Closed (items : List α) : Prop := ∀ item ∈ items, ∀ need ∈ needs item, need ∈ items.map key

/-- Every item comes after its needs among the names. -/
def Follows (names : List κ) (out : List α) : Prop :=
  ∀ before item after, out = before ++ item :: after →
    ∀ need ∈ needs item, need ∈ names → need ∈ before.map key

variable {key needs} {items others : List α}

/-- Fewer items have fewer cycles. -/
theorem Acyclic.of_subset (acyclic : Acyclic key needs items) (subset : others ⊆ items) :
    Acyclic key needs others := by
  have kept : ∀ name need, Needs key needs others name need → Needs key needs items name need := by
    rintro _ _ ⟨item, member, named, needed⟩
    exact ⟨item, subset member, named, needed⟩
  exact fun name path => acyclic name (Relation.TransGen.mono kept _ _ path)

end Needs

/-! ## Layers -/

section Layers

variable {α κ : Type} [LinearOrder κ] (key : α → κ) (needs : α → List κ)

/-- An item waits for one of the items. -/
def Blocked (items : List α) (item : α) : Prop := ∃ need ∈ needs item, need ∈ items.map key

instance (items : List α) : DecidablePred (Blocked key needs items) :=
  fun _ => inferInstanceAs (Decidable (∃ need ∈ _, need ∈ _))

/-- The items that wait for none. -/
def ready (items : List α) : List α := items.filter (fun item => ¬Blocked key needs items item)

/-- The items that wait. -/
def waiting (items : List α) : List α := items.filter (fun item => Blocked key needs items item)

/-- The items a layer at a time, unless a layer is empty. -/
def layered : Nat → List α → Option (List α)
  | 0, items => if items.isEmpty then some [] else none
  | fuel + 1, items =>
    if items.isEmpty then some []
    else if (ready key needs items).isEmpty then none
    else (layered fuel (waiting key needs items)).map (sortOn key (ready key needs items) ++ ·)

variable {key needs} {items others out : List α} {fuel : Nat}

/-- The ready and the waiting items are the items. -/
theorem ready_append_waiting_perm (key : α → κ) (needs : α → List κ) (items : List α) :
    (ready key needs items ++ waiting key needs items).Perm items := by
  have parts := List.filter_append_perm (fun item => decide (¬Blocked key needs items item)) items
  have same : items.filter (fun item => !decide (¬Blocked key needs items item)) =
      waiting key needs items := by
    apply List.filter_congr
    intro item _
    by_cases blocked : Blocked key needs items item <;> simp [blocked]
  rw [same] at parts
  exact parts

/-- Fewer items wait when one is ready. -/
theorem length_waiting_lt (some_ready : ready key needs items ≠ []) :
    (waiting key needs items).length < items.length := by
  have total := (ready_append_waiting_perm key needs items).length_eq
  have positive : 0 < (ready key needs items).length := List.length_pos_iff.mpr some_ready
  rw [List.length_append] at total
  omega

/-- What a round of layers gives. -/
theorem layered_succ_eq_some (inhabited : items ≠ []) :
    layered key needs (fuel + 1) items = some out ↔ ready key needs items ≠ [] ∧
      ∃ later, layered key needs fuel (waiting key needs items) = some later ∧
        out = sortOn key (ready key needs items) ++ later := by
  rw [layered, if_neg (by simpa using inhabited)]
  by_cases none : ready key needs items = []
  · simp [none]
  · rw [if_neg (by simpa using none), Option.map_eq_some_iff]
    constructor
    · rintro ⟨later, done, rfl⟩
      exact ⟨none, later, done, rfl⟩
    · rintro ⟨_, later, done, rfl⟩
      exact ⟨later, done, rfl⟩

/-- Layers of no items. -/
theorem layered_nil : layered key needs fuel [] = some [] := by
  cases fuel <;> rfl

/-- The layers are an arrangement of the items. -/
theorem layered_perm (done : layered key needs fuel items = some out) : out.Perm items := by
  induction fuel generalizing items out with
  | zero =>
    cases items with
    | nil => simp_all [layered]
    | cons item rest => simp [layered] at done
  | succ fuel ih =>
    by_cases none : items = []
    · subst none
      rw [layered_nil, Option.some.injEq] at done
      exact done ▸ List.Perm.refl _
    · obtain ⟨_, later, rest, rfl⟩ := (layered_succ_eq_some none).mp done
      have sorted := sortOn_perm key (ready key needs items)
      exact (sorted.append (ih rest)).trans (ready_append_waiting_perm key needs items)

/-- An item of two lists in a row is in the first, or stands behind all of it. -/
theorem split_append {front back before after : List α} {item : α}
    (split : front ++ back = before ++ item :: after) :
    item ∈ front ∨ ∃ more, before = front ++ more ∧ back = more ++ item :: after := by
  rcases List.append_eq_append_iff.mp split with ⟨more, behind, rest⟩ | ⟨more, within, rest⟩
  · exact .inr ⟨more, behind, rest⟩
  · cases more with
    | nil => exact .inr ⟨[], by simpa using within.symm, rest.symm⟩
    | cons head tail =>
      rw [List.cons_append, List.cons.injEq] at rest
      exact .inl (by simp [within, ← rest.1])

/-- In the layers every item comes after its needs among the items. -/
theorem layered_follows (done : layered key needs fuel items = some out) :
    Follows key needs (items.map key) out := by
  induction fuel generalizing items out with
  | zero =>
    have none : out = [] := by
      cases items with
      | nil => simpa [layered] using done.symm
      | cons item rest => simp [layered] at done
    intro before item after split
    simp [none] at split
  | succ fuel ih =>
    intro before item after split need needed among
    by_cases none : items = []
    · simp [none] at among
    obtain ⟨_, later, rest, rfl⟩ := (layered_succ_eq_some none).mp done
    rcases split_append split with here | ⟨more, rfl, behind⟩
    · -- The item stands in this layer, where nothing waits.
      have free := (List.mem_filter.mp (mem_sortOn.mp here)).2
      exact absurd ⟨need, needed, among⟩ (of_decide_eq_true free)
    · obtain ⟨other, member, named⟩ := List.mem_map.mp among
      rw [List.map_append, List.mem_append]
      have placed := (ready_append_waiting_perm key needs items).mem_iff.mpr member
      rcases List.mem_append.mp placed with early | late
      · exact .inl (List.mem_map.mpr ⟨other, mem_sortOn.mpr early, named⟩)
      · exact .inr (ih rest more item after behind need needed
          (List.mem_map.mpr ⟨other, late, named⟩))

/-! ## Cycles -/

/-- Items without a cycle have one that waits for none. -/
theorem ready_of_acyclic (acyclic : Acyclic key needs items) (inhabited : items ≠ []) :
    ready key needs items ≠ [] := by
  -- The keys are finitely many, so that needing is well-founded on them.
  let Behind (name need : {name // name ∈ items.map key}) : Prop :=
    Relation.TransGen (Needs key needs items) need.1 name.1
  have : IsTrans _ Behind := ⟨fun _ _ _ first second => second.trans first⟩
  have : Std.Irrefl Behind := ⟨fun name path => acyclic name.1 path⟩
  have : Finite {name // name ∈ items.map key} := List.finite_toSet _
  have founded : WellFounded Behind := Finite.wellFounded_of_trans_of_irrefl Behind
  obtain ⟨first, rest, rfl⟩ := List.exists_cons_of_ne_nil inhabited
  obtain ⟨⟨name, member⟩, _, least⟩ := founded.has_min Set.univ
    ⟨⟨key first, by simp⟩, trivial⟩
  obtain ⟨item, listed, named⟩ := List.mem_map.mp member
  have free : ¬Blocked key needs (first :: rest) item := by
    rintro ⟨need, needed, among⟩
    exact least ⟨need, among⟩ trivial (.single ⟨item, listed, named, needed⟩)
  intro none
  have here : item ∈ ready key needs (first :: rest) := by simp [ready, listed, free]
  rw [none] at here
  exact absurd here List.not_mem_nil

/-- Items without a cycle have layers. -/
theorem layered_of_acyclic (acyclic : Acyclic key needs items) (enough : items.length ≤ fuel) :
    ∃ out, layered key needs fuel items = some out := by
  induction fuel generalizing items with
  | zero =>
    have none : items = [] := List.length_eq_zero_iff.mp (Nat.le_zero.mp enough)
    exact ⟨[], by rw [none, layered_nil]⟩
  | succ fuel ih =>
    by_cases none : items = []
    · exact ⟨[], by rw [none, layered_nil]⟩
    · have some_ready := ready_of_acyclic acyclic none
      have fewer := length_waiting_lt some_ready
      have part : waiting key needs items ⊆ items := List.filter_subset_self _
      obtain ⟨later, done⟩ := ih (acyclic.of_subset part) (by omega)
      exact ⟨_, (layered_succ_eq_some none).mpr ⟨some_ready, later, done, rfl⟩⟩

/-- Items in an order in which each follows its needs have no cycle. -/
theorem acyclic_of_follows (distinct : (items.map key).Nodup) (closed : Closed key needs items)
    (perm : out.Perm items) (follows : Follows key needs (items.map key) out) :
    Acyclic key needs items := by
  have apart : (out.map key).Nodup := (perm.map key).nodup_iff.mpr distinct
  -- A need stands before the key that needs it.
  have earlier : ∀ name need, Needs key needs items name need →
      (out.map key).idxOf need < (out.map key).idxOf name := by
    rintro _ need ⟨item, member, rfl, needed⟩
    obtain ⟨before, after, rfl⟩ := List.append_of_mem (perm.mem_iff.mpr member)
    have placed := follows before item after rfl need needed (closed item member need needed)
    rw [List.map_append, List.map_cons] at apart ⊢
    have fresh : key item ∉ before.map key := by
      intro listed
      exact List.disjoint_of_nodup_append apart listed List.mem_cons_self
    rw [List.idxOf_append_of_mem placed, List.idxOf_append_of_notMem fresh]
    have inside := List.idxOf_lt_length_of_mem placed
    omega
  have path : ∀ name need, Relation.TransGen (Needs key needs items) name need →
      (out.map key).idxOf need < (out.map key).idxOf name := by
    intro name need path
    induction path with
    | single edge => exact earlier _ _ edge
    | tail _ edge ih => exact lt_trans (earlier _ _ edge) ih
  exact fun name cycle => lt_irrefl _ (path name name cycle)

/-! ## Order independence -/

omit [LinearOrder κ] in
/-- An item of a permuted list waits as before. -/
theorem blocked_of_perm (perm : items.Perm others) (item : α) :
    Blocked key needs items item ↔ Blocked key needs others item := by
  have same := fun need => (perm.map key).mem_iff (a := need)
  simp only [Blocked, same]

/-- The ready items of a permuted list. -/
theorem ready_of_perm (perm : items.Perm others) :
    (ready key needs items).Perm (ready key needs others) := by
  have same : ready key needs items =
      items.filter (fun item => ¬Blocked key needs others item) :=
    List.filter_congr fun item _ => decide_eq_decide.mpr (not_congr (blocked_of_perm perm item))
  exact same ▸ perm.filter _

/-- The waiting items of a permuted list. -/
theorem waiting_of_perm (perm : items.Perm others) :
    (waiting key needs items).Perm (waiting key needs others) := by
  have same : waiting key needs items =
      items.filter (fun item => Blocked key needs others item) :=
    List.filter_congr fun item _ => decide_eq_decide.mpr (blocked_of_perm perm item)
  exact same ▸ perm.filter _

/-- The layers of distinct items do not depend on the order the items came in. -/
theorem layered_of_perm (perm : items.Perm others) (distinct : (items.map key).Nodup) :
    layered key needs fuel items = layered key needs fuel others := by
  induction fuel generalizing items others with
  | zero => rw [layered, layered, perm.isEmpty_eq]
  | succ fuel ih =>
    have sameReady : (ready key needs items).Perm (ready key needs others) := ready_of_perm perm
    have sorted : sortOn key (ready key needs items) = sortOn key (ready key needs others) := by
      apply sortOn_eq_of_perm sameReady
      intro left here right there same
      exact List.inj_on_of_nodup_map distinct (List.mem_of_mem_filter here)
        (List.mem_of_mem_filter there) same
    have apart : ((waiting key needs items).map key).Nodup :=
      distinct.sublist (List.filter_sublist.map key)
    rw [layered, layered, perm.isEmpty_eq, sameReady.isEmpty_eq, sorted,
      ih (waiting_of_perm perm) apart]

end Layers

/-! ## Search -/

section Frontier

variable {α κ : Type} {key : α → κ} {needs : α → List κ} {items : List α} {name target : κ}
  {pending seen : List κ}

/-- The needs of a key that was seen were seen or are pending. -/
def Frontier (key : α → κ) (needs : α → List κ) (items : List α) (pending seen : List κ) : Prop :=
  ∀ name ∈ seen, ∀ need, Needs key needs items name need → need ∈ seen ∨ need ∈ pending

/-- A path from a seen key to one that is not leads through a pending key. -/
theorem pending_of_path (frontier : Frontier key needs items pending seen) (unmet : target ∉ seen)
    (path : Relation.ReflTransGen (Needs key needs items) name target) (here : name ∈ seen) :
    ∃ next ∈ pending, Relation.ReflTransGen (Needs key needs items) next target := by
  induction path using Relation.ReflTransGen.head_induction_on with
  | refl => exact absurd here unmet
  | head edge path ih =>
    rcases frontier _ here _ edge with again | ahead
    · exact ih again
    · exact ⟨_, ahead, path⟩

end Frontier

section Search

variable {α κ : Type} [LinearOrder κ] (key : α → κ) (needs : α → List κ)

/-- What the item of a key needs. -/
def needsOf (items : List α) (name : κ) : Option (List κ) :=
  (items.find? (fun item => key item = name)).map needs

/-- The items not seen. -/
def unseen (items : List α) (seen : List κ) : List α :=
  items.filter (fun item => key item ∉ seen)

variable {key needs} {items : List α} {name target : κ} {pending seen : List κ}

/-- An item is seen for the first time. -/
theorem length_unseen_lt (fresh : name ∉ seen) (found : (needsOf key needs items name).isSome) :
    (unseen key items (name :: seen)).length < (unseen key items seen).length := by
  rw [needsOf, Option.isSome_map, List.find?_isSome] at found
  obtain ⟨item, member, named⟩ := found
  have part : unseen key items (name :: seen) =
      (unseen key items seen).filter (fun item => key item ≠ name) := by
    rw [unseen, unseen, List.filter_filter]
    apply List.filter_congr
    intro other _
    simp
  have here : item ∈ unseen key items seen := by
    have own : key item = name := of_decide_eq_true named
    simp [unseen, member, own, fresh]
  rw [part]
  exact List.length_filter_lt_length_iff_exists.mpr ⟨item, here, by simpa using named⟩

variable (key needs) in
/-- Whether a pending key is the target or comes to it; none when a key has no item. -/
def search (items : List α) (target : κ) (pending seen : List κ) : Option Bool :=
  match pending with
  | [] => some false
  | current :: pending =>
    if current = target then some true
    else if _fresh : current ∉ seen then
      match _found : needsOf key needs items current with
      | none => none
      | some more => search items target (more.reverse ++ pending) (current :: seen)
    else search items target pending seen
termination_by ((unseen key items seen).length, pending.length)
decreasing_by
  · exact Prod.Lex.left _ _ (length_unseen_lt _fresh (by rw [_found]; rfl))
  · exact Prod.Lex.right _ (by simp)

/-- The search finds the target exactly when a pending key comes to it. -/
theorem search_spec (distinct : (items.map key).Nodup) (closed : Closed key needs items)
    (listed : ∀ name ∈ pending, name ∈ items.map key)
    (frontier : Frontier key needs items pending seen) (unmet : target ∉ seen) :
    ∃ answer, search key needs items target pending seen = some answer ∧
      (answer = true ↔ ∃ name ∈ pending,
        Relation.ReflTransGen (Needs key needs items) name target) := by
  fun_induction search key needs items target pending seen with
  | case1 => exact ⟨false, rfl, by simp⟩
  | case2 seen pending => exact ⟨true, rfl, by simpa using .inl .refl⟩
  | case3 seen current pending other fresh missing =>
    have member := listed current List.mem_cons_self
    exact absurd missing (by simpa [needsOf] using member)
  | case4 seen current pending other fresh more found ih =>
    obtain ⟨item, stored, rfl⟩ := Option.map_eq_some_iff.mp found
    have member : item ∈ items := List.mem_of_find?_eq_some stored
    have named : key item = current := by simpa using List.find?_some stored
    -- The needs of the key are those of its item.
    have own : ∀ need, Needs key needs items current need ↔ need ∈ needs item := by
      intro need
      constructor
      · rintro ⟨another, listed, same, needed⟩
        have only := List.inj_on_of_nodup_map distinct listed member (same.trans named.symm)
        exact only ▸ needed
      · exact fun needed => ⟨item, member, named, needed⟩
    obtain ⟨answer, result, exact_answer⟩ := ih
      (by
        intro name ahead
        rcases List.mem_append.mp ahead with new | old
        · exact closed item member name (List.mem_reverse.mp new)
        · exact listed name (List.mem_cons_of_mem _ old))
      (by
        intro name was need edge
        rcases List.mem_cons.mp was with rfl | before
        · exact .inr (List.mem_append_left _ (List.mem_reverse.mpr ((own need).mp edge)))
        · rcases frontier name before need edge with again | ahead
          · exact .inl (List.mem_cons_of_mem _ again)
          · rcases List.mem_cons.mp ahead with rfl | later
            · exact .inl List.mem_cons_self
            · exact .inr (List.mem_append_right _ later))
      (by
        intro hit
        rcases List.mem_cons.mp hit with same | before
        · exact other same.symm
        · exact unmet before)
    refine ⟨answer, result, exact_answer.trans ?_⟩
    constructor
    · rintro ⟨name, ahead, path⟩
      rcases List.mem_append.mp ahead with new | old
      · have edge := (own name).mpr (List.mem_reverse.mp new)
        exact ⟨current, List.mem_cons_self, .head edge path⟩
      · exact ⟨name, List.mem_cons_of_mem _ old, path⟩
    · rintro ⟨name, ahead, path⟩
      rcases List.mem_cons.mp ahead with rfl | old
      · rcases path.cases_head with same | ⟨next, edge, rest⟩
        · exact absurd same other
        · exact ⟨next, List.mem_append_left _ (List.mem_reverse.mpr ((own next).mp edge)), rest⟩
      · exact ⟨name, List.mem_append_right _ old, path⟩
  | case5 seen current pending other again ih =>
    have before : current ∈ seen := not_not.mp again
    have still : Frontier key needs items pending seen := by
      intro name was need edge
      rcases frontier name was need edge with here | ahead
      · exact .inl here
      · rcases List.mem_cons.mp ahead with rfl | later
        · exact .inl before
        · exact .inr later
    obtain ⟨answer, result, exact_answer⟩ :=
      ih (fun name later => listed name (List.mem_cons_of_mem _ later)) still unmet
    refine ⟨answer, result, exact_answer.trans ?_⟩
    constructor
    · rintro ⟨name, later, path⟩
      exact ⟨name, List.mem_cons_of_mem _ later, path⟩
    · rintro ⟨name, ahead, path⟩
      rcases List.mem_cons.mp ahead with rfl | later
      · exact pending_of_path still unmet path before
      · exact ⟨name, later, path⟩

end Search

end Macr.Lib
