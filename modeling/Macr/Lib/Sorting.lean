import Mathlib.Data.List.Sort
import Mathlib.Tactic.Common

/-!
# Sorting records by a key

A list of records whose keys ascend is the only sorted form of its members, whatever the order
compares after the key. The head of a sorted list is a least member. A record that no other comes
after is sorted behind the others.
-/

namespace Macr.Lib

section Keyed

variable {α κ : Type} [LinearOrder κ] {key : α → κ} {next : α → α → Prop}

/-- The order of a key, and of another relation between records with one key. -/
def ByKey (key : α → κ) (next : α → α → Prop) (left right : α) : Prop :=
  key left < key right ∨ key left = key right ∧ next left right

instance [DecidableRel next] : DecidableRel (ByKey key next) := fun left right =>
  inferInstanceAs (Decidable (key left < key right ∨ key left = key right ∧ next left right))

instance [Std.Total next] : Std.Total (ByKey key next) where
  total := by
    intro left right
    rcases lt_trichotomy (key left) (key right) with less | same | more
    · exact .inl (.inl less)
    · cases Std.Total.total (r := next) left right with
      | inl before => exact .inl (.inr ⟨same, before⟩)
      | inr after => exact .inr (.inr ⟨same.symm, after⟩)
    · exact .inr (.inl more)

instance [IsTrans α next] : IsTrans α (ByKey key next) where
  trans := by
    intro left middle right before after
    rcases before with less | ⟨same, first⟩
    · rcases after with later | ⟨equal, _⟩
      · exact .inl (lt_trans less later)
      · exact .inl (equal ▸ less)
    · rcases after with later | ⟨equal, second⟩
      · exact .inl (same ▸ later)
      · exact .inr ⟨same.trans equal, IsTrans.trans _ _ _ first second⟩

/-- Records in order have keys in order. -/
theorem key_le_of_byKey {left right : α} (before : ByKey key next left right) :
    key left ≤ key right := by
  rcases before with less | ⟨same, _⟩
  · exact le_of_lt less
  · exact le_of_eq same

/-- Two members with one key are the same record when the keys of a list ascend. -/
theorem eq_of_key_ascending {items : List α} (ascending : (items.map key).Pairwise (· < ·))
    {left right : α} (here : left ∈ items) (there : right ∈ items)
    (same : key left = key right) : left = right :=
  List.inj_on_of_nodup_map (ascending.imp (fun less => ne_of_lt less)) here there same

/-- Records with ascending keys have one sorted form. -/
theorem eq_of_perm_of_ascending {items sorted : List α} (perm : items.Perm sorted)
    (ascending : (sorted.map key).Pairwise (· < ·)) (arranged : items.Pairwise (ByKey key next)) :
    items = sorted := by
  have ordered : sorted.Pairwise (ByKey key next) :=
    (List.pairwise_map.mp ascending).imp (fun less => .inl less)
  apply perm.eq_of_pairwise _ arranged ordered
  intro left right here there before after
  have member : left ∈ sorted := perm.mem_iff.mp here
  exact eq_of_key_ascending ascending member there
    (le_antisymm (key_le_of_byKey before) (key_le_of_byKey after))

/-- The part of a sorted list that a filter keeps is known from its members alone, when their
keys ascend. -/
theorem filter_insertionSort_eq [DecidableRel next] [Std.Total next] [IsTrans α next]
    {items sorted : List α} {p : α → Bool} (perm : (items.filter p).Perm sorted)
    (ascending : (sorted.map key).Pairwise (· < ·)) :
    (items.insertionSort (ByKey key next)).filter p = sorted :=
  eq_of_perm_of_ascending (((List.perm_insertionSort _ items).filter p).trans perm) ascending
    ((List.pairwise_insertionSort (ByKey key next) items).filter p)

/-- Records with ascending keys are what sorting any permutation of them gives. -/
theorem insertionSort_eq_of_perm [DecidableRel next] [Std.Total next] [IsTrans α next]
    {items sorted : List α} (perm : items.Perm sorted)
    (ascending : (sorted.map key).Pairwise (· < ·)) :
    items.insertionSort (ByKey key next) = sorted :=
  eq_of_perm_of_ascending ((List.perm_insertionSort _ items).trans perm) ascending
    (List.pairwise_insertionSort (ByKey key next) items)

end Keyed

section SortOn

variable {α κ : Type} [LinearOrder κ] {key : α → κ}

/-- The items in the order of a key; items with one key keep their order. -/
def sortOn (key : α → κ) (items : List α) : List α :=
  items.insertionSort (fun left right => key left ≤ key right)

instance total_key : Std.Total (fun left right : α => key left ≤ key right) :=
  ⟨fun left right => le_total (key left) (key right)⟩

instance isTrans_key : IsTrans α (fun left right : α => key left ≤ key right) :=
  ⟨fun _ _ _ before after => le_trans before after⟩

/-- Sorting permutes. -/
theorem sortOn_perm (key : α → κ) (items : List α) : (sortOn key items).Perm items :=
  List.perm_insertionSort _ items

@[simp] theorem mem_sortOn {items : List α} {item : α} : item ∈ sortOn key items ↔ item ∈ items :=
  (sortOn_perm key items).mem_iff

@[simp] theorem length_sortOn (items : List α) : (sortOn key items).length = items.length :=
  (sortOn_perm key items).length_eq

/-- The keys of sorted items ascend weakly. -/
theorem sortOn_pairwise (items : List α) :
    (sortOn key items).Pairwise (fun left right => key left ≤ key right) :=
  List.pairwise_insertionSort _ items

/-- The keys of sorted items ascend strictly when no two are equal. -/
theorem sortOn_strict {items : List α} (distinct : (items.map key).Nodup) :
    (sortOn key items).Pairwise (fun left right => key left < key right) := by
  have apart : (sortOn key items).Pairwise (fun left right => key left ≠ key right) :=
    List.pairwise_map.mp (((sortOn_perm key items).map key).nodup_iff.mpr distinct)
  exact ((sortOn_pairwise items).and apart).imp fun both => lt_of_le_of_ne both.1 both.2

/-- Items that ascend are sorted. -/
theorem sortOn_eq_self_of_ascending {items : List α}
    (ascending : items.Pairwise (fun left right => key left < key right)) :
    sortOn key items = items :=
  List.Pairwise.insertionSort_eq (ascending.imp le_of_lt)

/-- Sorting by a key sorts the keys. -/
theorem map_sortOn (key : α → κ) (items : List α) :
    (sortOn key items).map key = sortOn id (items.map key) :=
  List.map_insertionSort _ _ key items (fun _ _ _ _ => Iff.rfl)

/-- Items that their keys tell apart are sorted into one list, in whatever order they come. -/
theorem sortOn_eq_of_perm {items others : List α} (perm : items.Perm others)
    (apart : ∀ left ∈ items, ∀ right ∈ items, key left = key right → left = right) :
    sortOn key items = sortOn key others := by
  have same : (sortOn key items).Perm (sortOn key others) :=
    (sortOn_perm key items).trans (perm.trans (sortOn_perm key others).symm)
  apply same.eq_of_pairwise _ (sortOn_pairwise items) (sortOn_pairwise others)
  intro left right here there before after
  have first : left ∈ items := mem_sortOn.mp here
  have second : right ∈ items := perm.mem_iff.mpr (mem_sortOn.mp there)
  exact apart left first right second (le_antisymm before after)

/-- An item goes in front of a last one that is not before it. -/
theorem orderedInsert_concat {items : List α} {item last : α} (before : key item ≤ key last) :
    (items ++ [last]).orderedInsert (fun left right => key left ≤ key right) item =
      items.orderedInsert (fun left right => key left ≤ key right) item ++ [last] := by
  induction items with
  | nil => simp [before]
  | cons head rest ih =>
    by_cases first : key item ≤ key head
    · simp [first]
    · simp [first, ih]

/-- An item that no other comes after is the last of the sorted items. -/
theorem sortOn_concat {items : List α} {last : α} (after : ∀ item ∈ items, key item ≤ key last) :
    sortOn key (items ++ [last]) = sortOn key items ++ [last] := by
  induction items with
  | nil => rfl
  | cons head rest ih =>
    have later : sortOn key (rest ++ [last]) = sortOn key rest ++ [last] :=
      ih (fun item member => after item (List.mem_cons_of_mem head member))
    show (sortOn key (rest ++ [last])).orderedInsert _ head = _
    rw [later]
    exact orderedInsert_concat (after head List.mem_cons_self)

/-- An item in front of all others is inserted in front. -/
theorem orderedInsert_of_forall {items : List α} {item : α}
    (before : ∀ other ∈ items, key item ≤ key other) :
    items.orderedInsert (fun left right => key left ≤ key right) item = item :: items := by
  cases items with
  | nil => rfl
  | cons head rest =>
    have first : key item ≤ key head := before head List.mem_cons_self
    simp [first]

/-- A filter of a sorted list with one item more keeps the item in its place. -/
theorem filter_orderedInsert {items : List α} {item : α} {p : α → Bool}
    (sorted : items.Pairwise (fun left right => key left ≤ key right)) :
    (items.orderedInsert (fun left right => key left ≤ key right) item).filter p =
      if p item then
        (items.filter p).orderedInsert (fun left right => key left ≤ key right) item
      else items.filter p := by
  induction items with
  | nil => by_cases kept : p item = true <;> simp [kept]
  | cons head rest ih =>
    have later := ih (List.pairwise_cons.mp sorted).2
    by_cases first : key item ≤ key head
    · have all : ∀ other ∈ (head :: rest).filter p, key item ≤ key other := by
        intro other member
        rcases List.mem_cons.mp (List.mem_of_mem_filter member) with rfl | held
        · exact first
        · exact le_trans first ((List.pairwise_cons.mp sorted).1 other held)
      rw [orderedInsert_of_forall all]
      by_cases kept : p item = true <;> simp [first, kept]
    · rw [List.orderedInsert_cons, if_neg first]
      by_cases here : p head = true
      · rw [List.filter_cons_of_pos here, List.filter_cons_of_pos here, later,
          List.orderedInsert_cons, if_neg first]
        by_cases kept : p item = true <;> simp [kept]
      · rw [List.filter_cons_of_neg here, List.filter_cons_of_neg here, later]

/-- Sorting and filtering commute. -/
theorem filter_sortOn (p : α → Bool) (items : List α) :
    (sortOn key items).filter p = sortOn key (items.filter p) := by
  induction items with
  | nil => rfl
  | cons head rest ih =>
    show ((sortOn key rest).orderedInsert _ head).filter p = _
    rw [filter_orderedInsert (sortOn_pairwise rest), ih]
    by_cases kept : p head = true
    · rw [if_pos kept, List.filter_cons_of_pos kept]
      rfl
    · rw [if_neg kept, List.filter_cons_of_neg kept]

/-- What the items of a list say is what those that say something say. -/
theorem flatMap_filter_ne_nil {β : Type} (g : α → List β) (items : List α) :
    (items.filter (fun item => !(g item).isEmpty)).flatMap g = items.flatMap g := by
  induction items with
  | nil => rfl
  | cons head rest ih =>
    cases said : g head with
    | nil => simp [said, ih]
    | cons first more => simp [said, ih]

/-- An item that says nothing is not heard; one that comes after all that say something is the last
to say something. -/
theorem flatMap_sortOn_concat {β : Type} {g : α → List β} {items : List α} {last : α}
    (after : g last ≠ [] → ∀ item ∈ items, g item ≠ [] → key item ≤ key last) :
    (sortOn key (items ++ [last])).flatMap g = (sortOn key items).flatMap g ++ g last := by
  rw [← flatMap_filter_ne_nil g (sortOn key (items ++ [last])),
    ← flatMap_filter_ne_nil g (sortOn key items), filter_sortOn, filter_sortOn, List.filter_append]
  cases said : g last with
  | nil => simp [said]
  | cons first more =>
    have alone : [last].filter (fun item => !(g item).isEmpty) = [last] := by simp [said]
    rw [alone, sortOn_concat, List.flatMap_append]
    · simp [said]
    · intro item member
      have speaks := (List.mem_filter.mp member).2
      exact after (by simp [said]) item (List.mem_of_mem_filter member) (by simpa using speaks)

/-- Where only one item says something new, and none after it says anything, the new comes last. -/
theorem flatMap_sortOn_given {β : Type} {g g' : α → List β} {items : List α} {given : α}
    (member : given ∈ items) (distinct : items.Nodup) (others : ∀ item ∈ items, item ≠ given →
      g' item = g item) (silent : g given = [])
    (before : ∀ item ∈ items, item ≠ given → g item ≠ [] → key item < key given) :
    (sortOn key items).flatMap g' = (sortOn key items).flatMap g ++ g' given := by
  have listed : given ∈ sortOn key items := mem_sortOn.mpr member
  have once : (sortOn key items).Nodup := (sortOn_perm key items).nodup_iff.mpr distinct
  have sorted : (sortOn key items).Pairwise _ := sortOn_pairwise items
  obtain ⟨front, back, split⟩ := List.append_of_mem listed
  rw [split, List.pairwise_append, List.pairwise_cons] at sorted
  rw [split, List.nodup_append, List.nodup_cons] at once
  have other_of_front : ∀ item ∈ front, item ≠ given := by
    intro item held
    exact once.2.2 item held given List.mem_cons_self
  have other_of_back : ∀ item ∈ back, item ≠ given := by
    rintro item held rfl
    exact once.2.1.1 held
  have here : ∀ item, item ∈ front ∨ item ∈ back → item ∈ items := by
    intro item held
    have member_of : item ∈ sortOn key items ↔ item ∈ items := mem_sortOn
    rw [← member_of, split]
    rcases held with first | later
    · exact List.mem_append_left _ first
    · exact List.mem_append_right _ (List.mem_cons_of_mem _ later)
  have quiet : ∀ item ∈ back, g item = [] := by
    intro item held
    by_contra speaks
    have less := before item (here item (.inr held)) (other_of_back item held) speaks
    exact absurd (sorted.2.1.1 item held) (not_le_of_gt less)
  have front_same : front.flatMap g' = front.flatMap g := by
    apply List.flatMap_congr
    intro item held
    exact others item (here item (.inl held)) (other_of_front item held)
  have back_same : back.flatMap g' = [] := by
    rw [List.flatMap_eq_nil_iff]
    intro item held
    rw [others item (here item (.inr held)) (other_of_back item held)]
    exact quiet item held
  have back_quiet : back.flatMap g = [] := List.flatMap_eq_nil_iff.mpr quiet
  rw [split]
  simp [front_same, back_same, back_quiet, silent]

/-- What `flatMap_sortOn_concat` says of items that say at most one thing. -/
theorem filterMap_sortOn_concat {β : Type} {g : α → Option β} {items : List α} {last : α}
    (after : g last ≠ none → ∀ item ∈ items, g item ≠ none → key item ≤ key last) :
    (sortOn key (items ++ [last])).filterMap g =
      (sortOn key items).filterMap g ++ (g last).toList := by
  have said : ∀ item, (g item).toList ≠ [] ↔ g item ≠ none := by
    intro item
    cases g item <;> simp
  rw [List.filterMap_eq_flatMap_toList, List.filterMap_eq_flatMap_toList]
  apply flatMap_sortOn_concat
  intro here item member there
  exact after ((said last).mp here) item member ((said item).mp there)

/-- What `flatMap_sortOn_given` says of items that say at most one thing. -/
theorem filterMap_sortOn_given {β : Type} {g g' : α → Option β} {items : List α} {given : α}
    (member : given ∈ items) (distinct : items.Nodup) (others : ∀ item ∈ items, item ≠ given →
      g' item = g item) (silent : g given = none)
    (before : ∀ item ∈ items, item ≠ given → g item ≠ none → key item < key given) :
    (sortOn key items).filterMap g' = (sortOn key items).filterMap g ++ (g' given).toList := by
  rw [List.filterMap_eq_flatMap_toList, List.filterMap_eq_flatMap_toList]
  refine flatMap_sortOn_given member distinct ?_ (by rw [silent]; rfl) ?_
  · intro item held other
    rw [others item held other]
  · intro item held other said
    apply before item held other
    intro none
    rw [none] at said
    exact said rfl

/-- A last item is sorted behind the others that a filter keeps, if the filter keeps it. -/
theorem sortOn_filter_concat {p : α → Prop} [DecidablePred p] {items : List α} {last : α}
    (after : p last → ∀ item ∈ items, p item → key item ≤ key last) :
    sortOn key ((items ++ [last]).filter p) =
      sortOn key (items.filter p) ++ if p last then [last] else [] := by
  rw [List.filter_append]
  by_cases kept : p last
  · rw [List.filter_cons_of_pos (by simpa using kept), List.filter_nil, if_pos kept]
    apply sortOn_concat
    intro item member
    obtain ⟨held, keeps⟩ := List.mem_filter.mp member
    exact after kept item held (by simpa using keeps)
  · rw [List.filter_cons_of_neg (by simpa using kept), List.filter_nil, if_neg kept,
      List.append_nil, List.append_nil]

/-- The same of what the items say, where those that say nothing need not be in front. -/
theorem filterMap_sortOn_filter_concat {β : Type} {g : α → Option β} {p : α → Prop}
    [DecidablePred p] {items : List α} {last : α}
    (after : p last → g last ≠ none → ∀ item ∈ items, p item → g item ≠ none →
      key item ≤ key last) :
    (sortOn key ((items ++ [last]).filter p)).filterMap g =
      (sortOn key (items.filter p)).filterMap g ++ if p last then (g last).toList else [] := by
  rw [List.filter_append]
  by_cases kept : p last
  · rw [List.filter_cons_of_pos (by simpa using kept), List.filter_nil, if_pos kept]
    apply filterMap_sortOn_concat
    intro said item member speaks
    obtain ⟨held, keeps⟩ := List.mem_filter.mp member
    exact after kept said item held (by simpa using keeps) speaks
  · rw [List.filter_cons_of_neg (by simpa using kept), List.filter_nil, if_neg kept,
      List.append_nil, List.append_nil]

end SortOn

section Least

variable {α : Type} {r : α → α → Prop} [DecidableRel r] [Std.Total r] [IsTrans α r]

/-- The head of a sorted list comes before every member. -/
theorem head_insertionSort_le {items : List α} {least : α}
    (first : (items.insertionSort r).head? = some least) {other : α} (member : other ∈ items) :
    other = least ∨ r least other := by
  have sorted := List.pairwise_insertionSort r items
  have listed : other ∈ items.insertionSort r := (List.mem_insertionSort r).mpr member
  cases shape : items.insertionSort r with
  | nil => simp [shape] at first
  | cons head rest =>
    rw [shape] at first sorted listed
    have isHead : head = least := Option.some.inj first
    subst isHead
    cases List.mem_cons.mp listed with
    | inl here => exact .inl here
    | inr later => exact .inr ((List.pairwise_cons.mp sorted).1 other later)

end Least

end Macr.Lib
