import Macr.Lib.Sorting
import Macr.Queue.Budget
import Mathlib.Data.Prod.Lex

/-!
# Pages of the queue

`list_by_state` answers one page of the members in a state, behind the member that the caller names
as its cursor. A caller that takes the last member of each page as its next cursor, while nothing
changes, gets every member once and in order.
-/

namespace Macr

open Lib

/-- The place of a member in the order of the pages: its plan, its ordinal and its identifier. -/
def QueueMemberRow.place (row : QueueMemberRow) : ℕ ×ₗ (ℕ ×ₗ ℕ) :=
  toLex (row.planDigest, toLex (row.ordinal, row.memberId))

/-- The condition of a page on the members behind its cursor. -/
def QueueMemberRow.behind (cursor row : QueueMemberRow) : Bool :=
  cursor.planDigest < row.planDigest ∨
    (row.planDigest = cursor.planDigest ∧ cursor.ordinal < row.ordinal) ∨
    (row.planDigest = cursor.planDigest ∧ row.ordinal = cursor.ordinal ∧
      cursor.memberId < row.memberId)

/-- A member is behind a cursor exactly where its place is. -/
theorem QueueMemberRow.behind_iff (cursor row : QueueMemberRow) :
    cursor.behind row = true ↔ cursor.place < row.place := by
  simp only [behind, place, decide_eq_true_eq, Prod.Lex.toLex_lt_toLex]
  constructor
  · rintro (plan | ⟨plan, ordinal⟩ | ⟨plan, ordinal, member⟩)
    · exact .inl plan
    · exact .inr ⟨plan.symm, .inl ordinal⟩
    · exact .inr ⟨plan.symm, .inr ⟨ordinal.symm, member⟩⟩
  · rintro (plan | ⟨plan, ordinal | ⟨ordinal, member⟩⟩)
    · exact .inl plan
    · exact .inr (.inl ⟨plan.symm, ordinal⟩)
    · exact .inr (.inr ⟨plan.symm, ordinal.symm, member⟩)

/-- Members with one place have one identifier. -/
theorem QueueMemberRow.memberId_of_place {left right : QueueMemberRow}
    (same : left.place = right.place) : left.memberId = right.memberId := by
  have inner := congrArg (fun place => (ofLex (ofLex place).2).2) same
  exact inner

namespace QueueDb

variable {db after : QueueDb} {state : QueueMemberState} {limit : Int}

/-- The row of a page's cursor, which is in the state asked for. -/
def cursorRow (db : QueueDb) (state : QueueMemberState) :
    Option Digest → Except MacrError (Option QueueMemberRow)
  | none => pure none
  | some memberId => do
    let row ← require ((db.member? memberId).filter (fun row => row.state = state))
      (.dispatchLease "queue cursor does not resolve to the requested state")
    pure (some row)

/-- The members in a state behind a cursor, in order. -/
def membersBehind (db : QueueDb) (state : QueueMemberState) (cursor : Option QueueMemberRow) :
    List QueueMemberRow :=
  sortOn QueueMemberRow.place (db.members.rows.filter
    (fun row => row.state = state && cursor.all (fun cursor => cursor.behind row)))

/-- `PlanQueue.list_by_state`: the database after its transaction, and the page. -/
def listByState (db : QueueDb) (state : QueueMemberState) (limit : Int)
    (afterMemberId : Option Digest) (now : Timestamp) :
    Except MacrError (QueueDb × List QueueMemberRow) := do
  raiseIf (¬(1 ≤ limit ∧ limit ≤ 1000)) (.valueError "limit must be between 1 and 1000")
  let db := db.markExpiredClaims now
  let cursor ← db.cursorRow state afterMemberId
  pure (db, (db.membersBehind state cursor).take limit.toNat)

/-- Pages are asked for until one is empty, each behind the last member of the page before; nothing
is answered where the calls run out. -/
def drain (state : QueueMemberState) (limit : Int) (clock : Nat → Timestamp) :
    Nat → QueueDb → Option Digest → Nat → Except MacrError (Option (List QueueMemberRow))
  | 0, _, _, _ => pure none
  | calls + 1, db, cursor, made => do
    let (db, page) ← db.listByState state limit cursor (clock made)
    match page.getLast? with
    | none => pure (some [])
    | some last => do
      let rest ← drain state limit clock calls db (some last.memberId) (made + 1)
      pure (rest.map (page ++ ·))

/-! ## The listing -/

/-- The members in a state, in order. -/
def listing (db : QueueDb) (state : QueueMemberState) : List QueueMemberRow :=
  db.membersBehind state none

/-- The listing has the members in the state. -/
theorem listing_perm (db : QueueDb) (state : QueueMemberState) :
    (db.listing state).Perm (db.members.rows.filter (fun row => row.state = state)) := by
  have perm := sortOn_perm QueueMemberRow.place
    (db.members.rows.filter (fun row => row.state = state && (none : Option QueueMemberRow).all
      (fun cursor => cursor.behind row)))
  simpa [listing, membersBehind] using perm

/-- The places of the listing ascend. -/
theorem listing_ascending (db : QueueDb) (state : QueueMemberState) :
    (db.listing state).Pairwise (fun left right => left.place < right.place) := by
  have sorted : (db.listing state).Pairwise (fun left right => left.place ≤ right.place) :=
    sortOn_pairwise _
  have distinct : (db.listing state).Pairwise (fun left right => left.memberId ≠ right.memberId) := by
    have keys : ((db.listing state).map (·.memberId)).Nodup := by
      rw [((listing_perm db state).map _).nodup_iff]
      exact db.members.distinct.sublist (List.filter_sublist.map _)
    exact List.pairwise_map.mp keys
  refine (sorted.and distinct).imp ?_
  rintro left right ⟨before, different⟩
  refine lt_of_le_of_ne before fun same => different (QueueMemberRow.memberId_of_place same)

/-- The members behind a cursor are those of the listing. -/
theorem membersBehind_eq (db : QueueDb) (state : QueueMemberState) (cursor : QueueMemberRow) :
    db.membersBehind state (some cursor) =
      (db.listing state).filter (fun row => cursor.behind row) := by
  have perm : (db.membersBehind state (some cursor)).Perm
      ((db.listing state).filter (fun row => cursor.behind row)) := by
    refine (sortOn_perm _ _).trans ?_
    refine List.Perm.trans ?_ ((listing_perm db state).filter _).symm
    rw [List.filter_filter]
    simp [Bool.and_comm]
  have ascending := (listing_ascending db state).filter (fun row => cursor.behind row)
  refine List.Perm.eq_of_pairwise ?_ (sortOn_pairwise _) (ascending.imp le_of_lt) perm
  intro left right here there before later
  have stored : ∀ row ∈ db.listing state, row ∈ db.members.rows := fun row member =>
    (List.mem_filter.mp ((listing_perm db state).mem_iff.mp member)).1
  exact db.members.eq_of_key (stored left (List.mem_filter.mp (perm.mem_iff.mp here)).1)
    (stored right (List.mem_filter.mp there).1)
    (QueueMemberRow.memberId_of_place (le_antisymm before later))

/-- What is behind the last member of a part of the listing is the rest of it. -/
theorem membersBehind_last {seen rest : List QueueMemberRow} {last : QueueMemberRow}
    (split : db.listing state = seen ++ rest) (atEnd : seen.getLast? = some last) :
    db.membersBehind state (some last) = rest := by
  have ascending := listing_ascending db state
  rw [membersBehind_eq, split, List.filter_append]
  rw [split, List.pairwise_append] at ascending
  obtain ⟨first, _, across⟩ := ascending
  have lastMember := List.mem_of_getLast? atEnd
  have none : seen.filter (fun row => last.behind row) = [] := by
    rw [List.filter_eq_nil_iff]
    intro row member behind
    rw [QueueMemberRow.behind_iff] at behind
    obtain ⟨earlier, shape⟩ := List.getLast?_eq_some_iff.mp atEnd
    rw [shape, List.mem_append, List.mem_singleton] at member
    rw [shape, List.pairwise_append] at first
    rcases member with held | rfl
    · exact absurd (first.2.2 row held last (List.mem_singleton.mpr rfl)) (lt_asymm behind)
    · exact lt_irrefl _ behind
  have all : rest.filter (fun row => last.behind row) = rest := by
    rw [List.filter_eq_self]
    intro row member
    rw [QueueMemberRow.behind_iff]
    exact across last lastMember row member
  rw [none, all, List.nil_append]

/-! ## The pages -/

/-- A page behind the members seen has the next ones. -/
theorem listByState_page {now : Timestamp} (valid : 1 ≤ limit ∧ limit ≤ 1000)
    (marked : after.markExpiredClaims now = db) {seen rest : List QueueMemberRow}
    (split : db.listing state = seen ++ rest) :
    after.listByState state limit (seen.getLast?.map (·.memberId)) now =
      .ok (db, rest.take limit.toNat) := by
  unfold listByState
  rw [raiseIf_bind_of_not (not_not.mpr valid), marked]
  cases atEnd : seen.getLast? with
  | none =>
    have empty : seen = [] := List.getLast?_eq_none_iff.mp atEnd
    subst empty
    have whole : db.membersBehind state none = rest := split
    simp [cursorRow, whole, bind, Except.bind, pure, Except.pure]
  | some last =>
    have member : last ∈ db.listing state := split ▸
      List.mem_append_left _ (List.mem_of_getLast? atEnd)
    obtain ⟨stored, inState⟩ := List.mem_filter.mp ((listing_perm db state).mem_iff.mp member)
    have found : db.member? last.memberId = some last := db.members.find?_self stored
    have read : db.cursorRow state (some last.memberId) = .ok (some last) := by
      simp only [cursorRow, found, Option.filter, inState, if_true]
      rfl
    simp only [Option.map_some, read, ok_bind, membersBehind_last split atEnd]
    rfl

/-- While nothing changes, the pages behind the members seen answer the rest. -/
theorem drain_rest {clock : Nat → Timestamp} (valid : 1 ≤ limit ∧ limit ≤ 1000)
    {seen rest : List QueueMemberRow} (split : db.listing state = seen ++ rest) {made : Nat}
    (marked : after.markExpiredClaims (clock made) = db)
    (still : ∀ later, db.markExpiredClaims (clock later) = db) {calls : Nat}
    (enough : rest.length < calls) :
    drain state limit clock calls after (seen.getLast?.map (·.memberId)) made =
      .ok (some rest) := by
  induction calls generalizing after seen rest made with
  | zero => exact absurd enough (Nat.not_lt_zero _)
  | succ calls ih =>
    have page := listByState_page valid marked split
    have positive : 0 < limit.toNat := by omega
    rw [drain, page, ok_bind]
    cases rest with
    | nil => simp [pure, Except.pure]
    | cons head tail =>
      have nonempty : (head :: tail).take limit.toNat ≠ [] := by
        simp [Nat.pos_iff_ne_zero.mp positive]
      obtain ⟨last, atEnd⟩ := List.getLast?_isSome.mpr nonempty |> Option.isSome_iff_exists.mp
      have next : db.listing state =
          (seen ++ (head :: tail).take limit.toNat) ++ (head :: tail).drop limit.toNat := by
        rw [List.append_assoc, List.take_append_drop, split]
      have ended : (seen ++ (head :: tail).take limit.toNat).getLast? = some last := by
        rw [List.getLast?_append, atEnd]
        rfl
      have shorter : ((head :: tail).drop limit.toNat).length < calls := by
        rw [List.length_drop]
        simp only [List.length_cons] at enough ⊢
        omega
      have rest := ih next (still (made + 1)) shorter
      rw [ended, Option.map_some] at rest
      simp only [atEnd, rest, ok_bind, Option.map_some, List.take_append_drop]
      rfl

/-- Pages that follow one another end, and answer the members in a state. -/
structure AnswersAll (db : QueueDb) (state : QueueMemberState) (limit : Int)
    (clock : Nat → Timestamp) (rows : List QueueMemberRow) : Prop where
  /-- A call for each member and one more get all of them. -/
  ends : ∀ calls, rows.length < calls → drain state limit clock calls db none 0 = .ok (some rows)
  /-- Every member in the state is answered. -/
  members : ∀ row, row ∈ rows ↔
    row ∈ (db.markExpiredClaims (clock 0)).members.rows ∧ row.state = state
  /-- None is answered twice. -/
  once : (rows.map (·.memberId)).Nodup
  /-- They come in the order of plans, ordinals and identifiers. -/
  ordered : rows.Pairwise (fun left right => left.behind right = true)

/-- While no call finds a claim expired that the first did not, the pages answer every member. -/
theorem pages_complete (db : QueueDb) (state : QueueMemberState) (limit : Int)
    (valid : 1 ≤ limit ∧ limit ≤ 1000) (clock : Nat → Timestamp)
    (unchanged : ∀ call, (db.markExpiredClaims (clock 0)).markExpiredClaims (clock call) =
      db.markExpiredClaims (clock 0)) : ∃ rows, AnswersAll db state limit clock rows := by
  refine ⟨(db.markExpiredClaims (clock 0)).listing state, ?_, ?_, ?_, ?_⟩
  · intro calls enough
    have none : ([] : List QueueMemberRow).getLast?.map (·.memberId) = none := rfl
    exact none ▸ drain_rest valid rfl rfl unchanged enough
  · intro row
    rw [(listing_perm _ state).mem_iff, List.mem_filter, decide_eq_true_eq]
  · rw [((listing_perm _ state).map _).nodup_iff]
    exact (QueueDb.members _).distinct.sublist (List.filter_sublist.map _)
  · refine (listing_ascending _ state).imp ?_
    intro left right before
    exact (QueueMemberRow.behind_iff left right).mpr before

/-- An update whose condition no member meets changes nothing. -/
theorem updateMembers_none {condition : QueueMemberRow → Bool}
    (unmet : ∀ row ∈ db.members.rows, condition row = false)
    (assign : QueueMemberRow → QueueMemberProgress) : db.updateMembers condition assign = db := by
  have same := Table.update_none db.members condition (fun row => row.write (assign row))
    (fun _ => rfl) unmet
  exact congrArg (fun members => { db with members := members }) same

/-- At one time, claims expire once. -/
theorem markExpiredClaims_again (db : QueueDb) (now : Timestamp) :
    (db.markExpiredClaims now).markExpiredClaims now = db.markExpiredClaims now := by
  have settled : ∀ row ∈ (db.markExpiredClaims now).members.rows, expired now row = false := by
    intro row member
    obtain ⟨old, _, same⟩ := List.mem_map.mp member
    by_cases ended : expired now old = true
    · rw [if_pos ended] at same
      rw [← same]
      simp [expired, QueueMemberRow.write]
    · rw [if_neg ended] at same
      exact same ▸ Bool.eq_false_iff.mpr ended
  exact updateMembers_none settled _

/-- The two members of a batch come on two pages. -/
theorem pages_complete_of_batch :
    ∃ rows, AnswersAll ((machine foldDigest).run initial (sampleQueued sampleBatchScope)) .queued 1
      (fun _ => 3) rows :=
  pages_complete ((machine foldDigest).run initial (sampleQueued sampleBatchScope)) .queued 1
    (by decide) (fun _ => 3) (fun _ => markExpiredClaims_again _ 3)

end QueueDb
end Macr
