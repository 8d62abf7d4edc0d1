import Macr.Accounting.Effects

/-!
# The invocation outbox

The outbox holds one entry for each terminal invocation, whatever the order of the calls. The copy
in it is written once, with the terminal record, and `mark_soft_warning` does not look at the
terminal time as `record_observation` does: a warning marked afterwards leaves the copy behind.
That is the only way, so the runs whose outbox is faithful throughout are known exactly.
-/

namespace Macr

open Lib

namespace AccountingDb

variable {kernel : AccountingKernel} {db : AccountingDb}

/-- The entries are those of the terminal invocations, one each, and wait to be sent. -/
structure OutboxLaid (db : AccountingDb) : Prop where
  /-- An entry is of a terminal invocation. -/
  terminal : ∀ entry ∈ db.outbox.rows,
    ∃ row, db.invocation? entry.runId = some row ∧ row.terminalAt ≠ none
  /-- A terminal invocation has an entry. -/
  entered : ∀ runId row, db.invocation? runId = some row → row.terminalAt ≠ none →
    ∃ entry ∈ db.outbox.rows, entry.runId = runId
  /-- It has one. -/
  single : ∀ first ∈ db.outbox.rows, ∀ second ∈ db.outbox.rows,
    first.runId = second.runId → first = second
  /-- No entry was sent. -/
  pending : ∀ entry ∈ db.outbox.rows, entry.state = "pending"

/-- The copy in an entry is the projection of the invocation. -/
def OutboxCopied (db : AccountingDb) : Prop :=
  ∀ entry ∈ db.outbox.rows, ∀ row, db.invocation? entry.runId = some row →
    entry.payload = row.outboxPayload

/-- The outbox reproduces the table: an invocation has an entry exactly when it is terminal, it has
one, the entry is its projection, and an export of the outbox lists these projections. -/
structure OutboxFaithful (db : AccountingDb) : Prop where
  /-- An invocation has an entry exactly when it is terminal. -/
  entered_iff : ∀ row ∈ db.invocations.rows,
    row.terminalAt ≠ none ↔ ∃ entry ∈ db.outbox.rows, entry.runId = row.runId
  /-- Two entries are of two invocations. -/
  single : ∀ first ∈ db.outbox.rows, ∀ second ∈ db.outbox.rows,
    first.runId = second.runId → first = second
  /-- An entry is the projection of a stored invocation. -/
  copied : ∀ entry ∈ db.outbox.rows,
    ∃ row ∈ db.invocations.rows, row.runId = entry.runId ∧ entry.payload = row.outboxPayload
  /-- An export lists the projections of the terminal invocations. -/
  exported : ∀ payload, payload ∈ db.pendingOutbox.map (·.payload) ↔
    ∃ row ∈ db.invocations.rows, row.terminalAt ≠ none ∧ row.outboxPayload = payload

/-- A new database has a laid outbox. -/
theorem outboxLaid_initial : OutboxLaid initial where
  terminal := fun _ member => absurd member (List.not_mem_nil)
  entered := fun _ _ stored => absurd stored (by simp [initial, invocation?, Table.find?])
  single := fun _ member => absurd member (List.not_mem_nil)
  pending := fun _ member => absurd member (List.not_mem_nil)

/-- A laid outbox is faithful exactly when its copies are. -/
theorem outboxFaithful_iff (laid : OutboxLaid db) : OutboxFaithful db ↔ OutboxCopied db := by
  constructor
  · intro faithful entry member row stored
    obtain ⟨other, held, same, copied⟩ := faithful.copied entry member
    have found : db.invocation? entry.runId = some other := by
      rw [← same]
      exact invocation_of_mem held
    rw [found, Option.some.injEq] at stored
    rw [← stored]
    exact copied
  · intro copied
    have listed : ∀ entry, entry ∈ db.pendingOutbox ↔ entry ∈ db.outbox.rows := by
      intro entry
      unfold pendingOutbox
      rw [List.mem_mergeSort, List.mem_filter]
      constructor
      · exact fun member => member.1
      · exact fun member => ⟨member, by simp [laid.pending entry member]⟩
    constructor
    · intro row held
      constructor
      · exact laid.entered row.runId row (invocation_of_mem held)
      · rintro ⟨entry, member, same⟩
        obtain ⟨other, stored, terminal⟩ := laid.terminal entry member
        rw [same, invocation_of_mem held, Option.some.injEq] at stored
        rw [stored]
        exact terminal
    · exact laid.single
    · intro entry member
      obtain ⟨row, stored, _⟩ := laid.terminal entry member
      exact ⟨row, mem_of_invocation stored, runId_of_invocation stored,
        copied entry member row stored⟩
    · intro payload
      constructor
      · intro member
        obtain ⟨entry, held, rfl⟩ := List.mem_map.mp member
        have inside := (listed entry).mp held
        obtain ⟨row, stored, terminal⟩ := laid.terminal entry inside
        exact ⟨row, mem_of_invocation stored, terminal, (copied entry inside row stored).symm⟩
      · rintro ⟨row, held, terminal, rfl⟩
        have stored := invocation_of_mem held
        obtain ⟨entry, member, same⟩ := laid.entered row.runId row stored terminal
        apply List.mem_map.mpr
        refine ⟨entry, (listed entry).mpr member, ?_⟩
        apply copied entry member row
        rw [same]
        exact stored

/-! ## The entries are laid in every run -/

/-- A call that writes to an invocation without ending it keeps the outbox laid. -/
theorem outboxLaid_of_update {after : AccountingDb} {runId : Uuid}
    {assign : InvocationRow → InvocationRow} {keeps : ∀ row, (assign row).runId = row.runId}
    (written : after = db.updateInvocation runId assign keeps)
    (same : ∀ row, (assign row).terminalAt = row.terminalAt) (laid : OutboxLaid db) :
    OutboxLaid after := by
  subst written
  have outbox : (db.updateInvocation runId assign keeps).outbox = db.outbox := rfl
  constructor
  · intro entry member
    obtain ⟨row, stored, terminal⟩ := laid.terminal entry member
    rw [invocation_updateInvocation]
    by_cases chosen : entry.runId = runId
    · rw [if_pos chosen, stored]
      exact ⟨assign row, rfl, by rw [same]; exact terminal⟩
    · rw [if_neg chosen]
      exact ⟨row, stored, terminal⟩
  · intro other row stored terminal
    rw [invocation_updateInvocation] at stored
    by_cases chosen : other = runId
    · rw [if_pos chosen, Option.map_eq_some_iff] at stored
      obtain ⟨old, held, rfl⟩ := stored
      rw [same] at terminal
      exact laid.entered other old held terminal
    · rw [if_neg chosen] at stored
      exact laid.entered other row stored terminal
  · exact laid.single
  · exact laid.pending

/-- A lookup after a dispatch finds the new row under its key and every other row as before. -/
theorem invocation_insert {after : AccountingDb} {row : InvocationRow}
    {fresh : row.runId ∉ db.invocations.rows.map (·.runId)}
    (inserted : after.invocations = db.invocations.insert row fresh) (runId : Uuid) :
    after.invocation? runId = if row.runId = runId then some row else db.invocation? runId := by
  unfold invocation?
  rw [inserted]
  exact db.invocations.find?_insert row fresh runId

/-- The key of a new row is not stored. -/
theorem ne_of_fresh {row : InvocationRow}
    (fresh : row.runId ∉ db.invocations.rows.map (·.runId)) {runId : Uuid} {other : InvocationRow}
    (stored : db.invocation? runId = some other) : row.runId ≠ runId := by
  intro same
  apply fresh
  rw [same, ← runId_of_invocation stored]
  exact List.mem_map_of_mem (mem_of_invocation stored)

/-- A lookup after a terminal record finds the ended row under its key. -/
theorem invocation_terminated {after : AccountingDb} {row : InvocationRow}
    {values : TerminalValues} {now : Timestamp} (stored : db.invocation? row.runId = some row)
    (invocations : after.invocations =
      (db.updateInvocation row.runId (values.apply now) (values.runId_apply now)).invocations)
    (runId : Uuid) : after.invocation? runId =
      if runId = row.runId then some (values.apply now row) else db.invocation? runId := by
  have found : after.invocation? runId = (db.updateInvocation row.runId (values.apply now)
      (values.runId_apply now)).invocation? runId := by
    unfold invocation?
    rw [invocations]
  rw [found, invocation_updateInvocation]
  by_cases chosen : runId = row.runId
  · rw [if_pos chosen, if_pos chosen, chosen, stored]
    rfl
  · rw [if_neg chosen, if_neg chosen]

/-- Every effect keeps the outbox laid. -/
theorem outboxLaid_of_effect {after : AccountingDb} {now : Timestamp} {call : AccountingCall}
    (laid : OutboxLaid db) (effect : InvocationEffect kernel db now call after) :
    OutboxLaid after := by
  cases effect with
  | kept invocations outbox =>
    have found : ∀ runId, after.invocation? runId = db.invocation? runId := by
      intro runId
      unfold invocation?
      rw [invocations]
    constructor
    · rw [outbox]
      simpa only [found] using laid.terminal
    · rw [outbox]
      simpa only [found] using laid.entered
    · rw [outbox]
      exact laid.single
    · rw [outbox]
      exact laid.pending
  | dispatched row fresh inserted outbox opened =>
    have found := invocation_insert inserted
    constructor
    · intro entry member
      rw [outbox] at member
      obtain ⟨other, stored, terminal⟩ := laid.terminal entry member
      rw [found, if_neg (ne_of_fresh fresh stored)]
      exact ⟨other, stored, terminal⟩
    · intro runId other stored terminal
      rw [found] at stored
      by_cases chosen : row.runId = runId
      · rw [if_pos chosen, Option.some.injEq] at stored
        rw [← stored] at terminal
        exact absurd opened terminal
      · rw [if_neg chosen] at stored
        rw [outbox]
        exact laid.entered runId other stored terminal
    · rw [outbox]
      exact laid.single
    · rw [outbox]
      exact laid.pending
  | observed row observation stored opened written =>
    exact outboxLaid_of_update written (fun _ => rfl) laid
  | terminated row values outboxId stored opened observed alone fresh invocations outbox =>
    have found := invocation_terminated stored invocations
    have entries : after.outbox.rows =
        db.outbox.rows ++ [outboxEntry kernel.sha outboxId now (values.apply now row)] := by
      rw [outbox]
      rfl
    constructor
    · intro entry member
      rw [entries, List.mem_append, List.mem_singleton] at member
      rcases member with old | rfl
      · obtain ⟨other, held, terminal⟩ := laid.terminal entry old
        rw [found, if_neg (alone entry old)]
        exact ⟨other, held, terminal⟩
      · refine ⟨values.apply now row, ?_, by simp [TerminalValues.apply]⟩
        rw [found]
        exact if_pos rfl
    · intro runId other held terminal
      rw [found] at held
      rw [entries]
      by_cases chosen : runId = row.runId
      · exact ⟨_, List.mem_append_right _ (List.mem_singleton_self _), chosen.symm⟩
      · rw [if_neg chosen] at held
        obtain ⟨entry, member, same⟩ := laid.entered runId other held terminal
        exact ⟨entry, List.mem_append_left _ member, same⟩
    · rw [entries]
      exact injective_concat laid.single alone
    · intro entry member
      rw [entries, List.mem_append, List.mem_singleton] at member
      rcases member with old | rfl
      · exact laid.pending entry old
      · rfl
  | warned row stored unmarked called written =>
    exact outboxLaid_of_update written (fun _ => rfl) laid

/-! ## Which calls keep the copies -/

end AccountingDb

/-- A warning marked on an invocation that is terminal and not marked yet. -/
def AccountingAction.WarnsTerminal (db : AccountingDb) (action : AccountingAction) : Prop :=
  action.interrupted = false ∧ match action.call with
    | .markSoftWarning runId =>
      match db.invocation? runId with
      | some row => row.terminalAt ≠ none ∧ row.softWarning = false
      | none => False
    | _ => False

instance (db : AccountingDb) (action : AccountingAction) : Decidable (action.WarnsTerminal db) := by
  unfold AccountingAction.WarnsTerminal
  refine @instDecidableAnd _ _ _ ?_
  split
  · split <;> infer_instance
  · infer_instance

namespace AccountingDb

variable {kernel : AccountingKernel} {db : AccountingDb}

/-- A projection shows whether its invocation is marked. -/
theorem softWarning_of_outboxPayload {row other : InvocationRow}
    (same : row.outboxPayload = other.outboxPayload) : row.softWarning = other.softWarning := by
  have marks : (if row.softWarning then (1 : Int) else 0) = if other.softWarning then 1 else 0 := by
    simp only [InvocationRow.outboxPayload, Json.obj.injEq, List.cons.injEq, Prod.mk.injEq,
      Json.int.injEq, true_and] at same
    exact same.2.2.2.2.2.2.2.2.2.2.2.2.2.2.2.2.2.2.2.2.1
  cases marked : row.softWarning <;> cases otherMarked : other.softWarning <;>
    simp_all

/-- A warning on a terminal invocation leaves its copy behind. -/
theorem not_copied_of_warnsTerminal {action : AccountingAction} (laid : OutboxLaid db)
    (copied : OutboxCopied db) (warns : action.WarnsTerminal db) :
    ¬OutboxCopied ((machine kernel).step db action) := by
  obtain ⟨now, interrupted, call⟩ := action
  obtain ⟨running, warns⟩ := warns
  have running : interrupted = false := running
  subst running
  cases call with
  | markSoftWarning runId =>
    cases stored : db.invocation? runId with
    | none => simp [stored] at warns
    | some row =>
      simp only [stored] at warns
      obtain ⟨terminal, unmarked⟩ := warns
      have stepped : (machine kernel).step db ⟨now, false, .markSoftWarning runId⟩ =
          db.updateInvocation runId (fun row => { row with softWarning := true })
            (fun _ => rfl) := by
        show step kernel db ⟨now, false, .markSoftWarning runId⟩ = _
        simp [step, perform, markSoftWarning, stored, unmarked, require, bind, Except.bind,
          commit, Except.map]
      intro after
      obtain ⟨entry, member, same⟩ := laid.entered runId row stored terminal
      have before : entry.payload = row.outboxPayload := by
        apply copied entry member row
        rw [same]
        exact stored
      have later : entry.payload =
          InvocationRow.outboxPayload { row with softWarning := true } := by
        rw [stepped] at after
        apply after entry member
        rw [invocation_updateInvocation, if_pos same, same, stored]
        rfl
      have marked := softWarning_of_outboxPayload (before.symm.trans later)
      rw [unmarked] at marked
      exact Bool.false_ne_true marked
  | _ => exact absurd warns (by simp)

/-- Every other effect keeps the copies. -/
theorem copied_of_effect {after : AccountingDb} {now : Timestamp} {call : AccountingCall}
    (laid : OutboxLaid db) (copied : OutboxCopied db)
    (allowed : ¬AccountingAction.WarnsTerminal db ⟨now, false, call⟩)
    (effect : InvocationEffect kernel db now call after) : OutboxCopied after := by
  cases effect with
  | kept invocations outbox =>
    intro entry member row stored
    rw [outbox] at member
    unfold invocation? at stored
    rw [invocations] at stored
    exact copied entry member row stored
  | dispatched row fresh inserted outbox opened =>
    intro entry member other found
    rw [outbox] at member
    obtain ⟨held, stored, _⟩ := laid.terminal entry member
    rw [invocation_insert inserted, if_neg (ne_of_fresh fresh stored)] at found
    exact copied entry member other found
  | observed row observation stored opened written =>
    subst written
    intro entry member other found
    obtain ⟨held, inside, terminal⟩ := laid.terminal entry member
    have apart : entry.runId ≠ row.runId := by
      intro same
      rw [same, stored, Option.some.injEq] at inside
      rw [← inside] at terminal
      exact terminal opened
    rw [invocation_updateInvocation, if_neg apart] at found
    exact copied entry member other found
  | terminated row values outboxId stored opened observed alone fresh invocations outbox =>
    intro entry member other found
    rw [outbox] at member
    rw [invocation_terminated stored invocations] at found
    rcases List.mem_append.mp member with old | new
    · rw [if_neg (alone entry old)] at found
      exact copied entry old other found
    · have key : (outboxEntry kernel.sha outboxId now (values.apply now row)).runId = row.runId :=
        rfl
      rw [List.mem_singleton.mp new] at found ⊢
      rw [if_pos key, Option.some.injEq] at found
      rw [← found]
      rfl
  | warned row stored unmarked called written =>
    subst called written
    -- The marked invocation is open, so no entry is its copy.
    have opened : row.terminalAt = none := by
      by_contra terminal
      apply allowed
      refine ⟨rfl, ?_⟩
      simp only [stored]
      exact ⟨terminal, unmarked⟩
    intro entry member other found
    obtain ⟨held, inside, terminal⟩ := laid.terminal entry member
    have apart : entry.runId ≠ row.runId := by
      intro same
      rw [same, stored, Option.some.injEq] at inside
      rw [← inside] at terminal
      exact terminal opened
    rw [invocation_updateInvocation, if_neg apart] at found
    exact copied entry member other found

/-- A step keeps the copies exactly when it does not warn a terminal invocation. -/
theorem copied_step_iff (laid : OutboxLaid db) (copied : OutboxCopied db)
    (action : AccountingAction) :
    OutboxCopied ((machine kernel).step db action) ↔ ¬action.WarnsTerminal db := by
  constructor
  · intro after warns
    exact not_copied_of_warnsTerminal laid copied warns after
  · intro allowed
    obtain ⟨now, interrupted, call⟩ := action
    cases interrupted with
    | true => exact copied
    | false => exact copied_of_effect laid copied allowed (effect_of_step kernel db ⟨now, false, call⟩)

/-- The outbox is faithful in every state of a run exactly when the run marks no warning on an
invocation that is already terminal. -/
theorem outbox_fidelity (kernel : AccountingKernel) (actions : List AccountingAction) :
    (∀ first rest, actions = first ++ rest →
        OutboxFaithful ((machine kernel).run initial first)) ↔
      (machine kernel).Obeys (fun db action => ¬action.WarnsTerminal db) initial actions := by
  have keep : ∀ db action, OutboxLaid db → OutboxLaid ((machine kernel).step db action) :=
    fun db action laid => outboxLaid_of_effect laid (effect_of_step kernel db action)
  have exact : ∀ db action, OutboxLaid db → OutboxCopied db →
      (OutboxCopied ((machine kernel).step db action) ↔ ¬action.WarnsTerminal db) :=
    fun _ action laid copied => copied_step_iff laid copied action
  have none_yet : OutboxCopied initial := fun _ member => absurd member List.not_mem_nil
  rw [← (machine kernel).holds_throughout_iff_obeys keep exact outboxLaid_initial none_yet]
  have same : ∀ first, OutboxFaithful ((machine kernel).run initial first) ↔
      OutboxCopied ((machine kernel).run initial first) := fun first =>
    outboxFaithful_iff ((machine kernel).run_invariant_all keep outboxLaid_initial first)
  simp only [same]

/-- A dispatch of an invocation by a sample provider. -/
def sampleDispatch : AccountingCall :=
  .recordDispatch 1 ⟨1, ⟨"codex", "thread_id", "t-1"⟩, .delegation, 5, none⟩ "glm_flash_worker"
    none none false

/-- A kernel that can be evaluated. -/
def sampleAccounting : AccountingKernel where
  sha := foldDigest
  uuid5 := fun name => (Json.str name).fold

/-- An invocation is marked after it ended. -/
def lateWarning : List AccountingAction :=
  [⟨1, false, sampleDispatch⟩,
    ⟨2, false, .recordTerminal 1 "candidate_failure" "unknown_after_dispatch" none none 7⟩,
    ⟨3, false, .markSoftWarning 1⟩]

/-- The copy of an invocation that is marked after it ended says that it is not marked. -/
theorem outbox_stale_of_lateWarning :
    ¬OutboxFaithful ((machine sampleAccounting).run initial lateWarning) := by
  intro faithful
  have stale : ¬∀ entry ∈ ((machine sampleAccounting).run initial lateWarning).outbox.rows,
      ∃ row ∈ ((machine sampleAccounting).run initial lateWarning).invocations.rows,
        row.runId = entry.runId ∧ entry.payload = row.outboxPayload := by
    decide +kernel
  exact stale faithful.copied

end AccountingDb
end Macr
