import Mathlib.Data.List.Induction
import Mathlib.Tactic.Common

/-!
# Event logs

A log is replayed by an interpreter that may refuse an event. A replay that succeeds has passed
through one state after each event, so a fact about one application is a fact about every place of
the log, and what one application adds is summed over the log.
-/

namespace Macr.Lib

/-- An interpreter of events; no state is there before the first. -/
structure EventLog (σ ε err : Type) where
  /-- The state after one event. -/
  apply : Option σ → ε → Except err σ

namespace EventLog

variable {σ ε err : Type} (log : EventLog σ ε err)

/-- Apply the events in order to a state. -/
def replayFrom : Option σ → List ε → Except err (Option σ)
  | state, [] => .ok state
  | state, event :: rest =>
    match log.apply state event with
    | .ok next => replayFrom (some next) rest
    | .error raised => .error raised

/-- A replay of two lists replays the second from where the first ends. -/
theorem replayFrom_append (state : Option σ) (first second : List ε) :
    log.replayFrom state (first ++ second) =
      (log.replayFrom state first).bind (fun mid => log.replayFrom mid second) := by
  induction first generalizing state with
  | nil => rfl
  | cons event rest ih =>
    rw [List.cons_append, replayFrom, replayFrom]
    cases log.apply state event with
    | ok next => exact ih (some next)
    | error raised => rfl

/-- A replay with one more event applies it to the state before. -/
theorem replayFrom_concat {start mid : Option σ} {events : List ε} {event : ε} {next : σ}
    (before : log.replayFrom start events = .ok mid) (applied : log.apply mid event = .ok next) :
    log.replayFrom start (events ++ [event]) = .ok (some next) := by
  rw [replayFrom_append, before]
  simp [Except.bind, replayFrom, applied]

/-- Each event of a log that replays is applied to what the events before it replay to. -/
theorem apply_of_replayFrom {start finish : Option σ} {events : List ε}
    (replayed : log.replayFrom start events = .ok finish) {i : Nat} {event : ε}
    (place : events[i]? = some event) :
    ∃ mid next, log.replayFrom start (events.take i) = .ok mid ∧
      log.apply mid event = .ok next ∧
        log.replayFrom start (events.take (i + 1)) = .ok (some next) := by
  induction events generalizing start i with
  | nil => simp at place
  | cons first rest ih =>
    rw [replayFrom] at replayed
    cases applied : log.apply start first with
    | error raised =>
      rw [applied] at replayed
      exact absurd replayed (by simp)
    | ok next =>
      rw [applied] at replayed
      cases i with
      | zero =>
        have same : first = event := by simpa using place
        subst same
        exact ⟨start, next, rfl, applied, by simp [replayFrom, applied]⟩
      | succ j =>
        have later : rest[j]? = some event := by simpa using place
        obtain ⟨mid, after, before, turned, reached⟩ := ih replayed later
        refine ⟨mid, after, ?_, turned, ?_⟩
        · rw [List.take_succ_cons, replayFrom, applied]
          exact before
        · rw [List.take_succ_cons, replayFrom, applied]
          exact reached

/-- The rule for a log: what the empty log meets and every application keeps, of the events so far
and the state they lead to, holds of a whole log that replays. -/
theorem replayFrom_induction {Inv : List ε → Option σ → Prop} (empty : Inv [] none)
    (turn : ∀ events mid event next, Inv events mid → log.apply mid event = .ok next →
      Inv (events ++ [event]) (some next)) {events : List ε} {finish : Option σ}
    (replayed : log.replayFrom none events = .ok finish) : Inv events finish := by
  induction events using List.reverseRecOn generalizing finish with
  | nil =>
    rw [replayFrom] at replayed
    rw [← Except.ok.inj replayed]
    exact empty
  | append_singleton events event ih =>
    rw [replayFrom_append] at replayed
    cases before : log.replayFrom none events with
    | error raised =>
      rw [before] at replayed
      exact absurd replayed (by simp [Except.bind])
    | ok mid =>
      rw [before] at replayed
      cases applied : log.apply mid event with
      | error raised => simp [Except.bind, replayFrom, applied] at replayed
      | ok next =>
        simp only [Except.bind, replayFrom, applied, Except.ok.injEq] at replayed
        rw [← replayed]
        exact turn events mid event next (ih before) applied

end EventLog
end Macr.Lib
