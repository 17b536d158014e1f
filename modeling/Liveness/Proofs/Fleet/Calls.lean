import Liveness.Proofs.Fleet.Aggregation
import Mathlib

/-!
What a check of the fleet asks of its clock and its status store, call by call. Whatever they answer
and however they fail, there is a verdict, the clock is read once, and there is one attempt to
sweep, which comes after the verdict and has no part in it (`call_comes_to_verdict`).
-/

namespace Liveness.Fleet

open MonadExcept (ofExcept)
open Store (StatusRecord)
open Time (Duration Instant Moment TimeFault Zone)

inductive Call where
  | clock
  | recent (since : Moment)
  | removeBefore (cutoff : Moment)
deriving DecidableEq

/-- A clock and a status store in state `σ`, which anything that is asked may change. The store may
answer anything and fail in any way. -/
structure Collaborators (σ : Type) where
  clock : σ → Moment × σ
  recent : σ → Moment → Except Failure (List StatusRecord) × σ
  removeBefore : σ → Moment → Except Failure Nat × σ

def Collaborators.source {σ : Type} (collaborators : Collaborators σ) : StatusSource σ where
  recent around since := (collaborators.recent around since).1
  removeBefore := collaborators.removeBefore

structure Scene (σ : Type) where
  around : σ
  calls : List Call := []
  logs : List LogEntry := []

/-- Steps of a check. One that fails does not take back what was asked before. -/
abbrev Steps (σ : Type) := EStateM Failure (Scene σ)

namespace Steps

variable {σ α : Type}

def attempt (steps : Steps σ α) : Steps σ (Except Failure α) :=
  tryCatch (Except.ok <$> steps) fun failure => pure (.error failure)

def ask (call : Call) (answer : σ → Except Failure α × σ) : Steps σ α := do
  let scene ← get
  let (result, around) := answer scene.around
  set { scene with around, calls := scene.calls ++ [call] }
  ofExcept result

def askBefore (now : Moment) (zone : Zone) (span : Duration) (call : Moment → Call)
    (answer : σ → Moment → Except Failure α × σ) : Steps σ α := do
  let time ← ofExcept ((now.before zone span).mapError TimeFault.toFailure)
  ask (call time) fun around => answer around time

def readClock (collaborators : Collaborators σ) : Steps σ Moment :=
  ask .clock fun around =>
    let (now, around) := collaborators.clock around
    (.ok now, around)

def log (entry : LogEntry) : Steps σ Unit :=
  modify fun scene => { scene with logs := scene.logs ++ [entry] }

end Steps

namespace Aggregation

open Steps

variable {σ : Type}

def evaluateSteps (check : Aggregation) (collaborators : Collaborators σ) (now : Moment) :
    Steps σ Verdict := do
  match ← attempt (askBefore now check.zone check.window .recent collaborators.recent) with
  | .ok records => return judge check.expected records
  | .error failure =>
    return .error
      ("could not retrieve service status from the service_status table: " ++ failure.text)

def sweepSteps (check : Aggregation) (collaborators : Collaborators σ) (now : Moment) :
    Steps σ Unit := do
  match ← attempt
      (askBefore now check.zone check.retention .removeBefore collaborators.removeBefore) with
  | .ok count =>
    if count ≠ 0 then
      log ⟨.info, s!"Removed {count} status records older than {check.retention.toText}"⟩
  | .error _ => log ⟨.error, "Error cleaning up service_status table"⟩

def callSteps (check : Aggregation) (collaborators : Collaborators σ) : Steps σ Verdict := do
  let now ← readClock collaborators
  let verdict ← check.evaluateSteps collaborators now
  check.sweepSteps collaborators now
  return verdict

end Aggregation

/-! ## What steps come to -/

namespace Steps

variable {σ α : Type}

theorem run_ofExcept (outcome : Except Failure α) (scene : Scene σ) :
    (ofExcept outcome : Steps σ α).run scene =
      match outcome with
      | .ok a => .ok a scene
      | .error failure => .error failure scene := by
  cases outcome <;> rfl

theorem run_ask (call : Call) (answer : σ → Except Failure α × σ) (scene : Scene σ) :
    (ask call answer).run scene = (ofExcept (answer scene.around).1 : Steps σ α).run
      { scene with around := (answer scene.around).2, calls := scene.calls ++ [call] } := rfl

theorem run_attempt (steps : Steps σ α) (scene : Scene σ) :
    (attempt steps).run scene =
      match steps.run scene with
      | .ok a after => .ok (.ok a) after
      | .error failure after => .ok (.error failure) after := by
  simp only [attempt, EStateM.run, tryCatch, tryCatchThe, MonadExceptOf.tryCatch, EStateM.tryCatch,
    Functor.map, EStateM.map]
  cases steps scene <;> rfl

variable (now : Moment) (zone : Zone) (span : Duration) (call : Moment → Call)
  (answer : σ → Moment → Except Failure α × σ)

def callsBefore : List Call := ((now.before zone span).toOption.map call).toList

theorem count_callsBefore {other : Call} (differs : ∀ time, call time ≠ other) :
    (callsBefore now zone span call).count other = 0 := by
  rw [callsBefore]
  cases (now.before zone span).toOption with
  | none => rfl
  | some time => exact List.count_eq_zero_of_not_mem (by simpa using (differs time).symm)

def answerBefore (around : σ) : Except Failure α × σ :=
  match now.before zone span with
  | .error fault => (.error fault.toFailure, around)
  | .ok time => answer around time

theorem run_attempt_askBefore (scene : Scene σ) :
    (attempt (askBefore now zone span call answer)).run scene =
      .ok (answerBefore now zone span answer scene.around).1
        { scene with
          around := (answerBefore now zone span answer scene.around).2
          calls := scene.calls ++ callsBefore now zone span call } := by
  rw [run_attempt, callsBefore, answerBefore]
  cases before : now.before zone span with
  | error fault =>
      have fails : (askBefore now zone span call answer).run scene =
          .error fault.toFailure scene := by
        rw [askBefore, before]
        rfl
      rw [fails, Except.toOption, Option.map_none, Option.toList_none, List.append_nil]
  | ok time =>
      have asks : (askBefore now zone span call answer).run scene =
          (ask (call time) fun around => answer around time).run scene := by
        rw [askBefore, before]
        rfl
      rw [asks, run_ask, run_ofExcept]
      cases (answer scene.around time).1 <;> rfl

end Steps

namespace Aggregation

open Steps

variable {σ : Type} (check : Aggregation) (collaborators : Collaborators σ) (now : Moment)

theorem answerBefore_recent (around : σ) :
    (answerBefore now check.zone check.window collaborators.recent around).1 =
      check.recentAt collaborators.source around now := by
  rw [answerBefore, recentAt]
  cases now.before check.zone check.window <;> rfl

theorem run_evaluateSteps (scene : Scene σ) :
    (check.evaluateSteps collaborators now).run scene =
      .ok (check.evaluate collaborators.source scene.around now)
        { scene with
          around := (answerBefore now check.zone check.window collaborators.recent scene.around).2
          calls := scene.calls ++ callsBefore now check.zone check.window .recent } := by
  have read := run_attempt_askBefore now check.zone check.window .recent collaborators.recent scene
  rw [answerBefore_recent] at read
  rw [evaluateSteps, EStateM.run_bind, read, evaluate]
  cases check.recentAt collaborators.source scene.around now <;> rfl

def sweepLogs : Except Failure Nat → List LogEntry
  | .ok count =>
    if count = 0 then []
    else [⟨.info, s!"Removed {count} status records older than {check.retention.toText}"⟩]
  | .error _ => [⟨.error, "Error cleaning up service_status table"⟩]

theorem sweep_eq_answerBefore (source : StatusSource σ) (store : σ) :
    check.sweep source store now =
      (check.sweepLogs (answerBefore now check.zone check.retention source.removeBefore store).1,
        (answerBefore now check.zone check.retention source.removeBefore store).2) := by
  rw [sweep]
  split
  next outcome kept answered =>
      have same : answerBefore now check.zone check.retention source.removeBefore store =
          (outcome, kept) :=
        answered
      rw [same]
      cases outcome with
      | error failure => rfl
      | ok count =>
          simp only [sweepLogs]
          split <;> rfl

theorem run_sweepSteps (scene : Scene σ) :
    (check.sweepSteps collaborators now).run scene =
      .ok () {
        around := (check.sweep collaborators.source scene.around now).2
        calls := scene.calls ++ callsBefore now check.zone check.retention .removeBefore
        logs := scene.logs ++ (check.sweep collaborators.source scene.around now).1 } := by
  have removed :=
    run_attempt_askBefore now check.zone check.retention .removeBefore
      collaborators.removeBefore scene
  rw [sweepSteps, EStateM.run_bind, removed, sweep_eq_answerBefore, Collaborators.source]
  cases (answerBefore now check.zone check.retention collaborators.removeBefore scene.around).1 with
  | error failure => rfl
  | ok count =>
      simp only [sweepLogs]
      by_cases none : count = 0
      · rw [if_pos none, if_neg (not_not_intro none), List.append_nil]
        rfl
      · rw [if_neg none, if_pos none]
        rfl

theorem run_callSteps (around : σ) :
    let now := (collaborators.clock around).1
    let begun : Scene σ := { around := (collaborators.clock around).2, calls := [.clock] }
    let read := answerBefore now check.zone check.window collaborators.recent begun.around
    (check.callSteps collaborators).run { around } =
      .ok (check.evaluate collaborators.source begun.around now) {
        around := (check.sweep collaborators.source read.2 now).2
        calls := .clock :: (callsBefore now check.zone check.window .recent ++
          callsBefore now check.zone check.retention .removeBefore)
        logs := (check.sweep collaborators.source read.2 now).1 } := by
  intro now begun read
  have clock : (readClock collaborators).run { around } = .ok now begun := rfl
  rw [callSteps, EStateM.run_bind, clock]
  simp only
  rw [EStateM.run_bind, run_evaluateSteps]
  simp only
  rw [EStateM.run_bind, run_sweepSteps]
  rfl

/-- Whatever the clock and the store answer, a check reads the clock once, comes to a verdict, then
attempts one sweep, and nothing that comes of the sweep alters the verdict. -/
theorem call_comes_to_verdict (check : Aggregation) (collaborators : Collaborators σ)
    (around : σ) :
    let now := (collaborators.clock around).1
    let begun : Scene σ := { around := (collaborators.clock around).2, calls := [.clock] }
    ∃ verdict judged swept,
      (check.evaluateSteps collaborators now).run begun = .ok verdict judged ∧
      (check.sweepSteps collaborators now).run judged = .ok () swept ∧
      (check.callSteps collaborators).run { around } = .ok verdict swept ∧
      swept.calls = .clock :: (callsBefore now check.zone check.window .recent ++
        callsBefore now check.zone check.retention .removeBefore) ∧
      swept.calls.count .clock = 1 ∧
      verdict = check.evaluate collaborators.source begun.around now ∧
      (swept.logs, swept.around) = check.sweep collaborators.source judged.around now ∧
      (∀ fault, now.before check.zone check.retention = .error fault →
        swept.logs = [⟨.error, "Error cleaning up service_status table"⟩]) ∧
      (∀ removeBefore, ∃ swept,
        (check.callSteps { collaborators with removeBefore }).run { around } =
          .ok verdict swept) ∧
      ∀ failure, check.recentAt collaborators.source begun.around now = .error failure →
        verdict = .error
          ("could not retrieve service status from the service_status table: " ++
            failure.text) := by
  intro now begun
  have once : (Call.clock :: (callsBefore now check.zone check.window .recent ++
      callsBefore now check.zone check.retention .removeBefore)).count .clock = 1 := by
    have reads : ∀ since, Call.recent since ≠ .clock := fun _ => nofun
    have removals : ∀ cutoff, Call.removeBefore cutoff ≠ .clock := fun _ => nofun
    rw [List.count_cons_self, List.count_append, count_callsBefore _ _ _ _ reads,
      count_callsBefore _ _ _ _ removals]
  refine ⟨_, _, _, check.run_evaluateSteps collaborators now begun,
    check.run_sweepSteps collaborators now _, check.run_callSteps collaborators around, rfl, once,
    rfl, rfl, ?_, ?_, ?_⟩
  · intro fault untimely
    rw [sweep_eq_answerBefore, answerBefore, untimely]
    rfl
  · intro removeBefore
    exact ⟨_, check.run_callSteps { collaborators with removeBefore } around⟩
  · intro failure unread
    rw [evaluate, unread]

def lockedStore (now : Moment) : Collaborators Nat where
  clock asked := (now, asked)
  recent asked _ := (.error (.of (.database "OperationalError") "database is locked"), asked + 1)
  removeBefore asked _ :=
    (.error (.of (.database "OperationalError") "database is locked"), asked + 1)

def fourth : Instant := ⟨1766660400000000, by decide, by decide⟩

def firstDay : Instant := ⟨Time.leastMicros, by decide, by decide⟩

theorem call_comes_to_verdict_locked :
    (∃ swept, (sampleCheck.callSteps (lockedStore eleven)).run { around := 0 } =
        .ok (.error ("could not retrieve service status from the service_status table: " ++
          "database is locked")) swept ∧
      swept.calls = [.clock, .recent nine, .removeBefore fourth]) ∧
    ∃ swept, (sampleCheck.callSteps (lockedStore firstDay)).run { around := 0 } =
        .ok (.error ("could not retrieve service status from the service_status table: " ++
          "date value out of range")) swept ∧
      swept.calls = [.clock] ∧
      swept.logs = [⟨.error, "Error cleaning up service_status table"⟩] := by
  constructor
  · obtain ⟨verdict, judged, swept, -, -, called, calls, -, -, -, -, -, unread⟩ :=
      call_comes_to_verdict sampleCheck (lockedStore eleven) 0
    rw [unread _ rfl] at called
    exact ⟨swept, called, calls⟩
  · obtain ⟨verdict, judged, swept, -, -, called, calls, -, -, -, untimely, -, unread⟩ :=
      call_comes_to_verdict sampleCheck (lockedStore firstDay) 0
    rw [unread _ rfl] at called
    exact ⟨swept, called, calls, untimely _ rfl⟩

end Aggregation

end Liveness.Fleet
