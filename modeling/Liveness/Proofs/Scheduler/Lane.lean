import Liveness.Proofs.Outcome
import Liveness.Scheduler.Timeline

namespace Liveness.Scheduler

/-- Only a cancellation escapes, or an expired wait that cannot be told. -/
theorem Probe.conclude_eq_error {probe : Probe} {outcome : Except Failure Verdict}
    {failure : Failure} (escapes : probe.conclude outcome = .error failure) :
    outcome = .error failure ∧ failure.isCancellation = true ∨
      failure.isCancellation = false ∧ probe.timeout = none := by
  cases outcome with
  | ok verdict => cases escapes
  | error raised =>
      rw [conclude] at escapes
      split at escapes
      next =>
          split at escapes
          next => cases escapes
          next unbounded =>
              cases escapes
              exact .inr ⟨rfl, unbounded⟩
      next =>
          split at escapes
          next cancels =>
              cases escapes
              exact .inl ⟨rfl, cancels⟩
          next => cases escapes

/-- Most failures of a report are logged and no more, unlike these. -/
def isGrave (failure : Failure) : Bool := failure.isLost || failure.isCancellation

def Script.CheckRaises (script : Script) (sort : Failure → Bool) : Prop :=
  ∃ call failure, (script.check call).outcome = .error failure ∧ sort failure = true

def Script.ReportRaises (script : Script) (sort : Failure → Bool) : Prop :=
  ∃ handed time failure, script.reportFault handed time = some failure ∧ sort failure = true

def Script.Cancels (script : Script) : Prop :=
  script.CheckRaises Failure.isCancellation ∨ script.ReportRaises Failure.isCancellation

/-- Nothing that the check or a report of a probe raises keeps an iteration from its end. -/
structure Script.IsMild (script : Script) : Prop where
  checks : ¬ script.CheckRaises Failure.isCancellation
  reports : ¬ script.ReportRaises isGrave

theorem Script.IsMild.not_cancels {script : Script} (mild : script.IsMild) : ¬ script.Cancels := by
  rintro (checks | ⟨handed, time, failure, raised, cancels⟩)
  · exact mild.checks checks
  · exact mild.reports ⟨handed, time, failure, raised, by rw [isGrave, cancels, Bool.or_true]⟩

def Script.Withdraws (script : Script) (result : Except Failure Verdict) : Prop :=
  ∃ handed time failure, script.reportFault handed time = some failure ∧
    failure.isCancellation = true ∧ result = .error failure

def Phase.IsIdle : Phase → Bool
  | .queued _ | .sleeping _ => true
  | _ => false

namespace Lane

variable (lane : Lane) (runner other : Runner) (phase : Phase)

/-! ## Runners -/

theorem phase?_add (absent : lane.phase? runner = none) : (lane.add runner phase).phase? other =
    if other = runner then some phase else lane.phase? other := by
  rw [phase?] at absent
  rw [phase?, phase?, add, List.lookup_append]
  split
  next same =>
      subst same
      rw [absent, List.lookup_cons_self]
      rfl
  next different =>
      rw [List.lookup_cons, beq_false_of_ne different, List.lookup_nil, Option.or_none]

theorem phase?_remove : (lane.remove runner).phase? other =
    if other = runner then none else lane.phase? other := by
  rw [phase?, phase?, remove]
  induction lane.runners with
  | nil => simp
  | cons entry entries ih =>
      obtain ⟨name, old⟩ := entry
      by_cases gone : name = runner
      · rw [List.filter_cons_of_neg (by simpa using gone), ih, List.lookup_cons]
        by_cases same : other = runner
        · simp [same]
        · simp [same, gone, beq_false_of_ne same]
      · rw [List.filter_cons_of_pos (by simpa using gone), List.lookup_cons, List.lookup_cons, ih]
        by_cases same : other = runner
        · simp [same, beq_false_of_ne (Ne.symm gone)]
        · simp [same]

theorem phase?_setPhase : (lane.setPhase runner phase).phase? other =
    if other = runner then (lane.phase? runner).map fun _ => phase else lane.phase? other := by
  rw [phase?, phase?, setPhase, phase?]
  induction lane.runners with
  | nil => simp
  | cons entry entries ih =>
      obtain ⟨name, old⟩ := entry
      rw [List.map_cons]
      by_cases changed : name = runner
      · subst changed
        by_cases same : other = name
        · simp [same]
        · simp only [if_pos, List.lookup_cons, beq_false_of_ne same, same, if_false] at ih ⊢
          exact ih
      · simp only [if_neg changed, List.lookup_cons, beq_false_of_ne (Ne.symm changed)]
        by_cases same : other = runner
        · subst same
          simpa [beq_false_of_ne (Ne.symm changed)] using ih
        · simp only [same, if_false] at ih ⊢
          rw [ih]

variable {lane : Lane} {runner : Runner} {phase : Phase} {call : Nat}

theorem phase?_of_mem (keys : (lane.runners.map (·.1)).Nodup)
    (member : (runner, phase) ∈ lane.runners) : lane.phase? runner = some phase := by
  rw [phase?]
  generalize lane.runners = runners at keys member ⊢
  induction runners with
  | nil => cases member
  | cons entry entries ih =>
      rw [List.map_cons, List.nodup_cons] at keys
      rcases List.mem_cons.1 member with rfl | member
      · exact List.lookup_cons_self
      · have other : runner ≠ entry.1 := by
          rintro rfl
          exact keys.1 (List.mem_map.2 ⟨_, member, rfl⟩)
        rw [List.lookup_cons, beq_false_of_ne other]
        exact ih keys.2 member

theorem mem_of_phase? (waits : lane.phase? runner = some phase) :
    (runner, phase) ∈ lane.runners := by
  obtain ⟨before, behind, split, -⟩ := List.lookup_eq_some_iff.1 waits
  rw [split]
  exact List.mem_append_right _ (List.mem_cons_self ..)

theorem phase?_of_awaiting? (keys : (lane.runners.map (·.1)).Nodup)
    (awaits : lane.awaiting? call = some runner) :
    ∃ deadline, lane.phase? runner = some (.checking call deadline) := by
  rw [awaiting?] at awaits
  obtain ⟨⟨name, phase⟩, member, waits⟩ := List.exists_of_findSome?_eq_some awaits
  cases phase with
  | checking c deadline =>
      by_cases same : c = call
      · subst same
        obtain rfl : name = runner := by simpa using waits
        exact ⟨deadline, phase?_of_mem keys member⟩
      · simp [same] at waits
  | queued since => simp at waits
  | reporting verdict failed ends => simp at waits
  | sleeping ends => simp at waits

/-! ## Turns of one runner -/

def actor? (lane : Lane) : Event → Option Runner
  | .begins runner | .expires runner | .reportEnds runner => some runner
  | .checkEnds call =>
    if (lane.running.find? (·.call = call)).any (loses ·.outcome) then none else lane.awaiting? call

/-- Other runners than the one that acts stay as they are, and none comes. -/
structure Keeps (actor : Option Runner) (lane after : Lane) : Prop where
  probe : after.probe = lane.probe
  script : after.script = lane.script
  keys : (after.runners.map (·.1)).Sublist (lane.runners.map (·.1))
  others : ∀ other, actor ≠ some other → after.phase? other = lane.phase? other

structure OnlyMoves (runner : Runner) (lane after : Lane) : Prop
    extends Keeps (some runner) lane after where
  running : after.running = lane.running
  calls : after.calls = lane.calls
  lost : after.lost = lane.lost

theorem phase?_isSome_iff :
    (lane.phase? runner).isSome ↔ runner ∈ lane.runners.map (·.1) := by
  rw [phase?, List.lookup_isSome_iff, List.mem_map]
  simp only [beq_iff_eq]
  exact ⟨fun ⟨entry, member, same⟩ => ⟨entry, member, same.symm⟩,
    fun ⟨entry, member, same⟩ => ⟨entry, member, same.symm⟩⟩

theorem Keeps.present {actor : Option Runner} {after : Lane} (keeps : Keeps actor lane after)
    (waits : (after.phase? runner).isSome) : (lane.phase? runner).isSome := by
  rw [phase?_isSome_iff] at *
  exact keeps.keys.subset waits

theorem keeps_refl (actor : Option Runner) (lane : Lane) : Keeps actor lane lane :=
  ⟨rfl, rfl, List.Sublist.refl _, fun _ _ => rfl⟩

theorem onlyMoves_setPhase (lane : Lane) (runner : Runner) (phase : Phase) :
    OnlyMoves runner lane (lane.setPhase runner phase) where
  probe := rfl
  script := rfl
  running := rfl
  calls := rfl
  lost := rfl
  keys := by
    have same : (lane.setPhase runner phase).runners.map (·.1) = lane.runners.map (·.1) := by
      rw [setPhase, List.map_map]
      apply List.map_congr_left
      rintro ⟨name, old⟩ -
      by_cases changed : name = runner <;> simp [changed]
    exact same ▸ List.Sublist.refl _
  others other different := by
    rw [phase?_setPhase, if_neg]
    rintro rfl
    exact different rfl

theorem onlyMoves_remove (lane : Lane) (runner : Runner) :
    OnlyMoves runner lane (lane.remove runner) where
  probe := rfl
  script := rfl
  running := rfl
  calls := rfl
  lost := rfl
  keys := List.Sublist.map _ List.filter_sublist
  others other different := by
    rw [phase?_remove, if_neg]
    rintro rfl
    exact different rfl

theorem onlyMoves_rest (lane : Lane) (now : Rat) (runner : Runner) :
    OnlyMoves runner lane (lane.rest now runner) := by
  cases runner with
  | loop => exact onlyMoves_setPhase lane .loop _
  | trigger ticket => exact onlyMoves_remove lane _

theorem abort_eq_of_cancels {failure : Failure} (cancels : failure.isCancellation = true)
    (lane : Lane) (now : Rat) (runner : Runner) :
    lane.abort now runner failure = (lane.remove runner, [.ended runner (.error failure)]) :=
  if_pos cancels

theorem fst_abort_eq {failure : Failure} (stays : failure.isCancellation = false) (lane : Lane)
    (now : Rat) (runner : Runner) : (lane.abort now runner failure).1 = lane.rest now runner := by
  rw [abort.eq_def, if_neg (by simp [stays])]

theorem onlyMoves_abort (lane : Lane) (now : Rat) (runner : Runner) (failure : Failure) :
    OnlyMoves runner lane (lane.abort now runner failure).1 := by
  cases cancels : failure.isCancellation with
  | true =>
      rw [abort_eq_of_cancels cancels]
      exact onlyMoves_remove lane runner
  | false =>
      rw [fst_abort_eq cancels]
      exact onlyMoves_rest lane now runner

theorem onlyMoves_report (lane : Lane) (closed : Bool) (now : Rat) (runner : Runner)
    (verdict : Verdict) : OnlyMoves runner lane (lane.report closed now runner verdict).1 := by
  cases closed with
  | true => exact onlyMoves_rest lane now runner
  | false =>
      obtain ⟨⟨probe, script, keys, others⟩, running, calls, lost⟩ :=
        onlyMoves_setPhase { lane with reports := lane.reports + 1 } runner _
      exact ⟨⟨probe, script, keys, others⟩, running, calls, lost⟩

theorem onlyMoves_conclude (lane : Lane) (closed : Bool) (now : Rat) (runner : Runner)
    (outcome : Except Failure Verdict) :
    OnlyMoves runner lane (lane.conclude closed now runner outcome).1 := by
  rw [conclude]
  split
  next verdict concluded => exact onlyMoves_report lane closed now runner verdict
  next failure concluded => exact onlyMoves_abort lane now runner failure

theorem phase?_rest {now : Rat} (rests : (lane.rest now runner).phase? runner = some phase) :
    ∃ ends, phase = .sleeping ends := by
  cases runner with
  | loop =>
      rw [rest, phase?_setPhase, if_pos rfl, Option.map_eq_some_iff] at rests
      obtain ⟨-, -, rfl⟩ := rests
      exact ⟨_, rfl⟩
  | trigger ticket =>
      rw [rest, phase?_remove, if_pos rfl] at rests
      cases rests

theorem phase?_abort {now : Rat} {failure : Failure}
    (rests : (lane.abort now runner failure).1.phase? runner = some phase) :
    ∃ ends, phase = .sleeping ends := by
  cases cancels : failure.isCancellation with
  | true =>
      rw [abort_eq_of_cancels cancels, phase?_remove, if_pos rfl] at rests
      cases rests
  | false =>
      rw [fst_abort_eq cancels] at rests
      exact phase?_rest rests

def Heeds (script : Script) (fault : Option Failure) (ends : Option Rat) : Prop :=
  (∀ failure ∈ fault, ∃ handed time, script.reportFault handed time = some failure) ∧
    (ends = none → ∃ failure ∈ fault, failure.isLost = true)

theorem heeds_reportFault (script : Script) (handed : Nat) (time ends : Rat) :
    Heeds script (script.reportFault handed time)
      (if (script.reportFault handed time).any (·.isLost) then none else some ends) := by
  refine ⟨fun failure raised => ⟨handed, time, raised⟩, fun untold => ?_⟩
  split at untold
  next lost =>
      obtain ⟨raised, lost⟩ := (Option.any_eq_true_iff_get _ _).1 lost
      exact ⟨_, Option.get_mem raised, lost⟩
  next => cases untold

theorem phase?_report {closed : Bool} {now : Rat} {verdict : Verdict}
    (waits : (lane.report closed now runner verdict).1.phase? runner = some phase) :
    (∃ fault ends, closed = false ∧ phase = .reporting verdict fault ends ∧
      Heeds lane.script fault ends) ∨ ∃ ends, phase = .sleeping ends := by
  cases closed with
  | true => exact .inr (phase?_rest waits)
  | false =>
      simp only [report, Bool.false_eq_true, if_false, phase?_setPhase, if_pos,
        Option.map_eq_some_iff] at waits
      obtain ⟨-, -, rfl⟩ := waits
      exact .inl ⟨_, _, rfl, rfl, heeds_reportFault ..⟩

/-! ## Events -/

def OnlyLogs (effects : List Effect) : Prop := ∀ effect ∈ effects, ∃ entry, effect = .log entry

theorem onlyLogs_lateLogs (outcome : Except Failure Verdict) : OnlyLogs (lateLogs outcome) := by
  cases outcome <;> simp [OnlyLogs, lateLogs]

theorem abort_effects (lane : Lane) (now : Rat) (runner : Runner) (failure : Failure) :
    ∃ logs, (lane.abort now runner failure).2 = .ended runner (.error failure) :: logs ∧
      OnlyLogs logs := by
  cases cancels : failure.isCancellation with
  | true =>
      rw [abort_eq_of_cancels cancels]
      exact ⟨[], rfl, by simp [OnlyLogs]⟩
  | false =>
      rw [abort.eq_def, if_neg (by simp [cancels])]
      cases runner <;> exact ⟨_, rfl, by simp [OnlyLogs]⟩

def Rests (lane : Lane) (runner : Runner) : Prop :=
  ∃ phase, lane.phase? runner = some phase ∧ phase.IsIdle = true

def Works (lane : Lane) (runner : Runner) : Prop :=
  ∃ phase, lane.phase? runner = some phase ∧ phase.IsIdle = false

theorem Rests.present (rests : lane.Rests runner) : (lane.phase? runner).isSome := by
  obtain ⟨phase, waits, -⟩ := rests
  rw [waits]
  rfl

theorem Works.present (works : lane.Works runner) : (lane.phase? runner).isSome := by
  obtain ⟨phase, waits, -⟩ := works
  rw [waits]
  rfl

theorem works_setPhase (present : (lane.phase? runner).isSome) (under : phase.IsIdle = false) :
    (lane.setPhase runner phase).Works runner := by
  obtain ⟨old, waits⟩ := Option.isSome_iff_exists.1 present
  refine ⟨phase, ?_, under⟩
  rw [phase?_setPhase, if_pos rfl, waits]
  rfl

theorem works_report (present : (lane.phase? runner).isSome) {now : Rat} {verdict : Verdict} :
    (lane.report false now runner verdict).1.Works runner := by
  have present' : (Lane.phase? { lane with reports := lane.reports + 1 } runner).isSome := present
  exact works_setPhase present' rfl

/-- What an event leads to. Reports, failures and ends of iterations are as the lane's own. -/
inductive Fires (lane : Lane) (closed : Bool) (now : Rat) : Event → Lane × List Effect → Prop
  | nothing (event : Event) : Fires lane closed now event (lane, [])
  | busy {runner : Runner} {result : Lane × List Effect} (rests : lane.Rests runner)
    (busy : lane.isBusy = true) (reports : lane.report closed now runner stillRunning = result) :
    Fires lane closed now (.begins runner) (result.1, .began runner :: result.2)
  | refused {runner : Runner} {result : Lane × List Effect} (rests : lane.Rests runner)
    (idle : lane.isBusy = false) (stopped : closed = true)
    (aborts : lane.abort now runner poolsClosed = result) :
    Fires lane closed now (.begins runner) (result.1, .began runner :: result.2)
  | started {runner : Runner} {deadline : Option Rat} (rests : lane.Rests runner)
    (idle : lane.isBusy = false) (opened : closed = false)
    (bounded : deadline = none → lane.probe.timeout = none) :
    Fires lane closed now (.begins runner)
      ((lane.startCheck now).setPhase runner (.checking lane.calls deadline),
        [.began runner, .checkStarted lane.calls])
  | unwaited {runner : Runner} {seconds : Rat} {result : Lane × List Effect}
    (rests : lane.Rests runner) (idle : lane.isBusy = false) (opened : closed = false)
    (timeout : lane.probe.timeout = some seconds)
    (reports : (lane.startCheck now).report closed now runner (timedOut seconds) = result)
    (elapsed : seconds ≤ 0) :
    Fires lane closed now (.begins runner)
      (result.1, .began runner :: .checkStarted lane.calls :: result.2)
  | lost {check : RunningCheck} (runs : check ∈ lane.running) (lost : loses check.outcome = true)
    (unheard : lane.actor? (.checkEnds check.call) = none) :
    Fires lane closed now (.checkEnds check.call)
      ({ lane.drop check.call with lost := true }, [.checkEnded check.call check.outcome])
  | late {check : RunningCheck} {logs : List Effect} (runs : check ∈ lane.running)
    (unheard : lane.actor? (.checkEnds check.call) = none)
    (unawaited : lane.awaiting? check.call = none) (logged : OnlyLogs logs)
    (told : loses check.outcome = false) :
    Fires lane closed now (.checkEnds check.call)
      (lane.drop check.call, .checkEnded check.call check.outcome :: logs)
  | returned {check : RunningCheck} {logs : List Effect} {runner : Runner}
    {result : Lane × List Effect} (runs : check ∈ lane.running)
    (heard : lane.actor? (.checkEnds check.call) = some runner)
    (awaited : lane.awaiting? check.call = some runner) (logged : OnlyLogs logs)
    (concludes : (lane.drop check.call).conclude closed now runner check.outcome = result)
    (told : loses check.outcome = false) :
    Fires lane closed now (.checkEnds check.call)
      (result.1, .checkEnded check.call check.outcome :: logs ++ result.2)
  | expired {runner : Runner} {call : Nat} {deadline seconds : Rat}
    {result : Lane × List Effect}
    (waits : lane.phase? runner = some (.checking call (some deadline)))
    (timeout : lane.probe.timeout = some seconds)
    (reports : lane.report closed now runner (timedOut seconds) = result) :
    Fires lane closed now (.expires runner) result
  | reported {runner : Runner} {verdict : Verdict} {fault : Option Failure} {ends : Rat}
    {logs : List Effect}
    (waits : lane.phase? runner = some (.reporting verdict fault (some ends)))
    (logged : OnlyLogs logs) :
    Fires lane closed now (.reportEnds runner)
      (lane.rest now runner, logs ++ [.ended runner (.ok verdict)])
  | withdrawn {runner : Runner} {verdict : Verdict} {failure : Failure} {ends : Rat}
    (waits : lane.phase? runner = some (.reporting verdict (some failure) (some ends)))
    (cancels : failure.isCancellation = true) :
    Fires lane closed now (.reportEnds runner)
      (lane.remove runner, [.ended runner (.error failure)])

variable (lane : Lane) (closed : Bool) (now : Rat)

theorem begin_fires {runner : Runner} (rests : lane.Rests runner) :
    Fires lane closed now (.begins runner) (lane.begin closed now runner) := by
  rw [begin]
  cases busy : lane.isBusy with
  | true => exact .busy rests busy rfl
  | false =>
      cases closed with
      | true => exact .refused rests busy rfl rfl
      | false =>
          simp only [Bool.false_eq_true, if_false]
          cases timeout : lane.probe.timeout with
          | none =>
              have same : (lane.startCheck now).probe.timeout = none := timeout
              rw [same]
              exact .started rests busy rfl fun _ => timeout
          | some seconds =>
              have same : (lane.startCheck now).probe.timeout = some seconds := timeout
              rw [same]
              simp only
              split
              next elapsed => exact .unwaited rests busy rfl timeout rfl elapsed
              next => exact .started rests busy rfl nofun

theorem endCheck_fires (call : Nat) :
    Fires lane closed now (.checkEnds call) (lane.endCheck closed now call) := by
  rw [endCheck]
  cases found : lane.running.find? (·.call = call) with
  | none => exact .nothing _
  | some check =>
      have runs := List.mem_of_find?_eq_some found
      obtain rfl : check.call = call := by simpa using List.find?_some found
      have heard : lane.actor? (.checkEnds check.call) =
          if loses check.outcome then none else lane.awaiting? check.call := by
        rw [actor?, found]
        rfl
      cases lost : loses check.outcome with
      | true =>
          rw [lost] at heard
          simp only [lost, if_true]
          exact .lost runs lost heard
      | false =>
          simp only [lost, Bool.false_eq_true, if_false] at heard ⊢
          have logged := onlyLogs_lateLogs check.outcome
          cases awaits : lane.awaiting? check.call with
          | none =>
              have same : (lane.drop check.call).awaiting? check.call = none := awaits
              simp only [passOn, same, List.append_nil]
              exact .late runs (heard.trans awaits) awaits logged lost
          | some runner =>
              have same : (lane.drop check.call).awaiting? check.call = some runner := awaits
              simp only [passOn, same]
              exact .returned runs (heard.trans awaits) awaits logged rfl lost

theorem endReport_fires {runner : Runner} {verdict : Verdict} {fault : Option Failure} {ends : Rat}
    (waits : lane.phase? runner = some (.reporting verdict fault (some ends))) :
    Fires lane closed now (.reportEnds runner) (lane.endReport now runner verdict fault) := by
  cases fault with
  | none =>
      have logged : OnlyLogs [] := by simp [OnlyLogs]
      exact .reported waits logged
  | some failure =>
      rw [endReport]
      split
      next cancels =>
          rw [abort_eq_of_cancels cancels]
          exact .withdrawn waits cancels
      next =>
          have logged : OnlyLogs [.log (lane.rest now runner).probe.reportFailureLog] := by
            simp [OnlyLogs]
          exact .reported waits logged

theorem fire_fires (event : Event) :
    Fires lane closed now event (lane.fire closed now event) := by
  cases event with
  | begins runner =>
      rw [fire]
      split
      next since waits => exact begin_fires lane closed now ⟨_, waits, rfl⟩
      next ends waits => exact begin_fires lane closed now ⟨_, waits, rfl⟩
      next => exact .nothing _
  | checkEnds call => exact endCheck_fires lane closed now call
  | expires runner =>
      rw [fire]
      split
      next call deadline seconds waits timeout => exact .expired waits timeout rfl
      next => exact .nothing _
  | reportEnds runner =>
      rw [fire]
      split
      next verdict fault ends waits => exact endReport_fires lane closed now waits
      next => exact .nothing _

theorem Fires.keeps {lane : Lane} {closed : Bool} {now : Rat} {event : Event}
    {result : Lane × List Effect} (fires : Fires lane closed now event result) :
    Keeps (lane.actor? event) lane result.1 := by
  -- what a check in flight adds or leaves is no matter of runners
  have onward {runner : Runner} {base after : Lane} (moves : OnlyMoves runner base after)
      (same : base = { lane with running := base.running, calls := base.calls }) :
      Keeps (some runner) lane after := by
    rw [same] at moves
    exact ⟨moves.probe, moves.script, moves.keys, moves.others⟩
  cases fires with
  | nothing => exact keeps_refl _ lane
  | busy rests busy reports =>
      subst reports
      exact onward (onlyMoves_report lane closed now _ _) rfl
  | refused rests idle stopped aborts =>
      subst aborts
      exact onward (onlyMoves_abort lane now _ _) rfl
  | started rests idle opened bounded => exact onward (onlyMoves_setPhase _ _ _) rfl
  | unwaited rests idle opened timeout reports =>
      subst reports
      exact onward (onlyMoves_report _ closed now _ _) rfl
  | lost runs lost unheard => exact ⟨rfl, rfl, List.Sublist.refl _, fun _ _ => rfl⟩
  | late runs unheard unawaited logged => exact ⟨rfl, rfl, List.Sublist.refl _, fun _ _ => rfl⟩
  | returned runs heard awaited logged concludes =>
      subst concludes
      rw [heard]
      exact onward (onlyMoves_conclude _ closed now _ _) rfl
  | expired waits timeout reports =>
      subst reports
      exact onward (onlyMoves_report lane closed now _ _) rfl
  | reported waits logged => exact onward (onlyMoves_rest lane now _) rfl
  | withdrawn waits cancels => exact onward (onlyMoves_remove lane _) rfl

/-! ## What every lane keeps -/

def Fits (lane : Lane) : Phase → Prop
  | .checking _ none => lane.probe.timeout = none
  | .reporting _ fault ends => Heeds lane.script fault ends
  | _ => True

structure IsSound (lane : Lane) : Prop where
  keys : (lane.runners.map (·.1)).Nodup
  alone : lane.running.length ≤ 1
  last : ∀ check ∈ lane.running, check.call + 1 = lane.calls
  scripted : ∀ check ∈ lane.running, (lane.script.check check.call).outcome = check.outcome
  lost : lane.lost = true → lane.script.CheckRaises Failure.isLost
  still : lane.lost = true → lane.running = []
  fits : ∀ runner phase, lane.phase? runner = some phase → lane.Fits phase

variable {lane closed now}

theorem IsSound.isBusy_eq_false_iff (sound : lane.IsSound) :
    lane.isBusy = false ↔ lane.lost = false ∧ lane.running = [] := by
  rw [isBusy, Bool.or_eq_false_iff, List.any_eq_false]
  refine and_congr_right fun _ => ⟨fun idle => ?_, fun none => by simp [none]⟩
  apply List.eq_nil_iff_forall_not_mem.2
  intro check runs
  exact idle check runs (by simpa using sound.last check runs)

theorem IsSound.idle (sound : lane.IsSound) (idle : lane.isBusy = false) : lane.running = [] :=
  (sound.isBusy_eq_false_iff.1 idle).2

/-- A probe is busy with a check that runs, or with one whose outcome is lost. -/
theorem IsSound.isBusy_iff (sound : lane.IsSound) :
    lane.isBusy = true ↔ lane.lost = true ∨ lane.running ≠ [] := by
  rw [← Bool.not_eq_false, sound.isBusy_eq_false_iff, not_and_or, Bool.not_eq_false]

theorem IsSound.turn {after : Lane} (sound : lane.IsSound) (moves : OnlyMoves runner lane after)
    (fits : ∀ phase, after.phase? runner = some phase → lane.Fits phase) : after.IsSound where
  keys := sound.keys.sublist moves.keys
  alone := by
    rw [moves.running]
    exact sound.alone
  last := by
    rw [moves.running, moves.calls]
    exact sound.last
  scripted := by
    rw [moves.running, moves.script]
    exact sound.scripted
  lost := by
    rw [moves.lost, moves.script]
    exact sound.lost
  still := by
    rw [moves.lost, moves.running]
    exact sound.still
  fits := by
    intro other phase waits
    have fits' : lane.Fits phase := by
      by_cases same : other = runner
      · subst same
        exact fits phase waits
      · rw [moves.others other (by simp [Ne.symm same])] at waits
        exact sound.fits other phase waits
    rw [Fits.eq_def, moves.probe, moves.script]
    exact fits'

theorem IsSound.rest (sound : lane.IsSound) (now : Rat) (runner : Runner) :
    (lane.rest now runner).IsSound := by
  apply sound.turn (onlyMoves_rest lane now runner)
  intro phase waits
  obtain ⟨ends, rfl⟩ := phase?_rest waits
  trivial

theorem IsSound.remove (sound : lane.IsSound) (runner : Runner) :
    (lane.remove runner).IsSound := by
  apply sound.turn (onlyMoves_remove lane runner)
  intro phase waits
  rw [phase?_remove, if_pos rfl] at waits
  cases waits

theorem IsSound.abort (sound : lane.IsSound) (now : Rat) (runner : Runner) (failure : Failure) :
    (lane.abort now runner failure).1.IsSound := by
  apply sound.turn (onlyMoves_abort lane now runner failure)
  intro phase waits
  obtain ⟨ends, rfl⟩ := phase?_abort waits
  trivial

theorem IsSound.report (sound : lane.IsSound) (closed : Bool) (now : Rat) (runner : Runner)
    (verdict : Verdict) : (lane.report closed now runner verdict).1.IsSound := by
  apply sound.turn (onlyMoves_report lane closed now runner verdict)
  intro phase waits
  rcases phase?_report waits with ⟨fault, ends, -, rfl, heeds⟩ | ⟨ends, rfl⟩
  · exact heeds
  · trivial

theorem IsSound.conclude (sound : lane.IsSound) (closed : Bool) (now : Rat) (runner : Runner)
    (outcome : Except Failure Verdict) :
    (lane.conclude closed now runner outcome).1.IsSound := by
  rw [Lane.conclude]
  split
  next => exact sound.report closed now runner _
  next => exact sound.abort now runner _

theorem IsSound.startCheck (sound : lane.IsSound) (idle : lane.isBusy = false) (now : Rat) :
    (lane.startCheck now).IsSound where
  keys := sound.keys
  alone := by
    rw [Lane.startCheck, sound.idle idle]
    exact Nat.le_refl 1
  last := by
    rw [Lane.startCheck, sound.idle idle]
    simp
  scripted := by
    rw [Lane.startCheck, sound.idle idle]
    simp
  lost := sound.lost
  still lost := by
    cases lost.symm.trans (sound.isBusy_eq_false_iff.1 idle).1
  fits := sound.fits

theorem IsSound.drop (sound : lane.IsSound) (call : Nat) : (lane.drop call).IsSound where
  keys := sound.keys
  alone := Nat.le_trans (List.length_filter_le _ _) sound.alone
  last check runs := sound.last check (List.mem_filter.1 runs).1
  scripted check runs := sound.scripted check (List.mem_filter.1 runs).1
  lost := sound.lost
  still lost := by
    rw [Lane.drop, sound.still lost]
    rfl
  fits := sound.fits

theorem IsSound.running_drop (sound : lane.IsSound) {check : RunningCheck}
    (runs : check ∈ lane.running) :
    lane.running = [check] ∧ (lane.drop check.call).running = [] := by
  have alone : lane.running = [check] := by
    have short := sound.alone
    match found : lane.running with
    | [] => simp [found] at runs
    | [only] => simpa [found, eq_comm] using runs
    | _ :: _ :: _ => simp [found] at short
  refine ⟨alone, ?_⟩
  rw [Lane.drop, alone]
  simp

theorem IsSound.lose {check : RunningCheck} (sound : lane.IsSound) (runs : check ∈ lane.running)
    (lost : loses check.outcome = true) :
    ({ lane.drop check.call with lost := true } : Lane).IsSound where
  keys := sound.keys
  alone := (sound.drop check.call).alone
  last := (sound.drop check.call).last
  scripted := (sound.drop check.call).scripted
  still _ := (sound.running_drop runs).2
  lost _ := by
    have scripted := sound.scripted check runs
    unfold loses at lost
    split at lost
    next => cases lost
    next failure raised => exact ⟨check.call, failure, scripted.trans raised, lost⟩
  fits := sound.fits

theorem IsSound.fires {event : Event} {result : Lane × List Effect} (sound : lane.IsSound)
    (fires : Fires lane closed now event result) : result.1.IsSound := by
  cases fires with
  | nothing => exact sound
  | busy rests busy reports =>
      subst reports
      exact sound.report closed now _ stillRunning
  | refused rests idle stopped aborts =>
      subst aborts
      exact sound.abort now _ _
  | @started runner deadline rests idle opened bounded =>
      apply (sound.startCheck idle now).turn (onlyMoves_setPhase _ _ _)
      intro phase waits
      rw [phase?_setPhase, if_pos rfl, Option.map_eq_some_iff] at waits
      obtain ⟨-, -, rfl⟩ := waits
      cases deadline with
      | none => exact bounded rfl
      | some ends => trivial
  | unwaited rests idle opened timeout reports =>
      subst reports
      exact (sound.startCheck idle now).report closed now _ _
  | lost runs lost unheard => exact sound.lose runs lost
  | late runs unheard unawaited logged => exact sound.drop _
  | returned runs heard awaited logged concludes =>
      subst concludes
      exact (sound.drop _).conclude closed now _ _
  | expired waits timeout reports =>
      subst reports
      exact sound.report closed now _ _
  | reported waits logged => exact sound.rest now _
  | withdrawn waits cancels => exact sound.remove _

theorem IsSound.bounded {call : Nat} (sound : lane.IsSound)
    (waits : lane.phase? runner = some (.checking call none)) : lane.probe.timeout = none :=
  sound.fits runner _ waits

theorem IsSound.heeds {verdict : Verdict} {fault : Option Failure} {ends : Option Rat}
    (sound : lane.IsSound) (waits : lane.phase? runner = some (.reporting verdict fault ends)) :
    Heeds lane.script fault ends :=
  sound.fits runner _ waits

theorem Fires.keeps_lost {event : Event} {result : Lane × List Effect}
    (fires : Fires lane closed now event result) (lost : lane.lost = true) :
    result.1.lost = true := by
  cases fires with
  | nothing => exact lost
  | busy rests busy reports =>
      subst reports
      exact (onlyMoves_report ..).lost.trans lost
  | refused rests idle stopped aborts =>
      subst aborts
      exact (onlyMoves_abort ..).lost.trans lost
  | started rests idle opened bounded => exact lost
  | unwaited rests idle opened timeout reports =>
      subst reports
      exact (onlyMoves_report ..).lost.trans lost
  | lost runs lost unheard => rfl
  | late runs unheard unawaited logged => exact lost
  | returned runs heard awaited logged concludes =>
      subst concludes
      exact (onlyMoves_conclude ..).lost.trans lost
  | expired waits timeout reports =>
      subst reports
      exact (onlyMoves_report ..).lost.trans lost
  | reported waits logged => exact (onlyMoves_rest ..).lost.trans lost
  | withdrawn waits cancels => exact lost

/-! ## Loops that go on -/

theorem loop_setPhase (lane : Lane) (runner : Runner) (phase : Phase) :
    ((lane.setPhase runner phase).phase? .loop).isSome = (lane.phase? .loop).isSome := by
  rw [phase?_setPhase]
  split
  next same =>
      subst same
      rw [Option.isSome_map]
  next => rfl

theorem loop_rest (lane : Lane) (now : Rat) (runner : Runner) :
    ((lane.rest now runner).phase? .loop).isSome = (lane.phase? .loop).isSome := by
  cases runner with
  | loop => exact loop_setPhase lane .loop _
  | trigger ticket => rw [rest, phase?_remove, if_neg (by simp)]

theorem loop_abort {failure : Failure} (stays : failure.isCancellation = false) (lane : Lane)
    (now : Rat) (runner : Runner) :
    ((lane.abort now runner failure).1.phase? .loop).isSome = (lane.phase? .loop).isSome := by
  rw [fst_abort_eq stays]
  exact loop_rest lane now runner

theorem loop_report (lane : Lane) (closed : Bool) (now : Rat) (runner : Runner)
    (verdict : Verdict) : ((lane.report closed now runner verdict).1.phase? .loop).isSome =
      (lane.phase? .loop).isSome := by
  cases closed with
  | true => exact loop_rest lane now runner
  | false => exact loop_setPhase { lane with reports := lane.reports + 1 } runner _

theorem loop_conclude (lane : Lane) (closed : Bool) (now : Rat) (runner : Runner)
    (outcome : Except Failure Verdict) :
    ((lane.conclude closed now runner outcome).1.phase? .loop).isSome =
        (lane.phase? .loop).isSome ∨
      ∃ failure, outcome = .error failure ∧ failure.isCancellation = true := by
  rw [conclude]
  split
  next => exact .inl (loop_report lane closed now runner _)
  next failure escapes =>
      rcases Probe.conclude_eq_error escapes with ⟨raised, cancels⟩ | ⟨stays, -⟩
      · exact .inr ⟨failure, raised, cancels⟩
      · exact .inl (loop_abort stays lane now runner)

/-- A loop ends only by a cancellation that its check or a report of its raises. -/
theorem Fires.loop {event : Event} {result : Lane × List Effect}
    (fires : Fires lane closed now event result) (sound : lane.IsSound) :
    (result.1.phase? .loop).isSome = (lane.phase? .loop).isSome ∨ lane.script.Cancels := by
  cases fires with
  | nothing => exact .inl rfl
  | busy rests busy reports =>
      subst reports
      exact .inl (loop_report lane closed now _ _)
  | refused rests idle stopped aborts =>
      subst aborts
      exact .inl (loop_abort rfl lane now _)
  | started rests idle opened bounded => exact .inl (loop_setPhase (lane.startCheck now) _ _)
  | unwaited rests idle opened timeout reports =>
      subst reports
      exact .inl (loop_report (lane.startCheck now) closed now _ _)
  | lost runs lost unheard => exact .inl rfl
  | late runs unheard unawaited logged => exact .inl rfl
  | @returned check logs runner result runs heard awaited logged concludes =>
      subst concludes
      rcases loop_conclude (lane.drop check.call) closed now runner check.outcome with
        same | ⟨failure, raised, cancels⟩
      · exact .inl same
      · exact .inr (.inl ⟨check.call, failure, (sound.scripted check runs).trans raised, cancels⟩)
  | expired waits timeout reports =>
      subst reports
      exact .inl (loop_report lane closed now _ _)
  | reported waits logged => exact .inl (loop_rest lane now _)
  | @withdrawn runner verdict failure ends waits cancels =>
      obtain ⟨handed, time, raised⟩ := (sound.heeds waits).1 failure rfl
      exact .inr (.inr ⟨handed, time, failure, raised, cancels⟩)

theorem IsSound.queue (sound : lane.IsSound) (absent : lane.phase? runner = none) (since : Rat) :
    (lane.add runner (.queued since)).IsSound where
  keys := by
    rw [add, List.map_append, List.map_singleton, List.nodup_append]
    refine ⟨sound.keys, by simp, ?_⟩
    rintro name listed _ added rfl
    rw [List.mem_singleton.1 added] at listed
    obtain ⟨⟨_, phase⟩, member, rfl⟩ := List.mem_map.1 listed
    rw [phase?_of_mem sound.keys member] at absent
    cases absent
  alone := sound.alone
  last := sound.last
  scripted := sound.scripted
  lost := sound.lost
  still := sound.still
  fits := by
    intro other phase waits
    rw [phase?_add lane runner other _ absent] at waits
    split at waits
    next =>
        cases waits
        trivial
    next => exact sound.fits other phase waits

structure IsFresh (lane : Lane) : Prop where
  running : lane.running = []
  runners : lane.runners = []
  unlost : lane.lost = false

theorem IsFresh.phase? (fresh : lane.IsFresh) (runner : Runner) : lane.phase? runner = none := by
  rw [Lane.phase?, fresh.runners, List.lookup_nil]

theorem IsFresh.isSound (fresh : lane.IsFresh) : lane.IsSound where
  keys := by simp [fresh.runners]
  alone := by simp [fresh.running]
  last := by simp [fresh.running]
  scripted := by simp [fresh.running]
  lost := by simp [fresh.unlost]
  still _ := fresh.running
  fits := by simp [fresh.phase?]

end Lane

end Liveness.Scheduler
