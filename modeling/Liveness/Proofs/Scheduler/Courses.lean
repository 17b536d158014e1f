import Liveness.Proofs.Scheduler.Progress

/-!
Courses: the turns of one iteration, from the turn in which it begins to the one in which it ends.
What a turn can do to an iteration depends on how far the iteration has come (`Opening`, `Passage`),
so that the turns of a whole iteration are of few forms (`Course`), in every run (`Follows.run`).
-/

namespace Liveness.Scheduler

/-! ## Who waits for a check -/

namespace Lane

variable {lane after : Lane} {closed : Bool} {now : Rat} {event : Event} {runner : Runner}
  {call : Nat}

def WaitsFor (lane : Lane) (runner : Runner) (call : Nat) : Prop :=
  ∃ deadline, lane.phase? runner = some (.checking call deadline)

/-- A check that is waited for runs, unless its outcome is lost, and nobody waits beside the one who
waits for it. -/
def Attends (lane : Lane) : Prop :=
  ∀ runner call, lane.WaitsFor runner call →
    ((∃ check ∈ lane.running, check.call = call) ∨ lane.lost = true) ∧
    ∀ other call', lane.WaitsFor other call' → other = runner

theorem attends_of_nobody (nobody : ∀ runner call, ¬ lane.WaitsFor runner call) : lane.Attends :=
  fun runner call waits => absurd waits (nobody runner call)

theorem Attends.nobody (attends : lane.Attends) (sound : lane.IsSound) (idle : lane.isBusy = false)
    (runner : Runner) (call : Nat) : ¬ lane.WaitsFor runner call := by
  intro waits
  obtain ⟨found, none⟩ := sound.isBusy_eq_false_iff.1 idle
  rcases (attends runner call waits).1 with ⟨check, runs, -⟩ | lost
  · rw [none] at runs
    cases runs
  · rw [found] at lost
    cases lost

theorem WaitsFor.of_onlyMoves {other : Runner} (moves : OnlyMoves runner lane after)
    (waits : after.WaitsFor other call) (leaves : ¬ after.WaitsFor runner call) :
    lane.WaitsFor other call := by
  by_cases same : other = runner
  · exact absurd (same ▸ waits) leaves
  · obtain ⟨deadline, waits⟩ := waits
    rw [moves.others other (by simp [Ne.symm same])] at waits
    exact ⟨deadline, waits⟩

theorem Attends.of_onlyMoves (attends : lane.Attends) (moves : OnlyMoves runner lane after)
    (leaves : ∀ call, ¬ after.WaitsFor runner call) : after.Attends := by
  intro other call waits
  obtain ⟨runs, alone⟩ := attends other call (waits.of_onlyMoves moves (leaves call))
  rw [moves.running, moves.lost]
  exact ⟨runs, fun another call' waits' => alone another call'
    (waits'.of_onlyMoves moves (leaves call'))⟩

theorem not_waitsFor_rest : ¬ (lane.rest now runner).WaitsFor runner call := by
  rintro ⟨deadline, waits⟩
  obtain ⟨ends, found⟩ := phase?_rest waits
  cases found

theorem not_waitsFor_report {verdict : Verdict} :
    ¬ (lane.report closed now runner verdict).1.WaitsFor runner call := by
  rintro ⟨deadline, waits⟩
  rcases phase?_report waits with ⟨fault, ends, -, found, -⟩ | ⟨ends, found⟩ <;> cases found

theorem not_waitsFor_abort {failure : Failure} :
    ¬ (lane.abort now runner failure).1.WaitsFor runner call := by
  rintro ⟨deadline, waits⟩
  obtain ⟨ends, found⟩ := phase?_abort waits
  cases found

theorem not_waitsFor_conclude {outcome : Except Failure Verdict} :
    ¬ (lane.conclude closed now runner outcome).1.WaitsFor runner call := by
  rw [conclude]
  split
  next => exact not_waitsFor_report
  next => exact not_waitsFor_abort

theorem awaiting?_of_waitsFor (waits : lane.WaitsFor runner call) :
    (lane.awaiting? call).isSome := by
  obtain ⟨deadline, waits⟩ := waits
  rw [awaiting?, List.findSome?_isSome_iff]
  exact ⟨_, mem_of_phase? waits, by simp⟩

theorem Attends.fires {result : Lane × List Effect} (attends : lane.Attends) (sound : lane.IsSound)
    (fires : Fires lane closed now event result) : result.1.Attends := by
  cases fires with
  | nothing => exact attends
  | busy rests busy reports =>
      subst reports
      exact attends.of_onlyMoves (onlyMoves_report ..) fun _ => not_waitsFor_report
  | refused rests idle stopped aborts =>
      subst aborts
      exact attends.of_onlyMoves (onlyMoves_abort ..) fun _ => not_waitsFor_abort
  | @started actor deadline rests idle opened bounded =>
      have nobody := attends.nobody sound idle
      have moves := onlyMoves_setPhase (lane.startCheck now) actor (.checking lane.calls deadline)
      -- whoever waits now is the one who has just begun to
      have only {other : Runner} {call : Nat}
          (waits : ((lane.startCheck now).setPhase actor (.checking lane.calls deadline)).WaitsFor
            other call) : other = actor ∧ call = lane.calls := by
        obtain ⟨deadline', waits⟩ := waits
        rw [phase?_setPhase] at waits
        split at waits
        next same =>
            obtain ⟨-, -, found⟩ := Option.map_eq_some_iff.1 waits
            exact ⟨same, (Phase.checking.inj found).1.symm⟩
        next => exact absurd ⟨deadline', waits⟩ (nobody other call)
      intro other call waits
      obtain ⟨rfl, rfl⟩ := only waits
      refine ⟨?_, fun another call' waits' => (only waits').1⟩
      rw [moves.running, startCheck]
      exact .inl ⟨_, List.mem_append_right _ (List.mem_singleton_self _), rfl⟩
  | @unwaited actor seconds result rests idle opened timeout reports =>
      subst reports
      have nobody := attends.nobody sound idle
      apply attends_of_nobody
      intro other call waits
      have moves := onlyMoves_report (lane.startCheck now) closed now actor (timedOut seconds)
      have waited : (lane.startCheck now).WaitsFor other call :=
        waits.of_onlyMoves moves not_waitsFor_report
      exact nobody other call waited
  | lost runs lost unheard =>
      intro other call waits
      have waited : lane.WaitsFor other call := waits
      exact ⟨.inr rfl, (attends other call waited).2⟩
  | @late check logs runs unheard unawaited logged =>
      apply attends_of_nobody
      intro other call waits
      have waited : lane.WaitsFor other call := waits
      rcases (attends other call waited).1 with ⟨checked, runs', rfl⟩ | lost
      · have same : checked.call = check.call :=
          Nat.succ_inj.1 ((sound.last checked runs').trans (sound.last check runs).symm)
        have awaited := awaiting?_of_waitsFor waited
        rw [same, unawaited] at awaited
        cases awaited
      · rw [sound.still lost] at runs
        cases runs
  | @returned check logs actor result runs heard awaited logged concludes =>
      subst concludes
      obtain ⟨deadline, waits⟩ := phase?_of_awaiting? sound.keys awaited
      obtain ⟨-, alone⟩ := attends actor check.call ⟨deadline, waits⟩
      apply attends_of_nobody
      intro other call waits'
      have waited := waits'.of_onlyMoves (onlyMoves_conclude ..) not_waitsFor_conclude
      obtain rfl := alone other call waited
      exact not_waitsFor_conclude waits'
  | expired waits timeout reports =>
      subst reports
      exact attends.of_onlyMoves (onlyMoves_report ..) fun _ => not_waitsFor_report
  | reported waits logged =>
      exact attends.of_onlyMoves (onlyMoves_rest ..) fun _ => not_waitsFor_rest
  | withdrawn waits cancels =>
      apply attends.of_onlyMoves (onlyMoves_remove ..)
      rintro call ⟨deadline, waits'⟩
      rw [phase?_remove, if_pos rfl] at waits'
      cases waits'

end Lane

theorem Shifts.waitsFor {next : Move} {lane after : Lane} (shifts : Shifts next lane after)
    {runner : Runner} {call : Nat} (waits : after.WaitsFor runner call) :
    lane.WaitsFor runner call := by
  obtain ⟨deadline, waits⟩ := waits
  rcases shifts.admits.2.2 runner _ waits with idle | waited
  · cases idle
  · exact ⟨deadline, waited⟩

theorem Lane.Attends.shifts {next : Move} {lane after : Lane} (attends : lane.Attends)
    (shifts : Shifts next lane after) : after.Attends := by
  intro runner call waits
  obtain ⟨runs, alone⟩ := attends runner call (shifts.waitsFor waits)
  rw [shifts.keeps.running, shifts.keeps.lost]
  exact ⟨runs, fun other call' waits' => alone other call' (shifts.waitsFor waits')⟩

/-! ## Stages of an iteration -/

inductive Stage where
  | awaits (call : Nat)
  | tells (verdict : Verdict) (accepted : Bool)
  | finished (result : Except Failure Verdict)

def Phase.under? : Phase → Option Stage
  | .checking call _ => some (.awaits call)
  | .reporting verdict fault _ => some (.tells verdict fault.isNone)
  | _ => none

def Lane.stage? (lane : Lane) (runner : Runner) : Option Stage :=
  (lane.phase? runner).bind Phase.under?

def Stage.ongoing? : Stage → Option Stage
  | .finished _ => none
  | stage => some stage

/-- How a verdict is told: it is handed to the reporter or, once the pools are closed, it is what
the iteration ends with at once. -/
inductive Hands (closed : Bool) (runner : Runner) (verdict : Verdict) : List Effect → Stage → Prop
  | reported {entry : LogEntry} {accepted : Bool} :
    Hands closed runner verdict [.log entry, .reported verdict.status accepted]
      (.tells verdict accepted)
  | refused {logs : List Effect} (stopped : closed = true) (logged : Lane.OnlyLogs logs) :
    Hands closed runner verdict (logs ++ [.ended runner (.ok verdict)]) (.finished (.ok verdict))

inductive Opening (probe : Probe) (script : Script) (closed : Bool) (runner : Runner) :
    Turn → Stage → Prop
  | skips {busy : Bool} {effects : List Effect} {stage : Stage}
    (runs : busy = true ∨ script.CheckRaises Failure.isLost)
    (hands : Hands closed runner stillRunning effects stage) :
    Opening probe script closed runner ⟨probe, some runner, busy, .began runner :: effects⟩ stage
  | refused {logs : List Effect} (stopped : closed = true) (logged : Lane.OnlyLogs logs) :
    Opening probe script closed runner
      ⟨probe, some runner, false, .began runner :: .ended runner (.error poolsClosed) :: logs⟩
      (.finished (.error poolsClosed))
  | started (call : Nat) :
    Opening probe script closed runner
      ⟨probe, some runner, false, [.began runner, .checkStarted call]⟩
      (.awaits call)
  | unwaited {seconds : Rat} {effects : List Effect} {stage : Stage} (call : Nat)
    (timeout : probe.timeout = some seconds) (elapsed : seconds ≤ 0)
    (hands : Hands closed runner (timedOut seconds) effects stage) :
    Opening probe script closed runner
      ⟨probe, some runner, false, .began runner :: .checkStarted call :: effects⟩ stage

inductive Passage (probe : Probe) (script : Script) (closed : Bool) (runner : Runner) :
    Stage → Turn → Stage → Prop
  | heard {call : Nat} {outcome : Except Failure Verdict} {verdict : Verdict}
    {logs effects : List Effect} {later : Stage}
    (concludes : probe.conclude outcome = .ok verdict) (logged : Lane.OnlyLogs logs)
    (hands : Hands closed runner verdict effects later) :
    Passage probe script closed runner (.awaits call)
      ⟨probe, some runner, true, .checkEnded call outcome :: logs ++ effects⟩ later
  | escaped {call : Nat} {outcome : Except Failure Verdict} {failure : Failure}
    {logs logs' : List Effect} (concludes : probe.conclude outcome = .error failure)
    (logged : Lane.OnlyLogs logs) (logged' : Lane.OnlyLogs logs') :
    Passage probe script closed runner (.awaits call)
      ⟨probe, some runner, true,
        .checkEnded call outcome :: logs ++ .ended runner (.error failure) :: logs'⟩
      (.finished (.error failure))
  | expired {call : Nat} {seconds : Rat} {busy : Bool} {effects : List Effect} {later : Stage}
    (timeout : probe.timeout = some seconds)
    (runs : busy = true ∨ script.CheckRaises Failure.isLost)
    (hands : Hands closed runner (timedOut seconds) effects later) :
    Passage probe script closed runner (.awaits call) ⟨probe, some runner, busy, effects⟩ later
  | told {verdict : Verdict} {accepted busy : Bool} {logs : List Effect}
    (logged : Lane.OnlyLogs logs) :
    Passage probe script closed runner (.tells verdict accepted)
      ⟨probe, some runner, busy, logs ++ [.ended runner (.ok verdict)]⟩ (.finished (.ok verdict))
  | withdrawn {verdict : Verdict} {busy : Bool} {failure : Failure}
    (withdraws : script.Withdraws (.error failure)) :
    Passage probe script closed runner (.tells verdict false)
      ⟨probe, some runner, busy, [.ended runner (.error failure)]⟩ (.finished (.error failure))

inductive Course (probe : Probe) (script : Script) (closed : Bool) (runner : Runner) :
    List Turn → Stage → Prop
  | opens {turn : Turn} {stage : Stage} (opening : Opening probe script closed runner turn stage) :
    Course probe script closed runner [turn] stage
  | goes {turns : List Turn} {turn : Turn} {stage later : Stage}
    (course : Course probe script closed runner turns stage)
    (passage : Passage probe script closed runner stage turn later) :
    Course probe script closed runner (turns ++ [turn]) later

section Stopping

variable {probe : Probe} {script : Script} {closed : Bool} {runner : Runner} {verdict : Verdict}
  {turn : Turn}
  {turns : List Turn} {effects : List Effect} {stage later : Stage}

theorem Hands.stopped (hands : Hands closed runner verdict effects stage) :
    Hands true runner verdict effects stage := by
  cases hands with
  | reported => exact .reported
  | refused stopped logged => exact .refused rfl logged

theorem Opening.stopped (opening : Opening probe script closed runner turn stage) :
    Opening probe script true runner turn stage := by
  cases opening with
  | skips runs hands => exact .skips runs hands.stopped
  | refused stopped logged => exact .refused rfl logged
  | started call => exact .started call
  | unwaited call timeout elapsed hands => exact .unwaited call timeout elapsed hands.stopped

theorem Passage.stopped (passage : Passage probe script closed runner stage turn later) :
    Passage probe script true runner stage turn later := by
  cases passage with
  | heard concludes logged hands => exact .heard concludes logged hands.stopped
  | escaped concludes logged logged' => exact .escaped concludes logged logged'
  | expired timeout runs hands => exact .expired timeout runs hands.stopped
  | told logged => exact .told logged
  | withdrawn withdraws => exact .withdrawn withdraws

theorem Course.stopped (course : Course probe script closed runner turns stage) :
    Course probe script true runner turns stage := by
  induction course with
  | opens opening => exact .opens opening.stopped
  | goes course passage ih => exact .goes ih passage.stopped

end Stopping

/-! ## Turns of a lane -/

namespace Lane

variable {lane : Lane} {closed : Bool} {now : Rat} {event : Event} {runner : Runner}

theorem stage?_rest : (lane.rest now runner).stage? runner = none := by
  rw [stage?]
  cases rests : (lane.rest now runner).phase? runner with
  | none => rfl
  | some phase =>
      obtain ⟨ends, rfl⟩ := phase?_rest rests
      rfl

theorem stage?_abort {failure : Failure} :
    (lane.abort now runner failure).1.stage? runner = none := by
  rw [stage?]
  cases rests : (lane.abort now runner failure).1.phase? runner with
  | none => rfl
  | some phase =>
      obtain ⟨ends, rfl⟩ := phase?_abort rests
      rfl

theorem stage?_remove : (lane.remove runner).stage? runner = none := by
  rw [stage?, phase?_remove, if_pos rfl]
  rfl

theorem stage?_setPhase {phase : Phase} (present : (lane.phase? runner).isSome) :
    (lane.setPhase runner phase).stage? runner = phase.under? := by
  obtain ⟨old, waits⟩ := Option.isSome_iff_exists.1 present
  rw [stage?, phase?_setPhase, if_pos rfl, waits]
  rfl

theorem hands_report (present : (lane.phase? runner).isSome) (closed : Bool) (now : Rat)
    (verdict : Verdict) :
    ∃ stage, Hands closed runner verdict (lane.report closed now runner verdict).2 stage ∧
      (lane.report closed now runner verdict).1.stage? runner = stage.ongoing? := by
  cases closed with
  | true =>
      have logged : OnlyLogs [.log (lane.probe.verdictLog verdict),
          .log (lane.rest now runner).probe.reportFailureLog] := by
        simp [OnlyLogs]
      have hands : Hands true runner verdict _ _ := .refused rfl logged
      exact ⟨.finished (.ok verdict), hands, stage?_rest⟩
  | false =>
      have present' : (Lane.phase? { lane with reports := lane.reports + 1 } runner).isSome :=
        present
      exact ⟨.tells verdict _, .reported, stage?_setPhase present'⟩

def turn (lane : Lane) (event : Event) (effects : List Effect) : Turn :=
  ⟨lane.probe, lane.actor? event, !lane.running.isEmpty, effects⟩

theorem IsSound.turn_idle (sound : lane.IsSound) (idle : lane.isBusy = false) (event : Event)
    (effects : List Effect) :
    lane.turn event effects = ⟨lane.probe, lane.actor? event, false, effects⟩ := by
  rw [Lane.turn, sound.idle idle]
  rfl

theorem IsSound.runs_or_lost (sound : lane.IsSound) (busy : lane.isBusy = true) :
    (!lane.running.isEmpty) = true ∨ lane.script.CheckRaises Failure.isLost := by
  rcases sound.isBusy_iff.1 busy with lost | runs
  · exact .inr (sound.lost lost)
  · exact .inl (by simpa using runs)

theorem turn_runs {check : RunningCheck} (runs : check ∈ lane.running) (event : Event)
    (effects : List Effect) :
    lane.turn event effects = ⟨lane.probe, lane.actor? event, true, effects⟩ := by
  rw [Lane.turn, List.isEmpty_eq_false_iff.2 (List.ne_nil_of_mem runs)]
  rfl

theorem Rests.stage? (rests : lane.Rests runner) : lane.stage? runner = none := by
  obtain ⟨phase, waits, idle⟩ := rests
  rw [Lane.stage?, waits]
  cases phase with
  | queued since => rfl
  | sleeping ends => rfl
  | _ => cases idle

theorem Fires.opening {result : Lane × List Effect} (sound : lane.IsSound)
    (fires : Fires lane closed now (.begins runner) result) :
    result = (lane, []) ∨ ∃ stage, lane.stage? runner = none ∧
      Opening lane.probe lane.script closed runner (lane.turn (.begins runner) result.2) stage ∧
        result.1.stage? runner = stage.ongoing? := by
  cases fires with
  | nothing => exact .inl rfl
  | busy rests busy reports =>
      subst reports
      obtain ⟨stage, hands, same⟩ := hands_report rests.present closed now stillRunning
      exact .inr ⟨stage, rests.stage?, .skips (sound.runs_or_lost busy) hands, same⟩
  | refused rests idle stopped aborts =>
      subst aborts
      obtain ⟨logs, told, logged⟩ := lane.abort_effects now runner poolsClosed
      refine .inr ⟨.finished (.error poolsClosed), rests.stage?, ?_, stage?_abort⟩
      rw [sound.turn_idle idle, told]
      exact .refused stopped logged
  | started rests idle opened bounded =>
      have present : ((lane.startCheck now).phase? runner).isSome := rests.present
      refine .inr ⟨.awaits lane.calls, rests.stage?, ?_, stage?_setPhase present⟩
      rw [sound.turn_idle idle]
      exact .started lane.calls
  | @unwaited actor seconds result rests idle opened timeout reports elapsed =>
      subst reports
      have present : ((lane.startCheck now).phase? runner).isSome := rests.present
      obtain ⟨stage, hands, same⟩ := hands_report present closed now (timedOut seconds)
      refine .inr ⟨stage, rests.stage?, ?_, same⟩
      rw [sound.turn_idle idle]
      exact .unwaited lane.calls timeout elapsed hands

theorem Fires.passage {result : Lane × List Effect} (sound : lane.IsSound)
    (attends : lane.Attends) (fires : Fires lane closed now event result)
    (acts : lane.actor? event = some runner) (onward : event ≠ .begins runner) :
    result = (lane, []) ∨ ∃ stage later, lane.stage? runner = some stage ∧
      Passage lane.probe lane.script closed runner stage (lane.turn event result.2) later ∧
        result.1.stage? runner = later.ongoing? := by
  have begins {other : Runner} (same : event = .begins other) : event = .begins runner := by
    subst same
    rw [Option.some.inj acts]
  cases fires with
  | nothing => exact .inl rfl
  | lost runs lost unheard =>
      rw [unheard] at acts
      cases acts
  | late runs unheard unawaited logged =>
      rw [unheard] at acts
      cases acts
  | @returned check logs actor result runs heard awaited logged concludes =>
      subst concludes
      obtain rfl : actor = runner := Option.some.inj (heard.symm.trans acts)
      obtain ⟨deadline, waits⟩ := phase?_of_awaiting? sound.keys awaited
      have present : ((lane.drop check.call).phase? actor).isSome := Works.present ⟨_, waits, rfl⟩
      refine .inr ⟨.awaits check.call, ?_⟩
      rw [stage?, waits, turn_runs runs, acts, conclude]
      cases concludes : (lane.drop check.call).probe.conclude check.outcome with
      | ok verdict =>
          obtain ⟨later, hands, same⟩ := hands_report present closed now verdict
          exact ⟨later, rfl, .heard concludes logged hands, same⟩
      | error failure =>
          obtain ⟨logs', told, logged'⟩ := (lane.drop check.call).abort_effects now actor failure
          refine ⟨.finished (.error failure), rfl, ?_, stage?_abort⟩
          rw [told]
          exact .escaped concludes logged logged'
  | @expired actor call deadline seconds result waits timeout reports =>
      subst reports
      obtain rfl : actor = runner := Option.some.inj acts
      have busy : lane.isBusy = true := by
        rw [sound.isBusy_iff]
        rcases (attends actor call ⟨_, waits⟩).1 with ⟨check, runs, -⟩ | lost
        · exact .inr (List.ne_nil_of_mem runs)
        · exact .inl lost
      have present : (lane.phase? actor).isSome := Works.present ⟨_, waits, rfl⟩
      obtain ⟨later, hands, same⟩ := hands_report present closed now (timedOut seconds)
      refine .inr ⟨.awaits call, later, by rw [stage?, waits]; rfl, ?_, same⟩
      exact .expired timeout (sound.runs_or_lost busy) hands
  | @reported actor verdict fault ends logs waits logged =>
      obtain rfl : actor = runner := Option.some.inj acts
      refine .inr ⟨.tells verdict fault.isNone, .finished (.ok verdict), ?_, .told logged,
        stage?_rest⟩
      rw [stage?, waits]
      rfl
  | @withdrawn actor verdict failure ends waits cancels =>
      obtain rfl : actor = runner := Option.some.inj acts
      obtain ⟨handed, time, raised⟩ := (sound.heeds waits).1 failure rfl
      refine .inr ⟨.tells verdict false, .finished (.error failure), ?_,
        .withdrawn ⟨handed, time, failure, raised, cancels, rfl⟩, stage?_remove⟩
      rw [stage?, waits]
      rfl
  | _ => exact absurd (begins rfl) onward

end Lane

/-! ## The courses of a history -/

def Effect.isBeginning : Effect → Bool
  | .began _ => true
  | _ => false

namespace Turn

def begins (turn : Turn) : Bool := turn.effects.any Effect.isBeginning

def isOf (name : String) (runner : Runner) (turn : Turn) : Bool :=
  turn.probe.name = name ∧ turn.actor = some runner ∧ turn.effects ≠ []

def gather (courses : List (List Turn)) (turn : Turn) : List (List Turn) :=
  if turn.begins then [turn] :: courses
  else match courses with
    | [] => [[turn]]
    | turns :: courses => (turns ++ [turn]) :: courses

end Turn

/-- The iterations of a runner, the last one first, each with its turns. -/
def courses (name : String) (runner : Runner) (history : List Turn) : List (List Turn) :=
  (history.filter (Turn.isOf name runner)).foldl Turn.gather []

section Gathering

variable {probe : Probe} {script : Script} {closed : Bool} {name : String} {runner : Runner}
  {history : List Turn}
  {turn : Turn} {verdict : Verdict} {effects : List Effect} {stage later : Stage}

theorem courses_concat (mine : turn.isOf name runner = true) :
    courses name runner (history ++ [turn]) = Turn.gather (courses name runner history) turn := by
  rw [courses, List.filter_append, List.filter_cons_of_pos mine, List.foldl_append]
  rfl

theorem courses_concat_of_not (other : turn.isOf name runner = false) :
    courses name runner (history ++ [turn]) = courses name runner history := by
  rw [courses, List.filter_append, List.filter_cons_of_neg (by simp [other]), List.filter_nil,
    List.append_nil, courses]

theorem flatten_gather (gathered : List (List Turn)) (turn : Turn) :
    (Turn.gather gathered turn).reverse.flatten = gathered.reverse.flatten ++ [turn] := by
  simp only [Turn.gather]
  split
  next => simp
  next => cases gathered <;> simp

theorem flatten_courses (name : String) (runner : Runner) (history : List Turn) :
    (courses name runner history).reverse.flatten = history.filter (Turn.isOf name runner) := by
  induction history using List.reverseRecOn with
  | nil => rfl
  | append_singleton history turn ih =>
      cases mine : turn.isOf name runner with
      | true =>
          rw [courses_concat mine, flatten_gather, ih, List.filter_append,
            List.filter_cons_of_pos mine, List.filter_nil]
      | false =>
          rw [courses_concat_of_not mine, ih, List.filter_append,
            List.filter_cons_of_neg (by simp [mine]), List.filter_nil, List.append_nil]

theorem Lane.OnlyLogs.any_eq_false {logs : List Effect} (logged : Lane.OnlyLogs logs)
    {test : Effect → Bool} (silent : ∀ entry, test (.log entry) = false) :
    logs.any test = false := by
  rw [List.any_eq_false]
  intro effect member
  obtain ⟨entry, rfl⟩ := logged effect member
  rw [silent entry]
  exact Bool.false_ne_true

theorem Lane.OnlyLogs.any_isBeginning {logs : List Effect} (logged : Lane.OnlyLogs logs) :
    logs.any Effect.isBeginning = false := logged.any_eq_false fun _ => rfl

theorem Hands.any_isBeginning (hands : Hands closed runner verdict effects stage) :
    effects.any Effect.isBeginning = false := by
  cases hands with
  | reported => rfl
  | refused stopped logged =>
      rw [List.any_append, logged.any_isBeginning]
      rfl

theorem Opening.begins (opening : Opening probe script closed runner turn stage) :
    turn.begins = true := by
  cases opening <;> rfl

theorem Passage.begins (passage : Passage probe script closed runner stage turn later) :
    turn.begins = false := by
  cases passage with
  | heard concludes logged hands =>
      simp [Turn.begins, Effect.isBeginning, List.any_append, logged.any_isBeginning,
        hands.any_isBeginning]
  | escaped concludes logged logged' =>
      simp [Turn.begins, Effect.isBeginning, List.any_append, logged.any_isBeginning,
        logged'.any_isBeginning]
  | expired timeout runs hands => exact hands.any_isBeginning
  | told logged => simp [Turn.begins, Effect.isBeginning, List.any_append, logged.any_isBeginning]
  | withdrawn withdraws => rfl

theorem Opening.isOf (opening : Opening probe script closed runner turn stage) :
    turn.isOf probe.name runner = true := by
  cases opening <;> simp [Turn.isOf]

theorem Hands.ne_nil (hands : Hands closed runner verdict effects stage) : effects ≠ [] := by
  cases hands <;> simp

theorem Passage.isOf (passage : Passage probe script closed runner stage turn later) :
    turn.isOf probe.name runner = true := by
  cases passage with
  | expired timeout runs hands => simp [Turn.isOf, hands.ne_nil]
  | _ => simp [Turn.isOf]

end Gathering

/-! ## Every run consists of courses -/

/-- An iteration that has ended or was given up. -/
def Settled (probe : Probe) (script : Script) (closed : Bool) (runner : Runner) (quit : Prop)
    (turns : List Turn) : Prop :=
  ∃ stage, Course probe script closed runner turns stage ∧ (quit ∨ stage.ongoing? = none)

/-- The iterations of a runner, of which the last may be at the stage that is to be seen. -/
inductive Charted (probe : Probe) (script : Script) (closed : Bool) (runner : Runner)
    (quit : Prop) : Option Stage → List (List Turn) → Prop
  | rests {courses : List (List Turn)}
    (settled : ∀ turns ∈ courses, Settled probe script closed runner quit turns) :
    Charted probe script closed runner quit none courses
  | works {turns : List Turn} {courses : List (List Turn)} {stage : Stage}
    (course : Course probe script closed runner turns stage)
    (settled : ∀ turns ∈ courses, Settled probe script closed runner quit turns) :
    Charted probe script closed runner quit (some stage) (turns :: courses)

namespace Charted

variable {probe : Probe} {script : Script} {closed closed' : Bool} {runner : Runner}
  {quit quit' : Prop}
  {stage? : Option Stage} {courses : List (List Turn)} {turn : Turn} {turns : List Turn}
  {stage later : Stage}

theorem mono (charted : Charted probe script closed runner quit stage? courses)
    (stops : closed' = closed ∨ closed' = true) (gives : quit → quit') :
    Charted probe script closed' runner quit' stage? courses := by
  have onward {turns : List Turn} {stage : Stage}
      (course : Course probe script closed runner turns stage) :
      Course probe script closed' runner turns stage := by
    rcases stops with rfl | rfl
    · exact course
    · exact course.stopped
  have settles {turns : List Turn} (settled : Settled probe script closed runner quit turns) :
      Settled probe script closed' runner quit' turns := by
    obtain ⟨stage, course, ended⟩ := settled
    exact ⟨stage, onward course, ended.imp_left gives⟩
  cases charted with
  | rests settled => exact .rests fun turns member => settles (settled turns member)
  | works course settled =>
      exact .works (onward course) fun turns member => settles (settled turns member)

theorem settled (charted : Charted probe script closed runner quit stage? courses)
    (ended : quit ∨ stage? = none) :
    ∀ turns ∈ courses, Settled probe script closed runner quit turns := by
  cases charted with
  | rests settled => exact settled
  | works course settled =>
      exact List.forall_mem_cons.2 ⟨⟨_, course, ended.imp_right nofun⟩, settled⟩

theorem of_course (course : Course probe script closed runner turns stage)
    (settled : ∀ turns ∈ courses, Settled probe script closed runner quit turns) :
    Charted probe script closed runner quit stage.ongoing? (turns :: courses) := by
  cases stage with
  | finished result => exact .rests (List.forall_mem_cons.2 ⟨⟨_, course, .inr rfl⟩, settled⟩)
  | _ => exact .works course settled

theorem opens (charted : Charted probe script closed runner quit none courses)
    (opening : Opening probe script closed runner turn stage) :
    Charted probe script closed runner quit stage.ongoing? (Turn.gather courses turn) := by
  simp only [Turn.gather, opening.begins, if_true]
  exact of_course (.opens opening) (charted.settled (.inr rfl))

theorem goes (charted : Charted probe script closed runner quit (some stage) courses)
    (passage : Passage probe script closed runner stage turn later) :
    Charted probe script closed runner quit later.ongoing? (Turn.gather courses turn) := by
  cases charted with
  | works course settled =>
      simp only [Turn.gather, passage.begins, Bool.false_eq_true, if_false]
      exact of_course (.goes course passage) settled

end Charted

def Follows (moves : List Move) (scheduler : Scheduler) (history : List Turn) : Prop :=
  ∀ lane ∈ scheduler.lanes, ∀ runner,
    Charted lane.probe lane.script scheduler.closed runner (runner.quits lane.probe.name ∈ moves)
      (lane.stage? runner) (courses lane.probe.name runner history)

namespace Follows

variable {moves : List Move} {next : Move} {scheduler after : Scheduler} {history : List Turn}
  {lane : Lane}

theorem stage?_shifts {after : Lane} (shifts : Shifts next lane after) (runner : Runner) :
    after.stage? runner = lane.stage? runner ∨
      next = runner.quits lane.probe.name ∧ after.stage? runner = none := by
  cases shifts with
  | same => exact .inl rfl
  | @queues added absent since =>
      rw [Lane.stage?, Lane.stage?, lane.phase?_add _ _ _ absent]
      split
      next same =>
          rw [same, absent]
          exact .inl rfl
      next => exact .inl rfl
  | @quits removed given =>
      rw [Lane.stage?, Lane.stage?, lane.phase?_remove]
      split
      next same =>
          rw [same]
          exact .inr ⟨given, rfl⟩
      next => exact .inl rfl

theorem map {change : Lane → Lane} (follows : Follows moves scheduler history)
    (lanes : after.lanes = scheduler.lanes.map change)
    (closed : after.closed = scheduler.closed ∨ after.closed = true)
    (each : ∀ lane ∈ scheduler.lanes, Shifts next lane (change lane)) :
    Follows (moves ++ [next]) after history := by
  intro lane listed runner
  rw [lanes] at listed
  obtain ⟨old, listed', rfl⟩ := List.mem_map.1 listed
  rw [(each old listed').keeps.probe, (each old listed').keeps.script]
  have charted := (follows old listed' runner).mono closed
    (List.mem_append_left [next] : runner.quits old.probe.name ∈ moves → _)
  rcases stage?_shifts (each old listed') runner with same | ⟨given, gone⟩
  · rw [same]
    exact charted
  · rw [gone]
    exact .rests (charted.settled (.inl (List.mem_append_right _ (by simp [given]))))

theorem fire (follows : Follows moves scheduler history) (sound : scheduler.IsSound)
    (attends : lane.Attends) (listed : lane ∈ scheduler.lanes) {event : Event}
    {result : Lane × List Effect}
    (fires : Lane.Fires lane scheduler.closed scheduler.now event result) :
    Follows moves { scheduler with lanes := replaceLane scheduler.lanes result.1 }
      (history ++ [lane.turn event result.2]) := by
  have keeps := fires.keeps
  have untouched {name : String} {runner : Runner}
      (other : name ≠ lane.probe.name ∨ lane.actor? event ≠ some runner) :
      courses name runner (history ++ [lane.turn event result.2]) =
        courses name runner history := by
    apply courses_concat_of_not
    rw [← Bool.not_eq_true]
    intro mine
    obtain ⟨named, acts, -⟩ := of_decide_eq_true mine
    rcases other with different | different
    · exact different named.symm
    · exact different acts
  intro changed listed' runner
  rcases mem_replaceLane listed' with rfl | ⟨old, different⟩
  · rw [keeps.probe, keeps.script]
    have charted := follows lane listed runner
    by_cases acts : lane.actor? event = some runner
    · -- the runner that acts begins an iteration, or carries its last one on
      by_cases begins : event = .begins runner
      · subst begins
        rcases fires.opening (sound.lanes lane listed) with
          rfl | ⟨stage, seen, opening, shown⟩
        · rwa [courses_concat_of_not (by simp [Turn.isOf, Lane.turn])]
        · rw [courses_concat opening.isOf, shown]
          rw [seen] at charted
          exact charted.opens opening
      · rcases fires.passage (sound.lanes lane listed) attends acts begins with
          rfl | ⟨stage, later, seen, passage, shown⟩
        · rwa [courses_concat_of_not (by simp [Turn.isOf, Lane.turn])]
        · rw [courses_concat passage.isOf, shown]
          rw [seen] at charted
          exact charted.goes passage
    · have same : result.1.stage? runner = lane.stage? runner := by
        rw [Lane.stage?, keeps.others runner acts, Lane.stage?]
      rw [untouched (.inr acts), same]
      exact charted
  · rw [keeps.probe] at different
    rw [untouched (.inl different)]
    exact follows changed old runner

theorem move (follows : Follows moves scheduler history) (sound : scheduler.IsSound)
    (attends : ∀ lane ∈ scheduler.lanes, lane.Attends) (next : Move) :
    Follows (moves ++ [next]) (scheduler.move next).1 (history ++ (scheduler.move next).2) := by
  have steps := move_steps sound next
  generalize scheduler.move next = result at steps ⊢
  cases steps with
  | shifts lanes closed each =>
      rw [List.append_nil]
      exact follows.map lanes closed each
  | fires listed fires =>
      have fired := follows.fire sound (attends _ listed) listed fires
      intro lane listed' runner
      exact (fired lane listed' runner).mono (.inl rfl) (List.mem_append_left _)

end Follows

theorem follows_run {lanes : List Lane} {origin : Time.Instant} {reporter : Store.Reporter}
    {scheduler : Scheduler} (made : ofLanes lanes origin reporter = .ok scheduler)
    (fresh : ∀ lane ∈ lanes, lane.IsFresh) (moves : List Move) :
    Follows moves (scheduler.run moves).1 (scheduler.run moves).2 := by
  have sound := isSound_of_ofLanes made fresh
  obtain ⟨-, rfl⟩ := ofLanes_eq_ok made
  have attends (moves : List Move) := forall_lanes_run sound (P := Lane.Attends)
    (fun lane listed => Lane.attends_of_nobody fun runner call ⟨deadline, waits⟩ => by
      rw [(fresh lane listed).phase?] at waits
      cases waits) Lane.Attends.shifts (fun sound attends fires => attends.fires sound fires) moves
  induction moves using List.reverseRecOn with
  | nil =>
      intro lane listed runner
      rw [Lane.stage?, (fresh lane listed).phase?]
      exact .rests (by simp [courses, run])
  | append_singleton moves next ih =>
      rw [run_concat, proceed]
      exact ih.move (sound.run moves) (attends moves) next

end Liveness.Scheduler
