import Liveness.Proofs.Scheduler.Execution
import Liveness.Proofs.Scheduler.Progress

namespace Liveness.Scheduler

def muted (fault : Option Failure) : Option Failure := fault.filter isGrave

theorem any_isLost_muted (fault : Option Failure) :
    (muted fault).any (·.isLost) = fault.any (·.isLost) := by
  cases fault with
  | none => rfl
  | some failure =>
      rw [muted, Option.filter_some]
      cases grave : isGrave failure with
      | true => rfl
      | false => exact (Bool.or_eq_false_iff.1 grave).1.symm

def Phase.mute : Phase → Phase
  | .reporting verdict fault ends => .reporting verdict (muted fault) ends
  | phase => phase

def Effect.mute : Effect → Option Effect
  | .log _ => none
  | .reported status _ => some (.reported status true)
  | effect => some effect

namespace Lane

def mute (lane : Lane) : Lane :=
  { lane with
    script := { lane.script with
      reportFault := fun handed time => muted (lane.script.reportFault handed time) }
    runners := lane.runners.map fun entry => (entry.1, entry.2.mute) }

/-- The same turn of a lane and of its muted twin. -/
structure Mutes (result muted : Lane × List Effect) : Prop where
  lane : muted.1 = result.1.mute
  effects : muted.2.filterMap Effect.mute = result.2.filterMap Effect.mute

variable (lane : Lane) (closed : Bool) (now : Rat) (runner : Runner)

theorem phase?_mute : lane.mute.phase? runner = (lane.phase? runner).map Phase.mute := by
  rw [phase?, phase?, mute]
  induction lane.runners with
  | nil => rfl
  | cons entry entries ih =>
      rw [List.map_cons, List.lookup_cons, List.lookup_cons, ih]
      split <;> rfl

theorem awaiting?_mute (call : Nat) : lane.mute.awaiting? call = lane.awaiting? call := by
  rw [awaiting?, awaiting?, mute, List.findSome?_map]
  congr 1
  funext entry
  obtain ⟨runner, phase⟩ := entry
  cases phase <;> rfl

theorem add_mute (phase : Phase) :
    (lane.add runner phase).mute = lane.mute.add runner phase.mute := by
  simp [add, mute]

theorem remove_mute : (lane.remove runner).mute = lane.mute.remove runner := by
  simp only [remove, mute, List.filter_map]
  rfl

theorem setPhase_mute (phase : Phase) :
    (lane.setPhase runner phase).mute = lane.mute.setPhase runner phase.mute := by
  simp only [setPhase, mute, List.map_map]
  congr 1
  apply List.map_congr_left
  rintro ⟨name, old⟩ -
  by_cases changed : name = runner <;> simp [changed]

theorem rest_mute : (lane.rest now runner).mute = lane.mute.rest now runner := by
  cases runner with
  | loop => exact lane.setPhase_mute .loop _
  | trigger ticket => exact lane.remove_mute _

theorem mutes_finish (verdict : Verdict) :
    Mutes (lane.finish now runner verdict) (lane.mute.finish now runner verdict) where
  lane := (lane.rest_mute now runner).symm
  effects := rfl

theorem mutes_abort (failure : Failure) :
    Mutes (lane.abort now runner failure) (lane.mute.abort now runner failure) := by
  rw [abort.eq_def, abort.eq_def]
  split
  next => exact ⟨(lane.remove_mute runner).symm, rfl⟩
  next => exact ⟨(lane.rest_mute now runner).symm, rfl⟩

theorem Mutes.cons {result muted : Lane × List Effect} (mutes : Mutes result muted)
    {effect effect' : Effect} (same : effect'.mute = effect.mute) :
    Mutes (result.1, effect :: result.2) (muted.1, effect' :: muted.2) where
  lane := mutes.lane
  effects := by rw [List.filterMap_cons, List.filterMap_cons, same, mutes.effects]

theorem mutes_report (verdict : Verdict) :
    Mutes (lane.report closed now runner verdict) (lane.mute.report closed now runner verdict) := by
  cases closed with
  | true => exact ⟨(lane.mutes_finish now runner verdict).lane, rfl⟩
  | false =>
      refine ⟨?_, rfl⟩
      have faults : lane.mute.script.reportFault lane.mute.reports now =
          muted (lane.script.reportFault lane.reports now) := rfl
      simp only [report, Bool.false_eq_true, if_false, setPhase_mute, faults, any_isLost_muted]
      rfl

theorem mutes_conclude (outcome : Except Failure Verdict) :
    Mutes (lane.conclude closed now runner outcome)
      (lane.mute.conclude closed now runner outcome) := by
  have same : lane.mute.probe = lane.probe := rfl
  rw [conclude, conclude, same]
  split
  next => exact lane.mutes_report closed now runner _
  next => exact lane.mutes_abort now runner _

theorem mutes_checking (call : Nat) (deadline : Option Rat) (effects : List Effect) :
    Mutes (lane.setPhase runner (.checking call deadline), effects)
      (lane.mute.setPhase runner (.checking call deadline), effects) where
  lane := (lane.setPhase_mute runner (.checking call deadline)).symm
  effects := rfl

theorem mutes_begin :
    Mutes (lane.begin closed now runner) (lane.mute.begin closed now runner) := by
  have same : lane.mute.isBusy = lane.isBusy := rfl
  have started : lane.mute.startCheck now = (lane.startCheck now).mute := rfl
  have timeout : (lane.startCheck now).mute.probe.timeout = lane.probe.timeout := rfl
  have timeout' : (lane.startCheck now).probe.timeout = lane.probe.timeout := rfl
  simp only [begin, same, started, timeout, timeout']
  cases lane.isBusy with
  | true => exact (lane.mutes_report closed now runner stillRunning).cons rfl
  | false =>
      cases closed with
      | true => exact (lane.mutes_abort now runner poolsClosed).cons rfl
      | false =>
          simp only [Bool.false_eq_true, if_false]
          cases lane.probe.timeout with
          | none => exact (lane.startCheck now).mutes_checking runner _ _ _
          | some seconds =>
              by_cases expires : seconds ≤ 0
              · simp only [if_pos expires]
                exact (((lane.startCheck now).mutes_report false now runner (timedOut seconds)).cons
                  rfl).cons rfl
              · simp only [if_neg expires]
                exact (lane.startCheck now).mutes_checking runner _ _ _

theorem mutes_passOn (call : Nat) (outcome : Except Failure Verdict) :
    Mutes (lane.passOn closed now call outcome) (lane.mute.passOn closed now call outcome) := by
  rw [passOn, passOn, awaiting?_mute]
  split
  next runner _ => exact lane.mutes_conclude closed now runner outcome
  next => exact ⟨rfl, rfl⟩

theorem mutes_endReport (verdict : Verdict) (fault : Option Failure) :
    Mutes (lane.endReport now runner verdict fault)
      (lane.mute.endReport now runner verdict (muted fault)) := by
  have finishes := lane.mutes_finish now runner verdict
  cases fault with
  | none => exact finishes
  | some failure =>
      cases grave : isGrave failure with
      | true =>
          have same : muted (some failure) = some failure := by simp [muted, Option.filter, grave]
          rw [same, endReport, endReport]
          split
          next => exact lane.mutes_abort now runner failure
          next => exact finishes.cons rfl
      | false =>
          have same : muted (some failure) = none := by simp [muted, Option.filter, grave]
          have stays : failure.isCancellation = false := (Bool.or_eq_false_iff.1 grave).2
          rw [same, endReport, endReport, if_neg (by simp [stays])]
          exact ⟨finishes.lane, finishes.effects⟩

theorem mutes_endCheck (call : Nat) :
    Mutes (lane.endCheck closed now call) (lane.mute.endCheck closed now call) := by
  have same : lane.mute.running = lane.running := rfl
  rw [endCheck, endCheck, same]
  cases lane.running.find? (·.call = call) with
  | none => exact ⟨rfl, rfl⟩
  | some check =>
      obtain ⟨number, ends, outcome⟩ := check
      have passes := (lane.drop call).mutes_passOn closed now call outcome
      simp only
      split
      next => exact ⟨rfl, rfl⟩
      next =>
          cases outcome with
          | ok verdict => exact passes.cons rfl
          | error failure => exact (passes.cons rfl).cons rfl

theorem mutes_fire (event : Event) :
    Mutes (lane.fire closed now event) (lane.mute.fire closed now event) := by
  cases event with
  | begins runner =>
      simp only [fire, phase?_mute]
      cases lane.phase? runner with
      | none => exact ⟨rfl, rfl⟩
      | some phase =>
          cases phase with
          | queued since => exact lane.mutes_begin closed now runner
          | sleeping ends => exact lane.mutes_begin closed now runner
          | _ => exact ⟨rfl, rfl⟩
  | checkEnds call => exact lane.mutes_endCheck closed now call
  | expires runner =>
      have timeout : lane.mute.probe.timeout = lane.probe.timeout := rfl
      simp only [fire, phase?_mute, timeout]
      cases lane.phase? runner with
      | none => exact ⟨rfl, rfl⟩
      | some phase =>
          cases phase with
          | checking call deadline =>
              cases deadline with
              | none => exact ⟨rfl, rfl⟩
              | some ends =>
                  cases lane.probe.timeout with
                  | none => exact ⟨rfl, rfl⟩
                  | some seconds => exact lane.mutes_report closed now runner (timedOut seconds)
          | _ => exact ⟨rfl, rfl⟩
  | reportEnds runner =>
      simp only [fire, phase?_mute]
      cases lane.phase? runner with
      | none => exact ⟨rfl, rfl⟩
      | some phase =>
          cases phase with
          | reporting verdict fault ends =>
              cases ends with
              | none => exact ⟨rfl, rfl⟩
              | some ends => exact lane.mutes_endReport now runner verdict fault
          | _ => exact ⟨rfl, rfl⟩

end Lane

def Turn.mute (turn : Turn) : Turn :=
  { turn with effects := turn.effects.filterMap Effect.mute }

theorem note_mute (iterations : List Iteration) (turn : Turn) :
    Turn.note iterations turn.mute = Turn.note iterations turn := by
  obtain ⟨probe, actor, busy, effects⟩ := turn
  cases actor with
  | none => rfl
  | some runner =>
      simp only [Turn.note, Turn.mute]
      -- a log entry is noted nowhere, and of a report only its status is
      induction effects generalizing iterations with
      | nil => rfl
      | cons effect effects ih =>
          rw [List.foldl_cons, ← ih]
          cases effect with
          | log entry =>
              have same : Iteration.note probe runner busy iterations (.log entry) = iterations :=
                Iteration.amend_nil iterations
              rw [same]
              rfl
          | _ => rfl

theorem iterations_map_mute (history : List Turn) :
    iterations (history.map Turn.mute) = iterations history := by
  rw [iterations, List.foldl_map]
  congr 1
  funext iterations turn
  exact note_mute iterations turn

def mute (scheduler : Scheduler) : Scheduler :=
  { scheduler with lanes := scheduler.lanes.map Lane.mute }

theorem replaceLane_mute (lanes : List Lane) (after : Lane) :
    replaceLane (lanes.map Lane.mute) after.mute = (replaceLane lanes after).map Lane.mute := by
  rw [replaceLane, replaceLane, List.map_map, List.map_map]
  apply List.map_congr_left
  intro lane _
  have probe : lane.mute.probe = lane.probe := rfl
  have probe' : after.mute.probe = after.probe := rfl
  rw [Function.comp_apply, Function.comp_apply, probe, probe']
  split <;> rfl

theorem tasks_mute (scheduler : Scheduler) : scheduler.mute.tasks = scheduler.tasks := by
  have loops : (fun lane : Lane => (lane.phase? .loop).isSome) ∘ Lane.mute =
      fun lane => (lane.phase? .loop).isSome := by
    funext lane
    rw [Function.comp_apply, Lane.phase?_mute, Option.isSome_map]
  rw [tasks, mute, List.filter_map, loops, List.length_map, tasks]

theorem map_mute {change : Lane → Lane} (commutes : ∀ lane, change lane.mute = (change lane).mute)
    (lanes : List Lane) : (lanes.map Lane.mute).map change = (lanes.map change).map Lane.mute := by
  rw [List.map_map, List.map_map]
  exact List.map_congr_left fun lane _ => commutes lane

theorem start_mute (scheduler : Scheduler) : scheduler.mute.start.1 = scheduler.start.1.mute := by
  rw [start, start]
  cases runs : scheduler.running with
  | true =>
      have runs' : scheduler.mute.running = true := runs
      rw [if_pos runs', if_pos rfl]
  | false =>
      have runs' : ¬ scheduler.mute.running = true := by simp [mute, runs]
      rw [if_neg runs', if_neg Bool.false_ne_true]
      simp only [mute]
      rw [map_mute fun lane => (lane.add_mute .loop (.queued _)).symm]

theorem stop_mute (scheduler : Scheduler) : scheduler.mute.stop.1 = scheduler.stop.1.mute := by
  rw [stop, stop, tasks_mute]
  simp only [mute]
  rw [map_mute fun lane => (lane.remove_mute .loop).symm]

theorem fire_mute (scheduler : Scheduler) (name : String) (event : Event) :
    (scheduler.mute.move (.fire name event)).1 = (scheduler.move (.fire name event)).1.mute ∧
      (scheduler.mute.move (.fire name event)).2.map Turn.mute =
        (scheduler.move (.fire name event)).2.map Turn.mute := by
  have found : scheduler.mute.lanes.find? (·.probe.name = name) =
      (scheduler.lanes.find? (·.probe.name = name)).map Lane.mute := List.find?_map ..
  rw [move, move, found]
  cases scheduler.lanes.find? (·.probe.name = name) with
  | none => exact ⟨rfl, rfl⟩
  | some lane =>
      have mutes := lane.mutes_fire scheduler.closed scheduler.now event
      have actor : lane.mute.actor? event = lane.actor? event := by
        cases event with
        | checkEnds call =>
            rw [Lane.actor?, Lane.actor?, lane.awaiting?_mute call]
            rfl
        | _ => rfl
      have lanes : replaceLane (scheduler.lanes.map Lane.mute)
          (lane.mute.fire scheduler.closed scheduler.now event).1 = (replaceLane scheduler.lanes
            (lane.fire scheduler.closed scheduler.now event).1).map Lane.mute := by
        rw [mutes.lane, replaceLane_mute]
      refine ⟨congrArg (fun lanes => { scheduler with lanes }) lanes, ?_⟩
      change [Turn.mk lane.probe (lane.mute.actor? event) (!lane.running.isEmpty)
        ((lane.mute.fire scheduler.closed scheduler.now event).2.filterMap Effect.mute)] = _
      rw [actor, mutes.effects]
      rfl

theorem move_mute (scheduler : Scheduler) (next : Move) :
    (scheduler.mute.move next).1 = (scheduler.move next).1.mute ∧
      (scheduler.mute.move next).2.map Turn.mute = (scheduler.move next).2.map Turn.mute := by
  cases next with
  | start => exact ⟨scheduler.start_mute, rfl⟩
  | stop => exact ⟨scheduler.stop_mute, rfl⟩
  | elapse now => exact ⟨rfl, rfl⟩
  | trigger names =>
      refine ⟨?_, rfl⟩
      simp only [move, mute]
      rw [map_mute]
      intro lane
      have probe : lane.mute.probe = lane.probe := rfl
      rw [probe]
      split
      next => exact (lane.add_mute _ (.queued _)).symm
      next => rfl
  | cancel name ticket =>
      refine ⟨?_, rfl⟩
      simp only [move, mute]
      rw [map_mute]
      intro lane
      have probe : lane.mute.probe = lane.probe := rfl
      rw [probe]
      split
      next => exact (lane.remove_mute _).symm
      next => rfl
  | fire name event => exact scheduler.fire_mute name event

theorem run_mute (scheduler : Scheduler) (moves : List Move) :
    (scheduler.mute.run moves).1 = (scheduler.run moves).1.mute ∧
      (scheduler.mute.run moves).2.map Turn.mute = (scheduler.run moves).2.map Turn.mute := by
  induction moves using List.reverseRecOn with
  | nil => exact ⟨rfl, rfl⟩
  | append_singleton moves next ih =>
      obtain ⟨same, turns⟩ := ih
      obtain ⟨same', turns'⟩ := (scheduler.run moves).1.move_mute next
      rw [run_concat, run_concat, proceed, proceed, same]
      refine ⟨same', ?_⟩
      rw [List.map_append, List.map_append, turns, turns']

theorem iterations_mute (scheduler : Scheduler) (moves : List Move) :
    iterations (scheduler.mute.run moves).2 = iterations (scheduler.run moves).2 := by
  rw [← iterations_map_mute, (scheduler.run_mute moves).2, iterations_map_mute]

def withFaults (scheduler : Scheduler) (faults : String → Nat → Rat → Option Failure) : Scheduler :=
  { scheduler with
    lanes := scheduler.lanes.map fun lane =>
      { lane with script := { lane.script with reportFault := faults lane.probe.name } } }

theorem muted_eq_none {fault : Option Failure}
    (mild : ∀ failure ∈ fault, isGrave failure = false) : muted fault = none := by
  rw [muted, Option.filter_eq_none_iff]
  exact fun failure raised => by simp [mild failure raised]

theorem iterations_withFaults {scheduler : Scheduler}
    (mild : ∀ lane ∈ scheduler.lanes, ¬ lane.script.ReportRaises isGrave)
    {faults : String → Nat → Rat → Option Failure}
    (mild' : ∀ name handed time, ∀ failure ∈ faults name handed time, isGrave failure = false)
    (moves : List Move) : iterations ((scheduler.withFaults faults).run moves).2 =
      iterations (scheduler.run moves).2 := by
  have same : (scheduler.withFaults faults).mute = scheduler.mute := by
    simp only [mute, withFaults, List.map_map]
    congr 1
    apply List.map_congr_left
    intro lane listed
    have silent (handed : Nat) (time : Rat) : muted (faults lane.probe.name handed time) =
        muted (lane.script.reportFault handed time) := by
      rw [muted_eq_none (mild' _ handed time), muted_eq_none]
      exact fun failure raised =>
        Bool.eq_false_iff.2 fun grave => mild lane listed ⟨handed, time, failure, raised, grave⟩
    simp only [Function.comp_apply, Lane.mute, silent]
  rw [← iterations_mute, same, iterations_mute]

/-! ## Exactly one report -/

theorem records_of_ofLanes {lanes : List Lane} {origin : Time.Instant}
    {reporter : Store.Reporter} {scheduler : Scheduler}
    (made : ofLanes lanes origin reporter = .ok scheduler) (fresh : ∀ lane ∈ lanes, lane.IsFresh) :
    Records scheduler [] := by
  obtain ⟨-, rfl⟩ := ofLanes_eq_ok made
  constructor
  · simp
  · intro lane listed runner phase waits
    rw [(fresh lane listed).phase?] at waits
    cases waits

def sampleLanes : List Lane :=
  [{ probe := { name := "node", interval := 30, timeout := some 5 }
     script := { check := fun _ => { delay := none }
                 reportFault := fun _ _ => some (.of .runtime "store is gone") } },
   { probe := { name := "cache", timeout := some (5 / 2) }
     script := { check := fun _ => { delay := some 1, outcome := .ok (.error "no answer") } } }]

def sampleScheduler : Scheduler := { lanes := sampleLanes, origin := default }

theorem ofLanes_sampleLanes : ofLanes sampleLanes default {} = .ok sampleScheduler := by cbv

theorem isFresh_of_mem_sampleLanes {lane : Lane} (listed : lane ∈ sampleLanes) : lane.IsFresh := by
  simp only [sampleLanes, List.mem_cons, List.not_mem_nil, or_false] at listed
  rcases listed with rfl | rfl <;> exact ⟨rfl, rfl, rfl⟩

theorem isMild_of_mem_sampleLanes {lane : Lane} (listed : lane ∈ sampleLanes) :
    lane.script.IsMild := by
  simp only [sampleLanes, List.mem_cons, List.not_mem_nil, or_false] at listed
  rcases listed with rfl | rfl
  · refine ⟨?_, ?_⟩
    · rintro ⟨call, failure, raised, cancels⟩
      cases raised
    · rintro ⟨handed, time, failure, raised, grave⟩
      cases raised
      cases grave
  · refine ⟨?_, ?_⟩
    · rintro ⟨call, failure, raised, cancels⟩
      cases raised
    · rintro ⟨handed, time, failure, raised, grave⟩
      cases raised

def sampleMoves : List Move :=
  [.start, .fire "node" (.begins .loop), .fire "cache" (.begins .loop), .elapse 1,
    .fire "cache" (.checkEnds 0), .fire "cache" (.reportEnds .loop), .elapse 5,
    .fire "node" (.expires .loop), .fire "node" (.reportEnds .loop), .trigger ["node"],
    .fire "node" (.begins (.trigger 0)), .cancel "node" 0, .elapse 35,
    .fire "node" (.begins .loop)]

def spoiledLane (kind : FailureKind) : Lane where
  probe := { name := "cache", timeout := some 5 }
  script :=
    { check := fun _ => {}
      reportFault := fun handed _ => if handed = 0 then some (.of kind "store is gone") else none }

def loopsWithin (lane : Lane) : List (Rat × String) × List (Except Failure Verdict) :=
  let entries := (({ lanes := [lane], origin := default } : Scheduler).start.1.advanceTo 100).2
  (entries.filterMap fun entry =>
    match entry.effect with
    | .reported status _ => some (entry.time, status)
    | _ => none,
   entries.filterMap fun entry =>
    match entry.effect with
    | .ended .loop result => some result
    | _ => none)

end Liveness.Scheduler
