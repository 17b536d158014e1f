import Liveness.Proofs.Scheduler.Provenance
import Liveness.Proofs.Scheduler.Reporting

/-!
Stops that take their time. A stop cancels every loop, waits for all of them, and then closes the
pools and the checks. A cancelled loop ends where it waits, unless the outcome of its check arrives
first: then the cancellation is lost, and the loop ends when it finds that the scheduler no longer
runs. A stop that has returned is final (`Stopping.stop_final`).
-/

namespace Liveness.Scheduler

def looping (scheduler : Scheduler) : List String :=
  (scheduler.lanes.filter fun lane => (lane.phase? .loop).isSome).map (·.probe.name)

def Lane.opened (lane : Lane) (now : Rat) (runner : Runner) : Lane × List Effect :=
  ((lane.startCheck now).setPhase runner (.checking lane.calls (some now)),
    [.began runner, .checkStarted lane.calls])

/-- A scheduler whose stops take their time. -/
structure Stopping where
  scheduler : Scheduler
  history : List Turn := []
  entries : List Entry := []
  cancelled : List String := []
  stops : List (List String) := []

namespace Stopping

inductive Act where
  | move (next : Move)
  | opens (name : String) (runner : Runner)
  | interrupt (names : List String)
  | yields (name : String)
  | returns (place : Nat)
  | abandons (place : Nat)

def Act.isStart : Act → Bool
  | .move .start => true
  | _ => false

def move (stopping : Stopping) (next : Move) : Stopping :=
  let (scheduler, turns) := stopping.scheduler.move next
  { stopping with scheduler, history := stopping.history ++ turns }

def call (stopping : Stopping) : Stopping :=
  { stopping with
    scheduler := { stopping.scheduler with running := false }
    cancelled := stopping.cancelled ++ stopping.scheduler.looping
    stops := stopping.stops ++ [stopping.scheduler.looping] }

def uncancel (stopping : Stopping) (name : String) : Stopping :=
  { stopping with cancelled := stopping.cancelled.filter (· ≠ name) }

def endLoops (stopping : Stopping) (names : List String) : Stopping :=
  { stopping with
    scheduler := { stopping.scheduler with
      lanes := stopping.scheduler.lanes.map fun lane =>
        if lane.probe.name ∈ names then lane.remove .loop else lane }
    cancelled := stopping.cancelled.filter (· ∉ names) }

/-- An event of a loop. A cancelled loop takes in nothing but the outcome of a check that has a
timeout. A loop about to begin an iteration ends when the scheduler does not run. -/
def fireLoop (stopping : Stopping) (lane : Lane) (event : Event) : Stopping :=
  let next := Move.fire lane.probe.name event
  if lane.probe.name ∈ stopping.cancelled then
    -- a wait with a timeout that finds its check ended forgets the cancellation
    match event, lane.probe.timeout with
    | .checkEnds _, some _ => (stopping.move next).uncancel lane.probe.name
    | _, _ => stopping
  else match event, stopping.scheduler.running with
    | .begins _, false =>
      if (lane.phase? .loop).any Phase.IsIdle then stopping.endLoops [lane.probe.name] else stopping
    | _, _ => stopping.move next

def fire (stopping : Stopping) (name : String) (event : Event) : Stopping :=
  match stopping.scheduler.lanes.find? (·.probe.name = name) with
  | none => stopping
  | some lane =>
    if lane.actor? event = some .loop then stopping.fireLoop lane event
    else stopping.move (.fire name event)

def mayOpen (stopping : Stopping) (lane : Lane) (runner : Runner) : Bool :=
  !stopping.scheduler.closed && !lane.isBusy && (lane.phase? runner).any Phase.IsIdle &&
    lane.probe.timeout.any (· ≤ 0) &&
    (runner ≠ .loop || stopping.scheduler.running && lane.probe.name ∉ stopping.cancelled)

def opens (stopping : Stopping) (name : String) (runner : Runner) : Stopping :=
  match stopping.scheduler.lanes.find? (·.probe.name = name) with
  | none => stopping
  | some lane =>
    if stopping.mayOpen lane runner then
      let (after, effects) := lane.opened stopping.scheduler.now runner
      { stopping with
        scheduler := { stopping.scheduler with
          lanes := replaceLane stopping.scheduler.lanes after }
        history := stopping.history ++ [lane.turn (.begins runner) effects] }
    else stopping

def mayReturn (stopping : Stopping) (place : Nat) : Bool :=
  (stopping.stops[place]?).any fun names => names.all (· ∉ stopping.scheduler.looping)

def step (stopping : Stopping) : Act → Stopping
  | .move .stop => stopping.call
  | .move (.fire name event) => stopping.fire name event
  | .move next => stopping.move next
  | .opens name runner => stopping.opens name runner
  | .interrupt names =>
    { stopping with
      cancelled := stopping.cancelled ++ stopping.scheduler.looping.filter (· ∈ names) }
  | .yields name => if name ∈ stopping.cancelled then stopping.endLoops [name] else stopping
  | .returns place =>
    if stopping.mayReturn place then
      { stopping with
        scheduler := { stopping.scheduler with closed := true }
        entries := stopping.entries ++ stopping.scheduler.stop.2
        stops := stopping.stops.eraseIdx place }
    else stopping
  | .abandons place =>
    if stopping.mayReturn place then { stopping with stops := stopping.stops.eraseIdx place }
    else stopping

def run (scheduler : Scheduler) (acts : List Act) : Stopping := acts.foldl step { scheduler }

theorem run_append (scheduler : Scheduler) (acts later : List Act) :
    run scheduler (acts ++ later) = later.foldl step (run scheduler acts) :=
  List.foldl_append

end Stopping

/-! ## Effects of an event -/

def Effect.isWork : Effect → Bool
  | .checkStarted _ | .reported _ _ => true
  | _ => false

namespace Lane

variable {lane : Lane} {closed : Bool} {now : Rat} {event : Event} {runner : Runner}
  {result : Lane × List Effect} {effects : List Effect}

theorem Fires.event_of_began (fires : Fires lane closed now event result)
    (began : .began runner ∈ result.2) : event = .begins runner := by
  obtain ⟨actor, effects, rfl, told, quiet⟩ :=
    fires.exists_beginning (List.any_eq_true.2 ⟨_, began, rfl⟩)
  rw [told] at began
  rcases List.mem_cons.1 began with same | member
  · rw [Effect.began.inj same]
  · exact absurd rfl (List.any_eq_false.1 quiet _ member)

theorem OnlyLogs.any_isWork {logs : List Effect} (logged : OnlyLogs logs) :
    logs.any Effect.isWork = false := logged.any_eq_false fun _ => rfl

theorem any_isWork_abort (lane : Lane) (now : Rat) (runner : Runner) (failure : Failure) :
    (lane.abort now runner failure).2.any Effect.isWork = false := by
  obtain ⟨logs, effects, logged⟩ := lane.abort_effects now runner failure
  rw [effects]
  exact logged.any_isWork

theorem any_isWork_conclude (lane : Lane) (now : Rat) (runner : Runner)
    (outcome : Except Failure Verdict) :
    (lane.conclude true now runner outcome).2.any Effect.isWork = false := by
  rw [conclude]
  split
  next => rfl
  next => exact any_isWork_abort ..

theorem Fires.any_isWork (fires : Fires lane true now event result) :
    result.2.any Effect.isWork = false := by
  cases fires with
  | nothing => rfl
  | busy rests busy reports =>
      subst reports
      rfl
  | @refused runner result rests idle stopped aborts =>
      subst aborts
      exact any_isWork_abort lane now runner poolsClosed
  | started rests idle opened bounded => cases opened
  | unwaited rests idle opened timeout reports => cases opened
  | lost runs lost unheard => rfl
  | late runs unheard unawaited logged => exact logged.any_isWork
  | returned runs heard awaited logged concludes =>
      subst concludes
      rw [List.cons_append, List.any_cons, List.any_append, logged.any_isWork,
        any_isWork_conclude]
      rfl
  | expired waits timeout reports =>
      subst reports
      rfl
  | reported waits logged =>
      rw [List.any_append, logged.any_isWork]
      rfl
  | withdrawn waits cancels => rfl

end Lane

def Turn.works (turn : Turn) : Bool := turn.effects.any Effect.isWork

/-! ## What a stop closes -/

def Entry.closing? (entry : Entry) : Option String :=
  match entry.effect with
  | .closed => entry.probe
  | _ => none

def Lane.plan (lane : Lane) : Probe × Script := (lane.probe, lane.script)

def Closer.isCall : Closer → Bool
  | .absent => false
  | .call _ => true

def closable (lanes : List Lane) : List String :=
  (lanes.filter fun lane => lane.script.closer.isCall).map (·.probe.name)

theorem filterMap_closing?_closeLane (now : Rat) (lane : Lane) :
    (closeLane now lane).filterMap Entry.closing? = closable [lane] := by
  rw [closeLane, closable, List.filter_singleton]
  cases lane.script.closer with
  | absent => rfl
  | call fault => cases fault <;> rfl

theorem filterMap_closing?_stop (scheduler : Scheduler) :
    scheduler.stop.2.filterMap Entry.closing? = closable scheduler.lanes := by
  have own : [scheduler.ownLog stoppedLog].filterMap Entry.closing? = [] := rfl
  rw [stop, List.filterMap_append, own, List.append_nil]
  induction scheduler.lanes with
  | nil => rfl
  | cons lane lanes ih =>
      rw [List.flatMap_cons, List.filterMap_append, filterMap_closing?_closeLane, ih, closable,
        closable, closable, ← List.map_append, ← List.filter_append, List.singleton_append]

theorem closable_eq_of_plan {lanes lanes' : List Lane}
    (same : lanes.map Lane.plan = lanes'.map Lane.plan) : closable lanes = closable lanes' := by
  have read (lanes : List Lane) : closable lanes =
      ((lanes.map Lane.plan).filter fun entry => entry.2.closer.isCall).map (·.1.name) := by
    rw [List.filter_map, List.map_map]
    rfl
  rw [read, read, same]

theorem names_eq_of_plan {scheduler after : Scheduler}
    (same : after.lanes.map Lane.plan = scheduler.lanes.map Lane.plan) :
    after.names = scheduler.names := by
  have read := congrArg (List.map fun entry => entry.1.name) same
  rwa [List.map_map, List.map_map] at read

/-! ## What an act does -/

theorem Lane.phase?_add_of_ne {lane : Lane} {runner other : Runner} {phase : Phase}
    (different : other ≠ runner) : (lane.add runner phase).phase? other = lane.phase? other := by
  rw [phase?, phase?, add, List.lookup_append, List.lookup_cons, beq_false_of_ne different,
    List.lookup_nil, Option.or_none]

theorem Lane.loop_of_remove {lane : Lane} {runner : Runner}
    (present : ((lane.remove runner).phase? .loop).isSome) : (lane.phase? .loop).isSome := by
  rw [phase?_remove] at present
  split at present
  next => cases present
  next => exact present

theorem mem_looping {scheduler : Scheduler} {name : String} : name ∈ scheduler.looping ↔
    ∃ lane ∈ scheduler.lanes, (lane.phase? .loop).isSome ∧ lane.probe.name = name := by
  simp [looping, and_assoc]

namespace Stopping

inductive Passes (stopping : Stopping) (act : Act) (after : Stopping) : Prop
  | shifts {change : Lane → Lane}
    (lanes : after.scheduler.lanes = stopping.scheduler.lanes.map change)
    (history : after.history = stopping.history)
    (each : ∀ lane, (change lane).probe = lane.probe ∧ (change lane).script = lane.script)
    (loops : act ≠ .move .start →
      ∀ lane, ((change lane).phase? .loop).isSome → (lane.phase? .loop).isSome)
  | fires {lane : Lane} {event : Event} {result : Lane × List Effect}
    (listed : lane ∈ stopping.scheduler.lanes)
    (fires : Lane.Fires lane stopping.scheduler.closed stopping.scheduler.now event result)
    (lanes : after.scheduler.lanes = replaceLane stopping.scheduler.lanes result.1)
    (history : after.history = stopping.history ++ [lane.turn event result.2])
    (runs : event = .begins .loop → stopping.scheduler.running = true)

structure Does (stopping : Stopping) (act : Act) (after : Stopping) : Prop where
  closed : stopping.scheduler.closed = true → after.scheduler.closed = true
  running : after.scheduler.running = true →
    stopping.scheduler.running = true ∨ act = .move .start
  stops : ∀ names ∈ after.stops,
    names ∈ stopping.stops ∨ act = .move .stop ∧ names = stopping.scheduler.looping
  passes : Passes stopping act after

variable {stopping : Stopping} {act : Act} {after : Stopping} {name : String} {lane : Lane}
  {event : Event}

theorem passes_same (lanes : after.scheduler.lanes = stopping.scheduler.lanes)
    (history : after.history = stopping.history) : Passes stopping act after :=
  .shifts (lanes.trans (List.map_id _).symm) history (fun _ => ⟨rfl, rfl⟩) fun _ _ => id

theorem does_nothing (stopping : Stopping) (act : Act) : Does stopping act stopping :=
  ⟨id, .inl, fun _ => .inl, passes_same rfl rfl⟩

theorem Does.uncancel (does : Does stopping act after) :
    Does stopping act (after.uncancel name) := by
  refine ⟨does.closed, does.running, does.stops, ?_⟩
  cases does.passes with
  | shifts lanes history each loops => exact .shifts lanes history each loops
  | fires listed fires lanes history runs => exact .fires listed fires lanes history runs

theorem does_endLoops (stopping : Stopping) (act : Act) (names : List String) :
    Does stopping act (stopping.endLoops names) := by
  refine ⟨id, .inl, fun _ => .inl, .shifts rfl rfl (fun lane => ?_) fun _ lane present => ?_⟩
  · split <;> exact ⟨rfl, rfl⟩
  · split at present
    next => exact Lane.loop_of_remove present
    next => exact present

theorem move_passes {next : Move} (stops : next ≠ .stop)
    (fires : ∀ name event, next ≠ .fire name event) :
    Passes stopping (.move next) (stopping.move next) := by
  have history : (stopping.move next).history = stopping.history := by
    cases next with
    | fire name event => exact absurd rfl (fires name event)
    | _ => exact List.append_nil _
  cases next with
  | start =>
      cases runs : stopping.scheduler.running with
      | true =>
          refine passes_same ?_ history
          rw [Stopping.move, Scheduler.move, start, runs]
          rfl
      | false =>
          have lanes : (stopping.move .start).scheduler.lanes = stopping.scheduler.lanes.map
              fun lane => lane.add .loop (.queued stopping.scheduler.now) := by
            rw [Stopping.move, Scheduler.move, start, runs]
            rfl
          exact .shifts lanes history (fun _ => ⟨rfl, rfl⟩) fun unstarted => absurd rfl unstarted
  | stop => exact absurd rfl stops
  | elapse now => exact passes_same rfl history
  | trigger names =>
      refine .shifts rfl history (fun lane => ?_) fun _ lane present => ?_
      · split <;> exact ⟨rfl, rfl⟩
      · split at present
        next => rwa [Lane.phase?_add_of_ne (by simp)] at present
        next => exact present
  | cancel name ticket =>
      refine .shifts rfl history (fun lane => ?_) fun _ lane present => ?_
      · split <;> exact ⟨rfl, rfl⟩
      · split at present
        next => exact Lane.loop_of_remove present
        next => exact present
  | fire name event => exact absurd rfl (fires name event)

theorem fire_passes (found : stopping.scheduler.lanes.find? (·.probe.name = name) = some lane)
    (runs : event = .begins .loop → stopping.scheduler.running = true) :
    Passes stopping (.move (.fire name event)) (stopping.move (.fire name event)) := by
  have fires := lane.fire_fires stopping.scheduler.closed stopping.scheduler.now event
  refine .fires (List.mem_of_find?_eq_some found) fires ?_ ?_ runs
  · rw [Stopping.move, Scheduler.move, found]
  · rw [Stopping.move, Scheduler.move, found]
    rfl

theorem does_move {next : Move} (stops : next ≠ .stop)
    (passes : Passes stopping (.move next) (stopping.move next)) :
    Does stopping (.move next) (stopping.move next) where
  closed was := (closed_move stops).trans was
  running runs := ((running_move stops).1 runs).imp id fun same => by rw [same]
  stops _ := .inl
  passes := passes

theorem does_fireLoop (found : stopping.scheduler.lanes.find? (·.probe.name = name) = some lane) :
    Does stopping (.move (.fire name event)) (stopping.fireLoop lane event) := by
  obtain rfl : lane.probe.name = name := by simpa using List.find?_some found
  have does (runs : event = .begins .loop → stopping.scheduler.running = true) :=
    does_move (by simp) (fire_passes found runs)
  unfold fireLoop
  split
  next =>
      split
      next => exact (does nofun).uncancel
      next => exact does_nothing ..
  next =>
      split
      next =>
          split
          next => exact does_endLoops ..
          next => exact does_nothing ..
      next event' running' onward =>
          -- no other case is left for a beginning but that of a scheduler that runs
          refine does fun begins => ?_
          subst begins
          cases runs : stopping.scheduler.running with
          | true => rfl
          | false => exact (onward _ rfl runs).elim

theorem does_fire (stopping : Stopping) (name : String) (event : Event) :
    Does stopping (.move (.fire name event)) (stopping.fire name event) := by
  rw [Stopping.fire]
  split
  next => exact does_nothing ..
  next lane found =>
      split
      next => exact does_fireLoop found
      next other =>
          refine does_move (by simp) (fire_passes found ?_)
          rintro rfl
          exact absurd rfl other

theorem does_opens (stopping : Stopping) (name : String) (runner : Runner) :
    Does stopping (.opens name runner) (stopping.opens name runner) := by
  rw [opens]
  split
  next => exact does_nothing ..
  next lane found =>
      split
      next may =>
          simp only [mayOpen, Bool.and_eq_true, Bool.not_eq_true', Bool.or_eq_true,
            Option.any_eq_true, decide_eq_true_eq] at may
          obtain ⟨⟨⟨⟨opened, idle⟩, rests⟩, -⟩, runs⟩ := may
          have fires : Lane.Fires lane stopping.scheduler.closed stopping.scheduler.now
              (.begins runner) (lane.opened stopping.scheduler.now runner) :=
            .started rests idle opened nofun
          refine ⟨id, .inl, fun _ => .inl,
            .fires (List.mem_of_find?_eq_some found) fires rfl rfl fun begins => ?_⟩
          exact (runs.resolve_left (not_not.2 (Event.begins.inj begins))).1
      next => exact does_nothing ..

theorem step_does (stopping : Stopping) (act : Act) : Does stopping act (stopping.step act) := by
  cases act with
  | move next =>
      cases next with
      | stop =>
          refine ⟨id, nofun, fun names member => ?_, passes_same rfl rfl⟩
          exact (List.mem_append.1 member).imp id fun last => ⟨rfl, List.mem_singleton.1 last⟩
      | fire name event => exact does_fire stopping name event
      | _ => exact does_move (by simp) (move_passes (by simp) (by simp))
  | opens name runner => exact does_opens stopping name runner
  | interrupt names => exact ⟨id, .inl, fun _ => .inl, passes_same rfl rfl⟩
  | yields name =>
      rw [step]
      split
      next => exact does_endLoops ..
      next => exact does_nothing ..
  | returns place =>
      rw [step]
      split
      next =>
          exact ⟨fun _ => rfl, .inl, fun _ member => .inl (List.mem_of_mem_eraseIdx member),
            passes_same rfl rfl⟩
      next => exact does_nothing ..
  | abandons place =>
      rw [step]
      split
      next =>
          exact ⟨id, .inl, fun _ member => .inl (List.mem_of_mem_eraseIdx member),
            passes_same rfl rfl⟩
      next => exact does_nothing ..

/-! ## Stops and their loops -/

theorem Does.looping (does : Does stopping act after) (unstarted : act ≠ .move .start) :
    after.scheduler.looping ⊆ stopping.scheduler.looping := by
  intro name member
  obtain ⟨lane, listed, present, named⟩ := mem_looping.1 member
  cases does.passes with
  | shifts lanes history each loops =>
      rw [lanes] at listed
      obtain ⟨old, listed', rfl⟩ := List.mem_map.1 listed
      exact mem_looping.2 ⟨old, listed', loops unstarted old present, (each old).1 ▸ named⟩
  | @fires actor event result listed' fires lanes history runs =>
      rw [lanes] at listed
      rcases mem_replaceLane listed with rfl | ⟨old, -⟩
      · exact mem_looping.2
          ⟨actor, listed', fires.keeps.present present, fires.keeps.probe ▸ named⟩
      · exact mem_looping.2 ⟨lane, old, present, named⟩

def IsAwaited (stopping : Stopping) : Prop :=
  ∀ names ∈ stopping.stops, stopping.scheduler.looping ⊆ names

theorem IsAwaited.step (awaited : stopping.IsAwaited)
    (apart : act = .move .start → stopping.stops = []) : (stopping.step act).IsAwaited := by
  have does := step_does stopping act
  intro names member
  rcases does.stops names member with old | ⟨rfl, rfl⟩
  · -- a stop in progress keeps the scheduler from being started, and nothing else brings loops
    have unstarted : act ≠ .move .start := fun starts => by
      rw [apart starts] at old
      cases old
    exact List.Subset.trans (does.looping unstarted) (awaited names old)
  · exact does.looping (by simp)

/-- Nobody starts the scheduler while a stop is in progress. -/
def StartsApart (scheduler : Scheduler) (acts : List Act) : Prop :=
  ∀ earlier later : List Act, acts = earlier ++ Act.move .start :: later →
    (run scheduler earlier).stops = []

theorem isAwaited_run {scheduler : Scheduler} {acts : List Act}
    (apart : StartsApart scheduler acts) : (run scheduler acts).IsAwaited := by
  induction acts using List.reverseRecOn with
  | nil => nofun
  | append_singleton acts act ih =>
      have before : StartsApart scheduler acts := by
        rintro earlier later rfl
        exact apart earlier (later ++ [act]) (by simp)
      rw [run_append]
      refine (ih before).step ?_
      rintro rfl
      exact apart acts [] rfl

theorem IsAwaited.loops_ended {place : Nat} (awaited : stopping.IsAwaited)
    (may : stopping.mayReturn place = true) {lane : Lane}
    (listed : lane ∈ stopping.scheduler.lanes) : lane.phase? .loop = none := by
  obtain ⟨names, found, ended⟩ := (Option.any_eq_true ..).1 may
  rw [← Option.not_isSome_iff_eq_none]
  intro present
  have waits := mem_looping.2 ⟨lane, listed, present, rfl⟩
  have member := awaited names (List.mem_of_getElem? found) waits
  exact absurd waits (of_decide_eq_true (List.all_eq_true.1 ended _ member))

theorem Does.map_plan (does : Does stopping act after)
    (distinct : stopping.scheduler.names.Nodup) :
    after.scheduler.lanes.map Lane.plan = stopping.scheduler.lanes.map Lane.plan := by
  cases does.passes with
  | shifts lanes history each loops =>
      rw [lanes, List.map_map]
      exact List.map_congr_left fun lane _ => Prod.ext (each lane).1 (each lane).2
  | @fires actor event result listed fires lanes history runs =>
      rw [lanes, replaceLane, List.map_map]
      apply List.map_congr_left
      intro other listed'
      rw [Function.comp_apply]
      split
      next same =>
          rw [fires.keeps.probe] at same
          rw [List.inj_on_of_nodup_map distinct listed' listed same]
          exact Prod.ext fires.keeps.probe fires.keeps.script
      next => rfl

theorem map_plan_run {scheduler : Scheduler} (distinct : scheduler.names.Nodup) (acts : List Act) :
    (run scheduler acts).scheduler.lanes.map Lane.plan = scheduler.lanes.map Lane.plan := by
  induction acts using List.reverseRecOn with
  | nil => rfl
  | append_singleton acts act ih =>
      have distinct' : (run scheduler acts).scheduler.names.Nodup := by
        rwa [names_eq_of_plan ih]
      rw [run_append]
      exact ((step_does _ act).map_plan distinct').trans ih

/-! ## What is told from a stop on -/

def Tells (kind : Turn → Prop) (stopping after : Stopping) : Prop :=
  ∃ turns, after.history = stopping.history ++ turns ∧ ∀ turn ∈ turns, kind turn

variable {kind : Turn → Prop}

theorem tells_refl (stopping : Stopping) : Tells kind stopping stopping :=
  ⟨[], (List.append_nil _).symm, nofun⟩

theorem Tells.trans {later : Stopping} (tells : Tells kind stopping after)
    (tells' : Tells kind after later) : Tells kind stopping later := by
  obtain ⟨turns, told, each⟩ := tells
  obtain ⟨turns', told', each'⟩ := tells'
  refine ⟨turns ++ turns', ?_, List.forall_mem_append.2 ⟨each, each'⟩⟩
  rw [told', told, List.append_assoc]

theorem Does.tells (does : Does stopping act after)
    (fires : ∀ {lane : Lane} {event : Event} {result : Lane × List Effect},
      Lane.Fires lane stopping.scheduler.closed stopping.scheduler.now event result →
        (event = .begins .loop → stopping.scheduler.running = true) →
          kind (lane.turn event result.2)) : Tells kind stopping after := by
  cases does.passes with
  | shifts lanes history each loops => exact ⟨[], by rw [history, List.append_nil], nofun⟩
  | fires listed fired lanes history runs =>
      exact ⟨_, history, List.forall_mem_singleton.2 (fires fired runs)⟩

theorem tells_of_not_running (acts : List Act) (stopped : stopping.scheduler.running = false)
    (unstarted : .move .start ∉ acts) :
    Tells (fun turn => .began .loop ∉ turn.effects) stopping (acts.foldl step stopping) := by
  induction acts generalizing stopping with
  | nil => exact tells_refl stopping
  | cons act acts ih =>
      rw [List.mem_cons, not_or] at unstarted
      have does := step_does stopping act
      have stopped' : (stopping.step act).scheduler.running = false := by
        rw [← Bool.not_eq_true]
        intro runs
        rcases does.running runs with was | starts
        · rw [stopped] at was
          cases was
        · exact unstarted.1 starts.symm
      refine (does.tells fun fires runs began => ?_).trans (ih stopped' unstarted.2)
      have runs := runs (fires.event_of_began began)
      rw [stopped] at runs
      cases runs

theorem tells_of_closed (acts : List Act) (closed : stopping.scheduler.closed = true) :
    Tells (fun turn => turn.works = false) stopping (acts.foldl step stopping) := by
  induction acts generalizing stopping with
  | nil => exact tells_refl stopping
  | cons act acts ih =>
      have does := step_does stopping act
      refine (does.tells fun fires _ => ?_).trans (ih (does.closed closed))
      rw [closed] at fires
      exact fires.any_isWork

/-- A stop that returns leaves no loop, has closed every check that can be closed, once and in
order, and from then on no check is started and no report handed over. -/
structure IsFinal (lanes : List Lane) (stopping returned after : Stopping) : Prop where
  ended : ∀ lane ∈ returned.scheduler.lanes, lane.phase? .loop = none
  closes : ∃ entries, returned.entries = stopping.entries ++ entries ∧
    entries.filterMap Entry.closing? = closable lanes
  once : (closable lanes).Nodup
  quiet : Tells (fun turn => turn.works = false) returned after

theorem stop_final {lanes : List Lane} {origin : Time.Instant} {reporter : Store.Reporter}
    {scheduler : Scheduler} (made : ofLanes lanes origin reporter = .ok scheduler)
    {acts : List Act} (apart : StartsApart scheduler acts) :
    (∀ earlier later : List Act, acts = earlier ++ Act.move .stop :: later →
      Act.move .start ∉ later → Tells (fun turn => .began .loop ∉ turn.effects)
        (run scheduler earlier) (run scheduler acts)) ∧
    ∀ (earlier later : List Act) (place : Nat), acts = earlier ++ Act.returns place :: later →
      (run scheduler earlier).mayReturn place = true →
        IsFinal lanes (run scheduler earlier) (run scheduler (earlier ++ [Act.returns place]))
          (run scheduler acts) := by
  obtain ⟨distinct, same⟩ := ofLanes_eq_ok made
  have listed : scheduler.lanes = lanes := by rw [same]
  have distinct' : scheduler.names.Nodup := by rwa [names, listed]
  constructor
  · rintro earlier later rfl unstarted
    have stopped : (run scheduler earlier).call.scheduler.running = false := rfl
    rw [run_append]
    exact tells_of_not_running later stopped unstarted
  · rintro earlier later place rfl may
    have apart' : StartsApart scheduler earlier := by
      rintro earlier' later' rfl
      exact apart earlier' (later' ++ .returns place :: later) (by simp)
    have awaited := isAwaited_run apart'
    have plan := map_plan_run distinct' earlier
    rw [run_append, run_append]
    generalize run scheduler earlier = stopping at awaited plan may ⊢
    have returned : stopping.step (.returns place) =
        { stopping with
          scheduler := { stopping.scheduler with closed := true }
          entries := stopping.entries ++ stopping.scheduler.stop.2
          stops := stopping.stops.eraseIdx place } := if_pos may
    refine ⟨?_, ⟨stopping.scheduler.stop.2, ?_, ?_⟩, ?_, ?_⟩
    · intro lane member
      rw [List.foldl_cons, List.foldl_nil, returned] at member
      exact awaited.loops_ended may member
    · rw [List.foldl_cons, List.foldl_nil, returned]
    · rw [filterMap_closing?_stop, closable_eq_of_plan plan, listed]
    · exact distinct.sublist (List.filter_sublist.map _)
    · rw [List.foldl_cons, List.foldl_nil, List.foldl_cons]
      exact tells_of_closed later (by rw [returned])

theorem startsApart_of_take {scheduler : Scheduler} {acts : List Act}
    (apart : ∀ n < acts.length, (acts[n]?).any Act.isStart = true →
      (run scheduler (acts.take n)).stops = []) : StartsApart scheduler acts := by
  rintro earlier later rfl
  have starts := apart earlier.length (by simp) (by simp [Act.isStart])
  rwa [List.take_left] at starts

def closingLanes : List Lane :=
  [{ probe := { name := "cache", timeout := some 5 }
     script := { check := fun _ => { delay := some 2 }
                 closer := .call (some (.of .runtime "already closed")) } },
    { probe := { name := "web" }, script := { check := fun _ => { delay := none } } },
    { probe := { name := "clock", timeout := some 0 }
      script := { check := fun _ => {}, closer := .call none } }]

def closingScheduler : Scheduler := { lanes := closingLanes, origin := default }

def untilStop : List Act :=
  [.move .start, .move (.fire "cache" (.begins .loop)), .move (.fire "web" (.begins .loop)),
    .opens "clock" .loop, .move (.elapse 2)]

def untilReturn : List Act :=
  untilStop ++ .move .stop :: [.move (.fire "cache" (.checkEnds 0)), .yields "web",
    .yields "clock", .move (.fire "cache" (.reportEnds .loop)), .move (.elapse 62),
    .move (.fire "cache" (.begins .loop))]

def closingActs : List Act :=
  untilReturn ++ .returns 0 :: [.move .start, .move (.fire "cache" (.begins .loop)),
    .move (.trigger ["web"]), .move (.fire "web" (.begins (.trigger 0)))]

theorem stop_final_closingLanes :
    ofLanes closingLanes default {} = .ok closingScheduler ∧
      StartsApart closingScheduler untilReturn ∧ StartsApart closingScheduler closingActs ∧
      Tells (fun turn => .began .loop ∉ turn.effects) (run closingScheduler untilStop)
        (run closingScheduler untilReturn) ∧
      (run closingScheduler untilReturn).mayReturn 0 = true ∧
      IsFinal closingLanes (run closingScheduler untilReturn)
        (run closingScheduler (untilReturn ++ [.returns 0])) (run closingScheduler closingActs) ∧
      closable closingLanes = ["cache", "clock"] ∧
      (run closingScheduler closingActs).history.map Turn.works =
        [true, true, true, true, false, false, false] := by
  have made : ofLanes closingLanes default {} = .ok closingScheduler := by cbv
  have apart : StartsApart closingScheduler untilReturn := startsApart_of_take (by decide +kernel)
  have apart' : StartsApart closingScheduler closingActs := startsApart_of_take (by decide +kernel)
  have returns : (run closingScheduler untilReturn).mayReturn 0 = true := by decide +kernel
  have unstarted : ∀ act ∈ untilReturn.drop 6, act.isStart = false := by decide
  refine ⟨made, apart, apart', (stop_final made apart).1 untilStop _ rfl ?_, returns,
    (stop_final made apart').2 untilReturn _ 0 rfl returns, by decide +kernel, by decide +kernel⟩
  intro started
  cases unstarted _ started

end Stopping

end Liveness.Scheduler
