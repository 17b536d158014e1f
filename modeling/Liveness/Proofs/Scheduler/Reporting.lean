import Liveness.Proofs.Scheduler.Courses
import Liveness.Proofs.Store.Log

namespace Liveness.Scheduler

open Store (StatusStore)
open Time (Instant Moment)

def Effect.handed? : Effect → Option (String × Bool)
  | .reported status accepted => some (status, accepted)
  | _ => none

/-- A report in the hands of a worker. -/
structure Report where
  name : String
  status : String
  accepted : Bool
  reading : Option Moment := none

def Turn.reports (turn : Turn) : List Report :=
  (turn.effects.filterMap Effect.handed?).map fun (status, accepted) =>
    { name := turn.probe.name, status, accepted }

/-- The end of a report comes to the scheduler only when no worker has the report any more. -/
def Move.isHeld (underWay : List Report) : Move → Bool
  | .fire name (.reportEnds _) => underWay.any (·.name = name)
  | _ => false

/-- A scheduler, the reports that are under way, and the store where they leave their rows. -/
structure Reporting where
  scheduler : Scheduler
  history : List Turn := []
  underWay : List Report := []
  store : StatusStore := {}

inductive Act where
  | move (next : Move)
  | read (name : String) (reading : Moment)
  | finish (name : String)

namespace Reporting

def move (reporting : Reporting) (next : Move) : Reporting :=
  let (scheduler, turns) := reporting.scheduler.move next
  { reporting with
    scheduler
    history := reporting.history ++ turns
    underWay := reporting.underWay ++ turns.flatMap Turn.reports }

def read (reporting : Reporting) (name : String) (reading : Moment) : Reporting :=
  { reporting with
    underWay := reporting.underWay.map fun report =>
      if report.name = name ∧ report.reading = none then { report with reading := some reading }
      else report }

def without (reporting : Reporting) (name : String) : Reporting :=
  { reporting with underWay := reporting.underWay.filter (·.name ≠ name) }

def file (reporting : Reporting) (report : Report) (reading : Moment) : Reporting :=
  let submission := reporting.scheduler.reporter.submission (some report.name) (some report.status)
    reading .null
  { reporting with store := (reporting.store.step (.insert submission)).2 }

/-- The row is the one that the program appends for a report in virtual time. -/
theorem store_file (reporting : Reporting) (report : Report) {time : Rat} {t : Instant}
    (stamped : instantAfter reporting.scheduler.origin time = .ok t) :
    (reporting.file report (.ofInstant t)).store =
      ({ reporting.scheduler with store := reporting.store }.recordReport
        ⟨time, some report.name, .reported report.status true⟩).store := by
  simp only [file, StatusStore.step_insert_eq, recordReport, stamped]
  cases reporting.store.insert (reporting.scheduler.reporter.submission (some report.name)
    (some report.status) (.ofInstant t) .null) <;> rfl

/-- A report that fails leaves no row, and one that does not has read the clock before its end. -/
def finish (reporting : Reporting) (name : String) : Reporting :=
  match reporting.underWay.find? (·.name = name) with
  | none => reporting
  | some report =>
    if report.accepted then
      match report.reading with
      | none => reporting
      | some reading => (reporting.without name).file report reading
    else reporting.without name

def step (reporting : Reporting) : Act → Reporting
  | .move next => if next.isHeld reporting.underWay then reporting else reporting.move next
  | .read name reading => reporting.read name reading
  | .finish name => reporting.finish name

def run (scheduler : Scheduler) (acts : List Act) : Reporting := acts.foldl step { scheduler }

theorem run_concat (scheduler : Scheduler) (acts : List Act) (act : Act) :
    run scheduler (acts ++ [act]) = (run scheduler acts).step act :=
  List.foldl_concat ..

end Reporting

/-! ## Reports of a lane -/

namespace Lane

variable {lane : Lane} {closed : Bool} {now : Rat} {event : Event} {runner : Runner}
  {result : Lane × List Effect}

def IsReporting (lane : Lane) (runner : Runner) : Prop :=
  ∃ verdict fault ends, lane.phase? runner = some (.reporting verdict fault ends)

theorem IsReporting.not_rests (reporting : lane.IsReporting runner) : ¬ lane.Rests runner := by
  rintro ⟨phase, waits, idle⟩
  obtain ⟨verdict, fault, ends, reports⟩ := reporting
  rw [reports] at waits
  cases waits
  cases idle

theorem IsReporting.ne_checking (reporting : lane.IsReporting runner) {call : Nat}
    {deadline : Option Rat} : lane.phase? runner ≠ some (.checking call deadline) := by
  obtain ⟨verdict, fault, ends, reports⟩ := reporting
  rw [reports]
  nofun

theorem OnlyLogs.filterMap_handed? {logs : List Effect} (logged : OnlyLogs logs) :
    logs.filterMap Effect.handed? = [] := by
  rw [List.filterMap_eq_nil_iff]
  intro effect member
  obtain ⟨entry, rfl⟩ := logged effect member
  rfl

theorem filterMap_handed?_abort (lane : Lane) (now : Rat) (runner : Runner) (failure : Failure) :
    (lane.abort now runner failure).2.filterMap Effect.handed? = [] := by
  obtain ⟨logs, told, logged⟩ := lane.abort_effects now runner failure
  rw [told]
  exact (List.filterMap_cons_none rfl).trans logged.filterMap_handed?

/-- Nothing is handed over, or whoever acts hands one report over, had none under way, and then
waits for this one. -/
def Delivers (lane : Lane) (closed : Bool) (event : Event) (result : Lane × List Effect) : Prop :=
  result.2.filterMap Effect.handed? = [] ∨ ∃ runner status accepted,
    lane.actor? event = some runner ∧ closed = false ∧ ¬ lane.IsReporting runner ∧
      result.1.IsReporting runner ∧ result.2.filterMap Effect.handed? = [(status, accepted)]

theorem delivers_report {working : Lane} (acts : lane.actor? event = some runner)
    (idle : ¬ lane.IsReporting runner) (present : (working.phase? runner).isSome)
    (verdict : Verdict) :
    lane.Delivers closed event (working.report closed now runner verdict) := by
  cases closed with
  | true => exact .inl rfl
  | false =>
      obtain ⟨old, waits⟩ := Option.isSome_iff_exists.1 present
      have waits' : Lane.phase? { working with reports := working.reports + 1 } runner = some old :=
        waits
      refine .inr ⟨runner, verdict.status, _, acts, rfl, idle, ?_, rfl⟩
      simp only [IsReporting, report, Bool.false_eq_true, if_false, phase?_setPhase, if_pos, waits']
      exact ⟨verdict, _, _, rfl⟩

theorem Delivers.after {changed : Lane} {earlier effects : List Effect}
    (delivers : lane.Delivers closed event (changed, effects))
    (quiet : earlier.filterMap Effect.handed? = []) :
    lane.Delivers closed event (changed, earlier ++ effects) := by
  rwa [Delivers, List.filterMap_append, quiet, List.nil_append]

theorem Fires.isReporting (fires : Fires lane closed now event result) (sound : lane.IsSound)
    (reporting : lane.IsReporting runner) (onward : event ≠ .reportEnds runner) :
    result.1.IsReporting runner := by
  by_cases acts : lane.actor? event = some runner
  · have same {other : Runner} (rests : lane.Rests other)
        (acts : some other = some runner) : False :=
      reporting.not_rests (Option.some.inj acts ▸ rests)
    cases fires with
    | nothing => exact reporting
    | busy rests busy reports => exact (same rests acts).elim
    | refused rests idle stopped aborts => exact (same rests acts).elim
    | started rests idle opened bounded => exact (same rests acts).elim
    | unwaited rests idle opened timeout reports => exact (same rests acts).elim
    | lost runs lost unheard => cases unheard.symm.trans acts
    | late runs unheard unawaited logged => cases unheard.symm.trans acts
    | returned runs heard awaited logged concludes =>
        obtain rfl := Option.some.inj (heard.symm.trans acts)
        obtain ⟨deadline, waits⟩ := phase?_of_awaiting? sound.keys awaited
        exact absurd waits reporting.ne_checking
    | expired waits timeout reports =>
        obtain rfl := Option.some.inj acts
        exact absurd waits reporting.ne_checking
    | reported waits logged =>
        obtain rfl := Option.some.inj acts
        exact absurd rfl onward
    | withdrawn waits cancels =>
        obtain rfl := Option.some.inj acts
        exact absurd rfl onward
  · rw [IsReporting, fires.keeps.others runner acts]
    exact reporting

theorem Fires.delivers (fires : Fires lane closed now event result) (sound : lane.IsSound) :
    lane.Delivers closed event result := by
  cases fires with
  | nothing => exact .inl rfl
  | busy rests busy reports =>
      subst reports
      exact delivers_report rfl (fun was => was.not_rests rests) rests.present stillRunning
  | refused rests idle stopped aborts =>
      subst aborts
      exact .inl (filterMap_handed?_abort lane now _ poolsClosed)
  | started rests idle opened bounded => exact .inl rfl
  | @unwaited actor seconds result rests idle opened timeout reports elapsed =>
      subst reports
      have present : ((lane.startCheck now).phase? actor).isSome := rests.present
      exact delivers_report rfl (fun was => was.not_rests rests) present (timedOut seconds)
  | lost runs lost unheard => exact .inl rfl
  | late runs unheard unawaited logged => exact .inl logged.filterMap_handed?
  | @returned check logs actor result runs acts awaited logged concludes =>
      subst concludes
      obtain ⟨deadline, waits⟩ := phase?_of_awaiting? sound.keys awaited
      have present : ((lane.drop check.call).phase? actor).isSome := Works.present ⟨_, waits, rfl⟩
      refine Delivers.after ?_ ((List.filterMap_cons_none rfl).trans logged.filterMap_handed?)
      rw [conclude]
      split
      next verdict _ =>
          exact delivers_report acts (fun was => was.ne_checking waits) present verdict
      next => exact .inl (filterMap_handed?_abort _ now actor _)
  | @expired actor call deadline seconds result waits timeout reports =>
      subst reports
      have present : (lane.phase? actor).isSome := Works.present ⟨_, waits, rfl⟩
      exact delivers_report rfl (fun was => was.ne_checking waits) present (timedOut seconds)
  | reported waits logged => exact Delivers.after (.inl rfl) logged.filterMap_handed?
  | withdrawn waits cancels => exact .inl rfl

end Lane

/-! ## One report of a probe at a time -/

section Waiting

variable {scheduler after : Scheduler} {next : Move} {lane changed : Lane} {report : Report}

theorem mem_replaceLane_self {lanes : List Lane} (listed : lane ∈ lanes)
    (same : changed.probe = lane.probe) : changed ∈ replaceLane lanes changed :=
  List.mem_map.2 ⟨lane, listed, if_pos (by rw [same])⟩

theorem mem_replaceLane_of_ne {lanes : List Lane} (listed : lane ∈ lanes)
    (different : lane.probe.name ≠ changed.probe.name) : lane ∈ replaceLane lanes changed :=
  List.mem_map.2 ⟨lane, listed, if_neg different⟩

theorem Shifts.isReporting {runner : Runner} (shifts : Shifts next lane changed)
    (reporting : lane.IsReporting runner) (stays : next ≠ runner.quits lane.probe.name) :
    changed.IsReporting runner := by
  obtain ⟨verdict, fault, ends, reports⟩ := reporting
  refine ⟨verdict, fault, ends, ?_⟩
  cases shifts with
  | same => exact reports
  | @queues added absent since =>
      rw [lane.phase?_add _ _ _ absent, if_neg, reports]
      rintro rfl
      rw [absent] at reports
      cases reports
  | @quits removed given =>
      rw [lane.phase?_remove, if_neg, reports]
      rintro rfl
      exact stays given

def Report.IsAwaited (scheduler : Scheduler) (report : Report) : Prop :=
  scheduler.closed = true ∨
    ∃ lane ∈ scheduler.lanes, lane.probe.name = report.name ∧ lane.IsReporting .loop

theorem Report.IsAwaited.map {change : Lane → Lane} (awaited : report.IsAwaited scheduler)
    (lanes : after.lanes = scheduler.lanes.map change)
    (closed : after.closed = scheduler.closed ∨ after.closed = true)
    (each : ∀ lane ∈ scheduler.lanes, Shifts next lane (change lane))
    (stops : next = .stop → after.closed = true) : report.IsAwaited after := by
  rcases awaited with was | ⟨lane, listed, named, reporting⟩
  · exact .inl (closed.elim (fun same => same.trans was) id)
  · by_cases stop : next = .stop
    · exact .inl (stops stop)
    · refine .inr ⟨change lane, ?_, ?_, (each lane listed).isReporting reporting stop⟩
      · rw [lanes]
        exact List.mem_map_of_mem listed
      · rw [(each lane listed).keeps.probe, named]

theorem Report.IsAwaited.fire (awaited : report.IsAwaited scheduler) (sound : scheduler.IsSound)
    (listed : lane ∈ scheduler.lanes) {event : Event} {result : Lane × List Effect}
    (fires : Lane.Fires lane scheduler.closed scheduler.now event result)
    (onward : lane.probe.name = report.name → event ≠ .reportEnds .loop) :
    report.IsAwaited { scheduler with lanes := replaceLane scheduler.lanes result.1 } := by
  have probe := fires.keeps.probe
  rcases awaited with was | ⟨other, listed', named, reporting⟩
  · exact .inl was
  · by_cases same : lane.probe.name = report.name
    · obtain rfl := sound.eq_of_name listed listed' (same.trans named.symm)
      refine .inr ⟨result.1, mem_replaceLane_self listed probe, ?_, ?_⟩
      · rw [probe, named]
      · exact fires.isReporting (sound.lanes lane listed) reporting (onward same)
    · refine .inr ⟨other, mem_replaceLane_of_ne listed' ?_, named, reporting⟩
      rw [named, probe]
      exact Ne.symm same

theorem reporter_move (scheduler : Scheduler) (next : Move) :
    (scheduler.move next).1.reporter = scheduler.reporter := by
  cases next with
  | start =>
      rw [Scheduler.move, start]
      split <;> rfl
  | fire name event =>
      rw [Scheduler.move]
      split <;> rfl
  | _ => rfl

end Waiting

namespace Reporting

/-- No probe has two reports under way, and only loops hand reports over. -/
structure Orderly (reporting : Reporting) : Prop where
  sound : reporting.scheduler.IsSound
  untriggered : reporting.scheduler.tickets = 0
  names : (reporting.underWay.map (·.name)).Nodup
  awaited : ∀ report ∈ reporting.underWay, report.IsAwaited reporting.scheduler
  loops : ∀ turn ∈ reporting.history,
    turn.actor = some .loop ∨ turn.effects.filterMap Effect.handed? = []

namespace Orderly

variable {reporting : Reporting} {name : String}

theorem fire (orderly : reporting.Orderly) {lane : Lane} {event : Event}
    {result : Lane × List Effect} (listed : lane ∈ reporting.scheduler.lanes)
    (fires : Lane.Fires lane reporting.scheduler.closed reporting.scheduler.now event result)
    (free : (Move.fire lane.probe.name event).isHeld reporting.underWay = false)
    (sound : Scheduler.IsSound
      { reporting.scheduler with lanes := replaceLane reporting.scheduler.lanes result.1 }) :
    Orderly { reporting with
      scheduler := { reporting.scheduler with
        lanes := replaceLane reporting.scheduler.lanes result.1 }
      history := reporting.history ++ [lane.turn event result.2]
      underWay := reporting.underWay ++ (lane.turn event result.2).reports } := by
  have onward (report : Report) (member : report ∈ reporting.underWay)
      (named : lane.probe.name = report.name) : event ≠ .reportEnds .loop := by
    rintro rfl
    rw [Move.isHeld, List.any_eq_false] at free
    exact free report member (decide_eq_true named.symm)
  have awaited (report : Report) (member : report ∈ reporting.underWay) :=
    (orderly.awaited report member).fire orderly.sound listed fires (onward report member)
  have loops {turn : Turn} (mine : turn.actor = some .loop ∨
      turn.effects.filterMap Effect.handed? = []) : ∀ other ∈ reporting.history ++ [turn],
        other.actor = some .loop ∨ other.effects.filterMap Effect.handed? = [] :=
    List.forall_mem_append.2 ⟨orderly.loops, List.forall_mem_singleton.2 mine⟩
  rcases fires.delivers (orderly.sound.lanes lane listed) with
    none | ⟨runner, status, accepted, acts, opened, idle, reports, told⟩
  · have empty : (lane.turn event result.2).reports = [] := by
      rw [Turn.reports, Lane.turn, none, List.map_nil]
    rw [empty, List.append_nil]
    exact ⟨sound, orderly.untriggered, orderly.names, awaited, loops (.inr none)⟩
  · have present : (result.1.phase? runner).isSome := by
      obtain ⟨verdict, fault, ends, waits⟩ := reports
      rw [waits]
      rfl
    obtain rfl := orderly.sound.eq_loop orderly.untriggered listed (fires.keeps.present present)
    have new : (lane.turn event result.2).reports =
        [⟨lane.probe.name, status, accepted, .none⟩] := by
      rw [Turn.reports, Lane.turn, told]
      rfl
    -- who has a report under way waits for it, and hands none over
    have fresh : lane.probe.name ∉ reporting.underWay.map (·.name) := by
      intro listed'
      obtain ⟨report, member, named⟩ := List.mem_map.1 listed'
      rcases orderly.awaited report member with closed | ⟨other, known, named', was⟩
      · rw [closed] at opened
        cases opened
      · exact idle (orderly.sound.eq_of_name listed known (named.symm.trans named'.symm) ▸ was)
    rw [new]
    refine ⟨sound, orderly.untriggered, ?_, ?_, loops (.inl acts)⟩
    · rw [List.map_append, List.map_singleton, List.nodup_append]
      refine ⟨orderly.names, by simp, ?_⟩
      rintro known member _ added rfl
      rw [List.mem_singleton.1 added] at member
      exact fresh member
    · refine List.forall_mem_append.2 ⟨awaited, List.forall_mem_singleton.2 (.inr ?_)⟩
      have probe := fires.keeps.probe
      exact ⟨result.1, mem_replaceLane_self listed probe, by rw [probe], reports⟩

theorem move (orderly : reporting.Orderly) {next : Move}
    (untriggered : ∀ names, next ≠ .trigger names)
    (free : next.isHeld reporting.underWay = false) : (reporting.move next).Orderly := by
  have sound := orderly.sound.move next
  have tickets := (tickets_move untriggered).trans orderly.untriggered
  have stops : next = .stop → (reporting.scheduler.move next).1.closed = true := by
    rintro rfl
    rfl
  have steps := move_steps orderly.sound next
  rw [Reporting.move]
  generalize reporting.scheduler.move next = result at sound tickets stops steps ⊢
  cases steps with
  | shifts lanes closed each =>
      simp only [List.append_nil, List.flatMap_nil]
      exact ⟨sound, tickets, orderly.names,
        fun report member => (orderly.awaited report member).map lanes closed each stops,
        orderly.loops⟩
  | fires listed fires given =>
      subst given
      simp only [List.flatMap_singleton]
      exact orderly.fire listed fires free sound

theorem read (orderly : reporting.Orderly) (name : String) (reading : Moment) :
    (reporting.read name reading).Orderly := by
  have names : (reporting.read name reading).underWay.map (·.name) =
      reporting.underWay.map (·.name) := by
    rw [Reporting.read, List.map_map]
    apply List.map_congr_left
    intro report _
    rw [Function.comp_apply]
    split <;> rfl
  refine ⟨orderly.sound, orderly.untriggered, names ▸ orderly.names, ?_, orderly.loops⟩
  refine List.forall_mem_map.2 fun report member => ?_
  have awaited := orderly.awaited report member
  split
  next => exact awaited
  next => exact awaited

theorem without (orderly : reporting.Orderly) (name : String) :
    (reporting.without name).Orderly where
  sound := orderly.sound
  untriggered := orderly.untriggered
  names := orderly.names.sublist (List.Sublist.map _ List.filter_sublist)
  awaited report member := orderly.awaited report (List.mem_filter.1 member).1
  loops := orderly.loops

theorem finish (orderly : reporting.Orderly) (name : String) :
    (reporting.finish name).Orderly := by
  have without := orderly.without name
  rw [Reporting.finish]
  split
  next => exact orderly
  next report _ =>
      split
      next =>
          split
          next => exact orderly
          next => exact ⟨without.sound, without.untriggered, without.names, without.awaited,
            without.loops⟩
      next => exact without

theorem step (orderly : reporting.Orderly) {act : Act}
    (untriggered : ∀ names, act ≠ .move (.trigger names)) : (reporting.step act).Orderly := by
  cases act with
  | move next =>
      rw [Reporting.step]
      split
      next => exact orderly
      next free =>
          apply orderly.move _ (Bool.eq_false_iff.2 free)
          rintro names rfl
          exact untriggered names rfl
  | read name reading => exact orderly.read name reading
  | finish name => exact orderly.finish name

end Orderly

end Reporting

end Liveness.Scheduler
