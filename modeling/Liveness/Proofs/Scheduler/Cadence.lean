import Liveness.Proofs.Scheduler.TimedTurns

/-!
The cadence of a loop. Each iteration begins an interval after the report attempt of the one before,
and attempts to report within the timeout, whatever its check does (`loop_keeps_cadence`).
-/

namespace Liveness.Scheduler

/-! ## The iterations of a loop in time -/

/-- One iteration: when it began, when it attempted to report, and when it was over. -/
structure Beat where
  began : Rat
  attempts : List Rat := []
  ended : Option Rat := none
deriving DecidableEq

namespace Beat

def note (time : Rat) (beats : List Beat) : Effect → List Beat
  | .began _ => { began := time } :: beats
  | .reported _ _ => beats.modifyHead fun beat => { beat with attempts := beat.attempts ++ [time] }
  | .ended _ _ => beats.modifyHead fun beat => { beat with ended := some time }
  | _ => beats

def noteTurn (beats : List Beat) (entry : Rat × Turn) : List Beat :=
  if entry.2.actor = some .loop then entry.2.effects.foldl (note entry.1) beats else beats

def noted (turns : List (Rat × Turn)) : List Beat := turns.foldl noteTurn []

theorem noted_concat (turns : List (Rat × Turn)) (time : Rat) (turn : Turn) :
    noted (turns ++ [(time, turn)]) =
      if turn.actor = some .loop then turn.effects.foldl (note time) (noted turns)
      else noted turns := by
  rw [noted, List.foldl_concat]
  rfl

theorem foldl_note_logs (time : Rat) {logs : List Effect} (logged : Lane.OnlyLogs logs)
    (beats : List Beat) : logs.foldl (note time) beats = beats := by
  induction logs with
  | nil => rfl
  | cons effect logs ih =>
      obtain ⟨entry, rfl⟩ := logged effect (List.mem_cons_self ..)
      exact ih fun other member => logged other (List.mem_cons_of_mem _ member)

end Beat

def beats (turns : List (Rat × Turn)) : List Beat := (Beat.noted turns).reverse

/-- Iterations that are over, the last one first, and the time at which the next one is due. -/
inductive Kept (start interval limit : Rat) : List Beat → Rat → Prop
  | start : Kept start interval limit [] start
  | next {beats : List Beat} {began attempt : Rat} (kept : Kept start interval limit beats began)
    (onward : began ≤ attempt) (within : attempt ≤ began + limit) :
    Kept start interval limit (⟨began, [attempt], some attempt⟩ :: beats) (attempt + interval)

structure Beat.IsTimely (start interval limit : Rat) (beat : Beat) (earlier : List Beat) :
    Prop where
  kept : Kept start interval limit earlier beat.began
  once : beat.attempts.length ≤ 1
  onward : ∀ attempt ∈ beat.attempts, beat.began ≤ attempt
  within : ∀ attempt ∈ beat.attempts, attempt ≤ beat.began + limit

section Times

variable {start interval limit due began attempt : Rat} {beat : Beat} {earlier : List Beat}

theorem Kept.timely (kept : Kept start interval limit (beat :: earlier) due) :
    beat.IsTimely start interval limit earlier := by
  cases kept with
  | next kept onward within =>
      exact ⟨kept, Nat.le_refl 1, by simpa using onward, by simpa using within⟩

theorem Beat.timely_began (kept : Kept start interval limit earlier began) :
    Beat.IsTimely start interval limit { began } earlier :=
  ⟨kept, Nat.zero_le 1, List.forall_mem_nil _, List.forall_mem_nil _⟩

theorem Beat.timely_attempted (kept : Kept start interval limit earlier began)
    (onward : began ≤ attempt) (within : attempt ≤ began + limit) :
    Beat.IsTimely start interval limit { began, attempts := [attempt] } earlier :=
  ⟨kept, Nat.le_refl 1, by simpa using onward, by simpa using within⟩

theorem Beat.IsTimely.before (timely : beat.IsTimely start interval limit earlier)
    {newer older : List Beat} {other : Beat} (split : earlier = newer ++ other :: older) :
    other.IsTimely start interval limit older := by
  induction newer generalizing beat earlier with
  | nil =>
      subst split
      exact timely.kept.timely
  | cons next newer ih =>
      subst split
      exact ih timely.kept.timely rfl

end Times

/-! ## A loop in time -/

/-- The plan of a lane whose reports take no time. -/
structure Lane.IsTimed (interval limit : Rat) (lane : Lane) : Prop where
  period : lane.probe.interval = interval
  timeout : lane.probe.timeout = some limit
  interval_nonneg : 0 ≤ interval
  limit_nonneg : 0 ≤ limit
  atOnce : ∀ reports time, lane.script.reportDelay + lane.script.reportLag reports time = 0

namespace Lane

/-- What the phase of a loop says of its iterations. -/
inductive InStep (start interval limit : Rat) (lane : Lane) : Phase → List Beat → Prop
  | queued {beats : List Beat} {since : Rat} (kept : Kept start interval limit beats since) :
    InStep start interval limit lane (.queued since) beats
  | checking {beats : List Beat} {began : Rat} {call : Nat}
    (kept : Kept start interval limit beats began) (started : call < lane.calls)
    (onward : ∀ check ∈ lane.running, check.call = call →
      ∀ ends, check.ends = some ends → began ≤ ends) :
    InStep start interval limit lane (.checking call (some (began + limit))) ({ began } :: beats)
  | reporting {beats : List Beat} {began attempt : Rat} {verdict : Verdict} {fault : Option Failure}
    {ends : Option Rat} (kept : Kept start interval limit beats began) (onward : began ≤ attempt)
    (within : attempt ≤ began + limit) (atOnce : ∀ due ∈ ends, due = attempt) :
    InStep start interval limit lane (.reporting verdict fault ends)
      ({ began, attempts := [attempt] } :: beats)
  | sleeping {beats : List Beat} {ends : Rat} (kept : Kept start interval limit beats ends) :
    InStep start interval limit lane (.sleeping ends) beats

/-- A loop keeps time, and has kept it if there is none any more. -/
structure IsPaced (start interval limit : Rat) (lane : Lane) (beats : List Beat) : Prop where
  absent : lane.phase? .loop = none → ∀ beat older, beats = beat :: older →
    beat.IsTimely start interval limit older
  present : ∀ phase, lane.phase? .loop = some phase → InStep start interval limit lane phase beats

section Pace

variable {start interval limit due began : Rat} {lane after : Lane} {beats : List Beat}
  {phase : Phase} {verdict : Verdict}

theorem isPaced_of_phase? (waits : lane.phase? .loop = some phase)
    (inStep : InStep start interval limit lane phase beats) :
    lane.IsPaced start interval limit beats where
  absent none := by
    rw [waits] at none
    cases none
  present other waits' := by
    obtain rfl : phase = other := Option.some.inj (waits.symm.trans waits')
    exact inStep

theorem InStep.of_running (inStep : InStep start interval limit lane phase beats)
    (calls : lane.calls ≤ after.calls)
    (running : ∀ check ∈ after.running, check ∈ lane.running ∨ check.call = lane.calls) :
    InStep start interval limit after phase beats := by
  cases inStep with
  | queued kept => exact .queued kept
  | checking kept started onward =>
      refine .checking kept (started.trans_le calls) fun check runs same => ?_
      rcases running check runs with runs | new
      · exact onward check runs same
      · omega
  | reporting kept onward within atOnce => exact .reporting kept onward within atOnce
  | sleeping kept => exact .sleeping kept

theorem IsPaced.of_running (paced : lane.IsPaced start interval limit beats)
    (phase : after.phase? .loop = lane.phase? .loop) (calls : lane.calls ≤ after.calls)
    (running : ∀ check ∈ after.running, check ∈ lane.running ∨ check.call = lane.calls) :
    after.IsPaced start interval limit beats where
  absent none := paced.absent (phase.symm.trans none)
  present other waits := (paced.present other (phase.symm.trans waits)).of_running calls running

theorem IsTimed.of_plan (timed : lane.IsTimed interval limit) (probe : after.probe = lane.probe)
    (script : after.script = lane.script) : after.IsTimed interval limit := by
  obtain ⟨period, timeout, interval_nonneg, limit_nonneg, atOnce⟩ := timed
  rw [← probe] at period timeout
  rw [← script] at atOnce
  exact ⟨period, timeout, interval_nonneg, limit_nonneg, atOnce⟩

theorem Fires.running {closed : Bool} {now : Rat} {event : Event} {result : Lane × List Effect}
    (fires : Fires lane closed now event result) :
    lane.calls ≤ result.1.calls ∧
      ∀ check ∈ result.1.running, check ∈ lane.running ∨ check.call = lane.calls := by
  have onward {runner : Runner} {base after : Lane} (moves : OnlyMoves runner base after)
      (calls : lane.calls ≤ base.calls)
      (running : ∀ check ∈ base.running, check ∈ lane.running ∨ check.call = lane.calls) :
      lane.calls ≤ after.calls ∧
        ∀ check ∈ after.running, check ∈ lane.running ∨ check.call = lane.calls := by
    rw [moves.calls, moves.running]
    exact ⟨calls, running⟩
  have started : ∀ check ∈ (lane.startCheck now).running,
      check ∈ lane.running ∨ check.call = lane.calls := by
    intro check runs
    rcases List.mem_append.1 runs with runs | new
    · exact .inl runs
    · rw [List.mem_singleton.1 new]
      exact .inr rfl
  have dropped (call : Nat) : ∀ check ∈ (lane.drop call).running,
      check ∈ lane.running ∨ check.call = lane.calls :=
    fun check runs => .inl (List.mem_filter.1 runs).1
  cases fires with
  | nothing => exact ⟨Nat.le_refl _, fun _ runs => .inl runs⟩
  | busy rests busy reports =>
      subst reports
      exact onward (onlyMoves_report ..) (Nat.le_refl _) fun _ runs => .inl runs
  | refused rests idle stopped aborts =>
      subst aborts
      exact onward (onlyMoves_abort ..) (Nat.le_refl _) fun _ runs => .inl runs
  | started => exact onward (onlyMoves_setPhase ..) (Nat.le_succ _) started
  | unwaited rests idle opened timeout reports =>
      subst reports
      exact onward (onlyMoves_report ..) (Nat.le_succ _) started
  | lost | late => exact ⟨Nat.le_refl _, dropped _⟩
  | returned runs heard awaited logged concludes =>
      subst concludes
      exact onward (onlyMoves_conclude ..) (Nat.le_refl _) (dropped _)
  | expired waits timeout reports =>
      subst reports
      exact onward (onlyMoves_report ..) (Nat.le_refl _) fun _ runs => .inl runs
  | reported => exact onward (onlyMoves_rest ..) (Nat.le_refl _) fun _ runs => .inl runs
  | withdrawn => exact onward (onlyMoves_remove ..) (Nat.le_refl _) fun _ runs => .inl runs

/-! ## What one turn of the loop keeps -/

theorem report_of_timed (timed : lane.IsTimed interval limit) (due : Rat) (runner : Runner) :
    ∃ fault ends accepted, (∀ time ∈ ends, time = due) ∧ lane.report false due runner verdict =
      (Lane.setPhase { lane with reports := lane.reports + 1 } runner
          (.reporting verdict fault ends),
        [.log (lane.probe.verdictLog verdict), .reported verdict.status accepted]) := by
  refine ⟨_, _, _, fun time ends => ?_, rfl⟩
  split at ends
  next => cases ends
  next =>
      rw [timed.atOnce, later, if_pos (le_refl 0), add_zero] at ends
      exact (Option.mem_some.1 ends).symm

theorem phase?_setPhase_of_present (present : (lane.phase? .loop).isSome) (phase : Phase) :
    (lane.setPhase .loop phase).phase? .loop = some phase := by
  obtain ⟨old, waits⟩ := Option.isSome_iff_exists.1 present
  rw [phase?_setPhase, if_pos rfl, waits, Option.map_some]

theorem isPaced_report (timed : lane.IsTimed interval limit) (present : (lane.phase? .loop).isSome)
    (kept : Kept start interval limit beats began) (onward : began ≤ due)
    (within : due ≤ began + limit) :
    (lane.report false due .loop verdict).1.IsPaced start interval limit
      ((lane.report false due .loop verdict).2.foldl (Beat.note due) ({ began } :: beats)) := by
  have present' : (Lane.phase? { lane with reports := lane.reports + 1 } .loop).isSome := present
  obtain ⟨fault, ends, accepted, atOnce, same⟩ := report_of_timed timed due .loop
  rw [same]
  exact isPaced_of_phase? (phase?_setPhase_of_present present' _)
    (.reporting kept onward within atOnce)

theorem isPaced_begin (sound : lane.IsSound) (timed : lane.IsTimed interval limit)
    (present : (lane.phase? .loop).isSome) (kept : Kept start interval limit beats due) :
    (lane.begin false due .loop).1.IsPaced start interval limit
      ((lane.begin false due .loop).2.foldl (Beat.note due) beats) := by
  have within : due ≤ due + limit := le_add_of_nonneg_right timed.limit_nonneg
  cases busy : lane.isBusy with
  | true =>
      rw [begin, if_pos busy]
      exact isPaced_report timed present kept (le_refl due) within
  | false =>
      have present' : ((lane.startCheck due).phase? .loop).isSome := present
      rcases le_or_gt limit 0 with elapsed | waits
      · have timed' : (lane.startCheck due).IsTimed interval limit := timed.of_plan rfl rfl
        rw [begin_unwaited busy timed.timeout elapsed]
        exact isPaced_report timed' present' kept (le_refl due) within
      · rw [begin_waited busy timed.timeout waits]
        refine isPaced_of_phase? (phase?_setPhase_of_present present' _)
          (.checking kept (Nat.lt_succ_self _) ?_)
        intro check runs same ends arrives
        rcases List.mem_append.1 runs with runs | new
        · have last := sound.last check runs
          omega
        · rw [List.mem_singleton.1 new] at arrives
          obtain ⟨delay, -, rfl⟩ := Option.map_eq_some_iff.1 arrives
          exact le_add_of_nonneg_right (later_nonneg delay)

theorem isPaced_rest (timed : lane.IsTimed interval limit) (present : (lane.phase? .loop).isSome)
    (kept : Kept start interval limit beats (due + interval)) :
    (lane.rest due .loop).IsPaced start interval limit beats := by
  have rests : later lane.probe.interval 0 = interval := by
    rw [timed.period, later]
    split
    next none => exact le_antisymm timed.interval_nonneg none
    next => rfl
  have waits : (lane.rest due .loop).phase? .loop = some (.sleeping (due + interval)) := by
    rw [rest, rests]
    exact phase?_setPhase_of_present present _
  exact isPaced_of_phase? waits (.sleeping kept)

theorem isPaced_remove {older : List Beat} {beat : Beat}
    (timely : beat.IsTimely start interval limit older) :
    (lane.remove .loop).IsPaced start interval limit (beat :: older) where
  absent _ other others same := by
    cases same
    exact timely
  present phase waits := by
    rw [phase?_remove, if_pos rfl] at waits
    cases waits

theorem awaiting?_of_actor? {call : Nat} {runner : Runner}
    (acts : lane.actor? (.checkEnds call) = some runner) : lane.awaiting? call = some runner := by
  rw [actor?] at acts
  split at acts
  next => cases acts
  next => exact acts

theorem present_of_acts (sound : lane.IsSound) {event : Event} (waits : lane.Due due event)
    {runner : Runner} (acts : lane.actor? event = some runner) : (lane.phase? runner).isSome := by
  cases waits with
  | checked runs arrives =>
      obtain ⟨deadline, waits⟩ := phase?_of_awaiting? sound.keys (awaiting?_of_actor? acts)
      rw [waits]
      rfl
  | queued waits | rested waits | expires waits | reported waits =>
      cases acts
      rw [waits]
      rfl

theorem isPaced_fire_checkEnds (sound : lane.IsSound) (timed : lane.IsTimed interval limit)
    (paced : lane.IsPaced start interval limit beats) {check : RunningCheck}
    (runs : check ∈ lane.running) (arrives : check.ends = some due)
    (acts : lane.actor? (.checkEnds check.call) = some .loop)
    (soonest : ∀ {other : Rat} {event : Event}, lane.Due other event → due ≤ other) :
    (lane.fire false due (.checkEnds check.call)).1.IsPaced start interval limit
      ((lane.fire false due (.checkEnds check.call)).2.foldl (Beat.note due) beats) := by
  obtain ⟨deadline, waits⟩ := phase?_of_awaiting? sound.keys (awaiting?_of_actor? acts)
  have fires := lane.fire_fires false due (.checkEnds check.call)
  generalize lane.fire false due (.checkEnds check.call) = result at fires ⊢
  generalize told : Event.checkEnds check.call = event at fires
  cases fires with
  | nothing => exact paced
  | lost runs' lost unheard =>
      rw [← Event.checkEnds.inj told, acts] at unheard
      cases unheard
  | late runs' unheard =>
      rw [← Event.checkEnds.inj told, acts] at unheard
      cases unheard
  | @returned other logs runner result runs' heard awaited logged concludes =>
      have same := Event.checkEnds.inj told
      rw [← same] at heard concludes
      obtain rfl : Runner.loop = runner := Option.some.inj (acts.symm.trans heard)
      have timed' : (lane.drop check.call).IsTimed interval limit := timed.of_plan rfl rfl
      have present : ((lane.drop check.call).phase? .loop).isSome := Works.present ⟨_, waits, rfl⟩
      rw [List.cons_append, List.foldl_cons, List.foldl_append, Beat.foldl_note_logs _ logged]
      cases paced.present _ waits with
      | checking kept started onward =>
          rw [conclude] at concludes
          split at concludes
          next =>
              subst concludes
              exact isPaced_report timed' present kept (onward check runs rfl due arrives)
                (soonest (.expires waits))
          next failure escapes =>
              -- a probe with a timeout lets nothing but a cancellation escape
              have cancels : failure.isCancellation = true := by
                rcases Probe.conclude_eq_error escapes with ⟨-, cancels⟩ | ⟨-, untimed⟩
                · exact cancels
                · cases untimed.symm.trans timed'.timeout
              rw [abort_eq_of_cancels cancels] at concludes
              subst concludes
              exact isPaced_remove
                ⟨kept, Nat.zero_le 1, List.forall_mem_nil _, List.forall_mem_nil _⟩
  | _ => cases told

theorem isPaced_fire_reportEnds (timed : lane.IsTimed interval limit) {fault : Option Failure}
    (waits : lane.phase? .loop = some (.reporting verdict fault (some due)))
    (kept : Kept start interval limit beats began) (onward : began ≤ due)
    (within : due ≤ began + limit) :
    (lane.fire false due (.reportEnds .loop)).1.IsPaced start interval limit
      ((lane.fire false due (.reportEnds .loop)).2.foldl (Beat.note due)
        ({ began, attempts := [due] } :: beats)) := by
  have fires := lane.fire_fires false due (.reportEnds .loop)
  generalize lane.fire false due (.reportEnds .loop) = result at fires ⊢
  cases fires with
  | nothing => exact isPaced_of_phase? waits (.reporting kept onward within (by simp))
  | @reported runner verdict' fault' ends logs waits' logged =>
      obtain ⟨rfl, -, -⟩ := Phase.reporting.inj (Option.some.inj (waits.symm.trans waits'))
      rw [List.foldl_append, Beat.foldl_note_logs _ logged]
      exact isPaced_rest timed (Works.present ⟨_, waits, rfl⟩) (.next kept onward within)
  | withdrawn waits' cancels =>
      obtain ⟨kept, once, onward, within⟩ := Beat.timely_attempted kept onward within
      exact isPaced_remove ⟨kept, once, onward, within⟩

theorem isPaced_fire_loop (sound : lane.IsSound) (timed : lane.IsTimed interval limit)
    (paced : lane.IsPaced start interval limit beats) {event : Event}
    (next : lane.next? = some (due, event)) (acts : lane.actor? event = some .loop) :
    (lane.fire false due event).1.IsPaced start interval limit
      ((lane.fire false due event).2.foldl (Beat.note due) beats) := by
  have comes := sound.due_of_next? next
  have present := present_of_acts sound comes acts
  cases comes with
  | queued waits =>
      cases acts
      cases paced.present _ waits with
      | queued kept =>
          rw [fire, waits]
          exact isPaced_begin sound timed present kept
  | rested waits =>
      cases acts
      cases paced.present _ waits with
      | sleeping kept =>
          rw [fire, waits]
          exact isPaced_begin sound timed present kept
  | expires waits =>
      cases acts
      cases paced.present _ waits with
      | checking kept started onward =>
          rw [fire, waits, timed.timeout]
          exact isPaced_report timed present kept (le_add_of_nonneg_right timed.limit_nonneg)
            (le_refl _)
  | reported waits =>
      cases acts
      cases paced.present _ waits with
      | reporting kept onward within atOnce =>
          obtain rfl := atOnce _ rfl
          exact isPaced_fire_reportEnds timed waits kept onward within
  | checked runs arrives =>
      exact isPaced_fire_checkEnds sound timed paced runs arrives acts (sound.le_of_next? next)

theorem isPaced_fire (sound : lane.IsSound) (timed : lane.IsTimed interval limit)
    {turns : List (Rat × Turn)} (paced : lane.IsPaced start interval limit (Beat.noted turns))
    {event : Event} (next : lane.next? = some (due, event)) :
    (lane.fire false due event).1.IsPaced start interval limit
      (Beat.noted (turns ++ [(due, lane.turn event (lane.fire false due event).2)])) := by
  simp only [Beat.noted_concat, Lane.turn]
  by_cases acts : lane.actor? event = some .loop
  · rw [if_pos acts]
    exact isPaced_fire_loop sound timed paced next acts
  · rw [if_neg acts]
    have fires := lane.fire_fires false due event
    exact paced.of_running (fires.keeps.others .loop acts) fires.running.1 fires.running.2

theorem noted_turnsWhile (sound : lane.IsSound) (absent : lane.phase? .loop = none)
    (allowed : Rat → Bool) (fuel : Nat) (turns : List (Rat × Turn)) :
    Beat.noted (turns ++ lane.turnsWhile false allowed fuel) = Beat.noted turns := by
  refine (runWhile_keeps (P := fun lane later => lane.IsSound ∧ lane.phase? .loop = none ∧
    Beat.noted later = Beat.noted turns) ?_ allowed fuel ⟨sound, absent, rfl⟩).2.2
  rintro lane later due event ⟨sound, absent, same⟩ next
  have fires := lane.fire_fires false due event
  have idle : lane.actor? event ≠ some .loop := by
    intro acts
    have present := present_of_acts sound (sound.due_of_next? next) acts
    rw [absent] at present
    cases present
  refine ⟨sound.fires fires, (fires.keeps.others .loop idle).trans absent, ?_⟩
  simp only [Beat.noted_concat, Lane.turn]
  rw [if_neg idle, same]

theorem isPaced_runWhile (sound : lane.IsSound) (timed : lane.IsTimed interval limit)
    {turns : List (Rat × Turn)} (paced : lane.IsPaced start interval limit (Beat.noted turns))
    (allowed : Rat → Bool) (fuel : Nat) :
    (lane.runWhile false allowed fuel).1.IsTimed interval limit ∧
      (lane.runWhile false allowed fuel).1.IsPaced start interval limit
        (Beat.noted (turns ++ lane.turnsWhile false allowed fuel)) := by
  refine (runWhile_keeps (P := fun lane turns => lane.IsSound ∧ lane.IsTimed interval limit ∧
    lane.IsPaced start interval limit (Beat.noted turns)) ?_ allowed fuel
      ⟨sound, timed, paced⟩).2
  rintro lane turns due event ⟨sound, timed, paced⟩ next
  have fires := lane.fire_fires false due event
  exact ⟨sound.fires fires, timed.of_plan fires.keeps.probe fires.keeps.script,
    isPaced_fire sound timed paced next⟩

end Pace

end Lane

/-! ## A probe of a scheduler in time -/

section Deeds

variable {name : String} {start interval limit : Rat} {scheduler : Scheduler}
  {past : List (Rat × Turn)} {next : Deed}

/-- The only lane of a name keeps time, and the pools are open. -/
structure Paces (name : String) (start interval limit : Rat) (scheduler : Scheduler)
    (past : List (Rat × Turn)) : Prop where
  sound : scheduler.IsSound
  opened : scheduler.closed = false
  unstarted : scheduler.running = false → Beat.noted past = []
  lane : ∃ lane, scheduler.lanes.filter (Lane.isNamed name) = [lane] ∧
    lane.IsTimed interval limit ∧ lane.IsPaced start interval limit (Beat.noted past)

theorem Paces.map (paces : Paces name start interval limit scheduler past) {after : Scheduler}
    (tell : Lane → List (Rat × Turn)) (sound : after.IsSound) (opened : after.closed = false)
    (unstarted : after.running = false → ∀ lane ∈ scheduler.lanes,
      Beat.noted (past ++ tell lane) = [])
    {change : Lane → Lane} (lanes : after.lanes = scheduler.lanes.map change)
    (probe : ∀ lane, (change lane).probe = lane.probe)
    (each : ∀ lane ∈ scheduler.lanes, lane.IsTimed interval limit →
      lane.IsPaced start interval limit (Beat.noted past) →
        (change lane).IsTimed interval limit ∧
          (change lane).IsPaced start interval limit (Beat.noted (past ++ tell lane))) :
    Paces name start interval limit after
      (past ++ (scheduler.lanes.filter (Lane.isNamed name)).flatMap tell) := by
  obtain ⟨lane, alone, timed, paced⟩ := paces.lane
  have listed : lane ∈ scheduler.lanes := by
    have member : lane ∈ scheduler.lanes.filter (Lane.isNamed name) := by
      rw [alone]
      exact List.mem_singleton_self lane
    exact (List.mem_filter.1 member).1
  obtain ⟨timed', paced'⟩ := each lane listed timed paced
  rw [alone, List.flatMap_singleton]
  refine ⟨sound, opened, fun never => unstarted never lane listed, change lane, ?_, timed', paced'⟩
  rw [lanes, filter_map_lanes probe, alone, List.map_singleton]

theorem Paces.shift (paces : Paces name start interval limit scheduler past) {after : Scheduler}
    (sound : after.IsSound) (opened : after.closed = false)
    (runs : after.running = false → scheduler.running = false) {change : Lane → Lane}
    (lanes : after.lanes = scheduler.lanes.map change)
    (plan : ∀ lane, (change lane).probe = lane.probe ∧ (change lane).script = lane.script)
    (each : ∀ lane ∈ scheduler.lanes, lane.IsPaced start interval limit (Beat.noted past) →
      (change lane).IsPaced start interval limit (Beat.noted past)) :
    Paces name start interval limit after past := by
  have none : (scheduler.lanes.filter (Lane.isNamed name)).flatMap
      (fun _ : Lane => ([] : List (Rat × Turn))) = [] := by
    simp
  have shifted := paces.map (fun _ => []) sound opened ?_ lanes (fun lane => (plan lane).1) ?_
  · rwa [none, List.append_nil] at shifted
  · intro never lane listed
    rw [List.append_nil]
    exact paces.unstarted (runs never)
  · intro lane listed timed paced
    rw [List.append_nil]
    exact ⟨timed.of_plan (plan lane).1 (plan lane).2, each lane listed paced⟩

theorem Paces.runWhile (paces : Paces name start interval limit scheduler past)
    {allowed : Rat → Bool} {after : Scheduler} (sound : after.IsSound)
    (lanes : after.lanes = (scheduler.runWhile allowed).1.lanes)
    (closed : after.closed = (scheduler.runWhile allowed).1.closed)
    (running : after.running = (scheduler.runWhile allowed).1.running) :
    Paces name start interval limit after
      (past ++ (scheduler.lanes.filter (Lane.isNamed name)).flatMap
        (Lane.turnsWhile scheduler.closed allowed patience)) := by
  have core := scheduler.core_runWhile allowed
  have moved := congrArg Scheduler.lanes core
  have kept := congrArg Scheduler.closed core
  have same := congrArg Scheduler.running core
  refine paces.map _ sound ((closed.trans kept).trans paces.opened) (fun never lane listed => ?_)
    (lanes.trans moved) (fun lane => Lane.probe_runWhile ..) fun lane listed timed paced => ?_
  · have idle : scheduler.running = false := (running.trans same).symm.trans never
    rw [paces.opened, Lane.noted_turnsWhile (paces.sound.lanes lane listed)
      (paces.sound.loop_absent idle listed), paces.unstarted idle]
  · rw [paces.opened]
    exact Lane.isPaced_runWhile (paces.sound.lanes lane listed) timed paced allowed patience

theorem Paces.deed (paces : Paces name start interval limit scheduler past)
    (unstopped : next ≠ .stop)
    (starts : next = .start → scheduler.running = false → scheduler.now = start) :
    Paces name start interval limit (scheduler.deed next).1
      (past ++ turnsIn name scheduler next) := by
  have sound := paces.sound.deed next
  have opened := paces.opened
  -- of a lane, only the loop and the checks that run matter
  have loop {lane after : Lane} (paced : lane.IsPaced start interval limit (Beat.noted past))
      (same : after.phase? .loop = lane.phase? .loop) (calls : after.calls = lane.calls)
      (running : after.running = lane.running) :
      after.IsPaced start interval limit (Beat.noted past) :=
    paced.of_running same calls.ge fun check runs => .inl (running ▸ runs)
  have quiet (silent : next.allows? = none) : past ++ turnsIn name scheduler next = past := by
    rw [turnsIn, silent, List.append_nil]
  cases next with
  | start =>
      rw [quiet rfl]
      rw [Scheduler.deed] at sound ⊢
      cases running : scheduler.running with
      | true =>
          rw [Scheduler.start, if_pos running]
          exact paces
      | false =>
          rw [Scheduler.start, if_neg (by simp [running])] at sound ⊢
          refine paces.shift sound opened (fun _ => running) rfl (fun _ => ⟨rfl, rfl⟩)
            fun lane listed paced => ?_
          have absent := paces.sound.loop_absent running listed
          have waits := lane.phase?_add .loop .loop (.queued scheduler.now) absent
          rw [if_pos rfl] at waits
          rw [paces.unstarted running]
          rw [starts rfl running] at waits ⊢
          exact Lane.isPaced_of_phase? waits (.queued .start)
  | stop => exact absurd rfl unstopped
  | wait =>
      rw [quiet rfl]
      exact paces.shift sound opened id (List.map_id _).symm (fun _ => ⟨rfl, rfl⟩)
        fun _ _ paced => paced
  | advanceTo time => exact paces.runWhile sound rfl rfl rfl
  | advanceBefore time => exact paces.runWhile sound rfl rfl rfl
  | trigger names =>
      rw [quiet rfl]
      refine paces.shift sound opened id rfl (fun lane => ?_) fun lane listed paced => ?_
      · split <;> exact ⟨rfl, rfl⟩
      · split
        next =>
            have absent := paces.sound.trigger_absent listed
            refine loop paced ?_ rfl rfl
            rw [lane.phase?_add _ _ _ absent, if_neg (by simp)]
        next => exact paced
  | cancel probe ticket =>
      rw [quiet rfl]
      refine paces.shift sound opened id rfl (fun lane => ?_) fun lane listed paced => ?_
      · split <;> exact ⟨rfl, rfl⟩
      · split
        next =>
            refine loop paced ?_ rfl rfl
            rw [lane.phase?_remove, if_neg (by simp)]
        next => exact paced

theorem Paces.timeline {deeds : List Deed} (paces : Paces name start interval limit scheduler past)
    (unstopped : .stop ∉ deeds) (started : scheduler.running = true ∨ .start ∉ deeds) :
    Paces name start interval limit (scheduler.timeline deeds).1
      (past ++ turns name scheduler deeds) := by
  induction deeds generalizing scheduler past with
  | nil =>
      rw [turns, List.append_nil]
      exact paces
  | cons next deeds ih =>
      rw [List.mem_cons, not_or] at unstopped
      obtain ⟨goes, unstopped⟩ := unstopped
      have starts : next = .start → scheduler.running = false → scheduler.now = start := by
        rintro rfl stopped
        rcases started with running | never
        · rw [stopped] at running
          cases running
        · exact absurd (List.mem_cons_self ..) never
      have started' : (scheduler.deed next).1.running = true ∨ .start ∉ deeds :=
        started.imp (fun running => running_deed running (Ne.symm goes))
          fun never member => never (List.mem_cons_of_mem _ member)
      rw [fst_timeline_cons, turns, ← List.append_assoc]
      exact ih (paces.deed (Ne.symm goes) starts) unstopped started'

end Deeds

/-! ## Cadence -/

structure Beat.IsAhead (interval limit last : Rat) (beat : Beat) : Prop where
  attempt : beat.attempts = [] → last < beat.began + limit
  next : ∀ attempt ∈ beat.attempts,
    last < attempt ∨ beat.ended = some attempt ∧ last < attempt + interval

theorem Kept.isAhead {start interval limit due last : Rat} {beats : List Beat}
    (kept : Kept start interval limit beats due) (late : last < due) :
    (start ≤ last → beats ≠ []) ∧ ∀ beat, beats.head? = some beat →
      beat.IsAhead interval limit last := by
  cases kept with
  | start => exact ⟨fun under => absurd late under.not_gt, nofun⟩
  | next kept onward within =>
      refine ⟨fun _ => List.cons_ne_nil _ _, ?_⟩
      rintro _ ⟨⟩
      exact ⟨nofun, fun attempt member => .inr (by simp_all)⟩

theorem Lane.IsPaced.isAhead {lane : Lane} {start interval limit last : Rat} {beats : List Beat}
    (paced : lane.IsPaced start interval limit beats) (sound : lane.IsSound)
    (present : (lane.phase? .loop).isSome) (mild : lane.script.IsMild)
    (late : ∀ entry, lane.next? = some entry → last < entry.1) :
    (start ≤ last → beats ≠ []) ∧ ∀ beat, beats.head? = some beat →
      beat.IsAhead interval limit last := by
  have after {due : Rat} {event : Event} (waits : lane.Due due event) : last < due := by
    obtain ⟨entry, next, soonest⟩ := sound.exists_next? waits
    exact (late entry next).trans_le soonest
  obtain ⟨phase, waits⟩ := Option.isSome_iff_exists.1 present
  cases paced.present phase waits with
  | queued kept => exact kept.isAhead (after (.queued waits))
  | sleeping kept => exact kept.isAhead (after (.rested waits))
  | checking kept started onward =>
      refine ⟨fun _ => List.cons_ne_nil _ _, ?_⟩
      rintro _ ⟨⟩
      exact ⟨fun _ => after (.expires waits), List.forall_mem_nil _⟩
  | @reporting beats began attempt verdict fault ends kept onward within atOnce =>
      refine ⟨fun _ => List.cons_ne_nil _ _, ?_⟩
      rintro _ ⟨⟩
      refine ⟨nofun, fun attempt member => .inl ?_⟩
      rw [List.mem_singleton.1 member]
      obtain ⟨raised, untold⟩ := sound.heeds waits
      cases ends with
      | some due =>
          obtain rfl := atOnce due rfl
          exact after (.reported waits)
      | none =>
          obtain ⟨failure, faulty, lost⟩ := untold rfl
          obtain ⟨handed, time, raises⟩ := raised failure faulty
          exact absurd ⟨handed, time, failure, raises, by rw [isGrave, lost]; rfl⟩ mild.reports

theorem Lane.IsPaced.timely {lane : Lane} {start interval limit : Rat} {beat : Beat}
    {newer older : List Beat}
    (paced : lane.IsPaced start interval limit (newer ++ beat :: older)) :
    beat.IsTimely start interval limit older := by
  have first {first : Beat} {rest : List Beat}
      (paced : lane.IsPaced start interval limit (first :: rest)) :
      first.IsTimely start interval limit rest := by
    cases waits : lane.phase? .loop with
    | none => exact paced.absent waits first rest rfl
    | some phase =>
        cases paced.present phase waits with
        | queued kept => exact kept.timely
        | sleeping kept => exact kept.timely
        | checking kept started onward => exact Beat.timely_began kept
        | reporting kept onward within atOnce => exact Beat.timely_attempted kept onward within
  cases newer with
  | nil => exact first paced
  | cons next newer => exact (first paced).before rfl

theorem paces_of_started {lanes : List Lane} {origin : Time.Instant} {reporter : Store.Reporter}
    {scheduler : Scheduler} (made : ofLanes lanes origin reporter = .ok scheduler)
    (fresh : ∀ lane ∈ lanes, lane.IsFresh) {lane : Lane} (listed : lane ∈ lanes)
    {interval limit : Rat} (timed : lane.IsTimed interval limit) {before after : List Deed}
    (unstarted : .start ∉ before) (unstopped : .stop ∉ before ++ .start :: after) :
    Paces lane.probe.name (scheduler.timeline before).1.now interval limit
        (scheduler.timeline (before ++ .start :: after)).1
        (turns lane.probe.name scheduler (before ++ .start :: after)) ∧
      (scheduler.timeline (before ++ .start :: after)).1.running = true := by
  rw [List.mem_append, List.mem_cons, not_or, not_or] at unstopped
  obtain ⟨unstopped, starts, unstopped'⟩ := unstopped
  have initial : Paces lane.probe.name (scheduler.timeline before).1.now interval limit
      scheduler [] := by
    have sound := isSound_of_ofLanes made fresh
    obtain ⟨distinct, rfl⟩ := ofLanes_eq_ok made
    refine ⟨sound, rfl, fun _ => rfl, lane, filter_key_eq_singleton distinct listed, timed,
      fun _ => nofun, ?_⟩
    intro phase waits
    rw [(fresh lane listed).phase?] at waits
    cases waits
  have waited := initial.timeline unstopped (.inr unstarted)
  have begun := waited.deed (Ne.symm starts) fun _ _ => rfl
  have running : ((scheduler.timeline before).1.deed .start).1.running = true := running_start _
  have paced := begun.timeline unstopped' (.inl running)
  rw [fst_timeline_append, fst_timeline_cons, turns_append, turns]
  rw [List.nil_append, List.append_assoc] at paced
  exact ⟨paced, running_timeline running unstopped'⟩

def unsteadyLane : Lane where
  probe := { name := "unsteady", interval := 10, timeout := some 5 }
  script :=
    { check := fun n => if n = 0 then { delay := some 2 } else if n = 1 then { delay := some 20 }
                        else { delay := some 1, outcome := .error (.of .os "unreachable") }
      reportFault := fun n _ => if n = 2 then some (.of .runtime "disk full") else none }

end Liveness.Scheduler
