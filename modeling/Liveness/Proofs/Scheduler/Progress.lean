import Liveness.Proofs.Scheduler.Iterations

namespace Liveness.Scheduler

def Phase.stage : Phase → Nat
  | .reporting _ _ _ => 1
  | .checking _ _ => 2
  | _ => 3

namespace Lane

def Nears (lane : Lane) (runner : Runner) (result : Lane × List Effect) : Prop :=
  (∃ outcome, .ended runner outcome ∈ result.2) ∨
    ∃ phase later, lane.phase? runner = some phase ∧ result.1.phase? runner = some later ∧
      later.stage < phase.stage

/-- An event of the runner is due that brings it on, whenever it comes. -/
def GoesOn (lane : Lane) (runner : Runner) : Prop :=
  ∃ time event, (time, event) ∈ lane.dueBeginnings ++ lane.dueContinuations ∧
    lane.actor? event = some runner ∧
      ∀ closed now, lane.Nears runner (lane.fire closed now event)

variable {lane : Lane} {runner : Runner} {phase : Phase} {closed : Bool} {now : Rat}

theorem Nears.cons {after : Lane} {effects : List Effect}
    (nears : lane.Nears runner (after, effects)) (effect : Effect) :
    lane.Nears runner (after, effect :: effects) := by
  rcases nears with ⟨outcome, ended⟩ | nearer
  · exact .inl ⟨outcome, List.mem_cons_of_mem _ ended⟩
  · exact .inr nearer

theorem nears_setPhase {later : Phase} (waits : lane.phase? runner = some phase)
    (nearer : later.stage < phase.stage) (effects : List Effect) :
    lane.Nears runner (lane.setPhase runner later, effects) := by
  refine .inr ⟨phase, later, waits, ?_, nearer⟩
  rw [phase?_setPhase, if_pos rfl, waits]
  rfl

theorem nears_report (waits : lane.phase? runner = some phase) (far : 1 < phase.stage)
    (verdict : Verdict) : lane.Nears runner (lane.report closed now runner verdict) := by
  cases closed with
  | true => exact .inl ⟨.ok verdict, by simp [report, finish]⟩
  | false =>
      have waits' : Lane.phase? { lane with reports := lane.reports + 1 } runner = some phase :=
        waits
      have nearer (fault : Option Failure) (ends : Option Rat) :
          (Phase.reporting verdict fault ends).stage < phase.stage := far
      exact nears_setPhase waits' (nearer _ _) _

theorem nears_begin (waits : lane.phase? runner = some phase) (idle : phase.stage = 3) :
    lane.Nears runner (lane.begin closed now runner) := by
  have started : (lane.startCheck now).phase? runner = some phase := waits
  rw [begin]
  cases lane.isBusy with
  | true => exact (nears_report waits (by omega) stillRunning).cons _
  | false =>
      cases closed with
      | true =>
          obtain ⟨logs, effects, -⟩ := lane.abort_effects now runner poolsClosed
          exact .inl ⟨.error poolsClosed, by simp [effects]⟩
      | false =>
          simp only [Bool.false_eq_true, if_false]
          have checks (deadline : Option Rat) : (Phase.checking lane.calls deadline).stage <
              phase.stage := by
            rw [idle]
            exact Nat.lt_succ_self 2
          split
          next => exact nears_setPhase started (checks none) _
          next seconds timeout =>
              split
              next =>
                  have reports : Nears lane runner
                      ((lane.startCheck now).report false now runner (timedOut seconds)) :=
                    nears_report started (by omega) _
                  exact (reports.cons _).cons _
              next => exact nears_setPhase started (checks _) _

theorem ended_mem_endReport (lane : Lane) (now : Rat) (runner : Runner) (verdict : Verdict)
    (fault : Option Failure) :
    ∃ outcome, .ended runner outcome ∈ (lane.endReport now runner verdict fault).2 := by
  cases fault with
  | none => exact ⟨.ok verdict, by simp [endReport, finish]⟩
  | some failure =>
      rw [endReport]
      split
      next =>
          obtain ⟨logs, effects, -⟩ := lane.abort_effects now runner failure
          exact ⟨.error failure, by simp [effects]⟩
      next => exact ⟨.ok verdict, by simp [finish]⟩

theorem goesOn (sound : lane.IsSound) (bounded : lane.probe.timeout.isSome)
    (told : ¬ lane.script.ReportRaises Failure.isLost)
    (present : (lane.phase? runner).isSome) : lane.GoesOn runner := by
  obtain ⟨phase, waits⟩ := Option.isSome_iff_exists.1 present
  have member := mem_of_phase? waits
  cases phase with
  | queued since =>
      refine ⟨since, .begins runner, List.mem_append_left _ ?_, rfl, fun closed now => ?_⟩
      · exact List.mem_filterMap.2 ⟨_, member, rfl⟩
      · simp only [fire, waits]
        exact nears_begin waits rfl
  | checking call deadline =>
      cases deadline with
      | none =>
          rw [sound.bounded waits] at bounded
          cases bounded
      | some ends =>
          obtain ⟨seconds, timeout⟩ := Option.isSome_iff_exists.1 bounded
          refine ⟨ends, .expires runner, List.mem_append_right _ ?_, rfl, fun closed now => ?_⟩
          · exact List.mem_filterMap.2 ⟨_, member, rfl⟩
          · simp only [fire, waits, timeout]
            exact nears_report waits (Nat.lt_succ_self 1) _
  | reporting verdict fault ends =>
      have heeds := sound.heeds waits
      cases ends with
      | none =>
          obtain ⟨failure, raised, lost⟩ := heeds.2 rfl
          obtain ⟨handed, time, raised⟩ := heeds.1 failure raised
          exact absurd ⟨handed, time, failure, raised, lost⟩ told
      | some ends =>
          refine ⟨ends, .reportEnds runner, List.mem_append_right _ ?_, rfl, fun closed now => ?_⟩
          · exact List.mem_filterMap.2 ⟨_, member, rfl⟩
          · simp only [fire, waits]
            exact .inl (ended_mem_endReport ..)
  | sleeping ends =>
      refine ⟨ends, .begins runner, List.mem_append_right _ ?_, rfl, fun closed now => ?_⟩
      · exact List.mem_filterMap.2 ⟨_, member, rfl⟩
      · simp only [fire, waits]
        exact nears_begin waits rfl

theorem Works.add (works : lane.Works runner) {added : Runner}
    (absent : lane.phase? added = none) (first : Phase) : (lane.add added first).Works runner := by
  obtain ⟨phase, waits, under⟩ := works
  refine ⟨phase, ?_, under⟩
  rw [lane.phase?_add _ _ _ absent, if_neg, waits]
  rintro rfl
  rw [absent] at waits
  cases waits

theorem Works.remove (works : lane.Works runner) {removed : Runner} (other : runner ≠ removed) :
    (lane.remove removed).Works runner := by
  obtain ⟨phase, waits, under⟩ := works
  refine ⟨phase, ?_, under⟩
  rw [lane.phase?_remove, if_neg other, waits]

end Lane

theorem Shifts.works {next : Move} {lane after : Lane} {runner : Runner}
    (shifts : Shifts next lane after) (works : lane.Works runner)
    (stays : next ≠ runner.quits lane.probe.name) : after.Works runner := by
  cases shifts with
  | same => exact works
  | queues absent since => exact works.add absent _
  | quits given =>
      apply works.remove
      rintro rfl
      exact stays given

/-! ## Iterations that have not ended -/

namespace Iteration

def IsGivenUp (moves : List Move) (iteration : Iteration) : Prop :=
  iteration.runner.quits iteration.probe.name ∈ moves

def IsOpen (moves : List Move) (iteration : Iteration) : Prop :=
  iteration.result = none ∧ ¬ iteration.IsGivenUp moves

def IsUnderWay (scheduler : Scheduler) (iteration : Iteration) : Prop :=
  ∃ lane ∈ scheduler.lanes, lane.probe = iteration.probe ∧ lane.Works iteration.runner

variable {iteration : Iteration} {iterations : List Iteration} {probe : Probe} {runner : Runner}
  {effects : List Effect} {moves : List Move}

theorem IsOpen.of_concat {next : Move} (opened : iteration.IsOpen (moves ++ [next])) :
    iteration.IsOpen moves :=
  ⟨opened.1, fun quits => opened.2 (List.mem_append_left _ quits)⟩

theorem observeAll_ended (ended : iteration.result ≠ none) (effects : List Effect) :
    (iteration.observeAll effects).result ≠ none := by
  induction effects generalizing iteration with
  | nil => exact ended
  | cons effect effects ih =>
      rw [observeAll_cons]
      apply ih
      cases effect with
      | ended _ result => nofun
      | _ => exact ended

theorem IsOpen.of_observeAll (opened : (iteration.observeAll effects).IsOpen moves) :
    iteration.IsOpen moves := by
  refine ⟨?_, ?_⟩
  · by_contra ended
    exact observeAll_ended ended effects opened.1
  · intro quits
    apply opened.2
    rw [IsGivenUp, observeAll_probe, observeAll_runner]
    exact quits

theorem mem_amend_observeAll {other : Iteration}
    (member : other ∈ amend probe runner (·.observeAll effects) iterations) :
    other ∈ iterations ∨ ∃ iteration ∈ iterations, iteration.observeAll effects = other := by
  induction iterations with
  | nil => cases member
  | cons first rest ih =>
      rw [amend] at member
      split at member
      next here =>
          rcases List.mem_cons.1 member with rfl | old
          · exact .inr ⟨first, List.mem_cons_self .., rfl⟩
          · exact .inl (List.mem_cons_of_mem _ old)
      next elsewhere =>
          rcases List.mem_cons.1 member with rfl | later
          · exact .inl (List.mem_cons_self ..)
          · rcases ih later with old | ⟨iteration, old, rfl⟩
            · exact .inl (List.mem_cons_of_mem _ old)
            · exact .inr ⟨iteration, List.mem_cons_of_mem _ old, rfl⟩

theorem Earlier.amend {P : Iteration → Prop} (earlier : Earlier P iterations)
    (keeps : ∀ iteration : Iteration, P iteration → P (iteration.observeAll effects)) :
    Earlier P (amend probe runner (·.observeAll effects) iterations) := by
  induction iterations with
  | nil => exact earlier
  | cons first rest ih =>
      obtain ⟨others, rests⟩ := List.pairwise_cons.1 earlier
      rw [Iteration.amend]
      split
      next here =>
          refine List.pairwise_cons.2 ⟨fun other member same => ?_, rests⟩
          rw [observeAll_probe, observeAll_runner] at same
          exact others other member same
      next elsewhere =>
          refine List.pairwise_cons.2 ⟨fun other member same => ?_, ih rests⟩
          rcases mem_amend_observeAll member with old | ⟨iteration, old, rfl⟩
          · exact others other old same
          · rw [isOf_observeAll] at same
            exact keeps iteration (others iteration old same)

end Iteration

/-- What is yet to end is under way, and no runner has two such iterations. -/
structure Pursues (moves : List Move) (scheduler : Scheduler) (iterations : List Iteration) :
    Prop where
  earlier : Iteration.Earlier (fun iteration => ¬ iteration.IsOpen moves) iterations
  under : ∀ iteration ∈ iterations, iteration.IsOpen moves → iteration.IsUnderWay scheduler

namespace Pursues

variable {moves : List Move} {next : Move} {scheduler after : Scheduler}
  {iterations : List Iteration} {lane : Lane}

theorem concat (pursues : Pursues moves scheduler iterations) (next : Move) :
    Pursues (moves ++ [next]) scheduler iterations where
  earlier := pursues.earlier.imp fun ended same opened => ended same opened.of_concat
  under iteration member opened := pursues.under iteration member opened.of_concat

theorem map {change : Lane → Lane} (pursues : Pursues moves scheduler iterations)
    (lanes : after.lanes = scheduler.lanes.map change)
    (each : ∀ lane ∈ scheduler.lanes, Shifts next lane (change lane)) :
    Pursues (moves ++ [next]) after iterations where
  earlier := (pursues.concat next).earlier
  under iteration member opened := by
    obtain ⟨lane, listed, same, works⟩ := pursues.under iteration member opened.of_concat
    refine ⟨change lane, ?_, (each lane listed).keeps.probe.trans same, ?_⟩
    · rw [lanes]
      exact List.mem_map_of_mem listed
    · apply (each lane listed).works works
      rintro rfl
      refine opened.2 (List.mem_append_right _ ?_)
      rw [same]
      exact List.mem_singleton_self _

theorem stays {changed : Lane} {iteration : Iteration} {actor : Option Runner}
    (sound : scheduler.IsSound) (listed : lane ∈ scheduler.lanes)
    (keeps : Lane.Keeps actor lane changed) (under : iteration.IsUnderWay scheduler)
    (other : ∀ runner, actor = some runner → iteration.isOf lane.probe runner = false) :
    iteration.IsUnderWay { scheduler with lanes := replaceLane scheduler.lanes changed } := by
  obtain ⟨old, listed', same, works⟩ := under
  refine ⟨_, List.mem_map_of_mem listed', ?_⟩
  split
  next named =>
      obtain rfl := sound.eq_of_name listed' listed (by rw [named, keeps.probe])
      refine ⟨keeps.probe.trans same, ?_⟩
      obtain ⟨phase, waits, under⟩ := works
      refine ⟨phase, ?_, under⟩
      rw [keeps.others, waits]
      intro acts
      have here : iteration.isOf old.probe iteration.runner = true := by
        rw [Iteration.isOf_iff, same]
        exact ⟨rfl, rfl⟩
      rw [other _ acts] at here
      cases here
  next => exact ⟨same, works⟩

theorem ended_of_rests (pursues : Pursues moves scheduler iterations) (sound : scheduler.IsSound)
    (listed : lane ∈ scheduler.lanes) {runner : Runner} (rests : lane.Rests runner)
    {iteration : Iteration} (member : iteration ∈ iterations)
    (here : iteration.isOf lane.probe runner = true) : ¬ iteration.IsOpen moves := by
  intro opened
  obtain ⟨old, listed', same, phase, waits, under⟩ := pursues.under iteration member opened
  obtain ⟨named, rfl⟩ := Iteration.isOf_iff.1 here
  obtain rfl := sound.eq_of_name listed' listed (by rw [same, named])
  obtain ⟨phase', waits', idle⟩ := rests
  rw [waits] at waits'
  cases waits'
  rw [under] at idle
  cases idle

theorem fire (pursues : Pursues moves scheduler iterations) (sound : scheduler.IsSound)
    (listed : lane ∈ scheduler.lanes) {result : Lane × List Effect} {later : List Iteration}
    (notes : Records.Notes scheduler iterations lane result later) :
    Pursues moves { scheduler with lanes := replaceLane scheduler.lanes result.1 } later := by
  -- the iteration that the turn is about says by itself whether its runner is still in it
  have works {runner : Runner} {iteration : Iteration} {effects : List Effect}
      {actor : Option Runner} (keeps : Lane.Keeps actor lane result.1)
      (advances : Advances scheduler.closed lane.script runner iteration (result.1, effects))
      (named : iteration.probe = lane.probe ∧ iteration.runner = runner)
      (opened : (iteration.observeAll effects).IsOpen moves) :
      (iteration.observeAll effects).IsUnderWay
        { scheduler with lanes := replaceLane scheduler.lanes result.1 } := by
    refine ⟨result.1, List.mem_map.2 ⟨lane, listed, by rw [if_pos (by rw [keeps.probe])]⟩, ?_⟩
    rw [Iteration.observeAll_probe, Iteration.observeAll_runner, named.1, named.2]
    exact ⟨keeps.probe, advances.works opened.1⟩
  cases notes with
  | nothing keeps =>
      refine ⟨pursues.earlier, fun iteration member opened => ?_⟩
      exact stays sound listed keeps (pursues.under iteration member opened) nofun
  | begins keeps rests advances =>
      have ended {iteration : Iteration} (member : iteration ∈ iterations) :=
        pursues.ended_of_rests sound listed rests member
      refine ⟨List.pairwise_cons.2 ⟨fun other member same => ?_, pursues.earlier⟩, ?_⟩
      · rw [Iteration.observeAll_probe, Iteration.observeAll_runner] at same
        exact ended member same
      · intro other member opened
        rcases List.mem_cons.1 member with rfl | old
        · exact works keeps advances ⟨rfl, rfl⟩ opened
        · refine stays sound listed keeps (pursues.under other old opened) ?_
          rintro _ ⟨⟩
          rw [← Bool.not_eq_true]
          exact fun here => ended old here opened
  | carries keeps works' found same advances =>
      refine ⟨pursues.earlier.amend fun _ ended opened => ended opened.of_observeAll, ?_⟩
      intro other member opened
      rcases pursues.earlier.of_mem_amend found member with rfl | ⟨old, ended⟩
      · have named := Iteration.isOf_iff.1 (List.find?_some found)
        exact works keeps advances ⟨same, named.2⟩ opened
      · refine stays sound listed keeps (pursues.under other old opened) ?_
        rintro _ ⟨⟩
        rw [← Bool.not_eq_true]
        exact fun here => ended here opened

theorem move (pursues : Pursues moves scheduler iterations) (sound : scheduler.IsSound)
    (records : Records scheduler iterations) (next : Move) :
    Pursues (moves ++ [next]) (scheduler.move next).1
      ((scheduler.move next).2.foldl Turn.note iterations) := by
  have steps := move_steps sound next
  generalize scheduler.move next = result at steps ⊢
  cases steps with
  | shifts lanes closed each => exact pursues.map lanes each
  | fires listed fires =>
      exact (pursues.fire sound listed (records.notes sound listed fires)).concat next

theorem run (sound : scheduler.IsSound) (records : Records scheduler []) (moves : List Move) :
    Pursues moves (scheduler.run moves).1 (Scheduler.iterations (scheduler.run moves).2) := by
  induction moves using List.reverseRecOn with
  | nil =>
      refine ⟨List.Pairwise.nil, fun iteration member => ?_⟩
      exact absurd member List.not_mem_nil
  | append_singleton moves next ih =>
      rw [run_concat, proceed, Scheduler.iterations, List.foldl_append]
      exact ih.move (sound.run moves) (records.run sound moves) next

end Pursues

end Liveness.Scheduler
