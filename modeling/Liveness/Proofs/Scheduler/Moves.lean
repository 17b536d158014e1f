import Liveness.Proofs.Scheduler.Lane
import Liveness.Scheduler.Basic

/-!
All that may happen to a scheduler, in any order: a run is a list of moves, and its history tells
the turns of the probes. Checks may take any time and may never end, since nothing makes the end of
a check come.
-/

namespace Liveness.Scheduler

inductive Move where
  | start
  | stop
  | elapse (now : Rat)
  | trigger (names : List String)
  | cancel (name : String) (ticket : Nat)
  | fire (name : String) (event : Event)

structure Turn where
  probe : Probe
  actor : Option Runner
  busy : Bool
  effects : List Effect

def move (scheduler : Scheduler) : Move → Scheduler × List Turn
  | .start => (scheduler.start.1, [])
  | .stop => (scheduler.stop.1, [])
  | .elapse now => ({ scheduler with now }, [])
  | .trigger names =>
    ({ scheduler with
        tickets := scheduler.tickets + 1
        lanes := scheduler.lanes.map fun lane =>
          if lane.probe.name ∈ names then
            lane.add (.trigger scheduler.tickets) (.queued scheduler.now)
          else lane }, [])
  | .cancel name ticket =>
    ({ scheduler with
        lanes := scheduler.lanes.map fun lane =>
          if lane.probe.name = name then lane.remove (.trigger ticket) else lane }, [])
  | .fire name event =>
    match scheduler.lanes.find? (·.probe.name = name) with
    | none => (scheduler, [])
    | some lane =>
      let (after, effects) := lane.fire scheduler.closed scheduler.now event
      ({ scheduler with lanes := replaceLane scheduler.lanes after },
        [⟨lane.probe, lane.actor? event, !lane.running.isEmpty, effects⟩])

def proceed (state : Scheduler × List Turn) (next : Move) : Scheduler × List Turn :=
  ((state.1.move next).1, state.2 ++ (state.1.move next).2)

def run (scheduler : Scheduler) (moves : List Move) : Scheduler × List Turn :=
  moves.foldl proceed (scheduler, [])

theorem run_concat (scheduler : Scheduler) (moves : List Move) (next : Move) :
    scheduler.run (moves ++ [next]) = proceed (scheduler.run moves) next := by
  rw [run, List.foldl_append]
  rfl

/-! ## What every scheduler keeps -/

/-- Loops are there while the scheduler runs, but for one that a cancellation has ended. -/
def Lane.Loops (lane : Lane) (running : Bool) : Prop :=
  (lane.phase? .loop).isSome = running ∨ lane.phase? .loop = none ∧ lane.script.Cancels

theorem Lane.Loops.keep {lane after : Lane} {running : Bool} {actor : Option Runner}
    (loops : lane.Loops running) (keeps : Lane.Keeps actor lane after)
    (stays : (after.phase? .loop).isSome = (lane.phase? .loop).isSome ∨ lane.script.Cancels) :
    after.Loops running := by
  rw [Loops, keeps.script]
  cases waits : after.phase? .loop with
  | some phase =>
      have present : (lane.phase? .loop).isSome := keeps.present (by rw [waits]; rfl)
      rcases loops with same | ⟨absent, -⟩
      · exact .inl (present.symm.trans same)
      · rw [absent] at present
        cases present
  | none =>
      rcases stays with same | cancels
      · rw [waits] at same
        exact loops.imp same.trans fun ended => ⟨rfl, ended.2⟩
      · exact .inr ⟨rfl, cancels⟩

structure IsSound (scheduler : Scheduler) : Prop where
  names : scheduler.names.Nodup
  lanes : ∀ lane ∈ scheduler.lanes, lane.IsSound
  loops : ∀ lane ∈ scheduler.lanes, lane.Loops scheduler.running
  tickets : ∀ lane ∈ scheduler.lanes, ∀ ticket,
    (lane.phase? (.trigger ticket)).isSome → ticket < scheduler.tickets

theorem nodup_of_repeatedNames {names : List String} (none : repeatedNames names = []) :
    names.Nodup := by
  rw [List.nodup_iff_count_le_one]
  intro name
  by_contra repeated
  have counted : name ∈ names.filter fun name => 1 < names.count name := by
    rw [List.mem_filter, decide_eq_true_eq]
    exact ⟨List.count_pos_iff.1 (by omega), by omega⟩
  have listed : name ∈ repeatedNames names := by
    rw [repeatedNames, List.mem_mergeSort, List.mem_eraseDups]
    exact counted
  rw [none] at listed
  cases listed

theorem ofLanes_eq_ok {lanes : List Lane} {origin : Time.Instant} {reporter : Store.Reporter}
    {scheduler : Scheduler} (made : ofLanes lanes origin reporter = .ok scheduler) :
    (lanes.map (·.probe.name)).Nodup ∧ scheduler = { lanes, origin, reporter } := by
  rw [ofLanes] at made
  split at made
  next none => exact ⟨nodup_of_repeatedNames none, (Except.ok.inj made).symm⟩
  next => cases made

variable {scheduler : Scheduler} {name : String} {lane after : Lane}

theorem filter_key_eq_singleton {α β : Type} [DecidableEq β] {key : α → β} {entries : List α}
    (distinct : (entries.map key).Nodup) {entry : α} (listed : entry ∈ entries) :
    entries.filter (fun other => key other = key entry) = [entry] := by
  induction entries with
  | nil => cases listed
  | cons first rest ih =>
      obtain ⟨unrepeated, distinct⟩ := List.nodup_cons.1 distinct
      rcases List.mem_cons.1 listed with rfl | listed
      · rw [List.filter_cons_of_pos (by simp), List.filter_eq_nil_iff.2]
        intro other member same
        exact unrepeated (List.mem_map.2 ⟨other, member, of_decide_eq_true same⟩)
      · have different : key first ≠ key entry := fun same =>
          unrepeated (List.mem_map.2 ⟨entry, listed, same.symm⟩)
        rw [List.filter_cons_of_neg (by simpa using different), ih distinct listed]

theorem mem_replaceLane {lanes : List Lane} {after other : Lane}
    (member : other ∈ replaceLane lanes after) :
    other = after ∨ other ∈ lanes ∧ other.probe.name ≠ after.probe.name := by
  obtain ⟨old, listed, rfl⟩ := List.mem_map.1 member
  split
  next => exact .inl rfl
  next different => exact .inr ⟨listed, different⟩

theorem isSound_of_ofLanes {lanes : List Lane} {origin : Time.Instant}
    {reporter : Store.Reporter} (made : ofLanes lanes origin reporter = .ok scheduler)
    (fresh : ∀ lane ∈ lanes, lane.IsFresh) : scheduler.IsSound := by
  obtain ⟨distinct, rfl⟩ := ofLanes_eq_ok made
  refine ⟨distinct, fun lane member => (fresh lane member).isSound, ?_, ?_⟩
  · intro lane member
    rw [Lane.Loops, (fresh lane member).phase?]
    exact .inl rfl
  · intro lane member ticket waits
    rw [(fresh lane member).phase?] at waits
    cases waits

namespace IsSound

theorem eq_of_name (sound : scheduler.IsSound) {lane other : Lane} (listed : lane ∈ scheduler.lanes)
    (listed' : other ∈ scheduler.lanes) (same : lane.probe.name = other.probe.name) :
    lane = other :=
  List.inj_on_of_nodup_map sound.names listed listed' same

theorem map {after : Scheduler} {change : Lane → Lane} (sound : scheduler.IsSound)
    (lanes : after.lanes = scheduler.lanes.map change)
    (each : ∀ lane ∈ scheduler.lanes, (change lane).probe = lane.probe ∧ (change lane).IsSound ∧
      (change lane).Loops after.running ∧
      ∀ ticket, ((change lane).phase? (.trigger ticket)).isSome → ticket < after.tickets) :
    after.IsSound := by
  have member (lane : Lane) (listed : lane ∈ after.lanes) :
      ∃ old ∈ scheduler.lanes, change old = lane := by
    rw [lanes] at listed
    exact List.mem_map.1 listed
  refine ⟨?_, ?_, ?_, ?_⟩
  · have same : after.names = scheduler.names := by
      rw [Scheduler.names, lanes, List.map_map, Scheduler.names]
      exact List.map_congr_left fun lane listed => congrArg Probe.name (each lane listed).1
    rw [same]
    exact sound.names
  · intro lane listed
    obtain ⟨old, listed', rfl⟩ := member lane listed
    exact (each old listed').2.1
  · intro lane listed
    obtain ⟨old, listed', rfl⟩ := member lane listed
    exact (each old listed').2.2.1
  · intro lane listed
    obtain ⟨old, listed', rfl⟩ := member lane listed
    exact (each old listed').2.2.2

theorem loop_absent (sound : scheduler.IsSound) (stopped : scheduler.running = false)
    {lane : Lane} (listed : lane ∈ scheduler.lanes) : lane.phase? .loop = none := by
  rcases sound.loops lane listed with same | ⟨absent, -⟩
  · rw [stopped] at same
    exact Option.not_isSome_iff_eq_none.1 (by simp [same])
  · exact absent

theorem loop_present (sound : scheduler.IsSound) (runs : scheduler.running = true) {lane : Lane}
    (listed : lane ∈ scheduler.lanes) (stays : ¬ lane.script.Cancels) :
    (lane.phase? .loop).isSome := by
  rcases sound.loops lane listed with same | ⟨-, cancels⟩
  · exact same.trans runs
  · exact absurd cancels stays

theorem trigger_absent (sound : scheduler.IsSound) {lane : Lane} (listed : lane ∈ scheduler.lanes) :
    lane.phase? (.trigger scheduler.tickets) = none := by
  rw [← Option.not_isSome_iff_eq_none]
  intro waits
  exact Nat.lt_irrefl _ (sound.tickets lane listed _ waits)

theorem start (sound : scheduler.IsSound) : scheduler.start.1.IsSound := by
  rw [Scheduler.start]
  cases runs : scheduler.running with
  | true => exact sound
  | false =>
      apply sound.map rfl
      intro lane listed
      have absent := sound.loop_absent runs listed
      refine ⟨rfl, (sound.lanes lane listed).queue absent _, ?_, fun ticket waits => ?_⟩
      · rw [Lane.Loops, lane.phase?_add _ _ _ absent, if_pos rfl]
        exact .inl rfl
      · rw [lane.phase?_add _ _ _ absent, if_neg (by simp)] at waits
        exact sound.tickets lane listed ticket waits

theorem stop (sound : scheduler.IsSound) : scheduler.stop.1.IsSound := by
  apply sound.map rfl
  intro lane listed
  refine ⟨rfl, (sound.lanes lane listed).remove .loop, ?_, fun ticket waits => ?_⟩
  · rw [Lane.Loops, lane.phase?_remove, if_pos rfl]
    exact .inl rfl
  · rw [lane.phase?_remove, if_neg (by simp)] at waits
    exact sound.tickets lane listed ticket waits

theorem trigger (sound : scheduler.IsSound) (names : List String) :
    (scheduler.move (.trigger names)).1.IsSound := by
  apply sound.map rfl
  intro lane listed
  have absent := sound.trigger_absent listed
  have older (ticket : Nat) (waits : (lane.phase? (.trigger ticket)).isSome) :
      ticket < scheduler.tickets + 1 := Nat.lt_succ_of_lt (sound.tickets lane listed ticket waits)
  split
  next =>
      refine ⟨rfl, (sound.lanes lane listed).queue absent _, ?_, fun ticket waits => ?_⟩
      · rw [Lane.Loops, lane.phase?_add _ _ _ absent, if_neg (by simp)]
        exact sound.loops lane listed
      · rw [lane.phase?_add _ _ _ absent] at waits
        split at waits
        next same =>
            cases same
            exact Nat.lt_succ_self _
        next => exact older ticket waits
  next => exact ⟨rfl, sound.lanes lane listed, sound.loops lane listed, older⟩

theorem cancel (sound : scheduler.IsSound) (name : String) (ticket : Nat) :
    (scheduler.move (.cancel name ticket)).1.IsSound := by
  apply sound.map rfl
  intro lane listed
  split
  next =>
      refine ⟨rfl, (sound.lanes lane listed).remove _, ?_, fun other waits => ?_⟩
      · rw [Lane.Loops, lane.phase?_remove, if_neg (by simp)]
        exact sound.loops lane listed
      · rw [lane.phase?_remove] at waits
        split at waits
        next => cases waits
        next => exact sound.tickets lane listed other waits
  next => exact ⟨rfl, sound.lanes lane listed, sound.loops lane listed, sound.tickets lane listed⟩

theorem replaceLane (sound : scheduler.IsSound) {lane after : Lane}
    (listed : lane ∈ scheduler.lanes) {actor : Option Runner} (keeps : Lane.Keeps actor lane after)
    (sound' : after.IsSound)
    (loop : (after.phase? .loop).isSome = (lane.phase? .loop).isSome ∨ lane.script.Cancels) :
    ({ scheduler with lanes := replaceLane scheduler.lanes after } : Scheduler).IsSound := by
  apply sound.map rfl
  intro other listed'
  split
  next same =>
      obtain rfl : lane = other := sound.eq_of_name listed listed' (by rw [same, keeps.probe])
      refine ⟨keeps.probe, sound', (sound.loops lane listed).keep keeps loop,
        fun ticket waits => ?_⟩
      exact sound.tickets lane listed ticket (keeps.present waits)
  next =>
      exact ⟨rfl, sound.lanes other listed', sound.loops other listed', sound.tickets other listed'⟩

theorem move (sound : scheduler.IsSound) (next : Move) : (scheduler.move next).1.IsSound := by
  cases next with
  | start => exact sound.start
  | stop => exact sound.stop
  | elapse now => exact ⟨sound.names, sound.lanes, sound.loops, sound.tickets⟩
  | trigger names => exact sound.trigger names
  | cancel name ticket => exact sound.cancel name ticket
  | fire name event =>
      rw [Scheduler.move]
      split
      next => exact sound
      next lane found =>
          have listed := List.mem_of_find?_eq_some found
          have fires := lane.fire_fires scheduler.closed scheduler.now event
          have soundly := sound.lanes lane listed
          exact sound.replaceLane listed fires.keeps (soundly.fires fires) (fires.loop soundly)

theorem run (sound : scheduler.IsSound) (moves : List Move) : (scheduler.run moves).1.IsSound := by
  induction moves using List.reverseRecOn with
  | nil => exact sound
  | append_singleton moves next ih =>
      rw [run_concat]
      exact ih.move next

end IsSound

/-! ## What a move does -/

def Runner.quits (name : String) : Runner → Move
  | .loop => .stop
  | .trigger ticket => .cancel name ticket

/-- What a move that is no event does to a lane. -/
inductive Shifts (next : Move) (lane : Lane) : Lane → Prop
  | same : Shifts next lane lane
  | queues {runner : Runner} (absent : lane.phase? runner = none) (since : Rat) :
    Shifts next lane (lane.add runner (.queued since))
  | quits {runner : Runner} (given : next = runner.quits lane.probe.name) :
    Shifts next lane (lane.remove runner)

inductive Steps (scheduler : Scheduler) (next : Move) : Scheduler × List Turn → Prop
  | shifts {after : Scheduler} {change : Lane → Lane}
    (lanes : after.lanes = scheduler.lanes.map change)
    (closed : after.closed = scheduler.closed ∨ after.closed = true)
    (each : ∀ lane ∈ scheduler.lanes, Shifts next lane (change lane)) :
    Steps scheduler next (after, [])
  | fires {lane : Lane} {event : Event} {result : Lane × List Effect}
    (listed : lane ∈ scheduler.lanes)
    (fires : Lane.Fires lane scheduler.closed scheduler.now event result)
    (given : next = .fire lane.probe.name event) :
    Steps scheduler next ({ scheduler with lanes := replaceLane scheduler.lanes result.1 },
      [⟨lane.probe, lane.actor? event, !lane.running.isEmpty, result.2⟩])

theorem steps_rest {after : Scheduler} {next : Move} (lanes : after.lanes = scheduler.lanes)
    (closed : after.closed = scheduler.closed) : Steps scheduler next (after, []) :=
  .shifts (lanes.trans (List.map_id _).symm) (.inl closed) fun _ _ => .same

theorem move_steps (sound : scheduler.IsSound) (next : Move) :
    Steps scheduler next (scheduler.move next) := by
  cases next with
  | start =>
      rw [move, start]
      cases runs : scheduler.running with
      | true => exact steps_rest rfl rfl
      | false =>
          refine .shifts rfl (.inl rfl) fun lane listed => ?_
          exact .queues (sound.loop_absent runs listed) _
  | stop => exact .shifts rfl (.inr rfl) fun lane _ => .quits rfl
  | elapse now => exact steps_rest rfl rfl
  | trigger names =>
      refine .shifts rfl (.inl rfl) fun lane listed => ?_
      split
      next => exact .queues (sound.trigger_absent listed) _
      next => exact .same
  | cancel name ticket =>
      refine .shifts rfl (.inl rfl) fun lane _ => ?_
      split
      next named => exact .quits (by rw [named, Runner.quits])
      next => exact .same
  | fire name event =>
      rw [move]
      split
      next => exact steps_rest rfl rfl
      next lane found =>
          have named : lane.probe.name = name := by simpa using List.find?_some found
          exact .fires (List.mem_of_find?_eq_some found)
            (lane.fire_fires scheduler.closed scheduler.now event) (by rw [named])

structure Lane.Stays (lane after : Lane) : Prop where
  probe : after.probe = lane.probe
  script : after.script = lane.script
  running : after.running = lane.running
  lost : after.lost = lane.lost

theorem Shifts.keeps {next : Move} {after : Lane} (shifts : Shifts next lane after) :
    lane.Stays after := by
  cases shifts <;> exact ⟨rfl, rfl, rfl, rfl⟩

theorem forall_lanes_run {P : Lane → Prop} (sound : scheduler.IsSound)
    (initially : ∀ lane ∈ scheduler.lanes, P lane)
    (shifts : ∀ {next : Move} {lane after : Lane}, P lane → Shifts next lane after → P after)
    (fires : ∀ {lane : Lane} {closed : Bool} {now : Rat} {event : Event}
      {result : Lane × List Effect}, lane.IsSound → P lane →
        Lane.Fires lane closed now event result → P result.1) (moves : List Move) :
    ∀ lane ∈ (scheduler.run moves).1.lanes, P lane := by
  induction moves using List.reverseRecOn with
  | nil => exact initially
  | append_singleton moves next ih =>
      have sound' := sound.run moves
      rw [run_concat, proceed]
      generalize (scheduler.run moves).1 = middle at ih sound'
      have steps := move_steps sound' next
      generalize middle.move next = result at steps ⊢
      cases steps with
      | shifts lanes closed each =>
          rw [lanes]
          exact List.forall_mem_map.2 fun lane listed => shifts (ih lane listed) (each lane listed)
      | fires listed fired =>
          intro other listed'
          rcases mem_replaceLane listed' with rfl | ⟨old, -⟩
          · exact fires (sound'.lanes _ listed) (ih _ listed) fired
          · exact ih other old

theorem forall_scripts_run {P : Script → Prop} (sound : scheduler.IsSound)
    (initially : ∀ lane ∈ scheduler.lanes, P lane.script) (moves : List Move) :
    ∀ lane ∈ (scheduler.run moves).1.lanes, P lane.script :=
  forall_lanes_run (P := fun lane => P lane.script) sound initially
    (fun holds shifts => shifts.keeps.script ▸ holds)
    (fun _ holds fires => fires.keeps.script ▸ holds) moves

/-! ## What moves leave as it was -/

theorem map_probe_move (sound : scheduler.IsSound) (next : Move) :
    (scheduler.move next).1.lanes.map (·.probe) = scheduler.lanes.map (·.probe) := by
  have steps := move_steps sound next
  generalize scheduler.move next = result at steps ⊢
  cases steps with
  | shifts lanes closed each =>
      rw [lanes, List.map_map]
      exact List.map_congr_left fun lane listed => (each lane listed).keeps.probe
  | fires listed fires =>
      rw [Scheduler.replaceLane, List.map_map]
      apply List.map_congr_left
      intro other listed'
      rw [Function.comp_apply]
      split
      next same =>
          rw [sound.eq_of_name listed' listed (by rw [same, fires.keeps.probe])]
          exact fires.keeps.probe
      next => rfl

theorem map_probe_run (sound : scheduler.IsSound) (moves : List Move) :
    (scheduler.run moves).1.lanes.map (·.probe) = scheduler.lanes.map (·.probe) := by
  induction moves using List.reverseRecOn with
  | nil => rfl
  | append_singleton moves next ih =>
      rw [run_concat, proceed, map_probe_move (sound.run moves), ih]

theorem closed_move {next : Move} (other : next ≠ .stop) :
    (scheduler.move next).1.closed = scheduler.closed := by
  cases next with
  | start =>
      rw [move, start]
      split <;> rfl
  | stop => exact absurd rfl other
  | fire name event =>
      rw [move]
      split <;> rfl
  | _ => rfl

theorem running_move {next : Move} (other : next ≠ .stop) :
    (scheduler.move next).1.running = true ↔ scheduler.running = true ∨ next = .start := by
  cases next with
  | start =>
      rw [move, start]
      split
      next runs => simp [runs]
      next => simp
  | stop => exact absurd rfl other
  | fire name event =>
      rw [move]
      split <;> simp
  | _ => simp [move]

theorem closed_run {moves : List Move} (unstopped : .stop ∉ moves) :
    (scheduler.run moves).1.closed = scheduler.closed := by
  induction moves using List.reverseRecOn with
  | nil => rfl
  | append_singleton moves next ih =>
      rw [List.mem_append, List.mem_singleton, not_or] at unstopped
      rw [run_concat, proceed, closed_move (Ne.symm unstopped.2), ih unstopped.1]

theorem running_run {moves : List Move} (unstopped : .stop ∉ moves) :
    (scheduler.run moves).1.running = true ↔ scheduler.running = true ∨ .start ∈ moves := by
  induction moves using List.reverseRecOn with
  | nil => simp [run]
  | append_singleton moves next ih =>
      rw [List.mem_append, List.mem_singleton, not_or] at unstopped
      rw [run_concat, proceed, running_move (Ne.symm unstopped.2), ih unstopped.1, List.mem_append,
        List.mem_singleton, or_assoc, eq_comm (b := next)]

theorem tickets_move {next : Move} (untriggered : ∀ names, next ≠ .trigger names) :
    (scheduler.move next).1.tickets = scheduler.tickets := by
  cases next with
  | start =>
      rw [move, start]
      split <;> rfl
  | trigger names => exact absurd rfl (untriggered names)
  | fire name event =>
      rw [move]
      split <;> rfl
  | _ => rfl

theorem tickets_run {moves : List Move} (untriggered : ∀ names, .trigger names ∉ moves) :
    (scheduler.run moves).1.tickets = scheduler.tickets := by
  induction moves using List.reverseRecOn with
  | nil => rfl
  | append_singleton moves next ih =>
      have last (names : List String) : next ≠ .trigger names := by
        rintro rfl
        exact untriggered names (List.mem_append_right _ (List.mem_singleton_self _))
      rw [run_concat, proceed, tickets_move last]
      exact ih fun names member => untriggered names (List.mem_append_left _ member)

theorem IsSound.eq_loop (sound : scheduler.IsSound) (untriggered : scheduler.tickets = 0)
    (listed : lane ∈ scheduler.lanes) {runner : Runner} (present : (lane.phase? runner).isSome) :
    runner = .loop := by
  cases runner with
  | loop => rfl
  | trigger ticket =>
      have early := sound.tickets lane listed ticket present
      rw [untriggered] at early
      exact absurd early (Nat.not_lt_zero ticket)

end Liveness.Scheduler
