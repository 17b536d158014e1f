import Liveness.Proofs.Scheduler.Moves

/-!
Execution: whatever the program does with a scheduler is a run of moves (`reaches_commands`), with
the same effects (`reaches_advanceTo`, `reaches_runOnce`, `reaches_runAll`). Moves know nothing of
the store and of the tasks that wait.
-/

namespace Liveness.Scheduler

def core (scheduler : Scheduler) : Scheduler := { scheduler with store := {}, waiters := [] }

def told (history : List Turn) : List (Option String × Effect) :=
  history.flatMap fun turn => turn.effects.map fun effect => (some turn.probe.name, effect)

def Reaches (scheduler : Scheduler) (history : List Turn) (after : Scheduler) : Prop :=
  ∃ moves, scheduler.core.run moves = (after.core, history)

theorem run_append (scheduler : Scheduler) (moves later : List Move) :
    scheduler.run (moves ++ later) = (((scheduler.run moves).1.run later).1,
      (scheduler.run moves).2 ++ ((scheduler.run moves).1.run later).2) := by
  induction later using List.reverseRecOn with
  | nil => simp [run]
  | append_singleton later next ih =>
      rw [← List.append_assoc, run_concat, ih, run_concat, proceed, proceed]
      simp

theorem move_core (scheduler : Scheduler) (next : Move) :
    scheduler.core.move next = ((scheduler.move next).1.core, (scheduler.move next).2) := by
  cases next with
  | start =>
      have same : scheduler.core.running = scheduler.running := rfl
      rw [move, move, start, start, same]
      split <;> rfl
  | stop =>
      rw [move, move, stop, stop]
      split <;> rfl
  | fire name event =>
      have same : scheduler.core.lanes = scheduler.lanes := rfl
      rw [move, move, same]
      split <;> rfl
  | _ => rfl

theorem IsSound.core {scheduler : Scheduler} (sound : scheduler.IsSound) :
    scheduler.core.IsSound := ⟨sound.names, sound.lanes, sound.loops, sound.tickets⟩

namespace Reaches

variable {scheduler middle after : Scheduler} {history later : List Turn}

theorem refl (scheduler : Scheduler) : Reaches scheduler [] scheduler := ⟨[], rfl⟩

theorem trans (first : Reaches scheduler history middle) (second : Reaches middle later after) :
    Reaches scheduler (history ++ later) after := by
  obtain ⟨moves, ran⟩ := first
  obtain ⟨moves', ran'⟩ := second
  refine ⟨moves ++ moves', ?_⟩
  rw [run_append, ran, ran']

theorem move (scheduler : Scheduler) (next : Move) :
    Reaches scheduler (scheduler.move next).2 (scheduler.move next).1 := by
  refine ⟨[next], ?_⟩
  change proceed (scheduler.core, []) next = _
  rw [proceed, move_core]
  rfl

theorem of_core (reaches : Reaches scheduler history middle) (same : middle.core = after.core) :
    Reaches scheduler history after := by
  rw [Reaches, ← same]
  exact reaches

theorem elapse (reaches : Reaches scheduler history middle) (time : Rat) :
    Reaches scheduler history { middle with now := time } := by
  have elapsed := reaches.trans (move middle (.elapse time))
  simpa only [Scheduler.move, List.append_nil] using elapsed

theorem isSound (reaches : Reaches scheduler history after) (sound : scheduler.IsSound) :
    after.IsSound := by
  obtain ⟨moves, ran⟩ := reaches
  have sound' := sound.core.run moves
  rw [ran] at sound'
  exact ⟨sound'.names, sound'.lanes, sound'.loops, sound'.tickets⟩

end Reaches

/-! ## Changing lanes -/

section Lanes

variable {scheduler : Scheduler} {lane changed : Lane}

theorem replaceLane_append {before rest : List Lane}
    (distinct : ((before ++ lane :: rest).map (·.probe.name)).Nodup)
    (same : changed.probe.name = lane.probe.name) :
    replaceLane (before ++ lane :: rest) changed = before ++ changed :: rest := by
  rw [List.map_append, List.map_cons, List.nodup_append, List.nodup_cons] at distinct
  obtain ⟨-, ⟨unrepeated, -⟩, apart⟩ := distinct
  have untouched {lanes : List Lane}
      (absent : ∀ other ∈ lanes, other.probe.name ≠ lane.probe.name) :
      replaceLane lanes changed = lanes := by
    rw [replaceLane, List.map_congr_left, List.map_id]
    intro other member
    rw [if_neg (by rw [same]; exact absent other member)]
    rfl
  have front := untouched fun other member => apart _ (List.mem_map_of_mem member) _
    (List.mem_cons_self ..)
  have back := untouched fun other member named =>
    unrepeated (named ▸ List.mem_map_of_mem member)
  rw [replaceLane] at front back ⊢
  rw [List.map_append, List.map_cons, front, back, if_pos same.symm]

theorem replaceLane_begun (sound : scheduler.IsSound) {before rest : List Lane}
    (lanes : scheduler.lanes = before ++ lane :: rest) {runner : Runner} {phase : Phase}
    {event : Event} :
    replaceLane (before ++ lane :: rest)
        ((lane.add runner phase).fire scheduler.closed scheduler.now event).1 =
      before ++ ((lane.add runner phase).fire scheduler.closed scheduler.now event).1 :: rest := by
  have distinct := sound.names
  rw [names, lanes] at distinct
  have fires := (lane.add runner phase).fire_fires scheduler.closed scheduler.now event
  exact replaceLane_append distinct (congrArg Probe.name fires.keeps.probe)

theorem find?_name (sound : scheduler.IsSound) (listed : lane ∈ scheduler.lanes) :
    scheduler.lanes.find? (·.probe.name = lane.probe.name) = some lane := by
  cases found : scheduler.lanes.find? (·.probe.name = lane.probe.name) with
  | none =>
      rw [List.find?_eq_none] at found
      exact absurd (decide_eq_true rfl) (found lane listed)
  | some other =>
      have named := List.find?_some found
      rw [sound.eq_of_name (List.mem_of_find?_eq_some found) listed (by simpa using named)]

end Lanes

/-! ## Events in their order -/

section Running

variable {scheduler : Scheduler} {before rest : List Lane} {lane : Lane}

theorem told_append (history later : List Turn) :
    told (history ++ later) = told history ++ told later := List.flatMap_append

theorem reaches_fire (sound : scheduler.IsSound) (lanes : scheduler.lanes = before ++ lane :: rest)
    (event : Event) :
    Reaches scheduler [⟨lane.probe, lane.actor? event, !lane.running.isEmpty,
        (lane.fire scheduler.closed scheduler.now event).2⟩]
      { scheduler with
        lanes := before ++ (lane.fire scheduler.closed scheduler.now event).1 :: rest } := by
  have listed : lane ∈ scheduler.lanes := by simp [lanes]
  have distinct := sound.names
  rw [names, lanes] at distinct
  have probe := (lane.fire_fires scheduler.closed scheduler.now event).keeps.probe
  have fired := Reaches.move scheduler (.fire lane.probe.name event)
  rw [move, find?_name sound listed] at fired
  simp only at fired
  rwa [lanes, replaceLane_append distinct (congrArg Probe.name probe)] at fired

theorem reaches_fireAt (sound : scheduler.IsSound)
    (lanes : scheduler.lanes = before ++ lane :: rest) (time : Rat) (event : Event) :
    Reaches scheduler [⟨lane.probe, lane.actor? event, !lane.running.isEmpty,
        (lane.fire scheduler.closed time event).2⟩]
      { scheduler with
        lanes := before ++ (lane.fire scheduler.closed time event).1 :: rest, now := time } := by
  have elapsed := Reaches.move scheduler (.elapse time)
  exact elapsed.trans (reaches_fire (elapsed.isSound sound) lanes event)

theorem reaches_runLane (sound : scheduler.IsSound)
    (lanes : scheduler.lanes = before ++ lane :: rest) (allowed : Rat → Bool) (fuel : Nat) :
    ∃ history now, Reaches scheduler history { scheduler with
        lanes := before ++ (lane.runWhile scheduler.closed allowed fuel).1 :: rest, now } ∧
      (lane.runWhile scheduler.closed allowed fuel).1.probe = lane.probe ∧
      told history = (lane.runWhile scheduler.closed allowed fuel).2.map
        fun entry => (some lane.probe.name, entry.2) := by
  have rests : Reaches scheduler []
      { scheduler with lanes := before ++ lane :: rest, now := scheduler.now } := by
    rw [← lanes]
    exact Reaches.refl scheduler
  -- every turn leaves a scheduler whose lane in that place is the next to run
  induction fuel generalizing scheduler lane with
  | zero => exact ⟨[], _, rests, rfl, rfl⟩
  | succ fuel ih =>
      rw [Lane.runWhile]
      split
      next => exact ⟨[], _, rests, rfl, rfl⟩
      next time event _ =>
          split
          next =>
              have probe := (lane.fire_fires scheduler.closed time event).keeps.probe
              have fired := reaches_fireAt sound lanes time event
              obtain ⟨history, now, reaches, probe', tells⟩ := ih (fired.isSound sound) rfl
                (Reaches.refl _)
              refine ⟨_, now, fired.trans reaches, probe'.trans probe, ?_⟩
              rw [told_append, tells, probe]
              simp [told]
          next => exact ⟨[], _, rests, rfl, rfl⟩

theorem reaches_runLanes (sound : scheduler.IsSound) (lanes : scheduler.lanes = before ++ rest)
    (allowed : Rat → Bool) (fuel : Nat) :
    ∃ history now, Reaches scheduler history { scheduler with
        lanes := before ++ rest.map fun lane =>
          (lane.runWhile scheduler.closed allowed fuel).1, now } ∧
      told history = rest.flatMap fun lane =>
        (lane.runWhile scheduler.closed allowed fuel).2.map fun entry =>
          (some (lane.runWhile scheduler.closed allowed fuel).1.probe.name, entry.2) := by
  induction rest generalizing scheduler before with
  | nil =>
      refine ⟨[], scheduler.now, ?_, rfl⟩
      rw [List.map_nil, ← lanes]
      exact Reaches.refl scheduler
  | cons lane rest ih =>
      obtain ⟨history, now, reaches, probe, tells⟩ := reaches_runLane sound lanes allowed fuel
      obtain ⟨later, now', reaches', tells'⟩ := ih (reaches.isSound sound)
        (List.append_cons before _ rest)
      refine ⟨history ++ later, now', ?_, ?_⟩
      · rw [List.map_cons, List.append_cons]
        exact reaches.trans reaches'
      · rw [told_append, tells, tells', List.flatMap_cons, probe]

end Running

/-! ## What is done with a scheduler -/

section Operations

variable {scheduler : Scheduler}

def Accords (history : List Turn) (entries : List Entry) : Prop :=
  told history = entries.map fun entry => (entry.probe, entry.effect)

theorem record_core (scheduler : Scheduler) (entries : List Entry) :
    (scheduler.record entries).core = scheduler.core := by
  rw [record]
  generalize entries.mergeSort _ = entries
  induction entries generalizing scheduler with
  | nil => rfl
  | cons entry entries ih =>
      rw [List.foldl_cons, ih, recordReport]
      repeat' split
      all_goals rfl

theorem mem_of_returned? {ticket : Nat} {effects : List Effect} {result : Except Failure Verdict}
    (returned : Lane.returned? ticket effects = some result) :
    .ended (.trigger ticket) result ∈ effects := by
  obtain ⟨effect, member, found⟩ := List.exists_of_findSome?_eq_some returned
  cases effect with
  | ended runner outcome =>
      cases runner with
      | loop => cases found
      | trigger other =>
          simp only [Option.ite_none_right_eq_some, Option.some.injEq] at found
          obtain ⟨rfl, rfl⟩ := found
          exact member
  | _ => cases found

theorem core_runWhile (scheduler : Scheduler) (allowed : Rat → Bool) :
    (scheduler.runWhile allowed).1.core = core { scheduler with
      lanes := scheduler.lanes.map fun lane =>
        (lane.runWhile scheduler.closed allowed patience).1 } := by
  simp only [runWhile, record_core, List.map_map]
  rfl

theorem reaches_runWhile (sound : scheduler.IsSound) (allowed : Rat → Bool) :
    ∃ history now, Reaches scheduler history { (scheduler.runWhile allowed).1 with now } ∧
      Accords history (scheduler.runWhile allowed).2 := by
  obtain ⟨history, now, reaches, tells⟩ := reaches_runLanes sound (List.nil_append _).symm allowed
    patience
  have lanes := (scheduler.core_runWhile allowed).symm
  refine ⟨history, now, reaches.of_core ?_, ?_⟩
  · exact congrArg (fun after : Scheduler => { after with now }) lanes
  · rw [Accords, tells]
    simp only [runWhile, List.flatMap_map, List.map_flatMap, List.map_map]
    rfl

theorem reaches_advanceTo (sound : scheduler.IsSound) (time : Rat) :
    ∃ history, Reaches scheduler history (scheduler.advanceTo time).1 ∧
      Accords history (scheduler.advanceTo time).2 := by
  obtain ⟨history, now, reaches, tells⟩ := reaches_runWhile sound fun due => due ≤ time
  exact ⟨history, (reaches.elapse time).of_core rfl, tells⟩

theorem reaches_advanceBefore (sound : scheduler.IsSound) (time : Rat) :
    ∃ history, Reaches scheduler history (scheduler.advanceBefore time).1 ∧
      Accords history (scheduler.advanceBefore time).2 := by
  obtain ⟨history, now, reaches, tells⟩ := reaches_runWhile sound fun due => due < time
  exact ⟨history, (reaches.elapse time).of_core rfl, tells⟩

theorem reaches_runAll (sound : scheduler.IsSound) :
    ∃ history, Reaches scheduler history scheduler.runAll.2.1 ∧
      Accords history scheduler.runAll.2.2 := by
  have triggered := Reaches.move scheduler (.trigger scheduler.names)
  have everyone : (scheduler.move (.trigger scheduler.names)).1 =
      { scheduler with
        tickets := scheduler.tickets + 1
        lanes := scheduler.lanes.map fun lane =>
          lane.add (.trigger scheduler.tickets) (.queued scheduler.now) } := by
    have each (lane : Lane) (listed : lane ∈ scheduler.lanes) :
        (if lane.probe.name ∈ scheduler.names then
          lane.add (.trigger scheduler.tickets) (.queued scheduler.now) else lane) =
            lane.add (.trigger scheduler.tickets) (.queued scheduler.now) :=
      if_pos (List.mem_map_of_mem listed)
    rw [move, List.map_congr_left each]
  rw [everyone] at triggered
  have advances (time : Rat) := reaches_advanceTo (triggered.isSound sound) time
  rw [runAll]
  simp only
  split
  next time failure _ =>
      obtain ⟨history, reaches, tells⟩ := advances time
      exact ⟨history, triggered.trans reaches, tells⟩
  next =>
      split
      next time verdicts _ =>
          obtain ⟨history, reaches, tells⟩ := advances time
          exact ⟨history, triggered.trans reaches, tells⟩
      next => exact ⟨[], triggered, rfl⟩

theorem reaches_begin (sound : scheduler.IsSound) {before rest : List Lane} {lane : Lane}
    (lanes : scheduler.lanes = before ++ lane :: rest) {begun : Lane × List Effect}
    (begins : (lane.add (.trigger scheduler.tickets) (.queued scheduler.now)).fire scheduler.closed
      scheduler.now (.begins (.trigger scheduler.tickets)) = begun) :
    ∃ history, Reaches scheduler history { scheduler with
        tickets := scheduler.tickets + 1, lanes := before ++ begun.1 :: rest } ∧
      told history = begun.2.map fun effect => (some lane.probe.name, effect) := by
  have listed : lane ∈ scheduler.lanes := by simp [lanes]
  have distinct := sound.names
  rw [names, lanes] at distinct
  have triggered := Reaches.move scheduler (.trigger [lane.probe.name])
  have each (other : Lane) (listed' : other ∈ scheduler.lanes) :
      (if other.probe.name ∈ [lane.probe.name] then
        other.add (.trigger scheduler.tickets) (.queued scheduler.now) else other) =
      if other.probe.name = lane.probe.name then
        lane.add (.trigger scheduler.tickets) (.queued scheduler.now) else other := by
    simp only [List.mem_singleton]
    split
    next named => rw [sound.eq_of_name listed' listed named]
    next => rfl
  have queued : (scheduler.lanes.map fun other =>
      if other.probe.name ∈ [lane.probe.name] then
        other.add (.trigger scheduler.tickets) (.queued scheduler.now) else other) =
      before ++ lane.add (.trigger scheduler.tickets) (.queued scheduler.now) :: rest := by
    have same : (lane.add (.trigger scheduler.tickets) (.queued scheduler.now)).probe.name =
        lane.probe.name := rfl
    rw [List.map_congr_left each, lanes]
    exact replaceLane_append distinct same
  rw [move, queued] at triggered
  have fired := reaches_fire (triggered.isSound sound) rfl (.begins (.trigger scheduler.tickets))
  subst begins
  refine ⟨_, triggered.trans fired, ?_⟩
  simp only [told, List.nil_append, List.flatMap_singleton]
  rfl

theorem exists_ended_of_outcome (sound : scheduler.IsSound) {before rest : List Lane} {lane : Lane}
    (lanes : scheduler.lanes = before ++ lane :: rest) {ticket fuel : Nat} {time : Rat}
    {result : Except Failure Verdict}
    (outcome : lane.outcomeOf? scheduler.closed ticket fuel = some (time, result)) :
    ∃ history after, Reaches scheduler history after ∧
      (some lane.probe.name, .ended (.trigger ticket) result) ∈ told history := by
  induction fuel generalizing scheduler lane with
  | zero => cases outcome
  | succ fuel ih =>
      rw [Lane.outcomeOf?] at outcome
      split at outcome
      next => cases outcome
      next due event _ =>
          have fired := reaches_fireAt sound lanes due event
          have probe := (lane.fire_fires scheduler.closed due event).keeps.probe
          simp only at outcome
          split at outcome
          next ended =>
              cases outcome
              refine ⟨_, _, fired, ?_⟩
              have member := mem_of_returned? ended
              simpa [told] using member
          next =>
              obtain ⟨history, after, reaches, ended⟩ := ih (fired.isSound sound) rfl outcome
              refine ⟨_, after, fired.trans reaches, ?_⟩
              rw [told_append, ← probe]
              exact List.mem_append_right _ ended

theorem reaches_runOnce (sound : scheduler.IsSound) (name : String) :
    ∃ history, Reaches scheduler history (scheduler.runOnce name).2.1 ∧
      Accords history (scheduler.runOnce name).2.2 := by
  rw [runOnce]
  split
  next => exact ⟨[], Reaches.refl scheduler, rfl⟩
  next lane found =>
      obtain ⟨before, rest, lanes⟩ := List.append_of_mem (List.mem_of_find?_eq_some found)
      obtain rfl : lane.probe.name = name := by simpa using List.find?_some found
      obtain ⟨history, begins, tells⟩ := reaches_begin sound lanes rfl
      rw [← replaceLane_begun sound lanes, ← lanes] at begins
      have begun (entries : List Entry) := begins.of_core (record_core _ entries).symm
      simp only
      split
      next =>
          refine ⟨history, begun _, ?_⟩
          rw [Accords, tells, List.map_map]
          rfl
      next time result _ =>
          obtain ⟨later, advances, tells'⟩ := reaches_advanceTo ((begun _).isSound sound) time
          refine ⟨history ++ later, (begun _).trans advances, ?_⟩
          rw [Accords, told_append, tells, tells', List.map_append, List.map_map]
          rfl

/-- What a trigger of one probe returns is what its iteration ends with. -/
theorem exists_ended_of_runOnce (sound : scheduler.IsSound) {name : String}
    {result : Except Failure Verdict} (returned : (scheduler.runOnce name).1 = some result) :
    ∃ history after, Reaches scheduler history after ∧
      (some name, .ended (.trigger scheduler.tickets) result) ∈ told history := by
  rw [runOnce] at returned
  split at returned
  next => cases returned
  next lane found =>
      obtain ⟨before, rest, lanes⟩ := List.append_of_mem (List.mem_of_find?_eq_some found)
      obtain rfl : lane.probe.name = name := by simpa using List.find?_some found
      obtain ⟨history, begins, tells⟩ := reaches_begin sound lanes rfl
      simp only at returned
      split at returned
      next => cases returned
      next time outcome ends =>
          obtain rfl := Option.some.inj returned
          split at ends
          next result ended =>
              cases ends
              refine ⟨history, _, begins, ?_⟩
              rw [tells]
              exact List.mem_map_of_mem (mem_of_returned? ended)
          next =>
              obtain ⟨later, after, reaches, ended⟩ :=
                exists_ended_of_outcome (begins.isSound sound) rfl ends
              have fires := Lane.fire_fires (lane.add (.trigger scheduler.tickets)
                (.queued scheduler.now)) scheduler.closed scheduler.now
                  (.begins (.trigger scheduler.tickets))
              rw [fires.keeps.probe] at ended
              refine ⟨history ++ later, after, begins.trans reaches, ?_⟩
              rw [told_append]
              exact List.mem_append_right _ ended

end Operations

/-- What the program does with a scheduler. -/
inductive Command where
  | start
  | stop
  | wait
  | advanceTo (time : Rat)
  | advanceBefore (time : Rat)
  | runOnce (name : String)
  | runAll

def perform (scheduler : Scheduler) : Command → Scheduler
  | .start => scheduler.start.1
  | .stop => scheduler.stop.1
  | .wait => scheduler.wait
  | .advanceTo time => (scheduler.advanceTo time).1
  | .advanceBefore time => (scheduler.advanceBefore time).1
  | .runOnce name => (scheduler.runOnce name).2.1
  | .runAll => scheduler.runAll.2.1

theorem reaches_perform {scheduler : Scheduler} (sound : scheduler.IsSound) (command : Command) :
    ∃ history, Reaches scheduler history (scheduler.perform command) := by
  cases command with
  | start => exact ⟨_, Reaches.move scheduler .start⟩
  | stop => exact ⟨_, Reaches.move scheduler .stop⟩
  | wait => exact ⟨[], (Reaches.refl scheduler).of_core rfl⟩
  | advanceTo time =>
      obtain ⟨history, reaches, -⟩ := reaches_advanceTo sound time
      exact ⟨history, reaches⟩
  | advanceBefore time =>
      obtain ⟨history, reaches, -⟩ := reaches_advanceBefore sound time
      exact ⟨history, reaches⟩
  | runOnce name =>
      obtain ⟨history, reaches, -⟩ := reaches_runOnce sound name
      exact ⟨history, reaches⟩
  | runAll =>
      obtain ⟨history, reaches, -⟩ := reaches_runAll sound
      exact ⟨history, reaches⟩

theorem reaches_commands {scheduler : Scheduler} (sound : scheduler.IsSound)
    (commands : List Command) :
    ∃ history, Reaches scheduler history (commands.foldl perform scheduler) := by
  induction commands using List.reverseRecOn with
  | nil => exact ⟨[], Reaches.refl scheduler⟩
  | append_singleton commands command ih =>
      obtain ⟨history, reaches⟩ := ih
      obtain ⟨later, reaches'⟩ := reaches_perform (reaches.isSound sound) command
      rw [List.foldl_append]
      exact ⟨history ++ later, reaches.trans reaches'⟩

end Liveness.Scheduler
