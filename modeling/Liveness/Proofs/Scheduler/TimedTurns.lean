import Liveness.Proofs.Scheduler.Courses
import Liveness.Proofs.Scheduler.Isolation
import Liveness.Proofs.Scheduler.Round

namespace Liveness.Scheduler

namespace Lane

variable {lane : Lane} {due : Rat} {event : Event}

/-! ## What is due -/

/-- What a lane waits for, and the time at which it comes. -/
inductive Due (lane : Lane) : Rat → Event → Prop
  | queued {runner : Runner} {since : Rat} (waits : lane.phase? runner = some (.queued since)) :
    Due lane since (.begins runner)
  | rested {runner : Runner} {ends : Rat} (waits : lane.phase? runner = some (.sleeping ends)) :
    Due lane ends (.begins runner)
  | checked {check : RunningCheck} {ends : Rat} (runs : check ∈ lane.running)
    (arrives : check.ends = some ends) : Due lane ends (.checkEnds check.call)
  | expires {runner : Runner} {call : Nat} {deadline : Rat}
    (waits : lane.phase? runner = some (.checking call (some deadline))) :
    Due lane deadline (.expires runner)
  | reported {runner : Runner} {verdict : Verdict} {fault : Option Failure} {ends : Rat}
    (waits : lane.phase? runner = some (.reporting verdict fault (some ends))) :
    Due lane ends (.reportEnds runner)

theorem mem_dues_iff (keys : (lane.runners.map (·.1)).Nodup) :
    (due, event) ∈ lane.dueBeginnings ++ lane.dueChecks ++ lane.dueContinuations ↔
      lane.Due due event := by
  rw [List.mem_append, List.mem_append]
  constructor
  · rintro ((begins | checks) | continues)
    · obtain ⟨⟨runner, phase⟩, member, told⟩ := List.mem_filterMap.1 begins
      have waits := phase?_of_mem keys member
      cases phase with
      | queued since =>
          cases told
          exact .queued waits
      | _ => cases told
    · obtain ⟨check, runs, told⟩ := List.mem_filterMap.1 checks
      obtain ⟨ends, arrives, told⟩ := Option.map_eq_some_iff.1 told
      cases told
      exact .checked runs arrives
    · obtain ⟨⟨runner, phase⟩, member, told⟩ := List.mem_filterMap.1 continues
      have waits := phase?_of_mem keys member
      cases phase with
      | queued since => cases told
      | checking call deadline =>
          obtain ⟨ends, rfl, told⟩ := Option.map_eq_some_iff.1 told
          cases told
          exact .expires waits
      | reporting verdict fault ends =>
          obtain ⟨ends, rfl, told⟩ := Option.map_eq_some_iff.1 told
          cases told
          exact .reported waits
      | sleeping ends =>
          cases told
          exact .rested waits
  · rintro (waits | waits | ⟨runs, arrives⟩ | waits | waits)
    · exact .inl (.inl (List.mem_filterMap.2 ⟨_, mem_of_phase? waits, rfl⟩))
    · exact .inr (List.mem_filterMap.2 ⟨_, mem_of_phase? waits, rfl⟩)
    · exact .inl (.inr (List.mem_filterMap.2 ⟨_, runs, by rw [arrives]; rfl⟩))
    · exact .inr (List.mem_filterMap.2 ⟨_, mem_of_phase? waits, rfl⟩)
    · exact .inr (List.mem_filterMap.2 ⟨_, mem_of_phase? waits, rfl⟩)

theorem IsSound.due_of_next? (sound : lane.IsSound) (next : lane.next? = some (due, event)) :
    lane.Due due event :=
  (mem_dues_iff sound.keys).1 (earliest?_eq_some next).1

theorem IsSound.le_of_next? (sound : lane.IsSound) (next : lane.next? = some (due, event))
    {other : Rat} {event' : Event} (waits : lane.Due other event') : due ≤ other :=
  (earliest?_eq_some next).2 _ ((mem_dues_iff sound.keys).2 waits)

theorem IsSound.exists_next? (sound : lane.IsSound) (waits : lane.Due due event) :
    ∃ entry, lane.next? = some entry ∧ entry.1 ≤ due := by
  have member := (mem_dues_iff sound.keys).2 waits
  obtain ⟨entry, next⟩ := exists_earliest? (List.ne_nil_of_mem member)
  exact ⟨entry, next, (earliest?_eq_some next).2 _ member⟩

/-! ## Turns of a lane -/

def turnsWhile (closed : Bool) (allowed : Rat → Bool) : Nat → Lane → List (Rat × Turn)
  | 0, _ => []
  | fuel + 1, lane =>
    match lane.next? with
    | none => []
    | some (time, event) =>
      if allowed time then
        let (after, effects) := lane.fire closed time event
        (time, lane.turn event effects) :: turnsWhile closed allowed fuel after
      else []

theorem runWhile_keeps {P : Lane → List (Rat × Turn) → Prop} {closed : Bool}
    (step : ∀ lane turns due event, P lane turns → lane.next? = some (due, event) →
      P (lane.fire closed due event).1
        (turns ++ [(due, lane.turn event (lane.fire closed due event).2)]))
    (allowed : Rat → Bool) (fuel : Nat) {lane : Lane} {turns : List (Rat × Turn)}
    (holds : P lane turns) :
    P (lane.runWhile closed allowed fuel).1 (turns ++ lane.turnsWhile closed allowed fuel) := by
  induction fuel generalizing lane turns with
  | zero =>
      rw [turnsWhile, List.append_nil]
      exact holds
  | succ fuel ih =>
      rw [runWhile, turnsWhile]
      cases next : lane.next? with
      | none =>
          rw [List.append_nil]
          exact holds
      | some entry =>
          by_cases allows : allowed entry.1 = true
          · simp only [allows, if_true]
            rw [List.append_cons]
            exact ih (step lane turns entry.1 entry.2 holds next)
          · simp only [allows, Bool.false_eq_true, if_false, List.append_nil]
            exact holds

end Lane

def Turn.entries (time : Rat) (turn : Turn) : List Entry :=
  turn.effects.map fun effect => ⟨time, some turn.probe.name, effect⟩

theorem Lane.flatMap_turnsWhile (closed : Bool) (allowed : Rat → Bool) (fuel : Nat) (lane : Lane) :
    (lane.turnsWhile closed allowed fuel).flatMap (fun (time, turn) => turn.entries time) =
      (lane.runWhile closed allowed fuel).2.map fun (time, effect) =>
        ⟨time, some lane.probe.name, effect⟩ := by
  induction fuel generalizing lane with
  | zero => rfl
  | succ fuel ih =>
      rw [turnsWhile, runWhile]
      cases lane.next? with
      | none => rfl
      | some entry =>
          by_cases allows : allowed entry.1 = true
          · have probe := (lane.fire_fires closed entry.1 entry.2).keeps.probe
            simp only [allows, if_true]
            rw [List.flatMap_cons, ih, List.map_append, List.map_map, probe]
            rfl
          · simp only [allows, Bool.false_eq_true, if_false]
            rfl

/-! ## What deeds keep -/

section Deeds

variable {scheduler : Scheduler} {next : Deed}

theorem reaches_deed (sound : scheduler.IsSound) (next : Deed) :
    ∃ history, Reaches scheduler history (scheduler.deed next).1 := by
  cases next with
  | start => exact ⟨_, Reaches.move scheduler .start⟩
  | stop => exact ⟨_, Reaches.move scheduler .stop⟩
  | wait => exact ⟨_, (Reaches.refl scheduler).of_core rfl⟩
  | advanceTo time =>
      obtain ⟨history, reaches, -⟩ := reaches_advanceTo sound time
      exact ⟨history, reaches⟩
  | advanceBefore time =>
      obtain ⟨history, reaches, -⟩ := reaches_advanceBefore sound time
      exact ⟨history, reaches⟩
  | trigger names => exact ⟨_, Reaches.move scheduler (.trigger names)⟩
  | cancel name ticket => exact ⟨_, Reaches.move scheduler (.cancel name ticket)⟩

theorem IsSound.deed (sound : scheduler.IsSound) (next : Deed) :
    (scheduler.deed next).1.IsSound := by
  obtain ⟨history, reaches⟩ := reaches_deed sound next
  exact reaches.isSound sound

theorem running_deed (running : scheduler.running = true) (unstopped : next ≠ .stop) :
    (scheduler.deed next).1.running = true := by
  have moved (allowed : Rat → Bool) : (scheduler.runWhile allowed).1.running = true :=
    have kept := congrArg Scheduler.running (scheduler.core_runWhile allowed)
    kept.trans running
  cases next with
  | start =>
      rw [deed, start, if_pos running]
      exact running
  | stop => exact absurd rfl unstopped
  | advanceTo time => exact moved _
  | advanceBefore time => exact moved _
  | _ => exact running

theorem running_start (scheduler : Scheduler) : scheduler.start.1.running = true := by
  rw [start]
  split
  next running => exact running
  next => rfl

theorem fst_timeline_cons (scheduler : Scheduler) (next : Deed) (deeds : List Deed) :
    (scheduler.timeline (next :: deeds)).1 = ((scheduler.deed next).1.timeline deeds).1 := by
  induction deeds using List.reverseRecOn with
  | nil => rfl
  | append_singleton deeds last ih => rw [← List.cons_append, timeline_concat, timeline_concat, ih]

theorem fst_timeline_append (scheduler : Scheduler) (deeds later : List Deed) :
    (scheduler.timeline (deeds ++ later)).1 = ((scheduler.timeline deeds).1.timeline later).1 := by
  induction deeds generalizing scheduler with
  | nil => rfl
  | cons next deeds ih => rw [List.cons_append, fst_timeline_cons, ih, fst_timeline_cons]

theorem running_timeline {deeds : List Deed} (running : scheduler.running = true)
    (unstopped : .stop ∉ deeds) : (scheduler.timeline deeds).1.running = true := by
  induction deeds generalizing scheduler with
  | nil => exact running
  | cons next deeds ih =>
      rw [List.mem_cons, not_or] at unstopped
      rw [fst_timeline_cons]
      exact ih (running_deed running (Ne.symm unstopped.1)) unstopped.2

end Deeds

/-! ## Turns of a probe -/

def Deed.allows? : Deed → Option (Rat → Bool)
  | .advanceTo time => some fun due => due ≤ time
  | .advanceBefore time => some fun due => due < time
  | _ => none

def turnsIn (name : String) (scheduler : Scheduler) (next : Deed) : List (Rat × Turn) :=
  match next.allows? with
  | none => []
  | some allowed =>
    (scheduler.lanes.filter (Lane.isNamed name)).flatMap
      (Lane.turnsWhile scheduler.closed allowed patience)

def turns (name : String) : Scheduler → List Deed → List (Rat × Turn)
  | _, [] => []
  | scheduler, next :: deeds =>
    turnsIn name scheduler next ++ turns name (scheduler.deed next).1 deeds

theorem turns_append (name : String) (scheduler : Scheduler) (deeds later : List Deed) :
    turns name scheduler (deeds ++ later) =
      turns name scheduler deeds ++ turns name (scheduler.timeline deeds).1 later := by
  induction deeds generalizing scheduler with
  | nil => rfl
  | cons next deeds ih =>
      rw [List.cons_append, turns, turns, ih, fst_timeline_cons, List.append_assoc]

theorem filter_runWhile (name : String) (scheduler : Scheduler) (allowed : Rat → Bool) :
    (scheduler.runWhile allowed).2.filter (Entry.isOf name) =
      ((scheduler.lanes.filter (Lane.isNamed name)).flatMap
        (Lane.turnsWhile scheduler.closed allowed patience)).flatMap
          fun (time, turn) => turn.entries time := by
  simp only [runWhile, List.flatMap_map, List.flatMap_assoc, Lane.flatMap_turnsWhile,
    Lane.probe_runWhile]
  apply filter_flatMap_entries
  intro lane entry member
  obtain ⟨told, -, rfl⟩ := List.mem_map.1 member
  rfl

theorem filter_deed (name : String) (scheduler : Scheduler) {next : Deed}
    (unstopped : next ≠ .stop) :
    (scheduler.deed next).2.filter (Entry.isOf name) =
      (turnsIn name scheduler next).flatMap fun (time, turn) => turn.entries time := by
  cases next with
  | start =>
      simp only [deed, start]
      split <;> rfl
  | stop => exact absurd rfl unstopped
  | advanceTo time => exact filter_runWhile name scheduler _
  | advanceBefore time => exact filter_runWhile name scheduler _
  | _ => rfl

theorem filter_timeline (name : String) (scheduler : Scheduler) {deeds : List Deed}
    (unstopped : .stop ∉ deeds) :
    (scheduler.timeline deeds).2.filter (Entry.isOf name) =
      (turns name scheduler deeds).flatMap fun (time, turn) => turn.entries time := by
  induction deeds using List.reverseRecOn with
  | nil => rfl
  | append_singleton deeds next ih =>
      rw [List.mem_append, List.mem_singleton, not_or] at unstopped
      obtain ⟨unstopped, goes⟩ := unstopped
      rw [timeline_concat, List.filter_append, ih unstopped, filter_deed name _ (Ne.symm goes),
        turns_append, List.flatMap_append, turns, turns, List.append_nil]

end Liveness.Scheduler
