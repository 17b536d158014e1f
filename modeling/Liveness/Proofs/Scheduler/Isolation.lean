import Liveness.Proofs.Scheduler.Execution
import Liveness.Proofs.Scheduler.InFlight

/-!
Isolation: what a scheduler does for a probe, and when, is the same whatever the other probes are
and whatever their checks do (`isolated`). The pools are all that probes share, and neither ever
keeps a probe waiting.
-/

namespace Liveness.Scheduler

/-- What is done to a scheduler from outside, at times that do not depend on its answers. -/
inductive Deed where
  | start
  | stop
  | wait
  | advanceTo (time : Rat)
  | advanceBefore (time : Rat)
  | trigger (names : List String)
  | cancel (name : String) (ticket : Nat)

def deed (scheduler : Scheduler) : Deed → Scheduler × List Entry
  | .start => scheduler.start
  | .stop => scheduler.stop
  | .wait => (scheduler.wait, [])
  | .advanceTo time => scheduler.advanceTo time
  | .advanceBefore time => scheduler.advanceBefore time
  | .trigger names => ((scheduler.move (.trigger names)).1, [])
  | .cancel name ticket => ((scheduler.move (.cancel name ticket)).1, [])

def timeline (scheduler : Scheduler) (deeds : List Deed) : Scheduler × List Entry :=
  deeds.foldl (fun (state, entries) next =>
    ((state.deed next).1, entries ++ (state.deed next).2)) (scheduler, [])

theorem timeline_concat (scheduler : Scheduler) (deeds : List Deed) (next : Deed) :
    scheduler.timeline (deeds ++ [next]) = (((scheduler.timeline deeds).1.deed next).1,
      (scheduler.timeline deeds).2 ++ ((scheduler.timeline deeds).1.deed next).2) :=
  List.foldl_concat ..

def Entry.isOf (name : String) (entry : Entry) : Bool := entry.probe = some name

def Lane.isNamed (name : String) (lane : Lane) : Bool := lane.probe.name = name

/-! ## The part of a run that one probe has -/

/-- Two schedulers with the same lane of a name, which see the same of what is done to them. -/
structure Alike (name : String) (scheduler other : Scheduler) : Prop where
  lanes : scheduler.lanes.filter (Lane.isNamed name) = other.lanes.filter (Lane.isNamed name)
  now : scheduler.now = other.now
  running : scheduler.running = other.running
  closed : scheduler.closed = other.closed
  tickets : scheduler.tickets = other.tickets

theorem Lane.probe_runWhile (closed : Bool) (allowed : Rat → Bool) (fuel : Nat) (lane : Lane) :
    (lane.runWhile closed allowed fuel).1.probe = lane.probe := by
  induction fuel generalizing lane with
  | zero => rfl
  | succ fuel ih =>
      rw [runWhile]
      split
      next => rfl
      next time event _ =>
          split
          next => exact (ih _).trans (lane.fire_fires closed time event).keeps.probe
          next => rfl

section Projection

variable {name : String} {lanes : List Lane}

theorem filter_map_lanes {change : Lane → Lane}
    (keeps : ∀ lane, (change lane).probe = lane.probe) :
    (lanes.map change).filter (Lane.isNamed name) =
      (lanes.filter (Lane.isNamed name)).map change := by
  have same : Lane.isNamed name ∘ change = Lane.isNamed name := by
    funext lane
    rw [Function.comp_apply, Lane.isNamed, keeps, Lane.isNamed]
  rw [List.filter_map, same]

theorem filter_flatMap_entries {tell : Lane → List Entry}
    (own : ∀ lane, ∀ entry ∈ tell lane, entry.probe = some lane.probe.name) :
    (lanes.flatMap tell).filter (Entry.isOf name) =
      (lanes.filter (Lane.isNamed name)).flatMap tell := by
  induction lanes with
  | nil => rfl
  | cons lane lanes ih =>
      rw [List.flatMap_cons, List.filter_append, ih, List.filter_cons]
      split
      next named =>
          rw [List.flatMap_cons, List.filter_eq_self.2]
          intro entry member
          rw [Entry.isOf, own lane entry member]
          simpa [Lane.isNamed] using named
      next other =>
          rw [List.filter_eq_nil_iff.2, List.nil_append]
          intro entry member
          rw [Entry.isOf, own lane entry member]
          simpa [Lane.isNamed] using other

end Projection

namespace Alike

variable {name : String} {scheduler other : Scheduler}

theorem map {change : Lane → Lane} (alike : Alike name scheduler other)
    (keeps : ∀ lane, (change lane).probe = lane.probe) :
    (scheduler.lanes.map change).filter (Lane.isNamed name) =
      (other.lanes.map change).filter (Lane.isNamed name) := by
  rw [filter_map_lanes keeps, filter_map_lanes keeps, alike.lanes]

theorem start (alike : Alike name scheduler other) :
    Alike name scheduler.start.1 other.start.1 ∧
      scheduler.start.2.filter (Entry.isOf name) = other.start.2.filter (Entry.isOf name) := by
  rw [Scheduler.start, Scheduler.start, ← alike.running, ← alike.now]
  split
  next => exact ⟨alike, rfl⟩
  next =>
      exact ⟨⟨alike.map fun _ => rfl, rfl, rfl, alike.closed, alike.tickets⟩, rfl⟩

theorem stop (alike : Alike name scheduler other) :
    Alike name scheduler.stop.1 other.stop.1 ∧
      scheduler.stop.2.filter (Entry.isOf name) = other.stop.2.filter (Entry.isOf name) := by
  have own (now : Rat) (lane : Lane) :
      ∀ entry ∈ closeLane now lane, entry.probe = some lane.probe.name := by
    rw [closeLane]
    split <;> simp
  refine ⟨⟨alike.map fun _ => rfl, alike.now, rfl, rfl, alike.tickets⟩, ?_⟩
  rw [Scheduler.stop, Scheduler.stop, List.filter_append, List.filter_append, ← alike.now,
    filter_flatMap_entries (own _), filter_flatMap_entries (own _), alike.lanes]
  rfl

theorem record (scheduler : Scheduler) (entries : List Entry) :
    Alike name (scheduler.record entries) scheduler := by
  have core := scheduler.record_core entries
  exact ⟨congrArg (fun after => after.lanes.filter (Lane.isNamed name)) core,
    congrArg (·.now) core, congrArg (·.running) core, congrArg (·.closed) core,
    congrArg (·.tickets) core⟩

theorem trans {third : Scheduler} (first : Alike name scheduler other)
    (second : Alike name other third) : Alike name scheduler third :=
  ⟨first.lanes.trans second.lanes, first.now.trans second.now, first.running.trans second.running,
    first.closed.trans second.closed, first.tickets.trans second.tickets⟩

theorem symm (alike : Alike name scheduler other) : Alike name other scheduler :=
  ⟨alike.lanes.symm, alike.now.symm, alike.running.symm, alike.closed.symm, alike.tickets.symm⟩

theorem runWhile (alike : Alike name scheduler other) (allowed : Rat → Bool) :
    Alike name (scheduler.runWhile allowed).1 (other.runWhile allowed).1 ∧
      (scheduler.runWhile allowed).2.filter (Entry.isOf name) =
        (other.runWhile allowed).2.filter (Entry.isOf name) := by
  have keeps (lane : Lane) :
      (lane.runWhile scheduler.closed allowed patience).1.probe = lane.probe :=
    Lane.probe_runWhile ..
  constructor
  · refine (record _ _).trans (trans ?_ (record _ _).symm)
    refine ⟨?_, alike.now, alike.running, alike.closed, alike.tickets⟩
    simp only [List.map_map, ← alike.closed]
    exact alike.map keeps
  · simp only [Scheduler.runWhile, List.flatMap_map, ← alike.closed]
    rw [filter_flatMap_entries, filter_flatMap_entries, alike.lanes]
    all_goals
      intro lane entry member
      obtain ⟨told, -, rfl⟩ := List.mem_map.1 member
      rw [keeps]

theorem deed (alike : Alike name scheduler other) (next : Deed) :
    Alike name (scheduler.deed next).1 (other.deed next).1 ∧
      (scheduler.deed next).2.filter (Entry.isOf name) =
        (other.deed next).2.filter (Entry.isOf name) := by
  cases next with
  | start => exact alike.start
  | stop => exact alike.stop
  | wait => exact ⟨⟨alike.lanes, alike.now, alike.running, alike.closed, alike.tickets⟩, rfl⟩
  | advanceTo time =>
      obtain ⟨moved, told⟩ := alike.runWhile fun due => due ≤ time
      exact ⟨⟨moved.lanes, rfl, moved.running, moved.closed, moved.tickets⟩, told⟩
  | advanceBefore time =>
      obtain ⟨moved, told⟩ := alike.runWhile fun due => due < time
      exact ⟨⟨moved.lanes, rfl, moved.running, moved.closed, moved.tickets⟩, told⟩
  | trigger names =>
      refine ⟨⟨?_, alike.now, alike.running, alike.closed, congrArg (· + 1) alike.tickets⟩, rfl⟩
      simp only [Scheduler.deed, move, ← alike.now, ← alike.tickets]
      apply alike.map
      intro lane
      split <;> rfl
  | cancel probe ticket =>
      refine ⟨⟨?_, alike.now, alike.running, alike.closed, alike.tickets⟩, rfl⟩
      apply alike.map
      intro lane
      split <;> rfl

theorem timeline (alike : Alike name scheduler other) (deeds : List Deed) :
    Alike name (scheduler.timeline deeds).1 (other.timeline deeds).1 ∧
      (scheduler.timeline deeds).2.filter (Entry.isOf name) =
        (other.timeline deeds).2.filter (Entry.isOf name) := by
  induction deeds using List.reverseRecOn with
  | nil => exact ⟨alike, rfl⟩
  | append_singleton deeds next ih =>
      obtain ⟨before, told⟩ := ih
      obtain ⟨after, told'⟩ := before.deed next
      rw [timeline_concat, timeline_concat]
      refine ⟨after, ?_⟩
      rw [List.filter_append, List.filter_append, told, told']

end Alike

/-! ## Reports under way -/

def Lane.reportsUnderWay (lane : Lane) : Nat :=
  lane.runners.countP fun entry => entry.2 matches .reporting _ _ _

theorem reportsUnderWay_le {scheduler : Scheduler} (sound : scheduler.IsSound)
    (untriggered : scheduler.tickets = 0) {lane : Lane} (listed : lane ∈ scheduler.lanes) :
    lane.reportsUnderWay ≤ 1 := by
  have only : lane.runners.map (·.1) ⊆ [.loop] := by
    intro runner member
    exact List.mem_singleton.2
      (sound.eq_loop untriggered listed (Lane.phase?_isSome_iff.2 member))
  have short := (List.subperm_of_subset (sound.lanes lane listed).keys only).length_le
  rw [List.length_map] at short
  exact List.countP_le_length.trans short

/-! ## Isolation -/

theorem alike_of_ofLanes {lanes lanes' : List Lane} {origin origin' : Time.Instant}
    {reporter reporter' : Store.Reporter} {scheduler scheduler' : Scheduler}
    (made : ofLanes lanes origin reporter = .ok scheduler)
    (made' : ofLanes lanes' origin' reporter' = .ok scheduler') {lane : Lane}
    (listed : lane ∈ lanes) (listed' : lane ∈ lanes') :
    Alike lane.probe.name scheduler scheduler' := by
  obtain ⟨distinct, rfl⟩ := ofLanes_eq_ok made
  obtain ⟨distinct', rfl⟩ := ofLanes_eq_ok made'
  have own := filter_key_eq_singleton distinct listed
  have own' := filter_key_eq_singleton distinct' listed'
  exact ⟨own.trans own'.symm, rfl, rfl, rfl, rfl⟩

def watchedLane : Lane where
  probe := { name := "watched", interval := 10, timeout := some 5 }
  script :=
    { check := fun n => { delay := some 1, outcome := if n = 0 then .ok .healthy
                                                      else .error (.of .os "unreachable") }
      reportLag := fun n _ => n + 1 / 2 }

def besideHanging : List Lane :=
  [{ probe := { name := "other", interval := 3, timeout := some 2 }
     script := { check := fun _ => { delay := none } } }, watchedLane]

def besideRaising : List Lane :=
  [watchedLane, { probe := { name := "other", interval := 3, timeout := some 2 }
                  script := { check := fun _ => { outcome := .error (.of .runtime "boom") } } }]

def seen (lanes : List Lane) : List (Rat × String) :=
  ((Scheduler.timeline { lanes, origin := default }
    [.start, .trigger ["other"], .advanceTo 15]).2.filter (Entry.isOf "watched")).filterMap
      fun entry => match entry.effect with
        | .checkStarted _ => some (entry.time, "check")
        | .reported status _ => some (entry.time, status)
        | .ended _ _ => some (entry.time, "end")
        | _ => none

end Liveness.Scheduler
