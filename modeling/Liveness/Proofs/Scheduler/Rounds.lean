import Liveness.Proofs.Scheduler.Isolation
import Liveness.Proofs.Scheduler.Round
import Liveness.Proofs.Store.Readability

namespace Liveness.Scheduler

open Database (Cell)
open Store (StatusStore Table Row)

/-! ## Answers -/

theorem foldl_firstFailure (first : Rat × Failure) (rest : List (Rat × Failure)) :
    rest.foldl (fun best next => match best with
        | none => some next
        | some b => if next.1 < b.1 then some next else best) (some first) =
      some (rest.foldl (fun best next => if next.1 < best.1 then next else best) first) := by
  induction rest generalizing first with
  | nil => rfl
  | cons second rest ih =>
      rw [List.foldl_cons, List.foldl_cons]
      dsimp only
      split <;> exact ih _

theorem firstFailure?_eq_none {outcomes : List (Rat × Except Failure Verdict)}
    (judged : ∀ outcome ∈ outcomes, ∃ verdict, outcome.2 = .ok verdict) :
    firstFailure? outcomes = none := by
  rw [firstFailure?, List.filterMap_eq_nil_iff.2]
  · rfl
  · rintro ⟨time, result⟩ member
    obtain ⟨verdict, rfl⟩ := judged _ member
    rfl

theorem exists_firstFailure? {outcomes : List (Rat × Except Failure Verdict)}
    (failed : ∃ time failure, (time, .error failure) ∈ outcomes) :
    ∃ time failure, firstFailure? outcomes = some (time, failure) ∧
      (time, .error failure) ∈ outcomes ∧
      ∀ time' failure', (time', .error failure') ∈ outcomes → time ≤ time' := by
  rw [firstFailure?]
  generalize found : outcomes.filterMap _ = failures
  have listed {time : Rat} {failure : Failure} :
      (time, .error failure) ∈ outcomes ↔ (time, failure) ∈ failures := by
    rw [← found, List.mem_filterMap]
    constructor
    · exact fun member => ⟨_, member, rfl⟩
    · rintro ⟨⟨time', result⟩, member, told⟩
      cases result with
      | ok verdict => cases told
      | error failure' =>
          cases told
          exact member
  simp only [listed] at failed ⊢
  cases failures with
  | nil =>
      obtain ⟨_, _, member⟩ := failed
      cases member
  | cons first rest =>
      obtain ⟨member, least⟩ := foldl_sooner first rest rfl
      refine ⟨_, _, foldl_firstFailure first rest, member, fun time' failure' among => ?_⟩
      exact least _ among

theorem le_later (a b : Rat) : a ≤ later a b ∧ b ≤ later a b := by
  rw [later]
  split
  next under => exact ⟨under, le_refl b⟩
  next above => exact ⟨le_refl a, (not_le.1 above).le⟩

theorem exists_allVerdicts? {α : Type} (start : Rat) (name : α → String) (ends : α → Rat)
    (verdict : α → Verdict) (items : List α) :
    ∃ last, allVerdicts? start (items.map fun item =>
        (name item, some (ends item, .ok (verdict item)))) =
          some (last, items.map fun item => (name item, verdict item)) ∧
      ∀ item ∈ items, ends item ≤ last := by
  induction items with
  | nil => exact ⟨start, rfl, List.forall_mem_nil _⟩
  | cons item items ih =>
      obtain ⟨last, answer, ended⟩ := ih
      refine ⟨later (ends item) last, ?_, ?_⟩
      · rw [List.map_cons, allVerdicts?, answer]
        rfl
      · rw [List.forall_mem_cons]
        exact ⟨(le_later _ _).1, fun other listed => (ended other listed).trans (le_later _ _).2⟩

theorem allVerdicts?_eq_none (start : Rat)
    {outcomes : List (String × Option (Rat × Except Failure Verdict))}
    (endless : ∃ name, (name, none) ∈ outcomes) : allVerdicts? start outcomes = none := by
  obtain ⟨name, member⟩ := endless
  induction outcomes with
  | nil => cases member
  | cons outcome outcomes ih =>
      rcases List.mem_cons.1 member with rfl | later
      · rfl
      · obtain ⟨other, outcome⟩ := outcome
        match outcome with
        | none | some (_, .error _) => rfl
        | some (_, .ok _) => rw [allVerdicts?, ih later, Option.map_none]

section Rounds

variable {scheduler : Scheduler} {lane : Lane}

def triggered (scheduler : Scheduler) : Scheduler :=
  { scheduler with
    tickets := scheduler.tickets + 1
    lanes := scheduler.lanes.map fun lane =>
      lane.add (.trigger scheduler.tickets) (.queued scheduler.now) }

variable (opened : scheduler.closed = false) (fresh : ∀ lane ∈ scheduler.lanes, lane.IsFresh)
  (bounded : ∀ lane ∈ scheduler.lanes, ∃ seconds, lane.probe.timeout = some seconds)

theorem settles_triggered (fresh : lane.IsFresh)
    (bounded : ∃ seconds, lane.probe.timeout = some seconds) (ticket : Nat) (now : Rat) :
    Lane.Settles ticket 4 (lane.add (.trigger ticket) (.queued now))
      ((lane.round now).told ticket lane.calls now) (lane.round now).outcome? := by
  obtain ⟨seconds, timeout⟩ := bounded
  have alone : (lane.add (.trigger ticket) (.queued now)).runners =
      [(.trigger ticket, .queued now)] := by
    rw [Lane.add, fresh.runners, List.nil_append]
  exact Lane.settles_queued alone fresh.running fresh.unlost timeout

include opened fresh bounded

theorem outcomes_triggered : scheduler.triggered.lanes.map (fun lane =>
      (lane.probe.name, lane.outcomeOf? scheduler.closed scheduler.tickets patience)) =
    scheduler.lanes.map fun lane => (lane.probe.name, (lane.round scheduler.now).outcome?) := by
  rw [triggered, List.map_map]
  refine List.map_congr_left fun lane listed => ?_
  have settles := settles_triggered (fresh lane listed) (bounded lane listed)
    scheduler.tickets scheduler.now
  rw [opened]
  exact congrArg (Prod.mk lane.probe.name) (settles.outcome (patience - 4))

/-- The answer of a round of all probes, by what their iterations come to. -/
theorem runAll_eq : scheduler.runAll =
    (match firstFailure?
        (scheduler.lanes.filterMap fun lane => (lane.round scheduler.now).outcome?) with
    | some (time, failure) =>
      (some (.error failure), scheduler.triggered.advanceTo time)
    | none =>
      match allVerdicts? scheduler.now (scheduler.lanes.map fun lane =>
          (lane.probe.name, (lane.round scheduler.now).outcome?)) with
      | some (time, verdicts) => (some (.ok verdicts), scheduler.triggered.advanceTo time)
      | none => (none, scheduler.triggered, [])) := by
  have outcomes := outcomes_triggered opened fresh bounded
  have filtered : (scheduler.lanes.filterMap fun lane => (lane.round scheduler.now).outcome?) =
      (scheduler.triggered.lanes.map fun lane =>
        (lane.probe.name, lane.outcomeOf? scheduler.closed scheduler.tickets patience)).filterMap
          (·.2) := by
    rw [outcomes, List.filterMap_map]
    rfl
  rw [← outcomes, filtered]
  rfl

theorem runAll_judged {verdict : Lane → Verdict} (judged : ∀ lane ∈ scheduler.lanes,
      (lane.round scheduler.now).result? = some (.ok (verdict lane))) :
    ∃ last, (∀ lane ∈ scheduler.lanes, (lane.round scheduler.now).ends ≤ last) ∧
      scheduler.runAll =
        (some (.ok (scheduler.lanes.map fun lane => (lane.probe.name, verdict lane))),
          scheduler.triggered.advanceTo last) := by
  obtain ⟨last, answer, ended⟩ := exists_allVerdicts? scheduler.now (·.probe.name)
    (fun lane : Lane => (lane.round scheduler.now).ends) verdict scheduler.lanes
  have outcomes : ∀ lane ∈ scheduler.lanes, (lane.round scheduler.now).outcome? =
      some ((lane.round scheduler.now).ends, .ok (verdict lane)) := by
    intro lane listed
    rw [Round.outcome?, judged lane listed, Option.map_some]
  have unfailed : firstFailure?
      (scheduler.lanes.filterMap fun lane => (lane.round scheduler.now).outcome?) = none := by
    refine firstFailure?_eq_none fun outcome member => ?_
    obtain ⟨lane, listed, told⟩ := List.mem_filterMap.1 member
    rw [outcomes lane listed] at told
    cases told
    exact ⟨_, rfl⟩
  have same : (scheduler.lanes.map fun lane =>
      (lane.probe.name, (lane.round scheduler.now).outcome?)) = scheduler.lanes.map fun lane =>
        (lane.probe.name, some ((lane.round scheduler.now).ends, .ok (verdict lane))) :=
    List.map_congr_left fun lane listed => by rw [outcomes lane listed]
  refine ⟨last, ended, ?_⟩
  rw [runAll_eq opened fresh bounded, unfailed, same, answer]

theorem runAll_failed (failed : ∃ lane ∈ scheduler.lanes, ∃ failure,
      (lane.round scheduler.now).result? = some (.error failure)) :
    ∃ first ∈ scheduler.lanes, ∃ failure,
      (first.round scheduler.now).result? = some (.error failure) ∧
      (∀ lane ∈ scheduler.lanes, ∀ failure',
        (lane.round scheduler.now).result? = some (.error failure') →
          (first.round scheduler.now).ends ≤ (lane.round scheduler.now).ends) ∧
      scheduler.runAll = (some (.error failure),
        scheduler.triggered.advanceTo (first.round scheduler.now).ends) := by
  have member {lane : Lane} (listed : lane ∈ scheduler.lanes) {failure : Failure}
      (fails : (lane.round scheduler.now).result? = some (.error failure)) :
      ((lane.round scheduler.now).ends, .error failure) ∈
        scheduler.lanes.filterMap fun lane => (lane.round scheduler.now).outcome? := by
    refine List.mem_filterMap.2 ⟨lane, listed, ?_⟩
    rw [Round.outcome?, fails, Option.map_some]
  obtain ⟨lane, listed, failure, fails⟩ := failed
  obtain ⟨time, failure, found, among, least⟩ :=
    exists_firstFailure? ⟨_, failure, member listed fails⟩
  obtain ⟨first, listed', told⟩ := List.mem_filterMap.1 among
  obtain ⟨result, fails', same⟩ := Option.map_eq_some_iff.1 told
  obtain ⟨rfl, rfl⟩ := Prod.mk.inj same
  refine ⟨first, listed', failure, fails', fun lane listed failure' fails => ?_, ?_⟩
  · exact least _ _ (member listed fails)
  · rw [runAll_eq opened fresh bounded, found]

theorem runAll_endless (unfailed : ∀ lane ∈ scheduler.lanes, ∀ failure,
      (lane.round scheduler.now).result? ≠ some (.error failure))
    (endless : ∃ lane ∈ scheduler.lanes, (lane.round scheduler.now).result? = none) :
    scheduler.runAll = (none, scheduler.triggered, []) := by
  have judged : firstFailure?
      (scheduler.lanes.filterMap fun lane => (lane.round scheduler.now).outcome?) = none := by
    refine firstFailure?_eq_none fun outcome member => ?_
    obtain ⟨lane, listed, told⟩ := List.mem_filterMap.1 member
    obtain ⟨result, comes, rfl⟩ := Option.map_eq_some_iff.1 told
    cases result with
    | ok verdict => exact ⟨verdict, rfl⟩
    | error failure => exact absurd comes (unfailed lane listed failure)
  obtain ⟨lane, listed, lost⟩ := endless
  have missing : (lane.probe.name, none) ∈ scheduler.lanes.map fun lane =>
      (lane.probe.name, (lane.round scheduler.now).outcome?) := by
    refine List.mem_map.2 ⟨lane, listed, ?_⟩
    rw [Round.outcome?, lost, Option.map_none]
  rw [runAll_eq opened fresh bounded, judged,
    allVerdicts?_eq_none scheduler.now ⟨lane.probe.name, missing⟩]

omit opened fresh bounded

/-! ## Entries -/

def tell (last : Rat) (lane : Lane) : List Entry :=
  (lane.runWhile false (fun due => due ≤ last) patience).2.map fun (time, effect) =>
    ⟨time, some lane.probe.name, effect⟩

/-- All that a probe's iterations do, apart from the ends of checks and the log. -/
def iterationsOf (name : String) (entries : List Entry) : List (Rat × Effect) :=
  milestones ((entries.filter (Entry.isOf name)).map fun entry => (entry.time, entry.effect))

theorem iterationsOf_append (name : String) (entries more : List Entry) :
    iterationsOf name (entries ++ more) = iterationsOf name entries ++ iterationsOf name more := by
  rw [iterationsOf, List.filter_append, List.map_append, milestones_append]
  rfl

theorem entries_advanceTo (opened : scheduler.closed = false) (last : Rat) :
    (scheduler.advanceTo last).2 = scheduler.lanes.flatMap (tell last) := by
  simp only [advanceTo, runWhile, List.flatMap_map, opened, Lane.probe_runWhile]
  rfl

theorem map_tell (last : Rat) (lane : Lane) :
    (tell last lane).map (fun entry => (entry.time, entry.effect)) =
      (lane.runWhile false (fun due => due ≤ last) patience).2 := by
  rw [tell, List.map_map]
  exact List.map_id _

theorem milestones_tell (fresh : lane.IsFresh)
    (bounded : ∃ seconds, lane.probe.timeout = some seconds) (ticket : Nat) (now last : Rat) :
    milestones ((tell last (lane.add (.trigger ticket) (.queued now))).map fun entry =>
      (entry.time, entry.effect)) =
        ((lane.round now).told ticket lane.calls now).filter fun entry => entry.1 ≤ last := by
  rw [map_tell]
  exact (settles_triggered fresh bounded ticket now).tells (patience - 4) last

theorem iterationsOf_triggered (opened : scheduler.closed = false)
    (distinct : (scheduler.lanes.map (·.probe.name)).Nodup) (listed : lane ∈ scheduler.lanes)
    (fresh : lane.IsFresh) (bounded : ∃ seconds, lane.probe.timeout = some seconds) (last : Rat) :
    iterationsOf lane.probe.name (scheduler.triggered.advanceTo last).2 =
      ((lane.round scheduler.now).told scheduler.tickets lane.calls scheduler.now).filter
        fun entry => entry.1 ≤ last := by
  have own (lane : Lane) : ∀ entry ∈ tell last lane, entry.probe = some lane.probe.name := by
    intro entry member
    obtain ⟨effect, -, rfl⟩ := List.mem_map.1 member
    rfl
  have single : scheduler.lanes.filter (Lane.isNamed lane.probe.name) = [lane] :=
    filter_key_eq_singleton distinct listed
  have keeps (lane : Lane) :
      (lane.add (.trigger scheduler.tickets) (.queued scheduler.now)).probe = lane.probe := rfl
  have single' : scheduler.triggered.lanes.filter (Lane.isNamed lane.probe.name) =
      [lane.add (.trigger scheduler.tickets) (.queued scheduler.now)] :=
    (filter_map_lanes keeps).trans (congrArg _ single)
  have opened' : scheduler.triggered.closed = false := opened
  rw [iterationsOf, entries_advanceTo opened', filter_flatMap_entries own, single',
    List.flatMap_singleton]
  exact milestones_tell fresh bounded scheduler.tickets scheduler.now last

/-! ## Rows -/

def leaves? (scheduler : Scheduler) (entry : Entry) : Option (String × String) :=
  match entry.probe, entry.effect with
  | some name, .reported status true =>
    if (instantAfter scheduler.origin entry.time).isOk ∧
        Cell.fitsInteger scheduler.reporter.pid then some (name, status) else none
  | _, _ => none

def rowPair (row : Row) : String × String := (row.name, row.status)

theorem row?_submission (reporter : Store.Reporter) (name status : String) (t : Time.Instant) :
    ((reporter.submission (some name) (some status) (.ofInstant t) .null).row?).map rowPair =
      if Cell.fitsInteger reporter.pid then some (name, status) else none := by
  split
  next fits =>
      have written : (reporter.submission (some name) (some status) (.ofInstant t) .null).row? =
          some ⟨0, name, some reporter.executableName, some reporter.version,
            .integer reporter.pid, status, none, Time.Timestamp.ofInstant t⟩ :=
        Store.row?_eq_some.2
          ⟨none, t, name, status, rfl, Time.Moment.toInstant_ofInstant t, rfl, rfl, fits, rfl⟩
      rw [written]
      rfl
  next wide =>
      rw [Option.map_eq_none_iff, Option.eq_none_iff_forall_ne_some]
      rintro row written
      obtain ⟨_, _, _, _, -, -, -, -, fits, -⟩ := Store.row?_eq_some.1 written
      exact wide fits

theorem rows_recordReport (scheduler : Scheduler) (entry : Entry) {table : Table}
    (held : scheduler.store.table = some table) :
    ∃ later, (scheduler.recordReport entry).store.table = some later ∧
      ∃ rows, later.rows = table.rows ++ rows ∧
        rows.map rowPair = (scheduler.leaves? entry).toList := by
  have nothing (none : scheduler.leaves? entry = none)
      (same : (scheduler.recordReport entry).store = scheduler.store) :
      ∃ later, (scheduler.recordReport entry).store.table = some later ∧
        ∃ rows, later.rows = table.rows ++ rows ∧
          rows.map rowPair = (scheduler.leaves? entry).toList := by
    rw [none, same]
    exact ⟨table, held, [], (List.append_nil _).symm, rfl⟩
  obtain ⟨time, probe, effect⟩ := entry
  match probe, effect, stamped : instantAfter scheduler.origin time with
  | some name, .reported status true, .ok t =>
      have pair := row?_submission scheduler.reporter name status t
      have leaves : scheduler.leaves? ⟨time, some name, .reported status true⟩ =
          if Cell.fitsInteger scheduler.reporter.pid then some (name, status) else none := by
        simp [leaves?, stamped, Except.isOk, Except.toBool]
      rw [← pair] at leaves
      obtain ⟨row, written, inserted⟩ | ⟨unwritten, fault, refused⟩ := Store.insert_cases held
        (scheduler.reporter.submission (some name) (some status) (.ofInstant t) .null)
      · rw [leaves, written]
        simp only [recordReport, stamped, inserted]
        exact ⟨_, rfl, [_], rfl, rfl⟩
      · exact nothing (by rw [leaves, unwritten]; rfl)
          (by simp only [recordReport, stamped, refused])
  | some name, .reported status true, .error fault =>
      exact nothing (by simp [leaves?, stamped, Except.isOk, Except.toBool])
        (by simp only [recordReport, stamped])
  | some _, .reported _ false, _ => exact nothing rfl rfl
  | none, _, _ => exact nothing rfl rfl
  | some _, .began _, _ | some _, .checkStarted _, _ | some _, .checkEnded _ _, _
  | some _, .ended _ _, _ | some _, .closed, _ | some _, .log _, _ => exact nothing rfl rfl

theorem leaves?_recordReport (scheduler : Scheduler) (entry : Entry) :
    (scheduler.recordReport entry).leaves? = scheduler.leaves? := by
  rw [recordReport]
  repeat' split
  all_goals rfl

theorem rows_record (scheduler : Scheduler) (entries : List Entry) {table : Table}
    (held : scheduler.store.table = some table) :
    ∃ later, (scheduler.record entries).store.table = some later ∧
      ∃ rows, later.rows = table.rows ++ rows ∧
        (rows.map rowPair).Perm (entries.filterMap scheduler.leaves?) := by
  have inOrder (entries : List Entry) : ∃ later,
      (entries.foldl recordReport scheduler).store.table = some later ∧
        ∃ rows, later.rows = table.rows ++ rows ∧
          rows.map rowPair = entries.filterMap scheduler.leaves? := by
    induction entries generalizing scheduler table with
    | nil => exact ⟨table, held, [], (List.append_nil _).symm, rfl⟩
    | cons entry entries ih =>
        obtain ⟨middle, held', rows, added, pairs⟩ := rows_recordReport scheduler entry held
        obtain ⟨later, held'', rows', added', pairs'⟩ := ih _ held'
        refine ⟨later, held'', rows ++ rows', by rw [added', added, List.append_assoc], ?_⟩
        rw [List.map_append, pairs, pairs', leaves?_recordReport]
        cases leaves : scheduler.leaves? entry with
        | none => rw [List.filterMap_cons_none leaves]; rfl
        | some pair => rw [List.filterMap_cons_some leaves]; rfl
  obtain ⟨later, held', rows, added, pairs⟩ :=
    inOrder (entries.mergeSort fun a b => a.time ≤ b.time)
  refine ⟨later, held', rows, added, ?_⟩
  rw [pairs]
  exact (List.mergeSort_perm _ _).filterMap _

theorem rows_advanceTo (scheduler : Scheduler) (last : Rat) {table : Table}
    (held : scheduler.store.table = some table) :
    ∃ later, (scheduler.advanceTo last).1.store.table = some later ∧
      ∃ rows, later.rows = table.rows ++ rows ∧
        (rows.map rowPair).Perm ((scheduler.advanceTo last).2.filterMap scheduler.leaves?) := by
  have leaves (lanes : List Lane) : { scheduler with lanes }.leaves? = scheduler.leaves? := rfl
  simp only [advanceTo, runWhile, settleWaiters]
  rw [← leaves]
  exact rows_record _ _ held

/-- The name and the status of the row that an iteration's report leaves: it is accepted, at a time
that can be written. -/
def filed? (scheduler : Scheduler) (name : String) (round : Round) : Option (String × String) :=
  match round.heard, round.fault with
  | .ok verdict, none =>
    if (instantAfter scheduler.origin round.handed).isOk ∧
        Cell.fitsInteger scheduler.reporter.pid then some (name, verdict.status) else none
  | _, _ => none

theorem leaves?_of_told (scheduler : Scheduler) (name : String) (round : Round) (ticket call : Nat)
    (now last : Rat) :
    ((round.told ticket call now).filter fun entry => entry.1 ≤ last).filterMap
        (fun (time, effect) => scheduler.leaves? ⟨time, some name, effect⟩) =
      (if round.handed ≤ last then scheduler.filed? name round else none).toList := by
  have ended : (round.ending ticket).filterMap (fun entry =>
      if decide (entry.1 ≤ last) = true then scheduler.leaves? ⟨entry.1, some name, entry.2⟩
      else none) = [] := by
    refine List.filterMap_eq_nil_iff.2 fun entry member => ?_
    obtain ⟨result, -, rfl⟩ := Option.map_eq_some_iff.1 (Option.mem_toList.1 member)
    exact ite_self none
  rw [List.filterMap_filter, Round.told, List.filterMap_cons_none, List.filterMap_cons_none,
    List.filterMap_append, ended, List.append_nil]
  · obtain ⟨heard, handed, fault, ends⟩ := round
    cases heard with
    | error failure => simp [Round.reports, filed?]
    | ok verdict =>
        cases fault <;>
          simp [Round.reports, List.filterMap_eq_flatMap_toList, leaves?, filed?]
  · exact ite_self none
  · exact ite_self none

theorem leaves?_milestones (scheduler : Scheduler) (name : String)
    (effects : List (Rat × Effect)) :
    (milestones effects).filterMap
        (fun (time, effect) => scheduler.leaves? ⟨time, some name, effect⟩) =
      effects.filterMap fun (time, effect) => scheduler.leaves? ⟨time, some name, effect⟩ := by
  rw [milestones, List.filterMap_filter]
  refine List.filterMap_congr fun entry _ => ?_
  obtain ⟨time, effect⟩ := entry
  cases effect <;> rfl

theorem leaves?_tell (scheduler : Scheduler) (fresh : lane.IsFresh)
    (bounded : ∃ seconds, lane.probe.timeout = some seconds) (ticket : Nat) (now last : Rat) :
    (tell last (lane.add (.trigger ticket) (.queued now))).filterMap scheduler.leaves? =
      (if (lane.round now).handed ≤ last then
        scheduler.filed? lane.probe.name (lane.round now) else none).toList := by
  have told := milestones_tell fresh bounded ticket now last
  rw [map_tell] at told
  rw [← leaves?_of_told scheduler lane.probe.name _ ticket lane.calls now, ← told,
    leaves?_milestones, tell, List.filterMap_map]
  rfl

/-- What the reports of some probes' iterations leave in the table. -/
def filedPairs (scheduler : Scheduler) (lanes : List Lane) : List (String × String) :=
  lanes.filterMap fun lane => scheduler.filed? lane.probe.name (lane.round scheduler.now)

include opened fresh bounded

theorem filterMap_leaves?_triggered (last : Rat) :
    (scheduler.triggered.advanceTo last).2.filterMap scheduler.leaves? = scheduler.filedPairs
      (scheduler.lanes.filter fun lane => (lane.round scheduler.now).handed ≤ last) := by
  have opened' : scheduler.triggered.closed = false := opened
  rw [entries_advanceTo opened', triggered, List.flatMap_map, List.filterMap_flatMap, filedPairs,
    List.filterMap_filter, List.filterMap_eq_flatMap_toList]
  refine List.flatMap_congr fun lane listed => ?_
  rw [leaves?_tell scheduler (fresh lane listed) (bounded lane listed)]
  simp only [decide_eq_true_eq]

theorem rows_triggered (last : Rat) {table : Table} (held : scheduler.store.table = some table) :
    ∃ later, (scheduler.triggered.advanceTo last).1.store.table = some later ∧
      ∃ rows, later.rows = table.rows ++ rows ∧ (rows.map rowPair).Perm (scheduler.filedPairs
        (scheduler.lanes.filter fun lane => (lane.round scheduler.now).handed ≤ last)) := by
  rw [← filterMap_leaves?_triggered opened fresh bounded last]
  exact rows_advanceTo scheduler.triggered last held

end Rounds

end Liveness.Scheduler
