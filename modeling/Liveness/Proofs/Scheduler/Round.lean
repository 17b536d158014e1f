import Liveness.Proofs.Scheduler.Execution

namespace Liveness.Scheduler

/-- What an iteration does, apart from the ends of checks and the log. -/
def Effect.isMilestone : Effect → Bool
  | .began _ | .checkStarted _ | .reported _ _ | .ended _ _ => true
  | _ => false

def milestones (effects : List (Rat × Effect)) : List (Rat × Effect) :=
  effects.filter fun entry => entry.2.isMilestone

theorem milestones_append (effects more : List (Rat × Effect)) :
    milestones (effects ++ more) = milestones effects ++ milestones more :=
  List.filter_append ..

theorem foldl_sooner {α : Type} (first : Rat × α) (rest : List (Rat × α)) {best : Rat × α}
    (found : rest.foldl (fun best next => if next.1 < best.1 then next else best) first = best) :
    best ∈ first :: rest ∧ ∀ entry ∈ first :: rest, best.1 ≤ entry.1 := by
  subst found
  induction rest generalizing first with
  | nil => simp
  | cons second rest ih =>
      rw [List.foldl_cons, List.forall_mem_cons, List.forall_mem_cons]
      by_cases sooner : second.1 < first.1
      · obtain ⟨member, least⟩ := ih second
        rw [if_pos sooner]
        rw [List.forall_mem_cons] at least
        exact ⟨List.mem_cons_of_mem _ member, least.1.trans sooner.le, least⟩
      · obtain ⟨member, least⟩ := ih first
        rw [if_neg sooner]
        rw [List.forall_mem_cons] at least
        refine ⟨?_, least.1, least.1.trans (not_lt.1 sooner), least.2⟩
        rcases List.mem_cons.1 member with same | member
        · rw [same]
          exact List.mem_cons_self
        · exact List.mem_cons_of_mem _ (List.mem_cons_of_mem _ member)

namespace Lane

variable {lane after : Lane} {ticket call steps : Nat} {due time now : Rat} {event : Event}
  {effects : List Effect} {told : List (Rat × Effect)} {verdict : Verdict}
  {result : Except Failure Verdict} {comes : Option (Rat × Except Failure Verdict)}

/-! ## Events of a lane in virtual time -/

theorem earliest?_eq_some {entries : List (Rat × Event)} {best : Rat × Event}
    (found : earliest? entries = some best) :
    best ∈ entries ∧ ∀ entry ∈ entries, best.1 ≤ entry.1 := by
  cases entries with
  | nil => cases found
  | cons first rest => exact foldl_sooner first rest (Option.some.inj found)

theorem exists_earliest? {entries : List (Rat × Event)} (content : entries ≠ []) :
    ∃ best, earliest? entries = some best := by
  obtain ⟨first, rest, rfl⟩ := List.exists_cons_of_ne_nil content
  exact ⟨_, rfl⟩

def milestonesAt (due : Rat) (effects : List Effect) : List (Rat × Effect) :=
  milestones (effects.map fun effect => (due, effect))

theorem fst_of_mem_milestonesAt {entry : Rat × Effect} (member : entry ∈ milestonesAt due effects) :
    entry.1 = due := by
  obtain ⟨effect, -, rfl⟩ := List.mem_map.1 (List.mem_of_mem_filter member)
  rfl

theorem milestonesAt_logs (due : Rat) {logs : List Effect} (logged : OnlyLogs logs)
    (effects : List Effect) : milestonesAt due (logs ++ effects) = milestonesAt due effects := by
  have none : milestones (logs.map fun effect => (due, effect)) = [] := by
    refine List.filter_eq_nil_iff.2 fun entry member => ?_
    obtain ⟨effect, listed, rfl⟩ := List.mem_map.1 member
    obtain ⟨log, rfl⟩ := logged effect listed
    exact Bool.false_ne_true
  rw [milestonesAt, List.map_append, milestones_append, none, List.nil_append, milestonesAt]

/-- What a lane does up to a time. -/
def milestonesBy (lane : Lane) (last : Rat) (fuel : Nat) : List (Rat × Effect) :=
  milestones (lane.runWhile false (fun due => due ≤ last) fuel).2

theorem milestonesBy_of_next (next : lane.next? = some (due, event))
    (fires : lane.fire false due event = (after, effects)) (last : Rat) (fuel : Nat) :
    lane.milestonesBy last (fuel + 1) =
      if due ≤ last then milestonesAt due effects ++ after.milestonesBy last fuel else [] := by
  rw [milestonesBy, runWhile, next]
  by_cases early : due ≤ last
  · simp only [early, decide_true, if_true, fires, milestones_append, milestonesAt, milestonesBy]
  · simp only [early, decide_false, Bool.false_eq_true, if_false]
    rfl

theorem returned?_eq_none_of_untold (untold : milestonesAt due effects = []) :
    returned? ticket effects = none := by
  rw [returned?, List.findSome?_eq_none_iff]
  intro effect member
  have quiet := List.filter_eq_nil_iff.1 untold (due, effect) (List.mem_map_of_mem member)
  cases effect with
  | ended runner result => exact absurd rfl quiet
  | _ => rfl

/-! ## Lanes at rest -/

/-- Nothing more comes of a lane's runners: those that are left wait for reports without an end. -/
def IsStill (lane : Lane) : Prop :=
  ∀ entry ∈ lane.runners, ∃ verdict fault, entry.2 = .reporting verdict fault none

theorem IsStill.of_phase? (still : lane.IsStill) {runner : Runner} {phase : Phase}
    (waits : lane.phase? runner = some phase) :
    ∃ verdict fault, phase = .reporting verdict fault none :=
  still _ (mem_of_phase? waits)

theorem IsStill.not_rests (still : lane.IsStill) (runner : Runner) : ¬ lane.Rests runner := by
  rintro ⟨phase, waits, idle⟩
  obtain ⟨verdict, fault, rfl⟩ := still.of_phase? waits
  cases idle

theorem IsStill.unawaited (still : lane.IsStill) (call : Nat) : lane.awaiting? call = none := by
  rw [awaiting?, List.findSome?_eq_none_iff]
  intro entry member
  obtain ⟨verdict, fault, waits⟩ := still entry member
  simp only [waits]

theorem isStill_of_idle (idle : lane.runners = []) : lane.IsStill := by
  rw [IsStill, idle]
  exact List.forall_mem_nil _

theorem IsStill.fire (still : lane.IsStill) (due : Rat) (event : Event) :
    (lane.fire false due event).1.IsStill ∧
      milestonesAt due (lane.fire false due event).2 = [] := by
  have fires := lane.fire_fires false due event
  generalize lane.fire false due event = result at fires ⊢
  cases fires with
  | nothing => exact ⟨still, rfl⟩
  | lost runs lost unheard => exact ⟨still, rfl⟩
  | late runs unheard unawaited logged =>
      have told := milestonesAt_logs due logged []
      rw [List.append_nil] at told
      exact ⟨still, told⟩
  | returned runs heard awaited =>
      rw [still.unawaited] at awaited
      cases awaited
  | busy rests | refused rests | started rests | unwaited rests =>
      exact absurd rests (still.not_rests _)
  | expired waits | reported waits | withdrawn waits =>
      obtain ⟨_, _, same⟩ := still.of_phase? waits
      cases same

/-! ## The course of an iteration -/

/-- The iteration of a trigger comes to its end, if to any, within some events, and what the lane
does up to some time are those of the given milestones that lie before it. -/
structure Settles (ticket steps : Nat) (lane : Lane) (told : List (Rat × Effect))
    (comes : Option (Rat × Except Failure Verdict)) : Prop where
  outcome : ∀ fuel, lane.outcomeOf? false ticket (steps + fuel) = comes
  tells : ∀ fuel last,
    lane.milestonesBy last (steps + fuel) = told.filter fun entry => entry.1 ≤ last

theorem IsStill.settles (still : lane.IsStill) (ticket : Nat) : Settles ticket 0 lane [] none := by
  have quiet (fuel : Nat) : lane.outcomeOf? false ticket fuel = none ∧
      ∀ last, lane.milestonesBy last fuel = [] := by
    induction fuel generalizing lane with
    | zero => exact ⟨rfl, fun last => rfl⟩
    | succ fuel ih =>
        cases next : lane.next? with
        | none =>
            refine ⟨?_, fun last => ?_⟩
            · rw [outcomeOf?, next]
            · rw [milestonesBy, runWhile, next]
              rfl
        | some entry =>
            obtain ⟨still', untold⟩ := still.fire entry.1 entry.2
            generalize fires : lane.fire false entry.1 entry.2 = result at still' untold
            obtain ⟨endless, rest⟩ := ih still'
            refine ⟨?_, fun last => ?_⟩
            · rw [outcomeOf?, next]
              simp only [fires, returned?_eq_none_of_untold untold, endless]
            · rw [milestonesBy_of_next next fires, untold, rest, List.append_nil, ite_self]
  exact ⟨fun fuel => (quiet _).1, fun fuel last => (quiet _).2 last⟩

theorem filter_milestonesAt_append (early : ∀ entry ∈ told, due ≤ entry.1) (last : Rat) :
    ((milestonesAt due effects ++ told).filter fun entry => entry.1 ≤ last) =
      if due ≤ last then milestonesAt due effects ++ told.filter fun entry => entry.1 ≤ last
      else [] := by
  rw [List.filter_append]
  split
  next under =>
      rw [List.filter_eq_self.2 fun entry member => ?_]
      rw [fst_of_mem_milestonesAt member]
      exact decide_eq_true under
  next missed =>
      rw [List.append_eq_nil_iff, List.filter_eq_nil_iff, List.filter_eq_nil_iff]
      refine ⟨fun entry member => ?_, fun entry member => ?_⟩
      · rwa [fst_of_mem_milestonesAt member, decide_eq_true_eq]
      · rw [decide_eq_true_eq]
        exact fun under => missed ((early entry member).trans under)

theorem Settles.before (settles : Settles ticket steps after told comes)
    (next : lane.next? = some (due, event)) (fires : lane.fire false due event = (after, effects))
    (silent : returned? ticket effects = none) (early : ∀ entry ∈ told, due ≤ entry.1) :
    Settles ticket (steps + 1) lane (milestonesAt due effects ++ told) comes := by
  refine ⟨fun fuel => ?_, fun fuel last => ?_⟩
  · rw [Nat.add_right_comm, outcomeOf?, next]
    simp only [fires, silent]
    exact settles.outcome fuel
  · rw [Nat.add_right_comm, milestonesBy_of_next next fires, settles.tells,
      filter_milestonesAt_append early]

theorem settles_last (next : lane.next? = some (due, event))
    (fires : lane.fire false due event = (after, effects))
    (returned : returned? ticket effects = some result) (still : after.IsStill) :
    Settles ticket 1 lane (milestonesAt due effects) (some (due, result)) := by
  refine ⟨fun fuel => ?_, fun fuel last => ?_⟩
  · rw [Nat.add_comm, outcomeOf?, next]
    simp only [fires, returned]
  · have filtered := @filter_milestonesAt_append due effects [] (List.forall_mem_nil _) last
    rw [List.append_nil] at filtered
    rw [Nat.add_comm, milestonesBy_of_next next fires, filtered]
    have rest := (still.settles ticket).tells fuel last
    rw [Nat.zero_add] at rest
    rw [rest]

theorem Settles.mono (settles : Settles ticket steps lane told comes) {more : Nat}
    (enough : steps ≤ more) : Settles ticket more lane told comes := by
  obtain ⟨extra, rfl⟩ := Nat.exists_eq_add_of_le enough
  refine ⟨fun fuel => ?_, fun fuel last => ?_⟩
  · rw [Nat.add_assoc, settles.outcome]
  · rw [Nat.add_assoc, settles.tells]

theorem returned?_logs {logs : List Effect} (logged : OnlyLogs logs) (effects : List Effect) :
    returned? ticket (logs ++ effects) = returned? ticket effects := by
  rw [returned?, List.findSome?_append, List.findSome?_eq_none_iff.2, Option.none_or, returned?]
  intro effect member
  obtain ⟨entry, rfl⟩ := logged effect member
  rfl

theorem milestonesAt_checkEnded (due : Rat) {logs : List Effect} (logged : OnlyLogs logs)
    (outcome : Except Failure Verdict) (effects : List Effect) :
    milestonesAt due (.checkEnded call outcome :: logs ++ effects) = milestonesAt due effects :=
  milestonesAt_logs due logged effects

theorem returned?_checkEnded {logs : List Effect} (logged : OnlyLogs logs)
    (outcome : Except Failure Verdict) (effects : List Effect) :
    returned? ticket (.checkEnded call outcome :: logs ++ effects) = returned? ticket effects :=
  returned?_logs logged effects

theorem returned?_ended (effects : List Effect) (result : Except Failure Verdict) :
    returned? ticket (.ended (.trigger ticket) result :: effects) = some result := by
  rw [returned?, List.findSome?_cons]
  simp only [if_true]

theorem isStill_remove {phase : Phase} (alone : lane.runners = [(.trigger ticket, phase)]) :
    (lane.remove (.trigger ticket)).IsStill := by
  refine isStill_of_idle ?_
  rw [remove, alone]
  simp

theorem abort_trigger (lane : Lane) (now : Rat) (ticket : Nat) (failure : Failure) :
    lane.abort now (.trigger ticket) failure =
      (lane.remove (.trigger ticket), [.ended (.trigger ticket) (.error failure)]) := by
  rw [abort]
  split <;> rfl

end Lane

/-! ## Rounds -/

/-- What comes of an iteration whose verdict is handed over: a lost report never ends, and a
cancellation passes. -/
def resultOf? (fault : Option Failure) (verdict : Verdict) : Option (Except Failure Verdict) :=
  match fault with
  | none => some (.ok verdict)
  | some failure =>
    if failure.isLost then none
    else if failure.isCancellation then some (.error failure)
    else some (.ok verdict)

theorem resultOf?_eq_none_iff {fault : Option Failure} {verdict : Verdict} :
    resultOf? fault verdict = none ↔ fault.any (·.isLost) = true := by
  cases fault with
  | none => simp [resultOf?]
  | some failure =>
      rw [resultOf?, Option.any_some]
      split
      next lost => simp [lost]
      next told =>
          rw [Bool.not_eq_true] at told
          split <;> simp [told]

/-- What an iteration comes to: what its wait for the check gives and when, the failure of its
report, and when it ends. -/
structure Round where
  heard : Except Failure Verdict
  handed : Rat
  fault : Option Failure
  ends : Rat

namespace Round

def result? (round : Round) : Option (Except Failure Verdict) :=
  match round.heard with
  | .ok verdict => resultOf? round.fault verdict
  | .error failure => some (.error failure)

def outcome? (round : Round) : Option (Rat × Except Failure Verdict) :=
  round.result?.map fun result => (round.ends, result)

def reports (round : Round) : List (Rat × Effect) :=
  match round.heard with
  | .ok verdict => [(round.handed, .reported verdict.status round.fault.isNone)]
  | .error _ => []

def ending (round : Round) (ticket : Nat) : List (Rat × Effect) :=
  (round.result?.map fun result => (round.ends, .ended (.trigger ticket) result)).toList

def told (round : Round) (ticket call : Nat) (now : Rat) : List (Rat × Effect) :=
  (now, .began (.trigger ticket)) :: (now, .checkStarted call) ::
    (round.reports ++ round.ending ticket)

end Round

namespace Lane

variable {lane : Lane} {ticket call : Nat} {now : Rat} {verdict : Verdict}

/-! ## Reporting -/

def reportEnd (lane : Lane) (handed : Rat) : Rat :=
  handed + later (lane.script.reportDelay + lane.script.reportLag lane.reports handed) 0

theorem later_nonneg (span : Rat) : 0 ≤ later span 0 := by
  rw [later]
  split
  next => exact le_refl 0
  next positive => exact (not_le.1 positive).le

theorem le_reportEnd (lane : Lane) (handed : Rat) : handed ≤ lane.reportEnd handed :=
  le_add_of_nonneg_right (later_nonneg _)

def roundFrom (lane : Lane) (handed : Rat) (heard : Except Failure Verdict) : Round where
  heard
  handed
  fault := lane.script.reportFault lane.reports handed
  ends := match heard with
    | .ok _ => lane.reportEnd handed
    | .error _ => handed

theorem le_ends_roundFrom (lane : Lane) (handed : Rat) (heard : Except Failure Verdict) :
    handed ≤ (lane.roundFrom handed heard).ends := by
  cases heard with
  | ok verdict => exact lane.le_reportEnd handed
  | error failure => exact le_refl handed

theorem le_of_mem_ending {handed : Rat} {heard : Except Failure Verdict} {entry : Rat × Effect}
    (member : entry ∈ (lane.roundFrom handed heard).ending ticket) : handed ≤ entry.1 := by
  rw [Round.ending, Option.mem_toList] at member
  obtain ⟨result, -, rfl⟩ := Option.map_eq_some_iff.1 member
  exact lane.le_ends_roundFrom handed heard

theorem le_of_mem_reports_ending {handed : Rat} {heard : Except Failure Verdict}
    {entry : Rat × Effect} (member : entry ∈ (lane.roundFrom handed heard).reports ++
      (lane.roundFrom handed heard).ending ticket) : handed ≤ entry.1 := by
  rcases List.mem_append.1 member with reported | ended
  · cases heard with
    | ok verdict =>
        rw [List.mem_singleton.1 reported]
        exact le_refl handed
    | error failure => cases reported
  · exact le_of_mem_ending ended

theorem fire_reportEnds {fault : Option Failure} {ends : Rat} {result : Except Failure Verdict}
    (waits : lane.phase? (.trigger ticket) = some (.reporting verdict fault (some ends)))
    (results : resultOf? fault verdict = some result) :
    ∃ logs, OnlyLogs logs ∧ lane.fire false now (.reportEnds (.trigger ticket)) =
      (lane.remove (.trigger ticket), logs ++ [.ended (.trigger ticket) result]) := by
  rw [fire, waits]
  cases fault with
  | none =>
      cases results
      exact ⟨[], by simp [OnlyLogs], rfl⟩
  | some failure =>
      simp only [resultOf?, Option.ite_none_left_eq_some] at results
      obtain ⟨-, results⟩ := results
      split at results
      next cancels =>
          cases results
          refine ⟨[], by simp [OnlyLogs], ?_⟩
          simp only [endReport, cancels, if_true, abort_trigger, List.nil_append]
      next stays =>
          cases results
          refine ⟨[.log lane.probe.reportFailureLog], by simp [OnlyLogs], ?_⟩
          simp only [endReport, stays, Bool.false_eq_true, if_false]
          rfl

theorem fire_checkEnds_late {check : RunningCheck} (runs : check ∈ lane.running)
    (unawaited : lane.awaiting? check.call = none) :
    ∃ after outcome logs, OnlyLogs logs ∧ after.runners = lane.runners ∧
      after.running = (lane.drop check.call).running ∧
      lane.fire false now (.checkEnds check.call) =
        (after, .checkEnded check.call outcome :: logs) := by
  have runs' : (lane.running.find? (·.call = check.call)).isSome :=
    List.find?_isSome.2 ⟨check, runs, decide_eq_true rfl⟩
  obtain ⟨found, same⟩ := Option.isSome_iff_exists.1 runs'
  have unawaited' : (lane.drop check.call).awaiting? check.call = none := unawaited
  simp only [fire, endCheck, same, passOn, unawaited', List.append_nil]
  split
  next =>
      exact ⟨{ lane.drop check.call with lost := true }, found.outcome, [], by simp [OnlyLogs], rfl,
        rfl, rfl⟩
  next =>
      exact ⟨lane.drop check.call, found.outcome, _, onlyLogs_lateLogs found.outcome, rfl, rfl, rfl⟩

section Reporting

variable {fault : Option Failure} {ends : Rat}
  (waits : lane.runners = [(.trigger ticket, .reporting verdict fault (some ends))])

include waits

theorem next?_of_reporting : ∃ due event, lane.next? = some (due, event) ∧ due ≤ ends ∧
    (due = ends ∧ event = .reportEnds (.trigger ticket) ∨
      ∃ check ∈ lane.running, event = .checkEnds check.call) := by
  have continues : lane.dueContinuations = [(ends, .reportEnds (.trigger ticket))] := by
    rw [dueContinuations, waits]
    rfl
  have begins : lane.dueBeginnings = [] := by
    rw [dueBeginnings, waits]
    rfl
  have content : lane.dueBeginnings ++ lane.dueChecks ++ lane.dueContinuations ≠ [] := by
    simp [continues]
  obtain ⟨⟨due, event⟩, next⟩ := exists_earliest? content
  obtain ⟨member, least⟩ := earliest?_eq_some next
  rw [begins, continues, List.nil_append] at member least
  refine ⟨due, event, next, least (ends, .reportEnds (.trigger ticket)) (by simp), ?_⟩
  rcases List.mem_append.1 member with inChecks | last
  · obtain ⟨check, runs, told⟩ := List.mem_filterMap.1 inChecks
    obtain ⟨end', -, same⟩ := Option.map_eq_some_iff.1 told
    exact .inr ⟨check, runs, (Prod.mk.inj same).2.symm⟩
  · exact .inl (Prod.mk.inj (List.mem_singleton.1 last))

theorem settles_reporting {result : Except Failure Verdict}
    (results : resultOf? fault verdict = some result) :
    Settles ticket (lane.running.length + 1) lane [(ends, .ended (.trigger ticket) result)]
      (some (ends, result)) := by
  induction count : lane.running.length using Nat.strongRecOn generalizing lane with
  | ind n ih =>
      obtain ⟨due, event, next, early, ⟨rfl, rfl⟩ | ⟨check, runs, rfl⟩⟩ := next?_of_reporting waits
      · have phase :
            lane.phase? (.trigger ticket) = some (.reporting verdict fault (some due)) := by
          rw [phase?, waits, List.lookup_cons_self]
        obtain ⟨logs, logged, fires⟩ := fire_reportEnds phase results
        have settles := settles_last next fires
          ((returned?_logs logged _).trans (returned?_ended [] _)) (isStill_remove waits)
        rw [milestonesAt_logs due logged] at settles
        exact settles.mono (Nat.le_add_left 1 n)
      · have unawaited : lane.awaiting? check.call = none := by
          rw [awaiting?, waits]
          rfl
        obtain ⟨after, outcome, logs, logged, runners, running, fires⟩ :=
          fire_checkEnds_late runs unawaited
        have fewer : after.running.length < n := by
          rw [running, ← count]
          exact List.length_filter_lt_length_iff_exists.2 ⟨check, runs, by simp⟩
        have waits' : after.runners = [(.trigger ticket, .reporting verdict fault (some ends))] :=
          runners.trans waits
        have later := ih _ fewer waits' rfl
        rw [← List.append_nil (_ :: logs)] at fires
        have settles := later.before next fires (returned?_checkEnded logged outcome [])
          ((List.forall_mem_singleton).2 early)
        rw [milestonesAt_checkEnded due logged] at settles
        exact settles.mono (by omega)

end Reporting

theorem report_eq (lane : Lane) (handed : Rat) (runner : Runner) (verdict : Verdict) :
    lane.report false handed runner verdict =
      (Lane.setPhase { lane with reports := lane.reports + 1 } runner
          (.reporting verdict (lane.roundFrom handed (.ok verdict)).fault
            (if (lane.roundFrom handed (.ok verdict)).fault.any (·.isLost) then none
              else some (lane.reportEnd handed))),
        [.log (lane.probe.verdictLog verdict),
          .reported verdict.status (lane.roundFrom handed (.ok verdict)).fault.isNone]) :=
  rfl

theorem runners_setPhase {runner : Runner} {before phase : Phase}
    (alone : lane.runners = [(runner, before)]) :
    (lane.setPhase runner phase).runners = [(runner, phase)] := by
  simp [setPhase, alone]

theorem settles_report {phase : Phase} (alone : lane.runners = [(.trigger ticket, phase)])
    (handed : Rat) (verdict : Verdict) :
    Settles ticket (lane.running.length + 1)
      (lane.report false handed (.trigger ticket) verdict).1
      ((lane.roundFrom handed (.ok verdict)).ending ticket)
      (lane.roundFrom handed (.ok verdict)).outcome? := by
  have alone' : (lane.report false handed (.trigger ticket) verdict).1.runners =
      [(.trigger ticket, .reporting verdict (lane.roundFrom handed (.ok verdict)).fault
        (if (lane.roundFrom handed (.ok verdict)).fault.any (·.isLost) then none
          else some (lane.reportEnd handed)))] := by
    rw [report_eq]
    exact runners_setPhase alone
  have running := (onlyMoves_report lane false handed (.trigger ticket) verdict).running
  have comes : (lane.roundFrom handed (.ok verdict)).result? =
      resultOf? (lane.roundFrom handed (.ok verdict)).fault verdict := rfl
  rw [Round.ending, Round.outcome?, comes, ← running]
  cases results : resultOf? (lane.roundFrom handed (.ok verdict)).fault verdict with
  | none =>
      rw [if_pos (resultOf?_eq_none_iff.1 results)] at alone'
      have still : (lane.report false handed (.trigger ticket) verdict).1.IsStill := by
        rw [IsStill, alone']
        simp
      exact (still.settles ticket).mono (Nat.zero_le _)
  | some result =>
      have arrives : ¬ (lane.roundFrom handed (.ok verdict)).fault.any (·.isLost) = true := by
        rw [← @resultOf?_eq_none_iff _ verdict, results]
        exact Option.some_ne_none result
      rw [if_neg arrives] at alone'
      exact settles_reporting alone' results

/-! ## Checking -/

section Checking

variable {check : RunningCheck} {deadline seconds : Rat}
  (waits : lane.runners = [(.trigger ticket, .checking call (some deadline))])

include waits

theorem next?_of_waiting (none : lane.running = []) :
    lane.next? = some (deadline, .expires (.trigger ticket)) := by
  rw [next?, dueBeginnings, dueChecks, dueContinuations, waits, none]
  rfl

theorem next?_of_checking (runs : lane.running = [check]) : lane.next? = some (match check.ends with
    | some ends => if deadline < ends then (deadline, .expires (.trigger ticket))
      else (ends, .checkEnds check.call)
    | none => (deadline, .expires (.trigger ticket))) := by
  have begins : lane.dueBeginnings = [] := by
    rw [dueBeginnings, waits]
    rfl
  have continues : lane.dueContinuations = [(deadline, .expires (.trigger ticket))] := by
    rw [dueContinuations, waits]
    rfl
  cases arrives : check.ends with
  | none =>
      have checks : lane.dueChecks = [] := by simp [dueChecks, runs, arrives]
      rw [next?, begins, checks, continues]
      rfl
  | some ends =>
      have checks : lane.dueChecks = [(ends, .checkEnds check.call)] := by
        simp [dueChecks, runs, arrives]
      rw [next?, begins, checks, continues]
      rfl

theorem settles_deadline (timeout : lane.probe.timeout = some seconds)
    (next : lane.next? = some (deadline, .expires (.trigger ticket))) :
    let round := lane.roundFrom deadline (.ok (timedOut seconds))
    Settles ticket (lane.running.length + 2) lane (round.reports ++ round.ending ticket)
      round.outcome? := by
  have phase : lane.phase? (.trigger ticket) = some (.checking call (some deadline)) := by
    rw [phase?, waits, List.lookup_cons_self]
  have fires : lane.fire false deadline (.expires (.trigger ticket)) =
      lane.report false deadline (.trigger ticket) (timedOut seconds) := by
    rw [fire, phase, timeout]
  have later := settles_report waits deadline (timedOut seconds)
  exact later.before next fires rfl fun entry => le_of_mem_ending

variable (runs : lane.running = [check])

include runs

theorem settles_expired (timeout : lane.probe.timeout = some seconds)
    (late : ∀ ends, check.ends = some ends → deadline < ends) :
    let round := lane.roundFrom deadline (.ok (timedOut seconds))
    Settles ticket 3 lane (round.reports ++ round.ending ticket) round.outcome? := by
  have next : lane.next? = some (deadline, .expires (.trigger ticket)) := by
    rw [next?_of_checking waits runs]
    cases arrives : check.ends with
    | none => rfl
    | some ends => simp only [late ends arrives, if_true]
  have settles := settles_deadline waits timeout next
  rwa [runs] at settles

variable {ends : Rat} (arrives : check.ends = some ends) (early : ends ≤ deadline)

include arrives early

theorem next?_of_checkEnds : lane.next? = some (ends, .checkEnds check.call) := by
  have next := next?_of_checking waits runs
  rw [arrives] at next
  simpa only [early.not_gt, if_false] using next

theorem settles_lost (timeout : lane.probe.timeout = some seconds)
    (lost : loses check.outcome = true) :
    let round := lane.roundFrom deadline (.ok (timedOut seconds))
    Settles ticket 3 lane (round.reports ++ round.ending ticket) round.outcome? := by
  have next := next?_of_checkEnds waits runs arrives early
  have fires : lane.fire false ends (.checkEnds check.call) =
      ({ lane.drop check.call with lost := true }, [.checkEnded check.call check.outcome]) := by
    have found : lane.running.find? (·.call = check.call) = some check := by
      rw [runs, List.find?_cons_of_pos (by simp)]
    simp only [fire, endCheck, found, lost, if_true]
  have none : ({ lane.drop check.call with lost := true } : Lane).running = [] := by
    simp [drop, runs]
  have later : Settles ticket _ { lane.drop check.call with lost := true } _ _ :=
    settles_deadline waits timeout (next?_of_waiting waits none)
  rw [none] at later
  exact later.before next fires rfl fun entry member =>
    early.trans (le_of_mem_reports_ending member)

theorem settles_heard (awaits : call = check.call) (told : loses check.outcome = false) :
    let round := lane.roundFrom ends (lane.probe.conclude check.outcome)
    Settles ticket 2 lane (round.reports ++ round.ending ticket) round.outcome? := by
  have next := next?_of_checkEnds waits runs arrives early
  have logged := onlyLogs_lateLogs check.outcome
  have alone : (lane.drop check.call).runners =
      [(.trigger ticket, .checking call (some deadline))] := waits
  have none : (lane.drop check.call).running = [] := by
    rw [drop, runs]
    simp
  have fires : lane.fire false ends (.checkEnds check.call) =
      (((lane.drop check.call).conclude false ends (.trigger ticket) check.outcome).1,
        .checkEnded check.call check.outcome :: lateLogs check.outcome ++
          ((lane.drop check.call).conclude false ends (.trigger ticket) check.outcome).2) := by
    have found : lane.running.find? (·.call = check.call) = some check := by
      rw [runs, List.find?_cons_of_pos (by simp)]
    have awaited : (lane.drop check.call).awaiting? check.call = some (.trigger ticket) := by
      rw [awaiting?, drop, waits, awaits]
      simp
    simp only [fire, endCheck, found, told, Bool.false_eq_true, if_false, passOn, awaited]
  have concludes : (lane.drop check.call).probe.conclude check.outcome =
      lane.probe.conclude check.outcome := rfl
  cases concluded : lane.probe.conclude check.outcome with
  | ok verdict =>
      rw [conclude, concludes, concluded] at fires
      have later := settles_report alone ends verdict
      rw [none] at later
      have settles := later.before next fires (returned?_checkEnded logged check.outcome _)
        fun entry => le_of_mem_ending
      rw [milestonesAt_checkEnded ends logged] at settles
      exact settles
  | error failure =>
      rw [conclude, concludes, concluded] at fires
      simp only [abort_trigger] at fires
      have settles := settles_last next fires
        ((returned?_checkEnded logged check.outcome _).trans (returned?_ended [] _))
        (isStill_remove alone)
      rw [milestonesAt_checkEnded ends logged] at settles
      exact settles.mono (Nat.le_succ 1)

end Checking

/-! ## Iterations from their trigger -/

/-- Seconds until an iteration's wait is over, and what it gives: what the outcome of its check
stands for, if that arrives within the timeout. -/
def wait (lane : Lane) (seconds : Rat) : Rat × Except Failure Verdict :=
  let run := lane.script.check lane.calls
  match run.delay with
  | some delay =>
    if (0 < seconds ∧ later delay 0 ≤ seconds) ∧ loses run.outcome = false then
      (later delay 0, lane.probe.conclude run.outcome)
    else (later seconds 0, .ok (timedOut seconds))
  | none => (later seconds 0, .ok (timedOut seconds))

def round (lane : Lane) (now : Rat) : Round :=
  let (span, heard) := lane.wait (lane.probe.timeout.getD 0)
  lane.roundFrom (now + span) heard

variable {seconds : Rat}

theorem wait_nonneg (lane : Lane) (seconds : Rat) : 0 ≤ (lane.wait seconds).1 := by
  rw [wait]
  split
  next delay _ =>
      split
      next => exact later_nonneg delay
      next => exact later_nonneg seconds
  next => exact later_nonneg seconds

theorem handed_le_ends_round (lane : Lane) (now : Rat) :
    (lane.round now).handed ≤ (lane.round now).ends :=
  lane.le_ends_roundFrom _ _

theorem le_handed_round (lane : Lane) (now : Rat) : now ≤ (lane.round now).handed :=
  le_add_of_nonneg_right (lane.wait_nonneg _)

theorem le_of_mem_round {entry : Rat × Effect}
    (member : entry ∈ (lane.round now).reports ++ (lane.round now).ending ticket) :
    now ≤ entry.1 :=
  (lane.le_handed_round now).trans (le_of_mem_reports_ending member)

theorem le_ends_of_mem_told {entry : Rat × Effect}
    (member : entry ∈ (lane.round now).told ticket call now) :
    entry.1 ≤ (lane.round now).ends := by
  have began := (lane.le_handed_round now).trans (lane.handed_le_ends_round now)
  rw [Round.told, List.mem_cons, List.mem_cons, List.mem_append] at member
  rcases member with rfl | rfl | reported | ended
  · exact began
  · exact began
  · rw [Round.reports] at reported
    split at reported
    next =>
        rw [List.mem_singleton.1 reported]
        exact lane.handed_le_ends_round now
    next => cases reported
  · obtain ⟨result, -, rfl⟩ := Option.map_eq_some_iff.1 (Option.mem_toList.1 ended)
    exact le_refl _

theorem begin_unwaited (idle : lane.isBusy = false) (timeout : lane.probe.timeout = some seconds)
    (elapsed : seconds ≤ 0) (now : Rat) (runner : Runner) :
    lane.begin false now runner =
      (((lane.startCheck now).report false now runner (timedOut seconds)).1,
        [.began runner, .checkStarted lane.calls] ++
          ((lane.startCheck now).report false now runner (timedOut seconds)).2) := by
  have timeout' : (lane.startCheck now).probe.timeout = some seconds := timeout
  rw [begin, idle]
  simp only [Bool.false_eq_true, if_false, timeout', elapsed, if_true]

theorem begin_waited (idle : lane.isBusy = false) (timeout : lane.probe.timeout = some seconds)
    (waits : 0 < seconds) (now : Rat) (runner : Runner) :
    lane.begin false now runner =
      ((lane.startCheck now).setPhase runner (.checking lane.calls (some (now + seconds))),
        [.began runner, .checkStarted lane.calls]) := by
  have timeout' : (lane.startCheck now).probe.timeout = some seconds := timeout
  rw [begin, idle]
  simp only [Bool.false_eq_true, if_false, timeout', waits.not_ge]

theorem round_of_wait (timeout : lane.probe.timeout = some seconds) {span : Rat}
    {heard : Except Failure Verdict} (wait : lane.wait seconds = (span, heard)) (now : Rat) :
    lane.round now = lane.roundFrom (now + span) heard := by
  rw [round, timeout, Option.getD_some, wait]

theorem wait_of_late (late : ∀ delay, (lane.script.check lane.calls).delay = some delay →
    ¬ ((0 < seconds ∧ later delay 0 ≤ seconds) ∧
      loses (lane.script.check lane.calls).outcome = false)) :
    lane.wait seconds = (later seconds 0, .ok (timedOut seconds)) := by
  rw [wait]
  split
  next delay takes => rw [if_neg (late delay takes)]
  next => rfl

section Triggered

variable (alone : lane.runners = [(.trigger ticket, .queued now)]) (rests : lane.running = [])

include alone

theorem fire_of_queued :
    lane.fire false now (.begins (.trigger ticket)) = lane.begin false now (.trigger ticket) := by
  have phase : lane.phase? (.trigger ticket) = some (.queued now) := by
    rw [phase?, alone, List.lookup_cons_self]
  rw [fire, phase]

include rests

theorem next?_of_queued : lane.next? = some (now, .begins (.trigger ticket)) := by
  rw [next?, dueBeginnings, dueChecks, dueContinuations, alone, rests]
  rfl

/-- An iteration of a probe with a timeout takes at most four events: it begins, its check ends or
its wait does, the check may end while the report is under way, and the report ends. -/
theorem settles_queued (unlost : lane.lost = false)
    (timeout : lane.probe.timeout = some seconds) :
    Settles ticket 4 lane ((lane.round now).told ticket lane.calls now)
      (lane.round now).outcome? := by
  have next := next?_of_queued alone rests
  have fires := fire_of_queued alone
  have idle : lane.isBusy = false := by
    rw [isBusy, unlost, rests]
    rfl
  have started : (lane.startCheck now).running =
      [⟨lane.calls, (lane.script.check lane.calls).delay.map fun delay => now + later delay 0,
        (lane.script.check lane.calls).outcome⟩] := by
    rw [startCheck, rests]
    rfl
  have early : ∀ entry ∈ (lane.round now).reports ++ (lane.round now).ending ticket,
      now ≤ entry.1 := fun entry => le_of_mem_round
  rcases le_or_gt seconds 0 with elapsed | waits
  · have wait : lane.wait seconds = (later seconds 0, .ok (timedOut seconds)) :=
      wait_of_late fun _ _ inTime => inTime.1.1.not_ge elapsed
    have span : later seconds 0 = 0 := if_pos elapsed
    have alone' : (lane.startCheck now).runners = [(.trigger ticket, .queued now)] := alone
    have after := settles_report alone' now (timedOut seconds)
    rw [begin_unwaited idle timeout elapsed] at fires
    rw [started] at after
    rw [round_of_wait timeout wait, span, add_zero]
    exact (after.before next fires rfl fun entry => le_of_mem_ending).mono (Nat.le_succ 3)
  · have alone' : ((lane.startCheck now).setPhase (.trigger ticket)
        (.checking lane.calls (some (now + seconds)))).runners =
          [(.trigger ticket, .checking lane.calls (some (now + seconds)))] :=
      runners_setPhase alone
    have started' : ((lane.startCheck now).setPhase (.trigger ticket)
        (.checking lane.calls (some (now + seconds)))).running =
          [⟨lane.calls, (lane.script.check lane.calls).delay.map fun delay => now + later delay 0,
            (lane.script.check lane.calls).outcome⟩] :=
      started
    rw [begin_waited idle timeout waits] at fires
    by_cases inTime : ∃ delay, (lane.script.check lane.calls).delay = some delay ∧
        later delay 0 ≤ seconds
    · obtain ⟨delay, takes, short⟩ := inTime
      have arrives : (lane.script.check lane.calls).delay.map (fun delay => now + later delay 0) =
          some (now + later delay 0) := by
        rw [takes, Option.map_some]
      cases lost : loses (lane.script.check lane.calls).outcome with
      | true =>
          have wait : lane.wait seconds = (later seconds 0, .ok (timedOut seconds)) :=
            wait_of_late fun _ _ heard => by simp [lost] at heard
          have span : later seconds 0 = seconds := if_neg waits.not_ge
          have after := settles_lost alone' started' arrives (add_le_add_right short now) timeout
            lost
          rw [round_of_wait timeout wait, span] at early ⊢
          exact after.before next fires rfl early
      | false =>
          have wait : lane.wait seconds = (later delay 0,
              lane.probe.conclude (lane.script.check lane.calls).outcome) := by
            simp only [Lane.wait, takes]
            rw [if_pos ⟨⟨waits, short⟩, lost⟩]
          have after := settles_heard alone' started' arrives (add_le_add_right short now) rfl lost
          rw [round_of_wait timeout wait] at early ⊢
          exact (after.before next fires rfl early).mono (Nat.le_succ 3)
    · have wait : lane.wait seconds = (later seconds 0, .ok (timedOut seconds)) :=
        wait_of_late fun delay takes heard => inTime ⟨delay, takes, heard.1.2⟩
      have span : later seconds 0 = seconds := if_neg waits.not_ge
      have late : ∀ ends, (lane.script.check lane.calls).delay.map
          (fun delay => now + later delay 0) = some ends → now + seconds < ends := by
        intro ends arrives
        obtain ⟨delay, takes, rfl⟩ := Option.map_eq_some_iff.1 arrives
        exact add_lt_add_right (not_le.1 fun short => inTime ⟨delay, takes, short⟩) now
      have after := settles_expired alone' started' timeout late
      rw [round_of_wait timeout wait, span] at early ⊢
      exact after.before next fires rfl early

end Triggered

/-! ## Rounds that end with a verdict -/

theorem resultOf?_of_isMild {script : Script} (mild : script.IsMild) (reports : Nat) (handed : Rat)
    (verdict : Verdict) :
    resultOf? (script.reportFault reports handed) verdict = some (.ok verdict) := by
  cases raised : script.reportFault reports handed with
  | none => rfl
  | some failure =>
      have light : isGrave failure = false :=
        Bool.eq_false_iff.2 fun grave => mild.reports ⟨_, _, failure, raised, grave⟩
      rw [isGrave, Bool.or_eq_false_iff] at light
      simp only [resultOf?, light, Bool.false_eq_true, if_false]

theorem exists_conclude_of_isMild (mild : lane.script.IsMild)
    (timeout : lane.probe.timeout = some seconds) (call : Nat) :
    ∃ verdict, lane.probe.conclude (lane.script.check call).outcome = .ok verdict := by
  cases raised : (lane.script.check call).outcome with
  | ok verdict => exact ⟨verdict, rfl⟩
  | error failure =>
      have stays : failure.isCancellation = false :=
        Bool.eq_false_iff.2 fun cancels => mild.checks ⟨call, failure, raised, cancels⟩
      simp only [Probe.conclude, timeout, stays, Bool.false_eq_true, if_false]
      split <;> exact ⟨_, rfl⟩

theorem exists_result?_of_isMild (mild : lane.script.IsMild)
    (timeout : lane.probe.timeout = some seconds) (now : Rat) :
    ∃ verdict, (lane.round now).result? = some (.ok verdict) := by
  obtain ⟨verdict, heard⟩ : ∃ verdict, (lane.wait seconds).2 = .ok verdict := by
    rw [wait]
    split
    next =>
        split
        next => exact exists_conclude_of_isMild mild timeout _
        next => exact ⟨_, rfl⟩
    next => exact ⟨_, rfl⟩
  refine ⟨verdict, ?_⟩
  rw [round_of_wait timeout (Prod.mk.eta).symm, heard]
  exact resultOf?_of_isMild mild _ _ verdict

end Lane

end Liveness.Scheduler
