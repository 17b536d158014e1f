import Liveness.Proofs.Scheduler.InFlight
import Liveness.Proofs.Scheduler.Verdicts

/-!
Where verdicts come from: a check is heard of by the iteration that started it, or by none
(`Remembers`, `Retells`). An abandoned check is never told of, and the first iteration after it ends
starts the next one (`verdicts_traced`).
-/

namespace Liveness.Scheduler

/-! ## Checks in turns -/

def Effect.started? : Effect → Option Nat
  | .checkStarted call => some call
  | _ => none

def Effect.outcome? : Effect → Option (Nat × Except Failure Verdict)
  | .checkEnded call outcome => some (call, outcome)
  | _ => none

namespace Turn

def started (turn : Turn) : List Nat := turn.effects.filterMap Effect.started?

def outcomes (turn : Turn) : List (Nat × Except Failure Verdict) :=
  turn.effects.filterMap Effect.outcome?

theorem mem_started {turn : Turn} {call : Nat} :
    call ∈ turn.started ↔ .checkStarted call ∈ turn.effects := by
  rw [started, List.mem_filterMap]
  constructor
  · rintro ⟨effect, member, same⟩
    cases effect <;> cases same
    exact member
  · intro member
    exact ⟨_, member, rfl⟩

theorem mem_outcomes {turn : Turn} {call : Nat} {outcome : Except Failure Verdict} :
    (call, outcome) ∈ turn.outcomes ↔ .checkEnded call outcome ∈ turn.effects := by
  rw [outcomes, List.mem_filterMap]
  constructor
  · rintro ⟨effect, member, same⟩
    cases effect <;> cases same
    exact member
  · intro member
    exact ⟨_, member, rfl⟩

end Turn

theorem NoChecks.filterMap {effects : List Effect} (quiet : NoChecks effects) :
    effects.filterMap Effect.started? = [] ∧ effects.filterMap Effect.outcome? = [] := by
  rw [List.filterMap_eq_nil_iff, List.filterMap_eq_nil_iff]
  constructor
  · intro effect member
    cases effect with
    | checkStarted call => exact absurd rfl ((quiet _ member).1 call)
    | _ => rfl
  · intro effect member
    cases effect with
    | checkEnded call outcome => exact absurd rfl ((quiet _ member).2 call outcome)
    | _ => rfl

theorem NoChecks.append {effects later : List Effect} (quiet : NoChecks effects)
    (quiet' : NoChecks later) : NoChecks (effects ++ later) :=
  List.forall_mem_append.2 ⟨quiet, quiet'⟩

theorem account_eq (turns : List Turn) : (account turns).started = turns.flatMap Turn.started ∧
    (account turns).outcomes = turns.flatMap Turn.outcomes := by
  have observes (effects : List Effect) (told : Account) :
      (effects.foldl Account.observe told).started =
          told.started ++ effects.filterMap Effect.started? ∧
        (effects.foldl Account.observe told).outcomes =
          told.outcomes ++ effects.filterMap Effect.outcome? := by
    induction effects generalizing told with
    | nil => simp
    | cons effect effects ih =>
        rw [List.foldl_cons, (ih _).1, (ih _).2]
        cases effect <;>
          simp [Account.observe, Effect.started?, Effect.outcome?, List.filterMap_cons]
  induction turns using List.reverseRecOn with
  | nil => exact ⟨rfl, rfl⟩
  | append_singleton turns turn ih =>
      rw [account_concat, (observes _ _).1, (observes _ _).2, ih.1, ih.2]
      simp [Turn.started, Turn.outcomes]

/-! ## Checks of a lane -/

namespace Lane

variable {lane : Lane} {closed : Bool} {now : Rat} {event : Event} {result : Lane × List Effect}

theorem Fires.starts (fires : Fires lane closed now event result) :
    result.1.calls = lane.calls ∧ result.2.filterMap Effect.started? = [] ∨
      ∃ runner effects, result.1.calls = lane.calls + 1 ∧ NoChecks effects ∧
        result.2 = .began runner :: .checkStarted lane.calls :: effects := by
  cases fires with
  | nothing => exact .inl ⟨rfl, rfl⟩
  | busy rests busy reports =>
      subst reports
      exact .inl ⟨(onlyMoves_report ..).calls, (noChecks_report _ _ _ _ _).filterMap.1⟩
  | refused rests idle stopped aborts =>
      subst aborts
      exact .inl ⟨(onlyMoves_abort ..).calls, (noChecks_abort lane now _ poolsClosed).filterMap.1⟩
  | @started runner deadline rests idle opened bounded =>
      exact .inr ⟨runner, [], (onlyMoves_setPhase ..).calls, by simp [NoChecks], rfl⟩
  | @unwaited runner seconds result rests idle opened timeout reports =>
      subst reports
      exact .inr ⟨runner, _, (onlyMoves_report ..).calls, noChecks_report _ _ _ _ _, rfl⟩
  | lost runs lost unheard => exact .inl ⟨rfl, rfl⟩
  | late runs unheard unawaited logged => exact .inl ⟨rfl, logged.noChecks.filterMap.1⟩
  | returned runs heard awaited logged concludes =>
      subst concludes
      exact .inl ⟨(onlyMoves_conclude ..).calls,
        (logged.noChecks.append (noChecks_conclude _ _ _ _ _)).filterMap.1⟩
  | expired waits timeout reports =>
      subst reports
      exact .inl ⟨(onlyMoves_report ..).calls, (noChecks_report _ _ _ _ _).filterMap.1⟩
  | reported waits logged =>
      refine .inl ⟨(onlyMoves_rest ..).calls, ?_⟩
      rw [List.filterMap_append, logged.noChecks.filterMap.1]
      rfl
  | withdrawn waits cancels => exact .inl ⟨(onlyMoves_remove ..).calls, rfl⟩

theorem Fires.calls (fires : Fires lane closed now event result) :
    List.range result.1.calls = List.range lane.calls ++ result.2.filterMap Effect.started? := by
  rcases fires.starts with ⟨same, unstarted⟩ | ⟨runner, effects, more, quiet, began⟩
  · rw [same, unstarted, List.append_nil]
  · have started : result.2.filterMap Effect.started? = [lane.calls] := by
      rw [began]
      exact congrArg (lane.calls :: ·) quiet.filterMap.1
    rw [more, started, List.range_succ]

theorem Fires.started_of_not_begins (fires : Fires lane closed now event result)
    (onward : result.2.any Effect.isBeginning = false) :
    result.2.filterMap Effect.started? = [] := by
  rcases fires.starts with ⟨-, unstarted⟩ | ⟨runner, effects, -, -, began⟩
  · exact unstarted
  · rw [began] at onward
    cases onward

theorem any_isBeginning_report (lane : Lane) (closed : Bool) (now : Rat) (runner : Runner)
    (verdict : Verdict) :
    (lane.report closed now runner verdict).2.any Effect.isBeginning = false := by
  cases closed <;> simp [report, finish, Effect.isBeginning]

theorem any_isBeginning_abort (lane : Lane) (now : Rat) (runner : Runner) (failure : Failure) :
    (lane.abort now runner failure).2.any Effect.isBeginning = false := by
  obtain ⟨logs, effects, logged⟩ := lane.abort_effects now runner failure
  rw [effects]
  exact logged.any_isBeginning

theorem any_isBeginning_conclude (lane : Lane) (closed : Bool) (now : Rat) (runner : Runner)
    (outcome : Except Failure Verdict) :
    (lane.conclude closed now runner outcome).2.any Effect.isBeginning = false := by
  rw [conclude]
  split
  next => exact any_isBeginning_report ..
  next => exact any_isBeginning_abort ..

theorem Fires.exists_beginning (fires : Fires lane closed now event result)
    (begins : result.2.any Effect.isBeginning = true) :
    ∃ runner effects, event = .begins runner ∧ result.2 = .began runner :: effects ∧
      effects.any Effect.isBeginning = false := by
  have onward {effects : List Effect} (onward : effects.any Effect.isBeginning = false)
      (begins : effects.any Effect.isBeginning = true) : False := by
    rw [onward] at begins
    cases begins
  cases fires with
  | nothing => cases begins
  | @busy runner result rests busy reports =>
      subst reports
      exact ⟨runner, _, rfl, rfl, any_isBeginning_report ..⟩
  | @refused runner result rests idle stopped aborts =>
      subst aborts
      exact ⟨runner, _, rfl, rfl, any_isBeginning_abort ..⟩
  | @started runner deadline rests idle opened bounded => exact ⟨runner, _, rfl, rfl, rfl⟩
  | @unwaited runner seconds result rests idle opened timeout reports =>
      subst reports
      exact ⟨runner, _, rfl, rfl, any_isBeginning_report (lane.startCheck now) closed now runner _⟩
  | lost runs lost unheard => cases begins
  | late runs unheard unawaited logged => exact (onward logged.any_isBeginning begins).elim
  | returned runs heard awaited logged concludes =>
      subst concludes
      refine (onward ?_ begins).elim
      rw [List.cons_append, List.any_cons, List.any_append, logged.any_isBeginning,
        any_isBeginning_conclude]
      rfl
  | expired waits timeout reports =>
      subst reports
      exact (onward (any_isBeginning_report ..) begins).elim
  | reported waits logged =>
      refine (onward ?_ begins).elim
      rw [List.any_append, logged.any_isBeginning]
      rfl
  | withdrawn waits cancels => cases begins

theorem Fires.fresh (fires : Fires lane closed now event result)
    (idle : lane.isBusy = false) (opened : closed = false)
    (begins : result.2.any Effect.isBeginning = true) :
    ∃ runner effects, result.2 = .began runner :: .checkStarted lane.calls :: effects := by
  obtain ⟨runner, effects, rfl, -, -⟩ := fires.exists_beginning begins
  cases fires with
  | nothing => cases begins
  | busy rests busy reports => cases busy.symm.trans idle
  | refused rests idle stopped aborts => rw [opened] at stopped; cases stopped
  | started rests idle opened bounded => exact ⟨runner, [], rfl⟩
  | unwaited rests idle opened timeout reports => exact ⟨runner, _, rfl⟩

theorem Checks.balance (checks : Checks lane result) (sound : lane.IsSound) :
    (result.2.filterMap Effect.outcome?).map (·.1) ++ result.1.running.map (·.call) =
      lane.running.map (·.call) ++ result.2.filterMap Effect.started? := by
  cases checks with
  | same running quiet => simp [running, quiet.filterMap]
  | @starts check before after idle running effects quiet quiet' =>
      have started : (.checkStarted check.call :: after).filterMap Effect.started? = [check.call] :=
        congrArg (check.call :: ·) quiet'.filterMap.1
      have unended : (.checkStarted check.call :: after).filterMap Effect.outcome? = [] :=
        quiet'.filterMap.2
      rw [sound.idle idle, running, effects, List.filterMap_append, List.filterMap_append,
        quiet.filterMap.1,
        quiet.filterMap.2, started, unended]
      rfl
  | @ends check after ran idle effects quiet =>
      have ended : (.checkEnded check.call check.outcome :: after).filterMap Effect.outcome? =
          [(check.call, check.outcome)] :=
        congrArg ((check.call, check.outcome) :: ·) quiet.filterMap.2
      have unstarted :
          (.checkEnded check.call check.outcome :: after).filterMap Effect.started? = [] :=
        quiet.filterMap.1
      rw [ran, idle, effects, ended, unstarted]
      rfl

theorem Checks.of_ended (checks : Checks lane result) {call : Nat}
    {outcome : Except Failure Verdict} (ended : .checkEnded call outcome ∈ result.2) :
    result.2.filterMap Effect.started? = [] ∧ result.1.running = [] := by
  cases checks with
  | same running quiet => exact absurd rfl ((quiet _ ended).2 call outcome)
  | starts before after idle running effects quiet quiet' =>
      rw [effects, List.mem_append, List.mem_cons] at ended
      rcases ended with ended | same | ended
      · exact absurd rfl ((quiet _ ended).2 call outcome)
      · cases same
      · exact absurd rfl ((quiet' _ ended).2 call outcome)
  | ends ran idle effects quiet =>
      rw [effects]
      exact ⟨quiet.filterMap.1, idle⟩

theorem Fires.ended (fires : Fires lane closed now event result) {call : Nat}
    {outcome : Except Failure Verdict} (ended : .checkEnded call outcome ∈ result.2) :
    (∃ check ∈ lane.running, check.call = call ∧ check.outcome = outcome) ∧
      (lane.actor? event = none →
        ∃ logs, result.2 = .checkEnded call outcome :: logs ∧ OnlyLogs logs) := by
  have none {effects : List Effect} (quiet : NoChecks effects)
      (ended : .checkEnded call outcome ∈ effects) : False :=
    (quiet _ ended).2 call outcome rfl
  cases fires with
  | nothing => cases ended
  | busy rests busy reports =>
      subst reports
      cases ended with
      | tail _ ended => exact (none (noChecks_report _ _ _ _ _) ended).elim
  | refused rests idle stopped aborts =>
      subst aborts
      cases ended with
      | tail _ ended => exact (none (noChecks_abort _ _ _ _) ended).elim
  | started rests idle opened bounded => simp at ended
  | unwaited rests idle opened timeout reports =>
      subst reports
      cases ended with
      | tail _ ended =>
          cases ended with
          | tail _ ended => exact (none (noChecks_report _ _ _ _ _) ended).elim
  | lost runs lost unheard =>
      rw [List.mem_singleton] at ended
      cases ended
      exact ⟨⟨_, runs, rfl, rfl⟩, fun _ => ⟨[], rfl, by simp [OnlyLogs]⟩⟩
  | late runs unheard unawaited logged =>
      cases ended with
      | head => exact ⟨⟨_, runs, rfl, rfl⟩, fun _ => ⟨_, rfl, logged⟩⟩
      | tail _ ended => exact (none logged.noChecks ended).elim
  | returned runs heard awaited logged concludes =>
      subst concludes
      rw [List.cons_append, List.mem_cons, List.mem_append] at ended
      rcases ended with same | ended | ended
      · cases same
        refine ⟨⟨_, runs, rfl, rfl⟩, fun unattended => ?_⟩
        cases heard.symm.trans unattended
      · exact (none logged.noChecks ended).elim
      · exact (none (noChecks_conclude _ _ _ _ _) ended).elim
  | expired waits timeout reports =>
      subst reports
      exact (none (noChecks_report _ _ _ _ _) ended).elim
  | reported waits logged =>
      rw [List.mem_append, List.mem_singleton] at ended
      rcases ended with ended | same
      · exact (none logged.noChecks ended).elim
      · cases same
  | withdrawn waits cancels => simp at ended

theorem range_inj {m n : Nat} : List.range m = List.range n ↔ m = n :=
  ⟨fun same => by simpa using congrArg List.length same, congrArg List.range⟩

/-- What the turns of a lane tell of its checks. -/
structure Remembers (lane : Lane) (turns : List Turn) : Prop where
  started : turns.flatMap Turn.started = List.range lane.calls
  ended : (turns.flatMap Turn.outcomes).map (·.1) ++ lane.running.map (·.call) =
    List.range lane.calls
  lost : lane.lost = true → ∃ call outcome, call + 1 = lane.calls ∧
    (call, outcome) ∈ turns.flatMap Turn.outcomes ∧ loses outcome = true
  told : ∀ call outcome, (call, outcome) ∈ turns.flatMap Turn.outcomes →
    outcome = (lane.script.check call).outcome

theorem Remembers.fires {turns : List Turn} (remembers : lane.Remembers turns)
    (sound : lane.IsSound) (fires : Fires lane closed now event result) :
    result.1.Remembers (turns ++ [lane.turn event result.2]) := by
  have script := fires.keeps.script
  have starts : (lane.turn event result.2).started = result.2.filterMap Effect.started? := rfl
  have ends : (lane.turn event result.2).outcomes = result.2.filterMap Effect.outcome? := rfl
  have calls := fires.calls
  have checks := fires.checks sound
  refine ⟨?_, ?_, fun lost => ?_, fun call outcome told => ?_⟩
  · rw [List.flatMap_append, List.flatMap_singleton, remembers.started, starts, calls]
  · rw [List.flatMap_append, List.flatMap_singleton, ends, List.map_append, List.append_assoc,
      checks.balance sound, ← List.append_assoc, remembers.ended, calls]
  · rw [List.flatMap_append, List.flatMap_singleton, ends]
    cases checks with
    | same running quiet kept =>
        rw [quiet.filterMap.1, List.append_nil] at calls
        rw [range_inj.1 calls]
        obtain ⟨call, outcome, last, told, loses⟩ := remembers.lost (kept.symm.trans lost)
        exact ⟨call, outcome, last, List.mem_append_left _ told, loses⟩
    | starts before after idle running effects quiet quiet' kept =>
        cases (kept.symm.trans lost).symm.trans (sound.isBusy_eq_false_iff.1 idle).1
    | @ends check after ran idle effects quiet kept =>
        have runs : check ∈ lane.running := ran ▸ List.mem_singleton_self check
        have ended : .checkEnded check.call check.outcome ∈ result.2 :=
          effects ▸ List.mem_cons_self ..
        rw [((fires.checks sound).of_ended ended).1, List.append_nil] at calls
        refine ⟨check.call, check.outcome, ?_, ?_, kept.symm.trans lost⟩
        · rw [range_inj.1 calls, sound.last check runs]
        · rw [effects]
          exact List.mem_append_right _ (List.mem_cons_self ..)
  · rw [script]
    rw [List.flatMap_append, List.flatMap_singleton, List.mem_append] at told
    rcases told with earlier | now
    · exact remembers.told call outcome earlier
    · obtain ⟨⟨check, runs, rfl, rfl⟩, -⟩ := fires.ended (Turn.mem_outcomes.1 now)
      exact (sound.scripted check runs).symm

theorem Remembers.shifts {next : Move} {after : Lane} {turns : List Turn}
    (remembers : lane.Remembers turns) (shifts : Shifts next lane after) :
    after.Remembers turns := by
  cases shifts <;> exact ⟨remembers.started, remembers.ended, remembers.lost, remembers.told⟩

end Lane

/-! ## Checks in a history -/

def turnsOf (name : String) (history : List Turn) : List Turn :=
  history.filter fun turn => turn.probe.name = name

def Retells (scheduler : Scheduler) (history : List Turn) : Prop :=
  ∀ lane ∈ scheduler.lanes, lane.Remembers (turnsOf lane.probe.name history)

theorem Retells.move {scheduler : Scheduler} {history : List Turn}
    (retells : Retells scheduler history) (sound : scheduler.IsSound) (next : Move) :
    Retells (scheduler.move next).1 (history ++ (scheduler.move next).2) := by
  have steps := move_steps sound next
  generalize scheduler.move next = result at steps ⊢
  cases steps with
  | shifts lanes closed each =>
      intro lane listed
      rw [lanes] at listed
      obtain ⟨old, listed', rfl⟩ := List.mem_map.1 listed
      rw [List.append_nil, (each old listed').keeps.probe]
      exact (retells old listed').shifts (each old listed')
  | @fires lane event result listed fires =>
      intro other listed'
      rw [turnsOf, List.filter_append]
      rcases mem_replaceLane listed' with rfl | ⟨old, different⟩
      · rw [fires.keeps.probe, List.filter_cons_of_pos (by simp), List.filter_nil]
        exact (retells lane listed).fires (sound.lanes lane listed) fires
      · rw [fires.keeps.probe] at different
        rw [List.filter_cons_of_neg (by simpa using Ne.symm different), List.filter_nil,
          List.append_nil]
        exact retells other old

structure Lane.IsUnused (lane : Lane) : Prop extends lane.IsFresh where
  calls : lane.calls = 0

theorem Lane.IsUnused.remembers {lane : Lane} (unused : lane.IsUnused) : lane.Remembers [] := by
  obtain ⟨⟨idle, -, unlost⟩, none⟩ := unused
  refine ⟨?_, ?_, fun lost => ?_, fun call outcome told => absurd told List.not_mem_nil⟩
  · rw [none]
    rfl
  · rw [none, idle]
    rfl
  · cases lost.symm.trans unlost

section Runs

variable {lanes : List Lane} {origin : Time.Instant} {reporter : Store.Reporter}
  {scheduler : Scheduler} {moves : List Move} {before after : List Turn} {turn : Turn}

theorem retells_run (made : ofLanes lanes origin reporter = .ok scheduler)
    (unused : ∀ lane ∈ lanes, lane.IsUnused) (moves : List Move) :
    Retells (scheduler.run moves).1 (scheduler.run moves).2 := by
  have sound := isSound_of_ofLanes made fun lane listed => (unused lane listed).toIsFresh
  obtain ⟨-, rfl⟩ := ofLanes_eq_ok made
  induction moves using List.reverseRecOn with
  | nil =>
      intro lane listed
      exact (unused lane listed).remembers
  | append_singleton moves next ih =>
      rw [run_concat, proceed]
      exact ih.move (sound.run moves) next

theorem move_turns (scheduler : Scheduler) (next : Move) :
    (scheduler.move next).2 = [] ∨ ∃ turn, (scheduler.move next).2 = [turn] := by
  cases next with
  | fire name event =>
      rw [move]
      split
      next => exact .inl rfl
      next => exact .inr ⟨_, rfl⟩
  | _ => exact .inl rfl

theorem exists_move_of_history (split : (scheduler.run moves).2 = before ++ turn :: after) :
    ∃ earlier next later, moves = earlier ++ next :: later ∧ (scheduler.run earlier).2 = before ∧
      ((scheduler.run earlier).1.move next).2 = [turn] := by
  induction moves using List.reverseRecOn generalizing after with
  | nil => simp [run] at split
  | append_singleton moves next ih =>
      have onward {after : List Turn} (split : (scheduler.run moves).2 = before ++ turn :: after) :
          ∃ earlier next' later, moves ++ [next] = earlier ++ next' :: later ∧
            (scheduler.run earlier).2 = before ∧
            ((scheduler.run earlier).1.move next').2 = [turn] := by
        obtain ⟨earlier, next', later, rfl, told⟩ := ih split
        exact ⟨earlier, next', later ++ [next], by simp, told⟩
      rw [run_concat, proceed] at split
      rcases move_turns (scheduler.run moves).1 next with none | ⟨last, one⟩
      · rw [none, List.append_nil] at split
        exact onward split
      · rw [one] at split
        rcases List.eq_nil_or_concat after with rfl | ⟨between, other, rfl⟩
        · obtain ⟨same, only⟩ := List.append_inj' split rfl
          rw [only] at one
          exact ⟨moves, next, [], rfl, same, one⟩
        · rw [List.concat_eq_append, ← List.cons_append, ← List.append_assoc] at split
          exact onward (List.append_inj' split rfl).1

theorem exists_fires_of_history (sound : scheduler.IsSound)
    (split : (scheduler.run moves).2 = before ++ turn :: after) :
    ∃ earlier, earlier <+: moves ∧ (scheduler.run earlier).2 = before ∧
      ∃ lane ∈ (scheduler.run earlier).1.lanes, ∃ event result,
        Lane.Fires lane (scheduler.run earlier).1.closed (scheduler.run earlier).1.now event
          result ∧
          turn = lane.turn event result.2 := by
  obtain ⟨earlier, next, later, rfl, same, told⟩ := exists_move_of_history split
  refine ⟨earlier, List.prefix_append _ _, same, ?_⟩
  have steps := move_steps (sound.run earlier) next
  generalize (scheduler.run earlier).1.move next = result at steps told
  cases steps with
  | shifts lanes closed each => cases told
  | fires listed fires => exact ⟨_, listed, _, _, fires, (List.singleton_inj.1 told).symm⟩

/-! ## Who hears of a check -/

theorem eq_of_mem_flatMap {α β : Type} {f : α → List β} {items : List α}
    (distinct : (items.flatMap f).Nodup) {a b : α} (memberA : a ∈ items) (memberB : b ∈ items)
    {x : β} (own : x ∈ f a) (own' : x ∈ f b) : a = b := by
  by_contra other
  have apart := (List.nodup_flatMap.1 distinct).2
  have symmetric : Std.Symm (Function.onFun List.Disjoint f) := ⟨fun _ _ apart => apart.symm⟩
  exact apart.forall memberA memberB other own own'

end Runs

section Courses

variable {name : String} {runner runner' : Runner} {history : List Turn} {turns turns' : List Turn}
  {turn : Turn} {call : Nat} {outcome : Except Failure Verdict}

theorem mem_filter_of_course (member : turns ∈ courses name runner history)
    (inside : turn ∈ turns) : turn ∈ history.filter (Turn.isOf name runner) := by
  rw [← flatten_courses]
  exact List.mem_flatten.2 ⟨turns, List.mem_reverse.2 member, inside⟩

theorem filter_isOf_sublist (name : String) (runner : Runner) (history : List Turn) :
    (history.filter (Turn.isOf name runner)).Sublist (turnsOf name history) :=
  List.monotone_filter_right history fun _ own => decide_eq_true (of_decide_eq_true own).1

theorem course_eq_of_started (distinct : ((turnsOf name history).flatMap Turn.started).Nodup)
    (member : turns ∈ courses name runner history) (member' : turns' ∈ courses name runner' history)
    (starts : call ∈ (account turns).started) (starts' : call ∈ (account turns').started) :
    turns = turns' := by
  rw [(account_eq _).1] at starts starts'
  obtain ⟨turn, inside, own⟩ := List.mem_flatMap.1 starts
  obtain ⟨turn', inside', own'⟩ := List.mem_flatMap.1 starts'
  have mine := mem_filter_of_course member inside
  have mine' := mem_filter_of_course member' inside'
  obtain rfl : turn = turn' := eq_of_mem_flatMap distinct
    ((filter_isOf_sublist ..).subset mine) ((filter_isOf_sublist ..).subset mine') own own'
  obtain ⟨-, acts, -⟩ := of_decide_eq_true (List.mem_filter.1 mine).2
  obtain ⟨-, acts', -⟩ := of_decide_eq_true (List.mem_filter.1 mine').2
  obtain rfl : runner = runner' := Option.some.inj (acts.symm.trans acts')
  have apart : ((courses name runner history).reverse.flatMap
      fun turns => turns.flatMap Turn.started).Nodup := by
    have joined : ((courses name runner history).reverse.flatMap id).flatMap Turn.started =
        (courses name runner history).reverse.flatMap fun turns => turns.flatMap Turn.started :=
      List.flatMap_assoc
    rw [List.flatMap_id, flatten_courses] at joined
    rw [← joined]
    exact distinct.sublist ((filter_isOf_sublist name runner history).flatMap _)
  exact eq_of_mem_flatMap apart (List.mem_reverse.2 member) (List.mem_reverse.2 member') starts
    starts'

theorem Stage.Accounts.started_of_heard {probe : Probe} {script : Script} {closed : Bool}
    {stage : Stage} (accounts : stage.Accounts probe script closed turns)
    (heard : (call, outcome) ∈ (account turns).outcomes) : (account turns).started = [call] := by
  have traces {checks : Account} {verdict : Verdict}
      (provenance : Provenance probe script turns checks verdict)
      (heard : (call, outcome) ∈ checks.outcomes) : checks.started = [call] := by
    cases provenance with
    | heard call concludes =>
        cases List.mem_singleton.1 heard
        rfl
    | _ => cases heard
  cases stage with
  | awaits call =>
      rw [accounts.2] at heard
      cases heard
  | tells verdict accepted =>
      obtain ⟨checks, provenance, told⟩ := accounts
      rw [told] at heard ⊢
      exact (traces provenance heard :)
  | finished result =>
      cases result with
      | ok verdict =>
          obtain ⟨checks, provenance, ⟨accepted, told⟩ | ⟨-, told⟩⟩ := accounts
          · rw [told] at heard ⊢
            exact (traces provenance heard :)
          · rw [told] at heard ⊢
            exact (traces provenance heard :)
      | error failure =>
          rcases accounts with ⟨-, told⟩ | ⟨call', outcome', -, told⟩ |
            ⟨-, checks, verdict, provenance, told⟩
          · rw [told] at heard
            cases heard
          · rw [told] at heard ⊢
            cases List.mem_singleton.1 heard
            rfl
          · rw [told] at heard ⊢
            exact (traces provenance heard :)

/-- The verdict comes from what the iteration did with checks. -/
def Traced (probe : Probe) (script : Script) (turns : List Turn) (verdict : Verdict) : Prop :=
  ∃ checks, Provenance probe script turns checks verdict ∧
    (account turns).started = checks.started ∧ (account turns).outcomes = checks.outcomes

theorem Stage.Accounts.traced {probe : Probe} {script : Script} {closed : Bool} {stage : Stage}
    (accounts : stage.Accounts probe script closed turns) :
    (∀ verdict, .ok verdict ∈ (account turns).results → Traced probe script turns verdict) ∧
      ∀ status ∈ (account turns).reports, ∃ verdict, verdict.status = status ∧
        Traced probe script turns verdict := by
  cases stage with
  | awaits call =>
      rw [accounts.2]
      exact ⟨by simp, by simp⟩
  | tells verdict accepted =>
      obtain ⟨checks, provenance, told⟩ := accounts
      have traced : Traced probe script turns verdict :=
        ⟨checks, provenance, by rw [told]; rfl, by rw [told]; rfl⟩
      refine ⟨fun verdict' returned => ?_, fun status reported => ?_⟩
      · rw [told, Account.reporting, provenance.quiet.2.2] at returned
        cases returned
      · rw [told] at reported
        exact ⟨verdict, (List.mem_singleton.1 reported).symm, traced⟩
  | finished result =>
      cases result with
      | ok verdict =>
          obtain ⟨checks, provenance, told⟩ := accounts
          have traced : Traced probe script turns verdict := by
            refine ⟨checks, provenance, ?_⟩
            rcases told with ⟨accepted, told⟩ | ⟨-, told⟩ <;> rw [told] <;> exact ⟨rfl, rfl⟩
          refine ⟨fun verdict' returned => ?_, fun status reported => ?_⟩
          · have same : (account turns).results = [.ok verdict] := by
              rcases told with ⟨accepted, told⟩ | ⟨-, told⟩ <;> rw [told]
            rw [same] at returned
            cases List.mem_singleton.1 returned
            exact traced
          · rcases told with ⟨accepted, told⟩ | ⟨-, told⟩
            · rw [told] at reported
              exact ⟨verdict, (List.mem_singleton.1 reported).symm, traced⟩
            · rw [told, provenance.quiet.1] at reported
              cases reported
      | error failure =>
          rcases accounts with ⟨-, told⟩ | ⟨call', outcome', -, told⟩ |
            ⟨-, checks, verdict, provenance, told⟩
          · rw [told]
            exact ⟨by simp, by simp⟩
          · rw [told]
            exact ⟨by simp, by simp⟩
          · have traced : Traced probe script turns verdict :=
              ⟨checks, provenance, by rw [told]; rfl, by rw [told]; rfl⟩
            refine ⟨fun verdict' returned => ?_, fun status reported => ?_⟩
            · rw [told] at returned
              simp at returned
            · rw [told] at reported
              exact ⟨verdict, (List.mem_singleton.1 reported).symm, traced⟩

end Courses

/-- No iteration hears of the check, and when it ends, nobody is told but the log. -/
def IsUnheard (name : String) (history : List Turn) (call : Nat) : Prop :=
  (∀ runner, ∀ turns ∈ courses name runner history, ∀ outcome,
      (call, outcome) ∉ (account turns).outcomes) ∧
    ∀ turn ∈ history, turn.probe.name = name → ∀ outcome,
      .checkEnded call outcome ∈ turn.effects → turn.actor = none ∧
        ∃ logs, turn.effects = .checkEnded call outcome :: logs ∧ Lane.OnlyLogs logs

/-- What an iteration tells comes from the check that it started, and what it leaves untold remains
so. -/
structure IsTraced (lane : Lane) (history turns : List Turn) : Prop where
  returned : ∀ verdict, .ok verdict ∈ (account turns).results →
    Traced lane.probe lane.script turns verdict
  reported : ∀ status ∈ (account turns).reports, ∃ verdict, verdict.status = status ∧
    Traced lane.probe lane.script turns verdict
  heard : ∀ call outcome, (call, outcome) ∈ (account turns).outcomes →
    (account turns).started = [call] ∧ outcome = (lane.script.check call).outcome
  unheard : ∀ call ∈ (account turns).started, (account turns).outcomes = [] →
    IsUnheard lane.probe.name history call

/-- The first iteration of a probe to begin after a check has ended starts a check that is new, if
the outcome arrived. -/
def Renews (history : List Turn) : Prop :=
  ∀ before ended between opening after call outcome,
    history = before ++ ended :: (between ++ opening :: after) →
    .checkEnded call outcome ∈ ended.effects → loses outcome = false →
    opening.probe.name = ended.probe.name →
    (∀ turn ∈ between, turn.probe.name = ended.probe.name → turn.begins = false) →
    opening.begins = true →
      (∃ runner effects, opening.effects = .began runner :: .checkStarted (call + 1) :: effects) ∧
      ∀ turn ∈ before ++ ended :: between, turn.probe.name = ended.probe.name →
        .checkStarted (call + 1) ∉ turn.effects

section Tracing

variable {lanes : List Lane} {origin : Time.Instant} {reporter : Store.Reporter}
  {scheduler : Scheduler} {moves : List Move} {lane : Lane} {call : Nat}
  {outcome : Except Failure Verdict}

theorem started_of_mem (sound : scheduler.IsSound) {turn : Turn}
    (told : turn ∈ (scheduler.run moves).2) (onward : turn.begins = false) : turn.started = [] := by
  obtain ⟨before, after, split⟩ := List.append_of_mem told
  obtain ⟨_, _, _, lane, _, event, result, fires, rfl⟩ := exists_fires_of_history sound split
  exact fires.started_of_not_begins onward

variable (made : ofLanes lanes origin reporter = .ok scheduler)
  (unused : ∀ lane ∈ lanes, lane.IsUnused)

include made unused

theorem range_of_ended {before after : List Turn} {ended : Turn}
    (split : (scheduler.run moves).2 = before ++ ended :: after)
    (ends : .checkEnded call outcome ∈ ended.effects) :
    (turnsOf ended.probe.name (before ++ [ended])).flatMap Turn.started = List.range (call + 1) ∧
      ((turnsOf ended.probe.name (before ++ [ended])).flatMap Turn.outcomes).map (·.1) =
        List.range (call + 1) := by
  have sound := isSound_of_ofLanes made fun lane listed => (unused lane listed).toIsFresh
  obtain ⟨earlier, -, rfl, lane, listed, event, result, fires, rfl⟩ :=
    exists_fires_of_history sound split
  have sound := (sound.run earlier).lanes lane listed
  have remembers := (retells_run made unused earlier lane listed).fires sound fires
  obtain ⟨⟨check, runs, rfl, -⟩, -⟩ := fires.ended ends
  obtain ⟨unstarted, idle⟩ := (fires.checks sound).of_ended ends
  have calls := fires.calls
  rw [unstarted, List.append_nil, ← sound.last check runs] at calls
  have turns : turnsOf lane.probe.name ((scheduler.run earlier).2 ++ [lane.turn event result.2]) =
      turnsOf lane.probe.name (scheduler.run earlier).2 ++ [lane.turn event result.2] := by
    rw [turnsOf, List.filter_append, List.filter_cons_of_pos (by simp [Lane.turn])]
    rfl
  refine ⟨turns ▸ remembers.started.trans calls, turns ▸ ?_⟩
  have balance := remembers.ended
  rwa [idle, List.map_nil, List.append_nil, calls] at balance

theorem renews (unstopped : .stop ∉ moves) : Renews (scheduler.run moves).2 := by
  intro before ended between opening after call outcome split ends told own first begins
  have sound := isSound_of_ofLanes made fun lane listed => (unused lane listed).toIsFresh
  obtain ⟨started, outcomes⟩ := range_of_ended made unused split ends
  have split' : (scheduler.run moves).2 = (before ++ ended :: between) ++ opening :: after := by
    rw [split, List.append_assoc, List.cons_append]
  have parts : turnsOf ended.probe.name (before ++ ended :: between) =
      turnsOf ended.probe.name (before ++ [ended]) ++ turnsOf ended.probe.name between := by
    rw [turnsOf, turnsOf, turnsOf, ← List.filter_append, List.append_assoc, List.singleton_append]
  have onward : (turnsOf ended.probe.name between).flatMap Turn.started = [] := by
    rw [List.flatMap_eq_nil_iff]
    intro turn member
    obtain ⟨listed, named⟩ := List.mem_filter.1 member
    have told : turn ∈ (scheduler.run moves).2 := by
      rw [split']
      exact List.mem_append_left _ (List.mem_append_right _ (.tail _ listed))
    exact started_of_mem sound told (first turn listed (of_decide_eq_true named))
  have numbers : (turnsOf ended.probe.name (before ++ ended :: between)).flatMap Turn.started =
      List.range (call + 1) := by
    rw [parts, List.flatMap_append, started, onward, List.append_nil]
  obtain ⟨earlier, kept, same, lane, listed, event, result, fires, rfl⟩ :=
    exists_fires_of_history sound split'
  have named : lane.probe.name = ended.probe.name := own
  have remembers := retells_run made unused earlier lane listed
  rw [same, named] at remembers
  have next : call + 1 = lane.calls := by
    simpa using congrArg List.length (numbers.symm.trans remembers.started)
  have idle : lane.running = [] := by
    have balance := remembers.ended
    rw [parts, List.flatMap_append, List.map_append, outcomes, next, List.append_assoc] at balance
    exact List.map_eq_nil_iff.1 (List.append_eq_nil_iff.1 (List.append_right_eq_self.1 balance)).2
  have unlost : lane.lost = false := by
    by_contra lost
    obtain ⟨call', outcome', last, ended', loses⟩ :=
      remembers.lost (Bool.eq_true_of_not_eq_false lost)
    obtain rfl : call = call' := by omega
    have ends' : (call, outcome) ∈
        (turnsOf ended.probe.name (before ++ ended :: between)).flatMap Turn.outcomes := by
      refine List.mem_flatMap.2 ⟨ended, List.mem_filter.2 ⟨?_, decide_eq_true rfl⟩,
        Turn.mem_outcomes.2 ends⟩
      exact List.mem_append_right _ (List.mem_cons_self ..)
    have same' : outcome = outcome' :=
      (remembers.told call outcome ends').trans (remembers.told call outcome' ended').symm
    rw [← same', told] at loses
    cases loses
  have free := ((sound.run earlier).lanes lane listed).isBusy_eq_false_iff.2 ⟨unlost, idle⟩
  have opened : (scheduler.run earlier).1.closed = false := by
    have unstopped : .stop ∉ earlier := fun stops => unstopped (kept.subset stops)
    rw [closed_run unstopped, (ofLanes_eq_ok made).2]
  refine ⟨?_, fun turn member named starts => ?_⟩
  · rw [next]
    exact fires.fresh free opened begins
  · have numbered : call + 1 ∈ List.range (call + 1) := by
      rw [← numbers]
      exact List.mem_flatMap.2 ⟨turn, List.mem_filter.2 ⟨member, decide_eq_true named⟩,
        Turn.mem_started.2 starts⟩
    exact absurd (List.mem_range.1 numbered) (Nat.lt_irrefl _)

theorem isUnheard (listed : lane ∈ (scheduler.run moves).1.lanes) {runner : Runner}
    {turns : List Turn} (member : turns ∈ courses lane.probe.name runner (scheduler.run moves).2)
    (starts : call ∈ (account turns).started) (silent : (account turns).outcomes = []) :
    IsUnheard lane.probe.name (scheduler.run moves).2 call := by
  have fresh : ∀ lane ∈ lanes, lane.IsFresh := fun lane listed => (unused lane listed).toIsFresh
  have sound := isSound_of_ofLanes made fresh
  have distinct :
      ((turnsOf lane.probe.name (scheduler.run moves).2).flatMap Turn.started).Nodup := by
    rw [(retells_run made unused moves lane listed).started]
    exact List.nodup_range
  have none : ∀ runner', ∀ turns' ∈ courses lane.probe.name runner' (scheduler.run moves).2,
      ∀ outcome, (call, outcome) ∉ (account turns').outcomes := by
    intro runner' turns' member' outcome heard
    obtain ⟨stage, accounts, -⟩ := exists_accounts made fresh listed member'
    have starts' := accounts.started_of_heard heard
    have same := course_eq_of_started distinct member member' starts
      (starts' ▸ List.mem_singleton_self call)
    rw [← same, silent] at heard
    cases heard
  refine ⟨none, fun turn told named outcome ends => ?_⟩
  have unattended : turn.actor = Option.none := by
    cases acts : turn.actor with
    | none => rfl
    | some runner' =>
        have mine : turn ∈ (scheduler.run moves).2.filter (Turn.isOf lane.probe.name runner') :=
          List.mem_filter.2 ⟨told, decide_eq_true ⟨named, acts, List.ne_nil_of_mem ends⟩⟩
        rw [← flatten_courses] at mine
        obtain ⟨turns', listed', inside⟩ := List.mem_flatten.1 mine
        refine absurd ?_ (none runner' turns' (List.mem_reverse.1 listed') outcome)
        rw [(account_eq _).2]
        exact List.mem_flatMap.2 ⟨turn, inside, Turn.mem_outcomes.2 ends⟩
  refine ⟨unattended, ?_⟩
  obtain ⟨before, after, split⟩ := List.append_of_mem told
  obtain ⟨_, _, _, lane', _, event, result, fires, rfl⟩ := exists_fires_of_history sound split
  exact (fires.ended ends).2 unattended

end Tracing

def hungLanes : List Lane :=
  [{ probe := { name := "cache", interval := 10, timeout := some 5 }
     script := { check := fun call =>
      if call = 0 then { delay := some 12 }
      else { outcome := .error (.of .connection "refused") } } }]

def hungScheduler : Scheduler := { lanes := hungLanes, origin := default }

def hungMoves : List Move :=
  [.start, .fire "cache" (.begins .loop), .elapse 5, .fire "cache" (.expires .loop),
    .fire "cache" (.reportEnds .loop), .elapse 6, .trigger ["cache"],
    .fire "cache" (.begins (.trigger 0)), .fire "cache" (.reportEnds (.trigger 0)), .elapse 12,
    .fire "cache" (.checkEnds 0), .elapse 15, .fire "cache" (.begins .loop),
    .fire "cache" (.checkEnds 1), .fire "cache" (.reportEnds .loop)]

end Liveness.Scheduler
