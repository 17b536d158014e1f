import Liveness.Proofs.Scheduler.Reports

/-!
Checks in flight: no probe has more than one, so that a pool with a place for every probe never
keeps a check waiting (`one_in_flight`).
-/

namespace Liveness.Scheduler

/-! ## What a turn does to the checks of its lane -/

def NoChecks (effects : List Effect) : Prop :=
  ∀ effect ∈ effects, (∀ call, effect ≠ .checkStarted call) ∧
    ∀ call outcome, effect ≠ .checkEnded call outcome

namespace Lane

variable {lane : Lane} {closed : Bool} {now : Rat} {event : Event}

theorem OnlyLogs.noChecks {effects : List Effect} (logged : OnlyLogs effects) :
    NoChecks effects := by
  intro effect member
  obtain ⟨entry, rfl⟩ := logged effect member
  exact ⟨nofun, nofun⟩

theorem noChecks_report (lane : Lane) (closed : Bool) (now : Rat) (runner : Runner)
    (verdict : Verdict) : NoChecks (lane.report closed now runner verdict).2 := by
  cases closed <;> simp [report, finish, NoChecks]

theorem noChecks_abort (lane : Lane) (now : Rat) (runner : Runner) (failure : Failure) :
    NoChecks (lane.abort now runner failure).2 := by
  obtain ⟨logs, effects, logged⟩ := lane.abort_effects now runner failure
  rw [effects]
  exact List.forall_mem_cons.2 ⟨⟨nofun, nofun⟩, logged.noChecks⟩

theorem noChecks_conclude (lane : Lane) (closed : Bool) (now : Rat) (runner : Runner)
    (outcome : Except Failure Verdict) :
    NoChecks (lane.conclude closed now runner outcome).2 := by
  rw [conclude]
  split
  next => exact noChecks_report _ _ _ _ _
  next => exact noChecks_abort _ _ _ _

/-- A turn starts one check where none ran, or ends the one that ran, or does neither. -/
inductive Checks (lane : Lane) (result : Lane × List Effect) : Prop
  | same (running : result.1.running = lane.running) (quiet : NoChecks result.2)
    (lost : result.1.lost = lane.lost)
  | starts {check : RunningCheck} (before after : List Effect) (idle : lane.isBusy = false)
    (running : result.1.running = [check])
    (effects : result.2 = before ++ .checkStarted check.call :: after) (quiet : NoChecks before)
    (quiet' : NoChecks after) (lost : result.1.lost = lane.lost)
  | ends {check : RunningCheck} {after : List Effect} (ran : lane.running = [check])
    (idle : result.1.running = [])
    (effects : result.2 = .checkEnded check.call check.outcome :: after) (quiet : NoChecks after)
    (lost : result.1.lost = loses check.outcome)

theorem IsSound.running_startCheck (sound : lane.IsSound) (idle : lane.isBusy = false) (now : Rat) :
    ∃ check, (lane.startCheck now).running = [check] ∧ check.call = lane.calls := by
  rw [Lane.startCheck, sound.idle idle]
  exact ⟨_, rfl, rfl⟩

theorem Fires.checks {result : Lane × List Effect} (fires : Fires lane closed now event result)
    (sound : lane.IsSound) : Checks lane result := by
  have began {effects : List Effect} {runner : Runner} (quiet : NoChecks effects) :
      NoChecks (.began runner :: effects) := List.forall_mem_cons.2 ⟨⟨nofun, nofun⟩, quiet⟩
  have unlost {check : RunningCheck} (runs : check ∈ lane.running) : lane.lost = false := by
    cases lost : lane.lost with
    | false => rfl
    | true =>
        rw [sound.still lost] at runs
        cases runs
  cases fires with
  | nothing => exact .same rfl (by simp [NoChecks]) rfl
  | busy rests busy reports =>
      subst reports
      exact .same (onlyMoves_report ..).running (began (noChecks_report _ _ _ _ _))
        (onlyMoves_report ..).lost
  | refused rests idle stopped aborts =>
      subst aborts
      exact .same (onlyMoves_abort ..).running (began (noChecks_abort _ _ _ _))
        (onlyMoves_abort ..).lost
  | started rests idle opened bounded =>
      obtain ⟨check, runs, number⟩ := sound.running_startCheck idle now
      rw [← number]
      exact .starts [.began _] [] idle runs rfl (by simp [NoChecks]) (by simp [NoChecks]) rfl
  | unwaited rests idle opened timeout reports =>
      subst reports
      obtain ⟨check, runs, number⟩ := sound.running_startCheck idle now
      rw [← number]
      refine .starts [.began _] _ idle ?_ rfl (by simp [NoChecks]) (noChecks_report _ _ _ _ _)
        (onlyMoves_report ..).lost
      rw [(onlyMoves_report ..).running, runs]
  | lost runs lost unheard =>
      obtain ⟨ran, idle⟩ := sound.running_drop runs
      exact .ends ran idle rfl (by simp [NoChecks]) lost.symm
  | late runs unheard unawaited logged told =>
      obtain ⟨ran, idle⟩ := sound.running_drop runs
      exact .ends ran idle rfl logged.noChecks ((unlost runs).trans told.symm)
  | returned runs heard awaited logged concludes told =>
      subst concludes
      obtain ⟨ran, idle⟩ := sound.running_drop runs
      refine .ends ran ?_ rfl ?_
        ((onlyMoves_conclude ..).lost.trans ((unlost runs).trans told.symm))
      · rw [(onlyMoves_conclude ..).running, idle]
      · exact List.forall_mem_append.2 ⟨logged.noChecks, noChecks_conclude _ _ _ _ _⟩
  | expired waits timeout reports =>
      subst reports
      exact .same (onlyMoves_report ..).running (noChecks_report _ _ _ _ _)
        (onlyMoves_report ..).lost
  | reported waits logged =>
      refine .same (onlyMoves_rest ..).running (List.forall_mem_append.2 ⟨logged.noChecks, ?_⟩)
        (onlyMoves_rest ..).lost
      simp
  | withdrawn waits cancels => exact .same (onlyMoves_remove ..).running (by simp [NoChecks]) rfl

end Lane

/-! ## The pool of checks -/

abbrev Job := String × Nat

structure Pool where
  size : Nat
  working : List Job := []
  waiting : List Job := []

namespace Pool

def submit (pool : Pool) (job : Job) : Pool :=
  if pool.working.length < pool.size then { pool with working := pool.working ++ [job] }
  else { pool with waiting := pool.waiting ++ [job] }

def finish (pool : Pool) (job : Job) : Pool :=
  match pool.waiting with
  | [] => { pool with working := pool.working.erase job }
  | next :: waiting => { pool with working := pool.working.erase job ++ [next], waiting }

def observe (name : String) (pool : Pool) : Effect → Pool
  | .checkStarted call => pool.submit (name, call)
  | .checkEnded call _ => pool.finish (name, call)
  | _ => pool

def turn (pool : Pool) (turn : Turn) : Pool := turn.effects.foldl (observe turn.probe.name) pool

def after (size : Nat) (history : List Turn) : Pool := history.foldl turn { size }

theorem foldl_observe {effects : List Effect} (quiet : NoChecks effects) (name : String)
    (pool : Pool) : effects.foldl (observe name) pool = pool := by
  induction effects with
  | nil => rfl
  | cons effect effects ih =>
      obtain ⟨⟨unstarted, unended⟩, others⟩ := List.forall_mem_cons.1 quiet
      rw [List.foldl_cons]
      cases effect with
      | checkStarted call => exact absurd rfl (unstarted call)
      | checkEnded call outcome => exact absurd rfl (unended call outcome)
      | _ => exact ih others

end Pool

def workers (scheduler : Scheduler) : Nat := max 1 scheduler.lanes.length

def Lane.Runs (lane : Lane) (job : Job) : Prop :=
  lane.probe.name = job.1 ∧ ∃ check ∈ lane.running, check.call = job.2

/-- The pool works on the checks that run, and nothing waits. -/
structure Carries (pool : Pool) (scheduler : Scheduler) : Prop where
  size : scheduler.lanes.length ≤ pool.size
  waiting : pool.waiting = []
  names : (pool.working.map (·.1)).Nodup
  working : ∀ job, job ∈ pool.working ↔ ∃ lane ∈ scheduler.lanes, lane.Runs job

namespace Carries

variable {pool : Pool} {scheduler after : Scheduler} {lane : Lane} {job : Job}

theorem runs_iff (sound : scheduler.IsSound) (listed : lane ∈ scheduler.lanes)
    (named : lane.probe.name = job.1) :
    (∃ other ∈ scheduler.lanes, other.Runs job) ↔ ∃ check ∈ lane.running, check.call = job.2 := by
  constructor
  · rintro ⟨other, listed', named', runs⟩
    rw [sound.eq_of_name listed listed' (named.trans named'.symm)]
    exact runs
  · intro runs
    exact ⟨lane, listed, named, runs⟩

theorem runs_replaceLane {changed : Lane} (listed : lane ∈ scheduler.lanes)
    (same : changed.probe = lane.probe) :
    (∃ other ∈ replaceLane scheduler.lanes changed, other.Runs job) ↔
      if lane.probe.name = job.1 then ∃ check ∈ changed.running, check.call = job.2
      else ∃ other ∈ scheduler.lanes, other.Runs job := by
  have renewed : changed ∈ replaceLane scheduler.lanes changed :=
    List.mem_map.2 ⟨lane, listed, by rw [if_pos (by rw [same])]⟩
  split
  next named =>
      constructor
      · rintro ⟨other, listed', named', runs⟩
        rcases mem_replaceLane listed' with rfl | ⟨-, different⟩
        · exact runs
        · rw [same, named, named'] at different
          exact absurd rfl different
      · intro runs
        exact ⟨changed, renewed, by rwa [same], runs⟩
  next other =>
      constructor
      · rintro ⟨old, listed', runs⟩
        rcases mem_replaceLane listed' with rfl | ⟨listed', -⟩
        · rw [Lane.Runs, same] at runs
          exact absurd runs.1 other
        · exact ⟨old, listed', runs⟩
      · rintro ⟨old, listed', named, runs⟩
        refine ⟨old, List.mem_map.2 ⟨old, listed', ?_⟩, named, runs⟩
        rw [if_neg]
        rw [same, named]
        exact Ne.symm other

theorem map {change : Lane → Lane} (carries : Carries pool scheduler)
    (lanes : after.lanes = scheduler.lanes.map change)
    (keeps : ∀ lane ∈ scheduler.lanes, (change lane).probe = lane.probe ∧
      (change lane).running = lane.running) : Carries pool after where
  size := by
    rw [lanes, List.length_map]
    exact carries.size
  waiting := carries.waiting
  names := carries.names
  working job := by
    have same (lane : Lane) (listed : lane ∈ scheduler.lanes) :
        (change lane).Runs job ↔ lane.Runs job := by
      rw [Lane.Runs, Lane.Runs, (keeps lane listed).1, (keeps lane listed).2]
    rw [carries.working, lanes]
    constructor
    · rintro ⟨lane, listed, runs⟩
      exact ⟨change lane, List.mem_map_of_mem listed, (same lane listed).2 runs⟩
    · rintro ⟨_, listed, runs⟩
      obtain ⟨lane, listed', rfl⟩ := List.mem_map.1 listed
      exact ⟨lane, listed', (same lane listed').1 runs⟩

theorem turn_same {changed : Lane} (carries : Carries pool scheduler) (sound : scheduler.IsSound)
    (listed : lane ∈ scheduler.lanes) (same : changed.probe = lane.probe)
    (running : changed.running = lane.running) :
    Carries pool { scheduler with lanes := replaceLane scheduler.lanes changed } where
  size := by simpa [replaceLane] using carries.size
  waiting := carries.waiting
  names := carries.names
  working job := by
    rw [carries.working, runs_replaceLane listed same, running]
    split
    next named => exact runs_iff sound listed named
    next => rfl

theorem length_working_lt (carries : Carries pool scheduler) (sound : scheduler.IsSound)
    (listed : lane ∈ scheduler.lanes) (idle : lane.running = []) :
    lane.probe.name ∉ pool.working.map (·.1) ∧ pool.working.length < pool.size := by
  -- An idle probe finds a worker, since every other probe keeps at most one busy.
  have free : lane.probe.name ∉ pool.working.map (·.1) := by
    intro busy
    obtain ⟨job, works, named⟩ := List.mem_map.1 busy
    rw [carries.working, runs_iff sound listed named.symm, idle] at works
    obtain ⟨check, runs, -⟩ := works
    cases runs
  -- the names at work are distinct names of probes, and this one is not among them
  have known : lane.probe.name :: pool.working.map (·.1) ⊆ scheduler.names := by
    intro name member
    rcases List.mem_cons.1 member with rfl | member
    · exact List.mem_map_of_mem listed
    · obtain ⟨job, works, rfl⟩ := List.mem_map.1 member
      obtain ⟨other, listed', named, -⟩ := (carries.working job).1 works
      rw [← named]
      exact List.mem_map_of_mem listed'
  have distinct : (lane.probe.name :: pool.working.map (·.1)).Nodup :=
    List.nodup_cons.2 ⟨free, carries.names⟩
  have short := (List.subperm_of_subset distinct known).length_le
  rw [List.length_cons, List.length_map, Scheduler.names, List.length_map] at short
  exact ⟨free, Nat.lt_of_lt_of_le short carries.size⟩

theorem turn_starts {changed : Lane} {check : RunningCheck} (carries : Carries pool scheduler)
    (sound : scheduler.IsSound) (listed : lane ∈ scheduler.lanes)
    (same : changed.probe = lane.probe) (idle : lane.running = [])
    (running : changed.running = [check]) :
    Carries (pool.submit (lane.probe.name, check.call))
      { scheduler with lanes := replaceLane scheduler.lanes changed } := by
  obtain ⟨free, room⟩ := carries.length_working_lt sound listed idle
  rw [Pool.submit, if_pos room]
  refine ⟨by simpa [replaceLane] using carries.size, carries.waiting, ?_, fun job => ?_⟩
  · rw [List.map_append, List.map_singleton, List.nodup_append]
    refine ⟨carries.names, by simp, ?_⟩
    rintro name works _ new rfl
    rw [List.mem_singleton.1 new] at works
    exact free works
  · rw [List.mem_append, List.mem_singleton, runs_replaceLane listed same, running]
    split
    next named =>
        constructor
        · rintro (works | rfl)
          · exact absurd (List.mem_map.2 ⟨job, works, named.symm⟩) free
          · exact ⟨check, List.mem_singleton_self _, rfl⟩
        · rintro ⟨_, only, number⟩
          rw [List.mem_singleton.1 only] at number
          exact .inr (Prod.ext named.symm number.symm)
    next other =>
        rw [carries.working]
        constructor
        · rintro (works | rfl)
          · exact works
          · exact absurd rfl other
        · exact .inl

theorem turn_ends {changed : Lane} {check : RunningCheck} (carries : Carries pool scheduler)
    (sound : scheduler.IsSound) (listed : lane ∈ scheduler.lanes)
    (same : changed.probe = lane.probe) (ran : lane.running = [check])
    (idle : changed.running = []) :
    Carries (pool.finish (lane.probe.name, check.call))
      { scheduler with lanes := replaceLane scheduler.lanes changed } := by
  have distinct : pool.working.Nodup := carries.names.of_map
  rw [Pool.finish, carries.waiting]
  refine ⟨by simpa [replaceLane] using carries.size, rfl, ?_, fun job => ?_⟩
  · exact carries.names.sublist (List.Sublist.map _ List.erase_sublist)
  · rw [distinct.mem_erase_iff, runs_replaceLane listed same, idle, carries.working]
    split
    next named =>
        rw [runs_iff sound listed named, ran]
        constructor
        · rintro ⟨other, _, only, number⟩
          rw [List.mem_singleton.1 only] at number
          exact absurd (Prod.ext named.symm number.symm) other
        · rintro ⟨_, none, -⟩
          cases none
    next other =>
        constructor
        · exact And.right
        · intro runs
          refine ⟨?_, runs⟩
          rintro rfl
          exact other rfl

theorem fire (carries : Carries pool scheduler) (sound : scheduler.IsSound)
    (listed : lane ∈ scheduler.lanes) {event : Event} {result : Lane × List Effect}
    (fires : Lane.Fires lane scheduler.closed scheduler.now event result) :
    Carries (result.2.foldl (Pool.observe lane.probe.name) pool)
      { scheduler with lanes := replaceLane scheduler.lanes result.1 } := by
  have probe := fires.keeps.probe
  obtain ⟨changed, effects⟩ := result
  cases fires.checks (sound.lanes lane listed) with
  | same running quiet =>
      rw [Pool.foldl_observe quiet]
      exact carries.turn_same sound listed probe running
  | starts before later idle running started quiet quiet' =>
      obtain rfl := started
      rw [List.foldl_append, Pool.foldl_observe quiet, List.foldl_cons, Pool.foldl_observe quiet']
      exact carries.turn_starts sound listed probe ((sound.lanes lane listed).idle idle) running
  | ends ran idle ended quiet =>
      obtain rfl := ended
      rw [List.foldl_cons, Pool.foldl_observe quiet]
      exact carries.turn_ends sound listed probe ran idle

theorem move (carries : Carries pool scheduler) (sound : scheduler.IsSound) (next : Move) :
    Carries ((scheduler.move next).2.foldl Pool.turn pool) (scheduler.move next).1 := by
  have steps := move_steps sound next
  generalize scheduler.move next = result at steps ⊢
  cases steps with
  | shifts lanes closed each =>
      exact carries.map lanes fun lane listed =>
        ⟨(each lane listed).keeps.probe, (each lane listed).keeps.running⟩
  | fires listed fires => exact carries.fire sound listed fires

theorem run (sound : scheduler.IsSound) {size : Nat} (carries : Carries { size } scheduler)
    (moves : List Move) :
    Carries (Pool.after size (scheduler.run moves).2) (scheduler.run moves).1 := by
  induction moves using List.reverseRecOn with
  | nil => exact carries
  | append_singleton moves next ih =>
      rw [run_concat, proceed, Pool.after, List.foldl_append]
      exact ih.move (sound.run moves) next

end Carries

theorem carries_of_ofLanes {lanes : List Lane} {origin : Time.Instant}
    {reporter : Store.Reporter} {scheduler : Scheduler}
    (made : ofLanes lanes origin reporter = .ok scheduler) (fresh : ∀ lane ∈ lanes, lane.IsFresh) :
    Carries { size := workers scheduler } scheduler where
  size := Nat.le_max_right ..
  waiting := rfl
  names := List.nodup_nil
  working job := by
    obtain ⟨-, rfl⟩ := ofLanes_eq_ok made
    constructor
    · nofun
    · rintro ⟨lane, listed, -, check, runs, -⟩
      rw [(fresh lane listed).running] at runs
      cases runs

/-! ## Lost checks -/

/-- A check ends with a failure that never arrives. -/
def LosesCheck (effects : List Effect) : Prop :=
  ∃ call failure, .checkEnded call (.error failure) ∈ effects ∧ failure.isLost = true

def StartsNone (effects : List Effect) : Prop := ∀ call, .checkStarted call ∉ effects

theorem NoChecks.startsNone {effects : List Effect} (quiet : NoChecks effects) :
    StartsNone effects := fun call started => (quiet _ started).1 call rfl

theorem NoChecks.not_losesCheck {effects : List Effect} (quiet : NoChecks effects) :
    ¬ LosesCheck effects :=
  fun ⟨call, failure, ended, _⟩ => (quiet _ ended).2 call (.error failure) rfl

section LostChecks

variable {lane : Lane} {result : Lane × List Effect}

theorem Lane.Checks.lost (checks : Lane.Checks lane result) (loses : LosesCheck result.2) :
    result.1.lost = true := by
  cases checks with
  | same running quiet => exact absurd loses quiet.not_losesCheck
  | starts before after idle running effects quiet quiet' =>
      obtain ⟨call, failure, ended, lost⟩ := loses
      rw [effects, List.mem_append, List.mem_cons] at ended
      rcases ended with ended | same | ended
      · exact absurd ⟨call, failure, ended, lost⟩ quiet.not_losesCheck
      · cases same
      · exact absurd ⟨call, failure, ended, lost⟩ quiet'.not_losesCheck
  | ends ran idle effects quiet outcome =>
      obtain ⟨call, failure, ended, lost⟩ := loses
      rw [effects, List.mem_cons] at ended
      rcases ended with same | ended
      · rw [outcome, ← (Effect.checkEnded.inj same).2]
        exact lost
      · exact absurd ⟨call, failure, ended, lost⟩ quiet.not_losesCheck

theorem Lane.Checks.startsNone (checks : Lane.Checks lane result) (lost : lane.lost = true) :
    StartsNone result.2 := by
  cases checks with
  | same running quiet => exact quiet.startsNone
  | starts before after idle running effects quiet quiet' =>
      rw [Lane.isBusy, lost] at idle
      cases idle
  | ends ran idle effects quiet =>
      intro call started
      rw [effects, List.mem_cons] at started
      rcases started with same | started
      · cases same
      · exact quiet.startsNone call started

end LostChecks

structure Blocks (scheduler : Scheduler) (history : List Turn) : Prop where
  lost : ∀ turn ∈ history, LosesCheck turn.effects →
    ∀ lane ∈ scheduler.lanes, lane.probe = turn.probe → lane.lost = true
  last : history.Pairwise fun earlier later =>
    earlier.probe = later.probe → LosesCheck earlier.effects → StartsNone later.effects

theorem Blocks.move {scheduler : Scheduler} {history : List Turn}
    (blocks : Blocks scheduler history) (sound : scheduler.IsSound) (next : Move) :
    Blocks (scheduler.move next).1 (history ++ (scheduler.move next).2) := by
  have steps := move_steps sound next
  generalize scheduler.move next = result at steps ⊢
  cases steps with
  | shifts lanes closed each =>
      rw [List.append_nil]
      refine ⟨fun turn member loses lane listed same => ?_, blocks.last⟩
      rw [lanes] at listed
      obtain ⟨old, listed', rfl⟩ := List.mem_map.1 listed
      have keeps := (each old listed').keeps
      rw [keeps.lost]
      exact blocks.lost turn member loses old listed' (keeps.probe.symm.trans same)
  | @fires lane event result listed fires given =>
      have checks := fires.checks (sound.lanes lane listed)
      refine ⟨fun turn member loses other listed' same => ?_, ?_⟩
      · rcases mem_replaceLane listed' with rfl | ⟨old, different⟩
        · rw [fires.keeps.probe] at same
          rcases List.mem_append.1 member with earlier | last
          · exact fires.keeps_lost (blocks.lost turn earlier loses lane listed same)
          · rw [List.mem_singleton.1 last] at loses
            exact checks.lost loses
        · rcases List.mem_append.1 member with earlier | last
          · exact blocks.lost turn earlier loses other old same
          · rw [List.mem_singleton.1 last] at same
            rw [fires.keeps.probe, same] at different
            exact absurd rfl different
      · refine List.pairwise_append.2 ⟨blocks.last, List.pairwise_singleton .., ?_⟩
        intro earlier member later last same loses
        rw [List.mem_singleton.1 last] at same ⊢
        exact checks.startsNone (blocks.lost earlier member loses lane listed same.symm)

theorem Blocks.run {scheduler : Scheduler} (sound : scheduler.IsSound) (moves : List Move) :
    Blocks (scheduler.run moves).1 (scheduler.run moves).2 := by
  induction moves using List.reverseRecOn with
  | nil => exact ⟨fun _ member => absurd member List.not_mem_nil, .nil⟩
  | append_singleton moves next ih =>
      rw [run_concat, proceed]
      exact ih.move (sound.run moves) next

def recoveringLane (delay : Rat) (kind : FailureKind) : Lane where
  probe := { name := "cache", timeout := some 5 }
  script := { check := fun call =>
    if call = 0 then { delay := some delay, outcome := .error (.of kind "no more replies") }
    else {} }

def recoveringMoves : List Move :=
  [.start, .fire "cache" (.begins .loop), .fire "cache" (.checkEnds 0), .elapse 5,
    .fire "cache" (.expires .loop), .fire "cache" (.reportEnds .loop), .elapse 65,
    .fire "cache" (.begins .loop)]

end Liveness.Scheduler
