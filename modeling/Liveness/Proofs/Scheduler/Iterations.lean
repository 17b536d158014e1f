import Liveness.Proofs.Scheduler.Moves

namespace Liveness.Scheduler

structure Iteration where
  probe : Probe
  runner : Runner
  busy : Bool
  started : List Nat := []
  reported : List String := []
  result : Option (Except Failure Verdict) := none

namespace Iteration

def observe (iteration : Iteration) : Effect → Iteration
  | .checkStarted call => { iteration with started := iteration.started ++ [call] }
  | .reported status _ => { iteration with reported := iteration.reported ++ [status] }
  | .ended _ result => { iteration with result := some result }
  | _ => iteration

def isOf (probe : Probe) (runner : Runner) (iteration : Iteration) : Bool :=
  iteration.probe.name = probe.name ∧ iteration.runner = runner

def amend (probe : Probe) (runner : Runner) (change : Iteration → Iteration) :
    List Iteration → List Iteration
  | [] => []
  | iteration :: rest =>
    if iteration.isOf probe runner then change iteration :: rest
    else iteration :: amend probe runner change rest

/-- An effect belongs to the last iteration of the runner that acts. -/
def note (probe : Probe) (runner : Runner) (busy : Bool) (iterations : List Iteration) :
    Effect → List Iteration
  | .began _ => { probe, runner, busy } :: iterations
  | effect => amend probe runner (·.observe effect) iterations

end Iteration

def Turn.note (iterations : List Iteration) (turn : Turn) : List Iteration :=
  match turn.actor with
  | none => iterations
  | some runner => turn.effects.foldl (Iteration.note turn.probe runner turn.busy) iterations

def iterations (history : List Turn) : List Iteration := history.foldl Turn.note []

def lastOf? (iterations : List Iteration) (probe : Probe) (runner : Runner) : Option Iteration :=
  iterations.find? (·.isOf probe runner)

/-! ## Keeping the record -/

namespace Iteration

variable {probe : Probe} {runner : Runner} {effects : List Effect} {iterations : List Iteration}
  {iteration : Iteration}

def NoBeginning (effects : List Effect) : Prop :=
  ∀ effect ∈ effects, ∀ runner, effect ≠ .began runner

def observeAll (iteration : Iteration) (effects : List Effect) : Iteration :=
  effects.foldl observe iteration

@[simp]
theorem observeAll_cons (iteration : Iteration) (effect : Effect) (effects : List Effect) :
    iteration.observeAll (effect :: effects) = (iteration.observe effect).observeAll effects := rfl

theorem observeAll_append (iteration : Iteration) (effects later : List Effect) :
    iteration.observeAll (effects ++ later) = (iteration.observeAll effects).observeAll later :=
  List.foldl_append

theorem observeAll_logs {logs : List Effect} (logged : Lane.OnlyLogs logs)
    (iteration : Iteration) : iteration.observeAll logs = iteration := by
  induction logs with
  | nil => rfl
  | cons effect logs ih =>
      obtain ⟨⟨entry, rfl⟩, others⟩ := List.forall_mem_cons.1 logged
      exact ih others

theorem observe_probe (iteration : Iteration) (effect : Effect) :
    (iteration.observe effect).probe = iteration.probe := by
  cases effect <;> rfl

theorem observe_runner (iteration : Iteration) (effect : Effect) :
    (iteration.observe effect).runner = iteration.runner := by
  cases effect <;> rfl

theorem observeAll_probe (iteration : Iteration) (effects : List Effect) :
    (iteration.observeAll effects).probe = iteration.probe := by
  induction effects generalizing iteration with
  | nil => rfl
  | cons effect effects ih => rw [observeAll_cons, ih, observe_probe]

theorem observeAll_runner (iteration : Iteration) (effects : List Effect) :
    (iteration.observeAll effects).runner = iteration.runner := by
  induction effects generalizing iteration with
  | nil => rfl
  | cons effect effects ih => rw [observeAll_cons, ih, observe_runner]

theorem isOf_iff : iteration.isOf probe runner = true ↔
    iteration.probe.name = probe.name ∧ iteration.runner = runner := by
  simp [isOf]

theorem isOf_eq_false_of_ne {probe' : Probe} {runner' : Runner}
    (here : iteration.isOf probe runner = true)
    (other : probe'.name ≠ probe.name ∨ runner' ≠ runner) :
    iteration.isOf probe' runner' = false := by
  rw [isOf_iff] at here
  rw [← Bool.not_eq_true, isOf_iff]
  rintro ⟨name, acts⟩
  rcases other with different | different
  · exact different (name.symm.trans here.1)
  · exact different (acts.symm.trans here.2)

theorem isOf_observeAll (iteration : Iteration) (effects : List Effect) :
    (iteration.observeAll effects).isOf probe runner = iteration.isOf probe runner := by
  rw [isOf, isOf, observeAll_probe, observeAll_runner]

theorem amend_observeAll (iterations : List Iteration) (effects later : List Effect) :
    amend probe runner (·.observeAll later) (amend probe runner (·.observeAll effects) iterations) =
      amend probe runner (·.observeAll (effects ++ later)) iterations := by
  induction iterations with
  | nil => rfl
  | cons iteration rest ih =>
      rw [amend, amend]
      split
      next here => rw [amend, isOf_observeAll, if_pos here, observeAll_append]
      next elsewhere => rw [amend, if_neg elsewhere, ih]

theorem amend_nil (iterations : List Iteration) :
    amend probe runner (·.observeAll []) iterations = iterations := by
  induction iterations with
  | nil => rfl
  | cons iteration rest ih =>
      rw [amend, ih]
      split <;> rfl

theorem foldl_note (quiet : NoBeginning effects) (busy : Bool) (iterations : List Iteration) :
    effects.foldl (note probe runner busy) iterations =
      amend probe runner (·.observeAll effects) iterations := by
  induction effects generalizing iterations with
  | nil => rw [amend_nil, List.foldl_nil]
  | cons effect effects ih =>
      obtain ⟨other, quiet⟩ := List.forall_mem_cons.1 quiet
      have noted : note probe runner busy iterations effect =
          amend probe runner (·.observeAll [effect]) iterations := by
        cases effect with
        | began runner => exact absurd rfl (other runner)
        | _ => rfl
      rw [List.foldl_cons, ih quiet, noted, amend_observeAll, List.singleton_append]

theorem find?_amend (found : lastOf? iterations probe runner = some iteration)
    (effects : List Effect) :
    lastOf? (amend probe runner (·.observeAll effects) iterations) probe runner =
      some (iteration.observeAll effects) := by
  rw [lastOf?] at *
  induction iterations with
  | nil => cases found
  | cons first rest ih =>
      rw [List.find?_cons] at found
      rw [amend]
      split at found
      next here =>
          obtain rfl := Option.some.inj found
          rw [if_pos here, List.find?_cons, isOf_observeAll, here]
      next elsewhere =>
          rw [if_neg (by simp [elsewhere]), List.find?_cons, elsewhere]
          exact ih found

theorem find?_amend_of_ne {probe' : Probe} {runner' : Runner}
    (other : probe'.name ≠ probe.name ∨ runner' ≠ runner) (effects : List Effect) :
    lastOf? (amend probe runner (·.observeAll effects) iterations) probe' runner' =
      lastOf? iterations probe' runner' := by
  rw [lastOf?, lastOf?]
  induction iterations with
  | nil => rfl
  | cons first rest ih =>
      rw [amend]
      split
      next here =>
          have elsewhere := isOf_eq_false_of_ne here other
          rw [List.find?_cons, List.find?_cons, isOf_observeAll, elsewhere]
      next => rw [List.find?_cons, List.find?_cons, ih]

def Earlier (P : Iteration → Prop) (iterations : List Iteration) : Prop :=
  iterations.Pairwise fun later earlier => earlier.isOf later.probe later.runner = true → P earlier

theorem Earlier.of_mem_amend {P : Iteration → Prop} {other : Iteration}
    (earlier : Earlier P iterations) (found : lastOf? iterations probe runner = some iteration)
    (member : other ∈ Iteration.amend probe runner (·.observeAll effects) iterations) :
    other = iteration.observeAll effects ∨
      other ∈ iterations ∧ (other.isOf probe runner = true → P other) := by
  rw [lastOf?] at found
  induction iterations with
  | nil => cases found
  | cons first rest ih =>
      obtain ⟨others, rests⟩ := List.pairwise_cons.1 earlier
      rw [List.find?_cons] at found
      rw [Iteration.amend] at member
      split at found
      next here =>
          obtain rfl := Option.some.inj found
          rw [if_pos here] at member
          rcases List.mem_cons.1 member with same | old
          · exact .inl same
          · refine .inr ⟨List.mem_cons_of_mem _ old, fun same => others other old ?_⟩
            rw [isOf_iff] at same here ⊢
            exact ⟨same.1.trans here.1.symm, same.2.trans here.2.symm⟩
      next elsewhere =>
          rw [if_neg (by simp [elsewhere])] at member
          rcases List.mem_cons.1 member with rfl | later
          · refine .inr ⟨List.mem_cons_self .., fun same => ?_⟩
            rw [elsewhere] at same
            cases same
          · rcases ih rests found later with same | ⟨old, ended⟩
            · exact .inl same
            · exact .inr ⟨List.mem_cons_of_mem _ old, ended⟩

theorem mem_amend (found : lastOf? iterations probe runner = some iteration)
    {other : Iteration}
    (member : other ∈ amend probe runner (·.observeAll effects) iterations) :
    other = iteration.observeAll effects ∨ other ∈ iterations := by
  have earlier : Earlier (fun _ => True) iterations :=
    List.pairwise_of_forall fun _ _ _ => trivial
  exact (earlier.of_mem_amend found member).imp_right And.left

end Iteration

/-! ## What an iteration comes to -/

def Iteration.Skips (script : Script) (iteration : Iteration) : Prop :=
  iteration.started = [] ∧
    ∀ result ∈ iteration.result, result = .ok stillRunning ∨ script.Withdraws result

structure Iteration.IsSound (closed : Bool) (script : Script) (iteration : Iteration) : Prop where
  once : iteration.reported.length ≤ 1
  skips : iteration.busy = true → iteration.Skips script
  starts : closed = false → iteration.busy = false → (∃ call, iteration.started = [call]) ∨
    script.CheckRaises Failure.isLost ∧ iteration.Skips script
  told : closed = false → ∀ result ∈ iteration.result,
    (∃ verdict, (result = .ok verdict ∨ script.Withdraws result) ∧
      iteration.reported = [verdict.status]) ∨
    iteration.reported = [] ∧ (∃ failure, result = .error failure) ∧
      (iteration.probe.timeout = none ∨ script.CheckRaises Failure.isCancellation)

def Phase.Tells : Phase → Iteration → Prop
  | .checking call _, iteration =>
    iteration.result = none ∧ iteration.reported = [] ∧ iteration.busy = false ∧
      iteration.started = [call]
  | .reporting verdict _ _, iteration =>
    iteration.result = none ∧ iteration.reported = [verdict.status] ∧
      (iteration.started = [] → verdict = stillRunning)
  | _, _ => True

def Lane.Admits (lane after : Lane) : Prop :=
  after.probe = lane.probe ∧ after.script = lane.script ∧
    ∀ runner phase, after.phase? runner = some phase →
      phase.IsIdle = true ∨ lane.phase? runner = some phase

theorem Lane.admits_refl (lane : Lane) : lane.Admits lane :=
  ⟨rfl, rfl, fun _ _ waits => .inr waits⟩

theorem Lane.admits_queue {lane : Lane} {runner : Runner} (absent : lane.phase? runner = none)
    (since : Rat) : lane.Admits (lane.add runner (.queued since)) := by
  refine ⟨rfl, rfl, fun other phase waits => ?_⟩
  rw [lane.phase?_add _ _ _ absent] at waits
  split at waits
  next =>
      cases waits
      exact .inl rfl
  next => exact .inr waits

theorem Lane.admits_remove (lane : Lane) (runner : Runner) : lane.Admits (lane.remove runner) := by
  refine ⟨rfl, rfl, fun other phase waits => ?_⟩
  rw [lane.phase?_remove] at waits
  split at waits
  next => cases waits
  next => exact .inr waits

theorem Shifts.admits {next : Move} {lane after : Lane} (shifts : Shifts next lane after) :
    lane.Admits after := by
  cases shifts with
  | same => exact lane.admits_refl
  | queues absent since => exact Lane.admits_queue absent since
  | quits given => exact lane.admits_remove _

/-- An iteration that was carried on by a turn of a lane. -/
structure Advances (closed : Bool) (script : Script) (runner : Runner) (iteration : Iteration)
    (result : Lane × List Effect) : Prop where
  quiet : Iteration.NoBeginning result.2
  sound : (iteration.observeAll result.2).IsSound closed script
  tells : ∀ phase, result.1.phase? runner = some phase →
    phase.Tells (iteration.observeAll result.2)
  works : (iteration.observeAll result.2).result = none → result.1.Works runner

section Advances

variable {closed : Bool} {script : Script} {runner : Runner} {iteration : Iteration} {lane : Lane}
  {now : Rat}

theorem tells_rest {phase : Phase} (waits : (lane.rest now runner).phase? runner = some phase)
    (iteration : Iteration) : phase.Tells iteration := by
  obtain ⟨ends, rfl⟩ := Lane.phase?_rest waits
  trivial

theorem Iteration.IsSound.ends {result : Except Failure Verdict}
    (sound : iteration.IsSound closed script)
    (skips : iteration.started = [] → result = .ok stillRunning ∨ script.Withdraws result)
    (told : closed = false → ∃ verdict, (result = .ok verdict ∨ script.Withdraws result) ∧
      iteration.reported = [verdict.status]) :
    ({ iteration with result := some result } : Iteration).IsSound closed script := by
  have skipping (unstarted : iteration.started = []) :
      ({ iteration with result := some result } : Iteration).Skips script := by
    refine ⟨unstarted, ?_⟩
    rintro _ ⟨⟩
    exact skips unstarted
  refine ⟨sound.once, fun busy => skipping (sound.skips busy).1, fun opened idle => ?_, ?_⟩
  · exact (sound.starts opened idle).imp_right fun lost => ⟨lost.1, skipping lost.2.1⟩
  · rintro opened _ ⟨⟩
    exact .inl (told opened)

theorem advances_finish {verdict : Verdict} (sound : iteration.IsSound closed script)
    (skips : iteration.started = [] → verdict = stillRunning)
    (told : closed = false → iteration.reported = [verdict.status]) :
    Advances closed script runner iteration (lane.finish now runner verdict) where
  quiet := by simp [Lane.finish, Iteration.NoBeginning]
  sound := sound.ends (fun unstarted => .inl (by rw [skips unstarted]))
    fun opened => ⟨verdict, .inl rfl, told opened⟩
  tells _ waits := tells_rest waits _
  works := nofun

theorem advances_withdraw {verdict : Verdict} {failure : Failure}
    (sound : iteration.IsSound closed script) (told : iteration.reported = [verdict.status])
    (withdraws : script.Withdraws (.error failure)) :
    Advances closed script runner iteration
      (lane.remove runner, [.ended runner (.error failure)]) where
  quiet := by simp [Iteration.NoBeginning]
  sound := sound.ends (fun _ => .inr withdraws) fun _ => ⟨verdict, .inr withdraws, told⟩
  tells phase waits := by
    rw [lane.phase?_remove, if_pos rfl] at waits
    cases waits
  works := nofun

theorem advances_abort {failure : Failure} (sound : iteration.IsSound closed script)
    (idle : iteration.busy = false) (begun : closed = false → iteration.started ≠ [])
    (quiet : iteration.reported = [])
    (escapes : closed = false →
      iteration.probe.timeout = none ∨ script.CheckRaises Failure.isCancellation) :
    Advances closed script runner iteration (lane.abort now runner failure) := by
  obtain ⟨logs, effects, logged⟩ := lane.abort_effects now runner failure
  have same : iteration.observeAll (lane.abort now runner failure).2 =
      { iteration with result := some (.error failure) } := by
    rw [effects, Iteration.observeAll_cons, Iteration.observeAll_logs logged]
    rfl
  refine ⟨?_, ?_, fun phase waits => ?_, fun unended => ?_⟩
  · rw [effects]
    refine List.forall_mem_cons.2 ⟨nofun, fun effect member => ?_⟩
    obtain ⟨entry, rfl⟩ := logged effect member
    nofun
  · rw [same]
    refine ⟨sound.once, fun busy => ?_, fun opened _ => .inl ?_, ?_⟩
    · rw [idle] at busy
      cases busy
    · exact (sound.starts opened idle).resolve_right fun lost => begun opened lost.2.1
    · rintro opened _ ⟨⟩
      exact .inr ⟨quiet, ⟨failure, rfl⟩, escapes opened⟩
  · obtain ⟨ends, rfl⟩ := Lane.phase?_abort waits
    trivial
  · rw [same] at unended
    cases unended

theorem advances_report {verdict : Verdict} (present : (lane.phase? runner).isSome)
    (sound : iteration.IsSound closed script) (quiet : iteration.reported = [])
    (unended : iteration.result = none)
    (skips : iteration.started = [] → verdict = stillRunning) :
    Advances closed script runner iteration (lane.report closed now runner verdict) := by
  cases closed with
  | true =>
      have finishes : Advances true script runner iteration (lane.finish now runner verdict) :=
        advances_finish sound skips nofun
      refine ⟨?_, finishes.sound, finishes.tells, finishes.works⟩
      simp [Lane.report, Lane.finish, Iteration.NoBeginning]
  | false =>
      have same : iteration.observeAll (lane.report false now runner verdict).2 =
          { iteration with reported := [verdict.status] } := by
        simp [Lane.report, Iteration.observeAll, Iteration.observe, quiet]
      refine ⟨by simp [Lane.report, Iteration.NoBeginning], ?_, ?_, fun _ => ?_⟩
      · rw [same]
        refine ⟨Nat.le_refl 1, sound.skips, sound.starts, ?_⟩
        intro _ result ended
        rw [unended] at ended
        cases ended
      · intro phase waits
        rw [same]
        rcases Lane.phase?_report waits with ⟨fault, ends, -, rfl, -⟩ | ⟨ends, rfl⟩
        · exact ⟨unended, rfl, skips⟩
        · trivial
      · exact Lane.works_report present

theorem advances_conclude {outcome : Except Failure Verdict}
    (present : (lane.phase? runner).isSome) (sound : iteration.IsSound closed script)
    (quiet : iteration.reported = []) (unended : iteration.result = none)
    (idle : iteration.busy = false) (begun : iteration.started ≠ [])
    (same : iteration.probe = lane.probe)
    (scripted : ∃ call, (script.check call).outcome = outcome) :
    Advances closed script runner iteration (lane.conclude closed now runner outcome) := by
  rw [Lane.conclude]
  split
  next verdict concluded =>
      exact advances_report present sound quiet unended fun unstarted => absurd unstarted begun
  next failure concluded =>
      refine advances_abort sound idle (fun _ => begun) quiet fun _ => ?_
      rcases Probe.conclude_eq_error concluded with ⟨raised, cancels⟩ | ⟨-, unbounded⟩
      · obtain ⟨call, outcome⟩ := scripted
        exact .inr ⟨call, failure, outcome.trans raised, cancels⟩
      · exact .inl (same ▸ unbounded)

theorem Advances.before {effect : Effect} {after : Lane} {effects : List Effect}
    (advances : Advances closed script runner (iteration.observe effect) (after, effects))
    (quiet : ∀ runner, effect ≠ .began runner) :
    Advances closed script runner iteration (after, effect :: effects) where
  quiet := List.forall_mem_cons.2 ⟨quiet, advances.quiet⟩
  sound := advances.sound
  tells := advances.tells
  works := advances.works

theorem Advances.after_logs {after : Lane} {logs effects : List Effect}
    (advances : Advances closed script runner iteration (after, effects))
    (logged : Lane.OnlyLogs logs) :
    Advances closed script runner iteration (after, logs ++ effects) := by
  induction logs with
  | nil => exact advances
  | cons effect logs ih =>
      obtain ⟨⟨entry, rfl⟩, others⟩ := List.forall_mem_cons.1 logged
      exact (ih others).before nofun

/-- An iteration that has told nothing yet. -/
theorem Iteration.isSound_of_untold {iteration : Iteration} (unreported : iteration.reported = [])
    (unended : iteration.result = none)
    (skips : iteration.busy = true → iteration.started = [])
    (starts : closed = false → iteration.busy = false → (∃ call, iteration.started = [call]) ∨
      script.CheckRaises Failure.isLost ∧ iteration.started = []) :
    iteration.IsSound closed script := by
  have none {motive : Except Failure Verdict → Prop} :
      ∀ result ∈ iteration.result, motive result := by
    rw [unended]
    exact fun _ member => absurd member (Option.not_mem_none _)
  refine ⟨?_, fun busy => ⟨skips busy, none⟩, fun opened idle => ?_, fun _ => none⟩
  · rw [unreported]
    exact Nat.zero_le 1
  · exact (starts opened idle).imp_right fun lost => ⟨lost.1, lost.2, none⟩

theorem begins_advances (sound : lane.IsSound) {result : Lane × List Effect}
    (fires : Lane.Fires lane closed now (.begins runner) result) :
    result = (lane, []) ∨ lane.Rests runner ∧ ∃ effects, result.2 = .began runner :: effects ∧
      Advances closed lane.script runner
        { probe := lane.probe, runner, busy := !lane.running.isEmpty }
        (result.1, effects) := by
  have idleOf (idle : lane.isBusy = false) : (!lane.running.isEmpty) = false := by
    simpa using sound.idle idle
  cases fires with
  | nothing => exact .inl rfl
  | busy rests busy reports =>
      subst reports
      refine .inr ⟨rests, _, rfl, ?_⟩
      refine advances_report rests.present
        (Iteration.isSound_of_untold rfl rfl (fun _ => rfl) fun _ idle => .inr ⟨?_, rfl⟩) rfl rfl
        fun _ => rfl
      -- no check runs, so that it is a lost one that keeps the probe busy
      exact sound.lost
        ((sound.isBusy_iff.1 busy).resolve_right fun some => some (by simpa using idle))
  | refused rests idle stopped aborts =>
      subst aborts stopped
      refine .inr ⟨rests, _, rfl, ?_⟩
      rw [idleOf idle]
      have opening :
          Iteration.IsSound true lane.script { probe := lane.probe, runner, busy := false } :=
        Iteration.isSound_of_untold rfl rfl (fun _ => rfl)
          fun opened => absurd opened.symm Bool.false_ne_true
      have aborts : Advances true lane.script runner _ (lane.abort now runner poolsClosed) :=
        advances_abort opening rfl nofun rfl nofun
      exact aborts
  | started rests idle opened bounded =>
      refine .inr ⟨rests, _, rfl, ?_⟩
      rw [idleOf idle]
      refine ⟨by simp [Iteration.NoBeginning], ?_, ?_, fun _ => ?_⟩
      · exact Iteration.isSound_of_untold rfl rfl (fun busy => absurd busy Bool.false_ne_true)
          fun _ _ => .inl ⟨_, rfl⟩
      · intro phase waits
        rw [Lane.phase?_setPhase, if_pos rfl, Option.map_eq_some_iff] at waits
        obtain ⟨-, -, rfl⟩ := waits
        exact ⟨rfl, rfl, rfl, rfl⟩
      · exact Lane.works_setPhase rests.present rfl
  | unwaited rests idle opened timeout reports =>
      subst reports
      refine .inr ⟨rests, _, rfl, ?_⟩
      rw [idleOf idle]
      refine Advances.before ?_ (by simp)
      have present : ((lane.startCheck now).phase? runner).isSome := rests.present
      refine advances_report present ?_ rfl rfl fun unstarted => ?_
      · exact Iteration.isSound_of_untold rfl rfl (fun busy => absurd busy Bool.false_ne_true)
          fun _ _ => .inl ⟨_, rfl⟩
      · exact absurd unstarted (List.cons_ne_nil _ _)

theorem fires_advances (sound : lane.IsSound) {event : Event} {result : Lane × List Effect}
    (fires : Lane.Fires lane closed now event result) (acts : lane.actor? event = some runner)
    (onward : ∀ runner, event ≠ .begins runner) :
    result = (lane, []) ∨ ∃ phase, lane.phase? runner = some phase ∧ phase.IsIdle = false ∧
      ∀ iteration : Iteration, iteration.IsSound closed lane.script → phase.Tells iteration →
        iteration.probe = lane.probe → Advances closed lane.script runner iteration result := by
  cases fires with
  | nothing => exact .inl rfl
  | lost runs lost unheard =>
      rw [unheard] at acts
      cases acts
  | late runs unheard unawaited logged =>
      rw [unheard] at acts
      cases acts
  | @returned check logs actor _ runs heard awaited logged concludes =>
      subst concludes
      obtain rfl := Option.some.inj (heard.symm.trans acts)
      obtain ⟨deadline, waits⟩ := Lane.phase?_of_awaiting? sound.keys awaited
      have present : ((lane.drop check.call).phase? actor).isSome :=
        Lane.Works.present ⟨_, waits, rfl⟩
      refine .inr ⟨_, waits, rfl, ?_⟩
      rintro iteration soundly ⟨unended, quiet, idle, started⟩ same
      have concludes : Advances closed lane.script actor iteration
          ((lane.drop check.call).conclude closed now actor check.outcome) :=
        advances_conclude present soundly quiet unended idle (by simp [started]) same
          ⟨check.call, sound.scripted check runs⟩
      refine Advances.before ?_ (by simp)
      exact concludes.after_logs logged
  | expired waits timeout reports =>
      subst reports
      obtain rfl := Option.some.inj acts
      refine .inr ⟨_, waits, rfl, ?_⟩
      rintro iteration soundly ⟨unended, quiet, -, started⟩ -
      exact advances_report (Lane.Works.present ⟨_, waits, rfl⟩) soundly quiet unended
        fun unstarted => by simp [started] at unstarted
  | reported waits logged =>
      obtain rfl := Option.some.inj acts
      refine .inr ⟨_, waits, rfl, ?_⟩
      rintro iteration soundly ⟨unended, told, skips⟩ -
      exact (advances_finish soundly skips fun _ => told).after_logs logged
  | withdrawn waits cancels =>
      obtain rfl := Option.some.inj acts
      refine .inr ⟨_, waits, rfl, ?_⟩
      rintro iteration soundly ⟨unended, told, skips⟩ -
      obtain ⟨handed, time, raised⟩ := (sound.heeds waits).1 _ rfl
      exact advances_withdraw soundly told ⟨handed, time, _, raised, cancels, rfl⟩
  | _ => exact absurd rfl (onward _)

end Advances

/-! ## The record of a run -/

theorem Iteration.IsSound.stopped {closed : Bool} {script : Script} {iteration : Iteration}
    (sound : iteration.IsSound closed script) : iteration.IsSound true script :=
  ⟨sound.once, sound.skips, nofun, nofun⟩

/-- The record tells every iteration right, and which one each runner is in. -/
structure Records (scheduler : Scheduler) (iterations : List Iteration) : Prop where
  sound : ∀ iteration ∈ iterations, ∃ lane ∈ scheduler.lanes, lane.probe = iteration.probe ∧
    iteration.IsSound scheduler.closed lane.script
  last : ∀ lane ∈ scheduler.lanes, ∀ runner phase, lane.phase? runner = some phase →
    phase.IsIdle = true ∨
      ∃ iteration, lastOf? iterations lane.probe runner = some iteration ∧ phase.Tells iteration

namespace Records

variable {scheduler after : Scheduler} {iterations : List Iteration}

theorem map {change : Lane → Lane} (records : Records scheduler iterations)
    (lanes : after.lanes = scheduler.lanes.map change)
    (closed : after.closed = scheduler.closed ∨ after.closed = true)
    (each : ∀ lane ∈ scheduler.lanes, lane.Admits (change lane)) : Records after iterations where
  sound iteration member := by
    obtain ⟨lane, listed, same, sound⟩ := records.sound iteration member
    refine ⟨change lane, ?_, (each lane listed).1.trans same, ?_⟩
    · rw [lanes]
      exact List.mem_map_of_mem listed
    · rw [(each lane listed).2.1]
      rcases closed with same | stopped
      · rw [same]
        exact sound
      · rw [stopped]
        exact sound.stopped
  last lane listed runner phase waits := by
    rw [lanes] at listed
    obtain ⟨old, listed', rfl⟩ := List.mem_map.1 listed
    rcases (each old listed').2.2 runner phase waits with idle | waited
    · exact .inl idle
    · rw [(each old listed').1]
      exact records.last old listed' runner phase waited

theorem turn (records : Records scheduler iterations) (sound : scheduler.IsSound)
    {lane after : Lane} {runner : Runner} (listed : lane ∈ scheduler.lanes)
    (keeps : Lane.Keeps (some runner) lane after) {later : List Iteration} {iteration : Iteration}
    (members : ∀ other ∈ later, other = iteration ∨ other ∈ iterations)
    (last : lastOf? later lane.probe runner = some iteration)
    (others : ∀ probe other, probe.name ≠ lane.probe.name ∨ other ≠ runner →
      lastOf? later probe other = lastOf? iterations probe other)
    (isOf : iteration.probe = lane.probe)
    (isSound : iteration.IsSound scheduler.closed lane.script)
    (tells : ∀ phase, after.phase? runner = some phase → phase.Tells iteration) :
    Records { scheduler with lanes := replaceLane scheduler.lanes after } later where
  sound other member := by
    have known : ∃ old ∈ scheduler.lanes, old.probe = other.probe ∧
        other.IsSound scheduler.closed old.script := by
      rcases members other member with rfl | old
      · exact ⟨lane, listed, isOf.symm, isSound⟩
      · exact records.sound other old
    obtain ⟨old, listed', probe, told⟩ := known
    refine ⟨_, List.mem_map_of_mem listed', ?_⟩
    split
    next same =>
        obtain rfl := sound.eq_of_name listed' listed (by rw [same, keeps.probe])
        rw [keeps.probe, keeps.script]
        exact ⟨probe, told⟩
    next => exact ⟨probe, told⟩
  last other listed' acting phase waits := by
    rcases mem_replaceLane listed' with rfl | ⟨old, different⟩
    · rw [keeps.probe]
      by_cases same : acting = runner
      · subst same
        exact .inr ⟨iteration, last, tells phase waits⟩
      · rw [keeps.others acting (by simp [Ne.symm same])] at waits
        rw [others _ acting (.inr same)]
        exact records.last lane listed acting phase waits
    · rw [others _ acting (.inl (by rwa [keeps.probe] at different))]
      exact records.last other old acting phase waits

theorem idle (records : Records scheduler iterations) (sound : scheduler.IsSound)
    {lane after : Lane} (listed : lane ∈ scheduler.lanes) (keeps : Lane.Keeps none lane after) :
    Records { scheduler with lanes := replaceLane scheduler.lanes after } iterations := by
  refine records.map rfl (.inl rfl) fun other listed' => ?_
  split
  next same =>
      obtain rfl := sound.eq_of_name listed' listed (by rw [same, keeps.probe])
      refine ⟨keeps.probe, keeps.script, fun runner phase waits => .inr ?_⟩
      rw [← keeps.others runner nofun]
      exact waits
  next => exact other.admits_refl

inductive Notes (scheduler : Scheduler) (iterations : List Iteration) (lane : Lane)
    (result : Lane × List Effect) : List Iteration → Prop
  | nothing (keeps : Lane.Keeps none lane result.1) :
    Notes scheduler iterations lane result iterations
  | begins {runner : Runner} {busy : Bool} {effects : List Effect}
    (keeps : Lane.Keeps (some runner) lane result.1) (rests : lane.Rests runner)
    (advances : Advances scheduler.closed lane.script runner { probe := lane.probe, runner, busy }
      (result.1, effects)) :
    Notes scheduler iterations lane result
      (Iteration.observeAll { probe := lane.probe, runner, busy } effects :: iterations)
  | carries {runner : Runner} {iteration : Iteration}
    (keeps : Lane.Keeps (some runner) lane result.1) (works : lane.Works runner)
    (found : lastOf? iterations lane.probe runner = some iteration)
    (same : iteration.probe = lane.probe)
    (advances : Advances scheduler.closed lane.script runner iteration result) :
    Notes scheduler iterations lane result
      (Iteration.amend lane.probe runner (·.observeAll result.2) iterations)

theorem note_began {probe : Probe} {runner : Runner} {effects : List Effect}
    (quiet : Iteration.NoBeginning effects) (busy : Bool) (iterations : List Iteration) :
    Turn.note iterations ⟨probe, some runner, busy, .began runner :: effects⟩ =
      Iteration.observeAll { probe, runner, busy } effects :: iterations := by
  have here : Iteration.isOf probe runner { probe, runner, busy } = true :=
    Iteration.isOf_iff.2 ⟨rfl, rfl⟩
  change effects.foldl (Iteration.note probe runner busy) (_ :: iterations) = _
  rw [Iteration.foldl_note quiet, Iteration.amend, if_pos here]

theorem under (records : Records scheduler iterations) (sound : scheduler.IsSound) {lane : Lane}
    {runner : Runner} {phase : Phase} (listed : lane ∈ scheduler.lanes)
    (waits : lane.phase? runner = some phase) (works : phase.IsIdle = false) :
    ∃ iteration, lastOf? iterations lane.probe runner = some iteration ∧
      iteration.probe = lane.probe ∧ iteration.IsSound scheduler.closed lane.script ∧
        phase.Tells iteration := by
  rcases records.last lane listed runner phase waits with idle | ⟨iteration, found, tells⟩
  · rw [works] at idle
    cases idle
  · have member := List.mem_of_find?_eq_some found
    have named := Iteration.isOf_iff.1 (List.find?_some found)
    obtain ⟨other, listed', probe, soundly⟩ := records.sound iteration member
    obtain rfl := sound.eq_of_name listed' listed (by rw [probe, named.1])
    exact ⟨iteration, found, probe.symm, soundly, tells⟩

theorem notes (records : Records scheduler iterations) (sound : scheduler.IsSound) {lane : Lane}
    (listed : lane ∈ scheduler.lanes) {event : Event} {result : Lane × List Effect}
    (fires : Lane.Fires lane scheduler.closed scheduler.now event result) :
    Notes scheduler iterations lane result
      (Turn.note iterations ⟨lane.probe, lane.actor? event, !lane.running.isEmpty, result.2⟩) := by
  have keeps := fires.keeps
  have soundly := sound.lanes lane listed
  cases acts : lane.actor? event with
  | none =>
      rw [acts] at keeps
      exact .nothing keeps
  | some runner =>
      rw [acts] at keeps
      by_cases begins : event = .begins runner
      · subst begins
        rcases begins_advances soundly fires with rfl | ⟨rests, effects, began, advances⟩
        · exact .nothing (Lane.keeps_refl none lane)
        · rw [began, note_began advances.quiet]
          exact .begins keeps rests advances
      -- otherwise the runner is in an iteration, which is the last one of its own
      · have onward (other : Runner) : event ≠ .begins other := by
          rintro rfl
          exact begins (congrArg _ (Option.some.inj acts))
        rcases fires_advances soundly fires acts onward with rfl | ⟨phase, waits, works, advances⟩
        · exact .nothing (Lane.keeps_refl none lane)
        · obtain ⟨iteration, found, same, told, tells⟩ := records.under sound listed waits works
          have advances := advances iteration told tells same
          have noted : Turn.note iterations
              ⟨lane.probe, some runner, !lane.running.isEmpty, result.2⟩ =
                Iteration.amend lane.probe runner (·.observeAll result.2) iterations :=
            Iteration.foldl_note advances.quiet _ iterations
          rw [noted]
          exact .carries keeps ⟨phase, waits, works⟩ found same advances

theorem fire (records : Records scheduler iterations) (sound : scheduler.IsSound) {lane : Lane}
    (listed : lane ∈ scheduler.lanes) {result : Lane × List Effect} {later : List Iteration}
    (notes : Notes scheduler iterations lane result later) :
    Records { scheduler with lanes := replaceLane scheduler.lanes result.1 } later := by
  cases notes with
  | nothing keeps => exact records.idle sound listed keeps
  | @begins runner busy effects keeps rests advances =>
      have here : (Iteration.observeAll { probe := lane.probe, runner, busy } effects).isOf
          lane.probe runner = true := by
        rw [Iteration.isOf_observeAll, Iteration.isOf_iff]
        exact ⟨rfl, rfl⟩
      refine records.turn sound listed keeps (fun other member => List.mem_cons.1 member) ?_ ?_
        (Iteration.observeAll_probe _ effects) advances.sound advances.tells
      · rw [lastOf?, List.find?_cons, here]
      · intro probe other different
        rw [lastOf?, List.find?_cons, Iteration.isOf_eq_false_of_ne here different]
        rfl
  | carries keeps works found same advances =>
      refine records.turn sound listed keeps (fun other => Iteration.mem_amend found)
        (Iteration.find?_amend found _) ?_ ?_ advances.sound advances.tells
      · intro probe other different
        exact Iteration.find?_amend_of_ne different _
      · rw [Iteration.observeAll_probe, same]

theorem move (records : Records scheduler iterations) (sound : scheduler.IsSound) (next : Move) :
    Records (scheduler.move next).1 ((scheduler.move next).2.foldl Turn.note iterations) := by
  have steps := move_steps sound next
  generalize scheduler.move next = result at steps ⊢
  cases steps with
  | shifts lanes closed each =>
      exact records.map lanes closed fun lane listed => (each lane listed).admits
  | fires listed fires => exact records.fire sound listed (records.notes sound listed fires)

theorem run (sound : scheduler.IsSound) (records : Records scheduler []) (moves : List Move) :
    Records (scheduler.run moves).1 (Scheduler.iterations (scheduler.run moves).2) := by
  induction moves using List.reverseRecOn with
  | nil => exact records
  | append_singleton moves next ih =>
      rw [run_concat, proceed, Scheduler.iterations, List.foldl_append]
      exact ih.move (sound.run moves) next

end Records

end Liveness.Scheduler
