import Liveness.Proofs.Scheduler.Courses

namespace Liveness.Scheduler

structure Account where
  started : List Nat := []
  outcomes : List (Nat × Except Failure Verdict) := []
  reports : List String := []
  filed : List String := []
  results : List (Except Failure Verdict) := []

namespace Account

def observe (account : Account) : Effect → Account
  | .checkStarted call => { account with started := account.started ++ [call] }
  | .checkEnded call outcome => { account with outcomes := account.outcomes ++ [(call, outcome)] }
  | .reported status accepted =>
    { account with
      reports := account.reports ++ [status]
      filed := account.filed ++ if accepted then [status] else [] }
  | .ended _ result => { account with results := account.results ++ [result] }
  | _ => account

def turn (account : Account) (turn : Turn) : Account := turn.effects.foldl observe account

theorem foldl_logs {logs : List Effect} (logged : Lane.OnlyLogs logs) (account : Account) :
    logs.foldl observe account = account := by
  induction logs with
  | nil => rfl
  | cons effect logs ih =>
      obtain ⟨⟨entry, rfl⟩, others⟩ := List.forall_mem_cons.1 logged
      exact ih others

end Account

def account (turns : List Turn) : Account := turns.foldl Account.turn {}

theorem account_concat (turns : List Turn) (turn : Turn) :
    account (turns ++ [turn]) = turn.effects.foldl Account.observe (account turns) :=
  List.foldl_concat ..

def Tells (turns : List Turn) (verdict : Verdict) : Prop :=
  verdict.status ∈ (account turns).reports ∨ .ok verdict ∈ (account turns).results

/-- Where a verdict comes from: a check that still ran when the iteration began, the outcome of the
check that the iteration started, or a wait for that check which ended while the check ran. -/
inductive Provenance (probe : Probe) (script : Script) (turns : List Turn) :
    Account → Verdict → Prop
  | skipped : Provenance probe script turns {} stillRunning
  | heard (call : Nat) {outcome : Except Failure Verdict} {verdict : Verdict}
    (concludes : probe.conclude outcome = .ok verdict) :
    Provenance probe script turns { started := [call], outcomes := [(call, outcome)] } verdict
  | expired (call : Nat) {seconds : Rat} (timeout : probe.timeout = some seconds)
    (runs : 0 < seconds → ∃ first wait rest, turns = first :: wait :: rest ∧
      (wait.busy = true ∨ script.CheckRaises Failure.isLost) ∧ Tells [wait] (timedOut seconds)) :
    Provenance probe script turns { started := [call] } (timedOut seconds)

def Account.reporting (account : Account) (verdict : Verdict) (accepted : Bool) : Account :=
  { account with
    reports := [verdict.status]
    filed := if accepted then [verdict.status] else [] }

/-- What has been told at a stage. Verdicts are reported once, unless the pools are closed. -/
def Stage.Accounts (probe : Probe) (script : Script) (closed : Bool) (turns : List Turn) :
    Stage → Prop
  | .awaits call => turns.length = 1 ∧ account turns = { started := [call] }
  | .tells verdict accepted =>
    ∃ checks, Provenance probe script turns checks verdict ∧
      account turns = checks.reporting verdict accepted
  | .finished (.ok verdict) =>
    ∃ checks, Provenance probe script turns checks verdict ∧
      ((∃ accepted, account turns =
          { checks.reporting verdict accepted with results := [.ok verdict] }) ∨
        closed = true ∧ account turns = { checks with results := [.ok verdict] })
  | .finished (.error failure) =>
    closed = true ∧ account turns = { results := [.error failure] } ∨
      (∃ call outcome, probe.conclude outcome = .error failure ∧
        account turns = { started := [call], outcomes := [(call, outcome)],
                          results := [.error failure] }) ∨
      script.Withdraws (.error failure) ∧ ∃ checks verdict,
        Provenance probe script turns checks verdict ∧
          account turns = { checks.reporting verdict false with results := [.error failure] }

section Accounts

variable {probe : Probe} {script : Script} {closed : Bool} {runner : Runner} {verdict : Verdict}
  {turn : Turn}
  {turns : List Turn} {effects : List Effect} {stage later : Stage} {checks : Account}

theorem Provenance.quiet (provenance : Provenance probe script turns checks verdict) :
    checks.reports = [] ∧ checks.filed = [] ∧ checks.results = [] := by
  cases provenance <;> exact ⟨rfl, rfl, rfl⟩

theorem Provenance.concat (provenance : Provenance probe script turns checks verdict)
    (turn : Turn) :
    Provenance probe script (turns ++ [turn]) checks verdict := by
  cases provenance with
  | skipped => exact .skipped
  | heard call concludes => exact .heard call concludes
  | expired call timeout runs =>
      refine .expired call timeout fun positive => ?_
      obtain ⟨first, wait, rest, rfl, busy, tells⟩ := runs positive
      exact ⟨first, wait, rest ++ [turn], rfl, busy, tells⟩

theorem Hands.accounts (hands : Hands closed runner verdict effects stage)
    (provenance : Provenance probe script turns checks verdict)
    (told : account turns = effects.foldl Account.observe checks) :
    stage.Accounts probe script closed turns := by
  obtain ⟨unreported, unfiled, unended⟩ := provenance.quiet
  cases hands with
  | reported =>
      refine ⟨checks, provenance, ?_⟩
      simp [told, Account.observe, Account.reporting, unreported, unfiled]
  | refused stopped logged =>
      refine ⟨checks, provenance, .inr ⟨stopped, ?_⟩⟩
      rw [told, List.foldl_append, Account.foldl_logs logged]
      simp [Account.observe, unended]

theorem Hands.tells (hands : Hands closed runner verdict effects stage) (probe : Probe)
    (actor : Option Runner) (busy : Bool) : Tells [⟨probe, actor, busy, effects⟩] verdict := by
  have alone : account [⟨probe, actor, busy, effects⟩] = effects.foldl Account.observe {} := rfl
  rw [Tells, alone]
  cases hands with
  | reported => exact .inl (List.mem_singleton_self _)
  | refused stopped logged =>
      rw [List.foldl_append, Account.foldl_logs logged]
      exact .inr (List.mem_singleton_self _)

theorem Opening.accounts (opening : Opening probe script closed runner turn stage) :
    stage.Accounts probe script closed [turn] := by
  cases opening with
  | skips runs hands => exact hands.accounts .skipped rfl
  | refused stopped logged => exact .inl ⟨stopped, Account.foldl_logs logged _⟩
  | started call => exact ⟨rfl, rfl⟩
  | unwaited call timeout elapsed hands =>
      exact hands.accounts (.expired call timeout fun waits => absurd waits elapsed.not_gt) rfl

theorem Passage.accounts (passage : Passage probe script closed runner stage turn later)
    (before : stage.Accounts probe script closed turns) :
    later.Accounts probe script closed (turns ++ [turn]) := by
  cases passage with
  | @heard call outcome verdict logs effects later concludes logged hands =>
      obtain ⟨-, told⟩ := before
      refine hands.accounts (.heard call concludes) ?_
      rw [account_concat, told, List.foldl_append, List.foldl_cons, Account.foldl_logs logged]
      rfl
  | @escaped call outcome failure logs logs' concludes logged logged' =>
      obtain ⟨-, told⟩ := before
      refine .inr (.inl ⟨call, outcome, concludes, ?_⟩)
      rw [account_concat, told, List.foldl_append, List.foldl_cons, List.foldl_cons,
        Account.foldl_logs logged, Account.foldl_logs logged']
      rfl
  | @expired call seconds busy effects later timeout runs hands =>
      obtain ⟨short, told⟩ := before
      obtain ⟨first, rfl⟩ := List.length_eq_one_iff.1 short
      refine hands.accounts
        (.expired call timeout fun _ => ⟨first, _, [], rfl, runs, hands.tells ..⟩) ?_
      rw [account_concat, told]
  | @told verdict accepted busy logs logged =>
      obtain ⟨checks, provenance, told⟩ := before
      refine ⟨checks, provenance.concat _, .inl ⟨accepted, ?_⟩⟩
      rw [account_concat, told, List.foldl_append, Account.foldl_logs logged]
      simp [Account.observe, Account.reporting, provenance.quiet.2.2]
  | @withdrawn verdict busy failure withdraws =>
      obtain ⟨checks, provenance, told⟩ := before
      refine .inr (.inr ⟨withdraws, checks, verdict, provenance.concat _, ?_⟩)
      rw [account_concat, told]
      simp [Account.observe, Account.reporting, provenance.quiet.2.2]

theorem Course.accounts (course : Course probe script closed runner turns stage) :
    stage.Accounts probe script closed turns := by
  induction course with
  | opens opening => exact opening.accounts
  | goes course passage ih => exact passage.accounts ih

end Accounts

/-! ## Verdicts of a run -/

theorem status_stillRunning_ne (seconds : Rat) :
    stillRunning.status ≠ (timedOut seconds).status := by
  have shown : (timedOut seconds).status =
      "check timed out after " ++ Numeric.briefText seconds ++ "s" := rfl
  rw [shown]
  intro same
  have heads := congrArg (fun text : String => text.toList.head?) same
  simp [stillRunning, Verdict.error, Verdict.status] at heads

/-- The iteration comes to the verdict: it is reported once, unless the scheduler is stopped, and is
what the iteration ends with, unless it is given up or its report raises a cancellation. -/
structure Lane.ComesTo (lane : Lane) (moves : List Move) (runner : Runner) (turns : List Turn)
    (verdict : Verdict) : Prop where
  reported : (account turns).reports = [verdict.status] ∨
    .stop ∈ moves ∧ (account turns).reports = []
  returned : (account turns).results = [.ok verdict] ∨
    (account turns).results = [] ∧ (runner.quits lane.probe.name ∈ moves ∨
      ∃ fault ends, lane.phase? runner = some (.reporting verdict fault ends)) ∨
    (account turns).filed = [] ∧
      ∃ result, lane.script.Withdraws result ∧ (account turns).results = [result]

theorem Lane.reporting_of_stage? {lane : Lane} {runner : Runner} {verdict : Verdict}
    {accepted : Bool} (shown : lane.stage? runner = some (.tells verdict accepted)) :
    ∃ fault ends, lane.phase? runner = some (.reporting verdict fault ends) := by
  obtain ⟨phase, waits, under⟩ := Option.bind_eq_some_iff.1 shown
  cases phase with
  | reporting told fault ends =>
      cases under
      exact ⟨fault, ends, waits⟩
  | _ => cases under

theorem Charted.exists_course {probe : Probe} {script : Script} {closed : Bool} {runner : Runner}
    {quit : Prop}
    {stage? : Option Stage} {courses : List (List Turn)} {turns : List Turn}
    (charted : Charted probe script closed runner quit stage? courses) (member : turns ∈ courses) :
    ∃ stage, Course probe script closed runner turns stage ∧
      (quit ∨ stage.ongoing? = none ∨ stage? = some stage) := by
  have settles (settled : Settled probe script closed runner quit turns) :
      ∃ stage, Course probe script closed runner turns stage ∧
        (quit ∨ stage.ongoing? = none ∨ stage? = some stage) := by
    obtain ⟨stage, course, ended⟩ := settled
    exact ⟨stage, course, ended.imp_right .inl⟩
  cases charted with
  | rests settled => exact settles (settled turns member)
  | works course settled =>
      rcases List.mem_cons.1 member with rfl | earlier
      · exact ⟨_, course, .inr (.inr rfl)⟩
      · exact settles (settled turns earlier)

section Runs

variable {lanes : List Lane} {origin : Time.Instant} {reporter : Store.Reporter}
  {scheduler : Scheduler} {moves : List Move} {lane : Lane} {runner : Runner} {turns : List Turn}

theorem exists_accounts (made : ofLanes lanes origin reporter = .ok scheduler)
    (fresh : ∀ lane ∈ lanes, lane.IsFresh) (listed : lane ∈ (scheduler.run moves).1.lanes)
    (member : turns ∈ courses lane.probe.name runner (scheduler.run moves).2) :
    ∃ stage, stage.Accounts lane.probe lane.script (scheduler.run moves).1.closed turns ∧
      (runner.quits lane.probe.name ∈ moves ∨ stage.ongoing? = none ∨
        lane.stage? runner = some stage) := by
  have charted := follows_run made fresh moves lane listed runner
  obtain ⟨stage, course, seen⟩ := charted.exists_course member
  exact ⟨stage, course.accounts, seen⟩

theorem stop_mem_of_closed (made : ofLanes lanes origin reporter = .ok scheduler)
    (closed : (scheduler.run moves).1.closed = true) : .stop ∈ moves := by
  by_contra unstopped
  obtain ⟨-, rfl⟩ := ofLanes_eq_ok made
  rw [closed_run unstopped] at closed
  cases closed

/-- How an iteration stands: it waits for its check, it has come to a verdict, or a failure has
escaped it. -/
inductive Fate (moves : List Move) (lane : Lane) (runner : Runner) (turns : List Turn) : Prop
  | waits {call : Nat} (told : account turns = { started := [call] })
  | concludes {checks : Account} {verdict : Verdict}
    (provenance : Provenance lane.probe lane.script turns checks verdict)
    (outcomes : (account turns).outcomes = checks.outcomes)
    (comes : lane.ComesTo moves runner turns verdict)
  | fails {failure : Failure} (unreported : (account turns).reports = [])
    (ended : (account turns).results = [.error failure])
    (cause : .stop ∈ moves ∧ (account turns).outcomes = [] ∨ ∃ call outcome,
      lane.probe.conclude outcome = .error failure ∧ (account turns).outcomes = [(call, outcome)])

theorem fate (made : ofLanes lanes origin reporter = .ok scheduler)
    (fresh : ∀ lane ∈ lanes, lane.IsFresh) (listed : lane ∈ (scheduler.run moves).1.lanes)
    (member : turns ∈ courses lane.probe.name runner (scheduler.run moves).2) :
    Fate moves lane runner turns := by
  obtain ⟨stage, accounts, seen⟩ := exists_accounts made fresh listed member
  cases stage with
  | awaits call => exact .waits accounts.2
  | tells verdict accepted =>
      obtain ⟨checks, provenance, told⟩ := accounts
      refine .concludes provenance (by rw [told]; rfl)
        ⟨.inl (by rw [told]; rfl), .inr (.inl ⟨?_, ?_⟩)⟩
      · rw [told]
        exact provenance.quiet.2.2
      · rcases seen with quits | gone | shown
        · exact .inl quits
        · cases gone
        · exact .inr (Lane.reporting_of_stage? shown)
  | finished result =>
      cases result with
      | ok verdict =>
          obtain ⟨checks, provenance, ⟨accepted, told⟩ | ⟨closed, told⟩⟩ := accounts
          · exact .concludes provenance (by rw [told]; rfl)
              ⟨.inl (by rw [told]; rfl), .inl (by rw [told])⟩
          · have unreported : (account turns).reports = [] := by
              rw [told]
              exact provenance.quiet.1
            exact .concludes provenance (by rw [told])
              ⟨.inr ⟨stop_mem_of_closed made closed, unreported⟩, .inl (by rw [told])⟩
      | error failure =>
          rcases accounts with ⟨closed, told⟩ | ⟨call, outcome, concludes, told⟩ |
            ⟨withdraws, checks, verdict, provenance, told⟩
          · exact .fails (by rw [told]) (by rw [told])
              (.inl ⟨stop_mem_of_closed made closed, by rw [told]⟩)
          · exact .fails (by rw [told]) (by rw [told])
              (.inr ⟨call, outcome, concludes, by rw [told]⟩)
          · exact .concludes provenance (by rw [told]; rfl) ⟨.inl (by rw [told]; rfl),
              .inr (.inr ⟨by rw [told]; rfl, _, withdraws, by rw [told]⟩)⟩

namespace Fate

variable {call : Nat} {outcome : Except Failure Verdict} {verdict : Verdict} {failure : Failure}

theorem of_heard (fate : Fate moves lane runner turns)
    (heard : (call, outcome) ∈ (account turns).outcomes) :
    (∃ verdict, lane.probe.conclude outcome = .ok verdict ∧
        lane.ComesTo moves runner turns verdict) ∨
      ∃ failure, lane.probe.conclude outcome = .error failure ∧
        (account turns).reports = [] ∧ (account turns).results = [.error failure] := by
  cases fate with
  | waits told =>
      rw [told] at heard
      cases heard
  | concludes provenance outcomes comes =>
      rw [outcomes] at heard
      cases provenance with
      | skipped => cases heard
      | heard call concludes =>
          cases List.mem_singleton.1 heard
          exact .inl ⟨_, concludes, comes⟩
      | expired call timeout runs => cases heard
  | fails unreported ended cause =>
      rcases cause with ⟨-, unheard⟩ | ⟨call', outcome', concludes, outcomes⟩
      · rw [unheard] at heard
        cases heard
      · rw [outcomes] at heard
        cases List.mem_singleton.1 heard
        exact .inr ⟨_, concludes, unreported, ended⟩

theorem of_timedOut (fate : Fate moves lane runner turns)
    (positive : ∀ seconds ∈ lane.probe.timeout, 0 < seconds) {seconds : Rat}
    (tells : Tells turns (timedOut seconds)) :
    ((account turns).outcomes = [] ∧
        (∃ limit, lane.probe.timeout = some limit ∧ timedOut limit = timedOut seconds) ∧
        ∃ first wait rest, turns = first :: wait :: rest ∧
          (wait.busy = true ∨ lane.script.CheckRaises Failure.isLost) ∧
            Tells [wait] (timedOut seconds)) ∨
      ∃ call outcome, (account turns).outcomes = [(call, outcome)] ∧
        ((∃ verdict, outcome = .ok verdict ∧ verdict.status = (timedOut seconds).status) ∨
          ∃ failure, outcome = .error failure ∧
            (failure.isTimeout = true ∨ failure.headline = (timedOut seconds).status)) := by
  rw [Tells] at tells
  cases fate with
  | waits told =>
      rw [told] at tells
      rcases tells with none | none <;> cases none
  | fails unreported ended cause =>
      rw [unreported, ended] at tells
      rcases tells with none | other
      · cases none
      · cases List.mem_singleton.1 other
  | @concludes checks verdict provenance outcomes comes =>
      have same : verdict.status = (timedOut seconds).status := by
        rcases tells with told | told
        · rcases comes.reported with reports | ⟨-, reports⟩
          · rw [reports] at told
            exact (List.mem_singleton.1 told).symm
          · rw [reports] at told
            cases told
        · rcases comes.returned with results | ⟨results, -⟩ | ⟨-, result, withdraws, results⟩
          · rw [results] at told
            rw [Except.ok.inj (List.mem_singleton.1 told)]
          · rw [results] at told
            cases told
          · obtain ⟨handed, time, failure, raised, cancels, rfl⟩ := withdraws
            rw [results] at told
            cases List.mem_singleton.1 told
      cases provenance with
      | skipped => exact absurd same (status_stillRunning_ne seconds)
      | @heard call outcome verdict concludes =>
          refine .inr ⟨call, outcome, outcomes, ?_⟩
          cases outcome with
          | ok own =>
              cases concludes
              exact .inl ⟨verdict, rfl, same⟩
          | error failure =>
              refine .inr ⟨failure, rfl, ?_⟩
              cases kind : failure.isTimeout with
              | true => exact .inl rfl
              | false =>
                  simp only [Probe.conclude, kind, Bool.false_eq_true, if_false] at concludes
                  split at concludes
                  next => cases concludes
                  next =>
                      cases concludes
                      exact .inr same
      | @expired call limit timeout runs =>
          have same' : timedOut limit = timedOut seconds := congrArg Verdict.error same
          rw [← same']
          exact .inl ⟨outcomes, ⟨limit, timeout, rfl⟩, runs (positive limit timeout)⟩

end Fate

/-- Whatever kind of failure a check raises while it is waited for, the iteration comes to the
verdict that names the failure, except for the kind of an expired wait: such a failure is told as a
timeout or, if the probe has none, escapes untold, as a cancellation does. A timeout is told
otherwise only when the wait ends while the check still runs, or when the check tells of one, unless
the failures of checks may be lost. -/
theorem failures_told (made : ofLanes lanes origin reporter = .ok scheduler)
    (fresh : ∀ lane ∈ lanes, lane.IsFresh)
    (positive : ∀ lane ∈ lanes, ∀ seconds ∈ lane.probe.timeout, 0 < seconds) (moves : List Move)
    (listed : lane ∈ (scheduler.run moves).1.lanes)
    (member : turns ∈ courses lane.probe.name runner (scheduler.run moves).2) :
    (∀ call failure, (call, .error failure) ∈ (account turns).outcomes →
      if failure.isTimeout then
        match lane.probe.timeout with
        | some seconds => lane.ComesTo moves runner turns (timedOut seconds)
        | none =>
          (account turns).reports = [] ∧ (account turns).results = [.error untoldTimeout]
      else if failure.isCancellation then
        (account turns).reports = [] ∧ (account turns).results = [.error failure]
      else lane.ComesTo moves runner turns (.error failure.headline)) ∧
    ∀ seconds, Tells turns (timedOut seconds) →
      ((account turns).outcomes = [] ∧
        (∃ limit, lane.probe.timeout = some limit ∧ timedOut limit = timedOut seconds) ∧
        ∃ first wait rest, turns = first :: wait :: rest ∧
          (wait.busy = true ∨ lane.script.CheckRaises Failure.isLost) ∧
            Tells [wait] (timedOut seconds)) ∨
      ∃ call outcome, (account turns).outcomes = [(call, outcome)] ∧
        ((∃ verdict, outcome = .ok verdict ∧ verdict.status = (timedOut seconds).status) ∨
          ∃ failure, outcome = .error failure ∧
            (failure.isTimeout = true ∨ failure.headline = (timedOut seconds).status)) := by
  have fate := fate made fresh listed member
  have positive' : ∀ seconds ∈ lane.probe.timeout, 0 < seconds := by
    have known : lane.probe ∈ (scheduler.run moves).1.lanes.map (·.probe) :=
      List.mem_map_of_mem listed
    rw [map_probe_run (isSound_of_ofLanes made fresh), (ofLanes_eq_ok made).2] at known
    obtain ⟨old, listed', probe⟩ := List.mem_map.1 known
    rw [← probe]
    exact positive old listed'
  refine ⟨fun call failure heard => ?_, fun seconds => fate.of_timedOut positive'⟩
  have decided := fate.of_heard heard
  rw [Probe.conclude] at decided
  split
  next expired =>
      simp only [if_pos expired] at decided
      cases timeout : lane.probe.timeout with
      | some seconds =>
          simp only [timeout] at decided
          rcases decided with ⟨verdict, concludes, comes⟩ | ⟨escaped, concludes, -⟩
          · cases concludes
            exact comes
          · cases concludes
      | none =>
          simp only [timeout] at decided
          rcases decided with ⟨verdict, concludes, -⟩ | ⟨escaped, concludes, told⟩
          · cases concludes
          · cases concludes
            exact told
  next other =>
      simp only [if_neg other] at decided
      split
      next cancels =>
          simp only [if_pos cancels] at decided
          rcases decided with ⟨verdict, concludes, -⟩ | ⟨escaped, concludes, told⟩
          · cases concludes
          · cases concludes
            exact told
      next stays =>
          simp only [if_neg stays] at decided
          rcases decided with ⟨verdict, concludes, comes⟩ | ⟨escaped, concludes, -⟩
          · cases concludes
            exact comes
          · cases concludes

end Runs

def raisingLanes : List Lane :=
  [{ probe := { name := "cache", timeout := some 5 }
     script :=
      { check := fun _ =>
          { delay := some 1, outcome := .error (.of (.cache "TimeoutError") "no answer") } } },
   { probe := { name := "node", timeout := some (5 / 2) }
     script := { check := fun _ => { delay := none } } }]

def raisingScheduler : Scheduler := { lanes := raisingLanes, origin := default }

def raisingMoves : List Move :=
  [.start, .fire "cache" (.begins .loop), .fire "node" (.begins .loop), .elapse 1,
    .fire "cache" (.checkEnds 0), .elapse (5 / 2), .fire "node" (.expires .loop),
    .fire "cache" (.reportEnds .loop)]

theorem failures_told_raisingLanes :
    ofLanes raisingLanes default {} = .ok raisingScheduler ∧
      (∀ lane ∈ raisingLanes, lane.IsFresh) ∧
      (∀ lane ∈ raisingLanes, ∀ seconds ∈ lane.probe.timeout, 0 < seconds) ∧
      (∀ lane ∈ (raisingScheduler.run raisingMoves).1.lanes,
        ∀ turns ∈ courses lane.probe.name .loop (raisingScheduler.run raisingMoves).2,
          ((account turns).reports, (account turns).results) =
            if lane.probe.name = "cache" then
              (["TimeoutError: no answer"], [.ok (.error "TimeoutError: no answer")])
            else (["check timed out after 2.5s"], [])) ∧
      ∀ lane ∈ (raisingScheduler.run raisingMoves).1.lanes,
        ∀ turns ∈ courses lane.probe.name .loop (raisingScheduler.run raisingMoves).2,
          ∀ call failure, (call, .error failure) ∈ (account turns).outcomes →
            failure.isTimeout = false → failure.isCancellation = false →
              lane.ComesTo raisingMoves .loop turns (.error failure.headline) := by
  have made : ofLanes raisingLanes default {} = .ok raisingScheduler := by cbv
  have fresh : ∀ lane ∈ raisingLanes, lane.IsFresh := by
    intro lane listed
    simp only [raisingLanes, List.mem_cons, List.not_mem_nil, or_false] at listed
    rcases listed with rfl | rfl <;> exact ⟨rfl, rfl, rfl⟩
  have positive : ∀ lane ∈ raisingLanes, ∀ seconds ∈ lane.probe.timeout, 0 < seconds := by
    simp [raisingLanes]
  refine ⟨made, fresh, positive, by decide +kernel, ?_⟩
  intro lane listed turns member call failure heard kind stays
  have told := (failures_told made fresh positive raisingMoves listed member).1 call failure heard
  rwa [if_neg (by simp [kind]), if_neg (by simp [stays])] at told

def mistakenLane (timeout : Option Rat) : Lane where
  probe := { name := "cache", timeout }
  script := { check := fun _ => { outcome := .error (.of .timeout "no answer") } }

def mistakenScheduler (timeout : Option Rat) : Scheduler where
  lanes := [mistakenLane timeout]
  origin := default

def triggeredMoves : List Move :=
  [.trigger ["cache"], .fire "cache" (.begins (.trigger 0)), .fire "cache" (.checkEnds 0),
    .fire "cache" (.reportEnds (.trigger 0))]

/-- It is told as a timeout of the probe, before any is due. Where the probe has no timeout, it is
not told at all, and another failure escapes. -/
theorem expired_wait_mistaken :
    ((mistakenScheduler (some 5)).runOnce "cache").1 =
        some (.ok (.error "check timed out after 5s")) ∧
      ((mistakenScheduler none).runOnce "cache").1 = some (.error untoldTimeout) ∧
      (courses "cache" (.trigger 0) ((mistakenScheduler (some 5)).run triggeredMoves).2).map
        (fun turns => (account turns).reports) = [["check timed out after 5s"]] ∧
      (courses "cache" (.trigger 0) ((mistakenScheduler none).run triggeredMoves).2).map
        (fun turns => (account turns).reports) = [[]] := by
  decide +kernel

end Liveness.Scheduler
