import Liveness.Monitor.Observation
import Liveness.Proofs.Freshness.Secondary
import Liveness.Proofs.Scheduler.Provenance
import Mathlib

/-!
Statuses of the built-in checks. A verdict is kept as its status only, which says `OK` of a healthy
one and is the message of any other. No message of a built-in check, and none that the scheduler
makes itself, is `OK`: all are sentences. So a reported status tells whether the verdict was healthy
(`status_tells_health`).
-/

namespace Liveness

/-- The status alone tells whether the verdict is healthy. -/
def Verdict.IsTold (verdict : Verdict) : Prop := verdict.status = okStatus ↔ verdict.ok = true

def Spaced (text : String) : Prop := ' ' ∈ text.toList

instance (text : String) : Decidable (Spaced text) :=
  inferInstanceAs (Decidable (' ' ∈ text.toList))

theorem spaced_append {a b : String} : Spaced (a ++ b) ↔ Spaced a ∨ Spaced b := by
  simp [Spaced]

theorem Spaced.append {text : String} (spaced : Spaced text) (rest : String) :
    Spaced (text ++ rest) :=
  spaced_append.2 (.inl spaced)

theorem spaced_toString {text : String} : Spaced (toString text) ↔ Spaced text := Iff.rfl

theorem Verdict.isTold_healthy : Verdict.healthy.IsTold := ⟨fun _ => rfl, fun _ => rfl⟩

theorem Verdict.isTold_error {message : String} (spaced : Spaced message) :
    (Verdict.error message).IsTold := by
  have unhealthy : message ≠ okStatus := by
    rintro rfl
    exact absurd spaced (by decide)
  exact ⟨fun same => absurd same unhealthy, fun healthy => nomatch healthy⟩

theorem Failure.spaced_headline (failure : Failure) : Spaced failure.headline := by
  have separator : Spaced ": " := by decide
  simp only [headline, spaced_append, spaced_toString, separator, true_or, or_true]

namespace Monitor

open Freshness (Clock PrimaryCheck PrimaryQuantity PrimaryReadings SecondaryCheck SecondaryReadings)
open Reachability (CacheCheck HttpCheck WebClient)
open Fleet (Aggregation StatusSource)
open Numeric (Binary64)
open Scheduler

/-! ## Built-in checks -/

theorem isTold_primary (check : PrimaryCheck) (readings : PrimaryReadings) (clock : Clock)
    (quantities : List PrimaryQuantity) {verdict : Verdict}
    (judged : (check.runFrom readings clock quantities).verdict = .ok verdict) :
    verdict.IsTold := by
  induction quantities generalizing clock with
  | nil =>
      cases judged
      exact Verdict.isTold_healthy
  | cons quantity rest ih =>
      have unreadable : Spaced "could not retrieve " := by decide
      have stale : Spaced " is older than " := by decide
      rw [PrimaryCheck.runFrom] at judged
      split at judged
      next failure unread =>
          cases judged
          refine Verdict.isTold_error ?_
          simp only [spaced_append, spaced_toString, unreadable, true_or]
      next n read =>
          dsimp only at judged
          split at judged
          next => cases judged
          next age aged =>
              split at judged
              next old =>
                  cases judged
                  refine Verdict.isTold_error ?_
                  simp only [PrimaryCheck.staleMessage, spaced_append, spaced_toString, stale,
                    true_or, or_true]
              next recent => exact ih _ judged

theorem isTold_indexVerdict (check : SecondaryCheck) (number : Int)
    (indexed : Except Failure Int) {verdict : Verdict}
    (judged : check.indexVerdict number indexed = .ok verdict) : verdict.IsTold := by
  have unindexed :
      Spaced "could not retrieve latest block number from the data table: " := by decide
  have lags : Spaced "data table is lagging behind the blocks table by " := by decide
  cases indexed with
  | error failure =>
      cases judged
      exact Verdict.isTold_error (unindexed.append _)
  | ok n =>
      delta SecondaryCheck.indexVerdict at judged
      dsimp only at judged
      split at judged
      next behind =>
          obtain ⟨text, -, rfl⟩ := SecondaryCheck.lagVerdict_eq_ok.1 judged
          exact Verdict.isTold_error ((lags.append _).append _)
      next =>
          cases judged
          exact Verdict.isTold_healthy

theorem isTold_secondary (check : SecondaryCheck) (readings : SecondaryReadings) (clock : Clock)
    {verdict : Verdict} (judged : (check.run readings clock).verdict = .ok verdict) :
    verdict.IsTold := by
  have unreadable : Spaced "could not retrieve latest block from the blocks table: " := by decide
  have stale : Spaced "last block in blocks table is older than " := by decide
  delta SecondaryCheck.run at judged
  split at judged
  next failure unread =>
      cases judged
      exact Verdict.isTold_error (unreadable.append _)
  next number time read =>
      dsimp only at judged
      split at judged
      next => cases judged
      next age aged =>
          split at judged
          next old =>
              cases judged
              exact Verdict.isTold_error
                (((((stale.append _).append _).append _).append _).append _)
          next recent => exact isTold_indexVerdict _ _ _ judged

theorem isTold_cache (check : CacheCheck) (answer : Except Failure Bool) {verdict : Verdict}
    (judged : (check.run answer).1 = .ok verdict) : verdict.IsTold := by
  have refused : Spaced "cache ping failed: " := by decide
  match answer with
  | .ok true =>
      cases judged
      exact Verdict.isTold_healthy
  | .ok false =>
      cases judged
      exact Verdict.isTold_error (by decide)
  | .error failure =>
      simp only [CacheCheck.run, CacheCheck.judge] at judged
      split at judged
      next =>
          cases judged
          exact Verdict.isTold_error (refused.append _)
      next => cases judged

theorem isTold_http {σ : Type} (check : HttpCheck) (client : WebClient σ) (web : σ)
    {verdict : Verdict} (judged : (check.run client web).1 = .ok verdict) : verdict.IsTold := by
  have answered : Spaced " returned a non 200 status: " := by decide
  have failed : Spaced " request failed: " := by decide
  simp only [HttpCheck.run, HttpCheck.judge] at judged
  split at judged
  next response sent =>
      split at judged
      next =>
          cases judged
          exact Verdict.isTold_healthy
      next other =>
          cases judged
          refine Verdict.isTold_error ?_
          simp only [spaced_append, spaced_toString, answered, true_or, or_true]
  next failure unsent =>
      split at judged
      next name kind =>
          split at judged
          next => cases judged
          next exchange =>
              cases judged
              refine Verdict.isTold_error ?_
              simp only [spaced_append, spaced_toString, failed, true_or, or_true]
      next => cases judged

theorem isTold_fleet {σ : Type} (check : Aggregation) (source : StatusSource σ) (store : σ)
    (now : Time.Moment) : (check.run source store now).1.IsTold := by
  have unexpected : Spaced " has unexpected state " := by decide
  have unreadable :
      Spaced "could not retrieve service status from the service_status table: " := by decide
  change (check.evaluate source store now).IsTold
  rw [Aggregation.evaluate]
  split
  next records read =>
      rw [Aggregation.judge]
      split
      next name state failing =>
          refine Verdict.isTold_error ?_
          simp only [spaced_append, spaced_toString, unexpected, true_or, or_true]
      next => exact Verdict.isTold_healthy
  next failure unread => exact Verdict.isTold_error (unreadable.append _)

/-- What a run of a built-in check comes to, whatever its collaborators do: the verdict of one of
the five, or a failure that one lets through. -/
inductive IsBuiltIn : Except Failure Verdict → Prop
  | primary (check : PrimaryCheck) (readings : PrimaryReadings) (clock : Clock) :
    IsBuiltIn (check.run readings clock).verdict
  | secondary (check : SecondaryCheck) (readings : SecondaryReadings) (clock : Clock) :
    IsBuiltIn (check.run readings clock).verdict
  | cache (check : CacheCheck) (answer : Except Failure Bool) : IsBuiltIn (check.run answer).1
  | http {σ : Type} (check : HttpCheck) (client : WebClient σ) (web : σ) :
    IsBuiltIn (check.run client web).1
  | fleet {σ : Type} (check : Aggregation) (source : StatusSource σ) (store : σ)
    (now : Time.Moment) : IsBuiltIn (.ok (check.run source store now).1)
  | raises (failure : Failure) : IsBuiltIn (.error failure)

theorem IsBuiltIn.isTold {verdict : Verdict} {outcome : Except Failure Verdict}
    (builtIn : IsBuiltIn outcome) (judged : outcome = .ok verdict) : verdict.IsTold := by
  cases builtIn with
  | primary check readings clock => exact isTold_primary check readings clock _ judged
  | secondary check readings clock => exact isTold_secondary check readings clock judged
  | cache check answer => exact isTold_cache check answer judged
  | http check client web => exact isTold_http check client web judged
  | fleet check source store now =>
      cases judged
      exact isTold_fleet check source store now
  | raises failure => cases judged

theorem isBuiltIn_observe {σ : Type} (check : Check) (around : Surroundings σ) :
    IsBuiltIn (check.observe around).1.verdict := by
  cases check with
  | primary path timeout check =>
      dsimp only [Check.observe]
      exact .primary ..
  | secondary path timeout check =>
      dsimp only [Check.observe]
      exact .secondary ..
  | cache check => exact .cache check _
  | http timeout client check => exact .http check _ _
  | fleet check => exact .fleet check _ _ _

/-! ## Iterations -/

def limitReached (limit : Binary64) : Verdict :=
  .error s!"check timed out after {limit.toBriefText}s"

/-- What an iteration of a built-in check within a limit can come to. -/
inductive IsConcluded (limit : Binary64) : Verdict → Prop
  | skipped : IsConcluded limit stillRunning
  | judged {verdict : Verdict} (builtIn : IsBuiltIn (.ok verdict)) : IsConcluded limit verdict
  | raised (failure : Failure) : IsConcluded limit (.error failure.headline)
  | expired : IsConcluded limit (limitReached limit)

theorem IsConcluded.isTold {limit : Binary64} {verdict : Verdict}
    (concluded : IsConcluded limit verdict) : verdict.IsTold := by
  have late : Spaced "check timed out after " := by decide
  cases concluded with
  | skipped => exact Verdict.isTold_error (by decide)
  | judged builtIn => exact builtIn.isTold rfl
  | raised failure => exact Verdict.isTold_error failure.spaced_headline
  | expired => exact Verdict.isTold_error ((late.append _).append _)

def limitOf (probe : Probe) : Binary64 :=
  match probe.timeout with
  | some seconds => .ofRatio (seconds < 0) seconds.num.natAbs seconds.den
  | none => .infinite false

theorem limitReached_limitOf {probe : Probe} {seconds : Rat}
    (timeout : probe.timeout = some seconds) : limitReached (limitOf probe) = timedOut seconds := by
  rw [limitOf, timeout]
  rfl

theorem isConcluded_of_conclude {probe : Probe} {outcome : Except Failure Verdict}
    {verdict : Verdict} (builtIn : IsBuiltIn outcome)
    (concludes : probe.conclude outcome = .ok verdict) : IsConcluded (limitOf probe) verdict := by
  cases outcome with
  | ok judged =>
      cases concludes
      exact .judged builtIn
  | error failure =>
      rw [Probe.conclude] at concludes
      split at concludes
      next =>
          split at concludes
          next seconds timeout =>
              cases concludes
              rw [← limitReached_limitOf timeout]
              exact .expired
          next => cases concludes
      next =>
          split at concludes
          next => cases concludes
          next =>
              cases concludes
              exact .raised failure

theorem isConcluded_of_provenance {probe : Probe} {script : Script} {turns : List Turn}
    {checks : Account} {verdict : Verdict}
    (provenance : Provenance probe script turns checks verdict)
    (builtIn : ∀ call outcome, (call, outcome) ∈ checks.outcomes → IsBuiltIn outcome) :
    IsConcluded (limitOf probe) verdict := by
  cases provenance with
  | skipped => exact .skipped
  | heard call concludes =>
      exact isConcluded_of_conclude (builtIn call _ (List.mem_singleton_self _)) concludes
  | expired call timeout runs =>
      rw [← limitReached_limitOf timeout]
      exact .expired

section Runs

variable {lanes : List Lane} {origin : Time.Instant} {reporter : Store.Reporter}
  {scheduler : Scheduler} {moves : List Move} {lane : Lane} {runner : Runner} {turns : List Turn}

theorem outcome_of_heard (made : ofLanes lanes origin reporter = .ok scheduler)
    (unused : ∀ lane ∈ lanes, lane.IsUnused) (listed : lane ∈ (scheduler.run moves).1.lanes)
    (member : turns ∈ courses lane.probe.name runner (scheduler.run moves).2) {call : Nat}
    {outcome : Except Failure Verdict} (heard : (call, outcome) ∈ (account turns).outcomes) :
    outcome = (lane.script.check call).outcome := by
  refine (retells_run made unused moves lane listed).told call outcome ?_
  rw [(account_eq _).2] at heard
  obtain ⟨turn, inside, ends⟩ := List.mem_flatMap.1 heard
  exact List.mem_flatMap.2
    ⟨turn, (filter_isOf_sublist ..).subset (mem_filter_of_course member inside), ends⟩

/-- Whatever the collaborators of a built-in check do, and whenever, a reported status is the one of
the verdict that the iteration comes to, and is `OK` just when that verdict is healthy. The same
holds of every verdict within a limit that is no finite number. Built in are all checks that can be
configured. -/
theorem status_tells_health (made : ofLanes lanes origin reporter = .ok scheduler)
    (unused : ∀ lane ∈ lanes, lane.IsUnused) (listed : lane ∈ (scheduler.run moves).1.lanes)
    (builtIn : ∀ call, IsBuiltIn (lane.script.check call).outcome)
    (member : turns ∈ courses lane.probe.name runner (scheduler.run moves).2) :
    (∀ status ∈ (account turns).reports, ∃ verdict, lane.ComesTo moves runner turns verdict ∧
      status = verdict.status ∧ (status = okStatus ↔ verdict.ok = true)) ∧
    (∀ limit verdict, IsConcluded limit verdict →
      (verdict.status = okStatus ↔ verdict.ok = true)) ∧
    ∀ {σ : Type} (check : Check) (around : Surroundings σ),
      IsBuiltIn (check.observe around).1.verdict := by
  refine ⟨fun status reported => ?_, fun limit verdict concluded => concluded.isTold,
    isBuiltIn_observe⟩
  have fresh : ∀ lane ∈ lanes, lane.IsFresh := fun lane listed => (unused lane listed).toIsFresh
  cases fate made fresh listed member with
  | waits told =>
      rw [told] at reported
      cases reported
  | @concludes checks verdict provenance outcomes comes =>
      have same : status = verdict.status := by
        rcases comes.reported with told | ⟨-, none⟩
        · rw [told] at reported
          exact List.mem_singleton.1 reported
        · rw [none] at reported
          cases reported
      have concluded : IsConcluded (limitOf lane.probe) verdict := by
        refine isConcluded_of_provenance provenance fun call outcome heard => ?_
        rw [← outcomes] at heard
        rw [outcome_of_heard made unused listed member heard]
        exact builtIn call
      exact ⟨verdict, comes, same, same ▸ concluded.isTold⟩
  | fails unreported ended cause =>
      rw [unreported] at reported
      cases reported

end Runs

def pings (call : Nat) : Except Failure Bool :=
  if call = 0 then .ok true else .error (.of (.cache "ResponseError") "OK")

def pingedLane : Lane where
  probe := { name := "cache", interval := 10, timeout := some 5 }
  script := { check := fun call => { outcome := (CacheCheck.run ⟨"redis", 6379, .whole 30⟩
    (pings call)).1 } }

def pingedScheduler : Scheduler := { lanes := [pingedLane], origin := default }

def pingedMoves : List Move :=
  [.start, .fire "cache" (.begins .loop), .fire "cache" (.checkEnds 0),
    .fire "cache" (.reportEnds .loop), .elapse 10, .fire "cache" (.begins .loop),
    .fire "cache" (.checkEnds 1)]

theorem status_tells_health_pingedLane :
    ofLanes [pingedLane] default {} = .ok pingedScheduler ∧
      (∀ call, IsBuiltIn (pingedLane.script.check call).outcome) ∧
      (courses "cache" .loop (pingedScheduler.run pingedMoves).2).map
          (fun turns => (account turns).reports) = [["cache ping failed: OK"], ["OK"]] ∧
      ∀ turns ∈ courses "cache" .loop (pingedScheduler.run pingedMoves).2,
        ∀ status ∈ (account turns).reports, ∃ verdict : Verdict,
          status = verdict.status ∧ (status = okStatus ↔ verdict.ok = true) := by
  have made : ofLanes [pingedLane] default {} = .ok pingedScheduler := by cbv
  have unused : ∀ lane ∈ [pingedLane], lane.IsUnused := by
    intro lane listed
    rw [List.mem_singleton.1 listed]
    exact ⟨⟨rfl, rfl, rfl⟩, rfl⟩
  have builtIn : ∀ call, IsBuiltIn (pingedLane.script.check call).outcome := fun call =>
    .cache ⟨"redis", 6379, .whole 30⟩ (pings call)
  have builtIn' := forall_lanes_run
    (isSound_of_ofLanes made fun lane listed => (unused lane listed).toIsFresh)
    (P := fun lane => ∀ call, IsBuiltIn (lane.script.check call).outcome)
    (fun lane listed => List.mem_singleton.1 listed ▸ builtIn)
    (fun before shifts => by cases shifts <;> exact before)
    (fun _ before fires => fires.keeps.script ▸ before) pingedMoves
  obtain ⟨lane, listed, named⟩ :
      ∃ lane ∈ (pingedScheduler.run pingedMoves).1.lanes, lane.probe.name = "cache" := by
    decide +kernel
  refine ⟨made, builtIn, by decide +kernel, fun turns member status reported => ?_⟩
  rw [← named] at member
  obtain ⟨verdict, -, tells⟩ :=
    (status_tells_health made unused listed (builtIn' lane listed) member).1 status reported
  exact ⟨verdict, tells⟩

end Monitor

end Liveness
