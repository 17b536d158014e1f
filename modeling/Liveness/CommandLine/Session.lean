import Liveness.CommandLine.Arguments
import Liveness.CommandLine.Threshold
import Liveness.Console.Renderer
import Liveness.Scheduler.Basic
import Liveness.Settings.Basic

namespace Liveness.CommandLine

open Scheduler (Lane Entry)

inductive Ending where
  | exit (status : Nat)
  | returned
  | failed (failure : Failure)
  | endless
deriving DecidableEq

structure Session where
  ending : Ending
  level : Nat := initialThreshold
  output : String := ""
  errorOutput : String := ""
  screen : List String := []
  entries : List Entry := []
  scheduler : Option Scheduler := none

def verdictRow (entry : String × Verdict) : List String :=
  [entry.1, Console.colored (if entry.2.ok then "green" else "red") entry.2.status]

def verdictTable (renderer : Console.Renderer) (verdicts : List (String × Verdict)) :
    Except Failure (List String) :=
  renderer.table "Probe verdicts" ["Probe", "Status"] (verdicts.map verdictRow)

def watchPanel (renderer : Console.Renderer) (names : List String) :
    Except Failure (List String) :=
  renderer.panel programName ("Monitoring: " ++ ", ".intercalate names)

def roundStatus (verdicts : List (String × Verdict)) : Nat :=
  if verdicts.all fun entry => entry.2.ok then 0 else 1

/-- One round of all probes. Unless it goes on for ever, the scheduler is stopped whatever comes of
it. -/
def once (renderer : Console.Renderer) (level : Nat) (scheduler : Scheduler) : Session :=
  match scheduler.runAll with
  | (none, after, round) =>
    { ending := .endless, level, entries := round, scheduler := some after }
  | (some answer, after, round) =>
    let (final, closing) := after.stop
    let (ending, screen) := match answer with
      | .error failure => (.failed failure, [])
      | .ok verdicts =>
        match verdictTable renderer verdicts with
        | .error failure => (.failed failure, [])
        | .ok screen => (.exit (roundStatus verdicts), screen)
    { ending, level, screen, entries := round ++ closing, scheduler := some final }

def interruptedLog : LogEntry := ⟨.info, "Interrupted, shutting down"⟩

/-- A watch over all probes until an interrupt, which comes before all else that is due then. With
no probes there is nothing to wait for. -/
def watch (renderer : Console.Renderer) (level : Nat) (scheduler : Scheduler) (interrupt : Rat) :
    Session :=
  match watchPanel renderer scheduler.names with
  | .error failure => { ending := .failed failure, level, scheduler := some scheduler }
  | .ok screen =>
    let (started, opening) := scheduler.start
    let (watched, middle) := if started.lanes.isEmpty then (started, [])
      else started.advanceBefore interrupt
    let (final, closing) := watched.stop
    let farewell := if started.lanes.isEmpty then [] else [final.ownLog interruptedLog]
    { ending := .returned
      level
      screen
      entries := opening ++ middle ++ closing ++ farewell
      scheduler := some final }

def prepare (settings : Settings) (lanes : List Lane) (origin : Time.Instant) :
    Except Failure Scheduler :=
  Scheduler.ofLanes lanes origin { executableName := settings.executableName }

def main (renderer : Console.Renderer) (settings : Settings) (lanes : List Lane)
    (origin : Time.Instant) (interrupt : Rat) (arguments : List String) : Session :=
  match threshold settings.logLevel with
  | .error failure => { ending := .failed failure }
  | .ok level =>
    match read arguments with
    | .help of => { ending := .exit 0, level, output := helpText of }
    | .misuse of message => { ending := .exit 2, level, errorOutput := misuseText of message }
    | .nothing => { ending := .exit 1, level, output := helpText none }
    | .command command =>
      match prepare settings lanes origin with
      | .error failure => { ending := .failed failure, level }
      | .ok scheduler =>
        match command with
        | .once => once renderer level scheduler
        | .run => watch renderer level scheduler interrupt

end Liveness.CommandLine
