import Liveness.CommandLine.Session
import Liveness.Proofs.Console.Terminal
import Liveness.Proofs.Scheduler.Reports
import Liveness.Proofs.Scheduler.Rounds

namespace Liveness.CommandLine

open Console (Renderer IsPlain)
open Scheduler (Lane iterationsOf rowPair)

theorem isOk_verdictTable {renderer : Renderer} (shows : renderer.ShowsPlain)
    {verdicts : List (String × Verdict)}
    (unmarked : ∀ entry ∈ verdicts, '[' ∉ entry.1.toList ∧ '[' ∉ entry.2.status.toList) :
    (verdictTable renderer verdicts).isOk = true := by
  refine shows.table _ _ _ (.text (by decide)) ?_ ?_
  · intro heading member
    fin_cases member <;> exact .text (by decide)
  · intro row member cell inside
    obtain ⟨entry, listed, rfl⟩ := List.mem_map.1 member
    rcases List.mem_pair.1 inside with rfl | rfl
    · exact .text (unmarked entry listed).1
    · refine .colored ?_ (unmarked entry listed).2
      split <;> decide

/-! ## The session -/

variable {renderer : Renderer} {scheduler : Scheduler}

def endingOf (renderer : Renderer) : Except Failure (List (String × Verdict)) → Ending
  | .error failure => .failed failure
  | .ok verdicts =>
    match verdictTable renderer verdicts with
    | .error failure => .failed failure
    | .ok _ => .exit (roundStatus verdicts)

theorem once_eq (renderer : Renderer) {answer : Except Failure (List (String × Verdict))}
    (answered : scheduler.runAll.1 = some answer) (level : Nat) :
    (once renderer level scheduler).ending = endingOf renderer answer ∧
    (once renderer level scheduler).entries = scheduler.runAll.2.2 ++ scheduler.runAll.2.1.stop.2 ∧
    (once renderer level scheduler).scheduler = some scheduler.runAll.2.1.stop.1 := by
  rw [once]
  generalize scheduler.runAll = round at answered ⊢
  obtain ⟨result, after, entries⟩ := round
  cases answered
  cases answer with
  | error failure => exact ⟨rfl, rfl, rfl⟩
  | ok verdicts =>
      dsimp only [endingOf]
      cases verdictTable renderer verdicts <;> exact ⟨rfl, rfl, rfl⟩

theorem ending_of_unanswered (unanswered : scheduler.runAll.1 = none) (level : Nat) :
    (once renderer level scheduler).ending = .endless := by
  rw [once]
  generalize scheduler.runAll = round at unanswered ⊢
  obtain ⟨result, after, entries⟩ := round
  cases unanswered
  rfl

theorem iterationsOf_stop (name : String) (after : Scheduler) :
    iterationsOf name after.stop.2 = [] := by
  have untold : ∀ entry ∈ after.stop.2, entry.effect.isMilestone = false := by
    intro entry member
    rcases List.mem_append.1 member with closing | last
    · obtain ⟨lane, -, closes⟩ := List.mem_flatMap.1 closing
      rw [Scheduler.closeLane] at closes
      split at closes
      next => cases closes
      next =>
          obtain rfl := List.mem_singleton.1 closes
          rfl
      next =>
          rcases List.mem_pair.1 closes with rfl | rfl <;> rfl
    · obtain rfl := List.mem_singleton.1 last
      rfl
  refine List.filter_eq_nil_iff.2 fun told member => ?_
  obtain ⟨entry, listed, rfl⟩ := List.mem_map.1 member
  rw [untold entry (List.mem_of_mem_filter listed)]
  exact Bool.false_ne_true

theorem roundStatus_eq (lanes : List Lane) (verdict : Lane → Verdict) :
    roundStatus (lanes.map fun lane => (lane.probe.name, verdict lane)) =
      if ∀ lane ∈ lanes, (verdict lane).ok then 0 else 1 := by
  rw [roundStatus]
  simp

theorem endingOf_of_isOk {verdicts : List (String × Verdict)}
    (drawn : (verdictTable renderer verdicts).isOk = true) :
    endingOf renderer (.ok verdicts) = .exit (roundStatus verdicts) := by
  rw [endingOf]
  cases read : verdictTable renderer verdicts with
  | ok screen => rfl
  | error failure =>
      rw [read] at drawn
      cases drawn

open Scheduler

/-- What a session adds to the table is what the iterations of some probes file. -/
def Session.Files (session : Session) (scheduler : Scheduler) (table : Store.Table)
    (lanes : List Lane) : Prop :=
  ∃ final later rows, session.scheduler = some final ∧ final.store.table = some later ∧
    later.rows = table.rows ++ rows ∧ (rows.map rowPair).Perm (scheduler.filedPairs lanes)

section Advanced

variable (opened : scheduler.closed = false) (fresh : ∀ lane ∈ scheduler.lanes, lane.IsFresh)
  (bounded : ∀ lane ∈ scheduler.lanes, ∃ seconds, lane.probe.timeout = some seconds)
  {answer : Except Failure (List (String × Verdict))} {last : Rat}
  (answered : scheduler.runAll = (some answer, scheduler.triggered.advanceTo last))

include opened fresh bounded answered

theorem iterationsOf_once (distinct : (scheduler.lanes.map (·.probe.name)).Nodup) (level : Nat)
    {lane : Lane} (listed : lane ∈ scheduler.lanes) :
    iterationsOf lane.probe.name (once renderer level scheduler).entries =
      ((lane.round scheduler.now).told scheduler.tickets lane.calls scheduler.now).filter
        fun entry => entry.1 ≤ last := by
  obtain ⟨-, entries, -⟩ := once_eq renderer (congrArg Prod.fst answered) level
  rw [entries, iterationsOf_append, iterationsOf_stop, List.append_nil, answered]
  exact iterationsOf_triggered opened distinct listed (fresh lane listed) (bounded lane listed) last

theorem once_files {table : Store.Table} (held : scheduler.store.table = some table) (level : Nat) :
    (once renderer level scheduler).Files scheduler table
      (scheduler.lanes.filter fun lane => (lane.round scheduler.now).handed ≤ last) := by
  obtain ⟨-, -, final⟩ := once_eq renderer (congrArg Prod.fst answered) level
  obtain ⟨later, held', rows, added, pairs⟩ := rows_triggered opened fresh bounded last held
  rw [answered] at final
  exact ⟨_, later, rows, final, held', added, pairs⟩

end Advanced

/-- A round of all probes on the command line. When every iteration ends with a verdict, every probe
has run one, the verdicts are in the order of the probes, and every report that is filed has left
one row. Then they are drawn, and the exit status tells whether all are healthy. Only a table that
is refused makes the command fail instead, and none is whose texts have no brackets.

A cancellation that passes through an iteration ends the command, the earliest if there are several.
A report that never ends keeps it for ever. Neither happens to probes whose scripts are mild. -/
theorem once_round (renderer : Renderer) (opened : scheduler.closed = false)
    (fresh : ∀ lane ∈ scheduler.lanes, lane.IsFresh)
    (bounded : ∀ lane ∈ scheduler.lanes, ∃ seconds, lane.probe.timeout = some seconds)
    (distinct : (scheduler.lanes.map (·.probe.name)).Nodup) {table : Store.Table}
    (held : scheduler.store.table = some table) (level : Nat) :
    let round (lane : Lane) := lane.round scheduler.now
    let told (lane : Lane) := (round lane).told scheduler.tickets lane.calls scheduler.now
    let session := once renderer level scheduler
    (∀ verdict : Lane → Verdict,
      (∀ lane ∈ scheduler.lanes, (round lane).result? = some (.ok (verdict lane))) →
      let verdicts := scheduler.lanes.map fun lane => (lane.probe.name, verdict lane)
      let status := if ∀ lane ∈ scheduler.lanes, (verdict lane).ok then 0 else 1
      (∀ lane ∈ scheduler.lanes, iterationsOf lane.probe.name session.entries = told lane) ∧
      scheduler.runAll.1 = some (.ok verdicts) ∧
      session.Files scheduler table scheduler.lanes ∧
      session.ending = (match verdictTable renderer verdicts with
        | .ok _ => .exit status
        | .error failure => .failed failure) ∧
      (renderer.ShowsPlain → (∀ lane ∈ scheduler.lanes,
          '[' ∉ lane.probe.name.toList ∧ '[' ∉ (verdict lane).status.toList) →
        session.ending = .exit status)) ∧
    ((∃ lane ∈ scheduler.lanes, ∃ failure, (round lane).result? = some (.error failure)) →
      ∃ first ∈ scheduler.lanes, ∃ failure, (round first).result? = some (.error failure) ∧
        (∀ lane ∈ scheduler.lanes, ∀ failure', (round lane).result? = some (.error failure') →
          (round first).ends ≤ (round lane).ends) ∧
        session.ending = .failed failure ∧
        (∀ lane ∈ scheduler.lanes, iterationsOf lane.probe.name session.entries =
          (told lane).filter fun entry => entry.1 ≤ (round first).ends) ∧
        session.Files scheduler table
          (scheduler.lanes.filter fun lane => (round lane).handed ≤ (round first).ends)) ∧
    ((∀ lane ∈ scheduler.lanes, ∀ failure, (round lane).result? ≠ some (.error failure)) →
      (∃ lane ∈ scheduler.lanes, (round lane).result? = none) → session.ending = .endless) ∧
    ∀ lane ∈ scheduler.lanes, lane.script.IsMild →
      ∃ verdict, (round lane).result? = some (.ok verdict) := by
  intro round told session
  refine ⟨fun verdict judged => ?_, fun failed => ?_, fun unfailed endless => ?_,
    fun lane listed mild => ?_⟩
  · intro verdicts status
    obtain ⟨last, late, answered⟩ := runAll_judged opened fresh bounded judged
    have ending : session.ending = endingOf renderer (.ok verdicts) :=
      (once_eq renderer (congrArg Prod.fst answered) level).1
    have counted : roundStatus verdicts = status := roundStatus_eq ..
    refine ⟨fun lane listed => ?_, by rw [answered], ?_, ?_, fun shows unmarked => ?_⟩
    · rw [iterationsOf_once opened fresh bounded answered distinct level listed]
      refine List.filter_eq_self.2 fun entry member => decide_eq_true ?_
      exact (Lane.le_ends_of_mem_told member).trans (late lane listed)
    · have all : (scheduler.lanes.filter fun lane => (round lane).handed ≤ last) =
          scheduler.lanes := by
        refine List.filter_eq_self.2 fun lane listed => decide_eq_true ?_
        exact (lane.handed_le_ends_round _).trans (late lane listed)
      rw [← all]
      exact once_files opened fresh bounded answered held level
    · rw [ending, endingOf, ← counted]
      cases verdictTable renderer verdicts <;> rfl
    · rw [ending, ← counted]
      refine endingOf_of_isOk (isOk_verdictTable shows fun entry told => ?_)
      obtain ⟨lane, listed, rfl⟩ := List.mem_map.1 told
      exact unmarked lane listed
  · obtain ⟨first, listed, failure, fails, soonest, answered⟩ :=
      runAll_failed opened fresh bounded failed
    exact ⟨first, listed, failure, fails, soonest,
      (once_eq renderer (congrArg Prod.fst answered) level).1,
      fun lane listed => iterationsOf_once opened fresh bounded answered distinct level listed,
      once_files opened fresh bounded answered held level⟩
  · exact ending_of_unanswered (by rw [runAll_endless opened fresh bounded unfailed endless]) level
  · obtain ⟨seconds, timeout⟩ := bounded lane listed
    exact Lane.exists_result?_of_isMild mild timeout scheduler.now

def sampleVerdict (lane : Lane) : Verdict :=
  if lane.probe.name = "cache" then .error "no answer" else timedOut 5

def spoiledScheduler (kind : FailureKind) : Scheduler where
  lanes := [spoiledLane kind]
  origin := default

theorem once_round_sampleScheduler :
    sampleScheduler.closed = false ∧ (∀ lane ∈ sampleScheduler.lanes, lane.IsFresh) ∧
      (∀ lane ∈ sampleScheduler.lanes, ∃ seconds, lane.probe.timeout = some seconds) ∧
      (sampleScheduler.lanes.map (·.probe.name)).Nodup ∧ sampleScheduler.store.table = some {} ∧
      (Console.terminal 80).ShowsPlain ∧
      (once (Console.terminal 80) 20 sampleScheduler).ending = .exit 1 ∧
      (∃ final later, (once (Console.terminal 80) 20 sampleScheduler).scheduler = some final ∧
        final.store.table = some later ∧ later.rows.map rowPair = [("cache", "no answer")]) ∧
      (once (Console.terminal 80) 20 (spoiledScheduler .cancelled)).ending =
        .failed (.of .cancelled "store is gone") ∧
      (once (Console.terminal 80) 20 (spoiledScheduler .exhausted)).ending = .endless := by
  have fresh : ∀ lane ∈ sampleScheduler.lanes, lane.IsFresh := fun _ => isFresh_of_mem_sampleLanes
  have bounded : ∀ lane ∈ sampleScheduler.lanes, ∃ seconds, lane.probe.timeout = some seconds := by
    simp [sampleScheduler, sampleLanes]
  have distinct : (sampleScheduler.lanes.map (·.probe.name)).Nodup := by decide
  have shows := Console.terminal_showsPlain 80
  have judged : ∀ lane ∈ sampleScheduler.lanes,
      (lane.round sampleScheduler.now).result? = some (.ok (sampleVerdict lane)) := by
    decide +kernel
  obtain ⟨-, -, ⟨final, later, rows, same, held, added, pairs⟩, -, exits⟩ :=
    (once_round (Console.terminal 80) rfl fresh bounded distinct rfl 20).1 sampleVerdict judged
  have fresh' (kind : FailureKind) : ∀ lane ∈ (spoiledScheduler kind).lanes, lane.IsFresh :=
    List.forall_mem_singleton.2 ⟨rfl, rfl, rfl⟩
  have bounded' (kind : FailureKind) :
      ∀ lane ∈ (spoiledScheduler kind).lanes, ∃ seconds, lane.probe.timeout = some seconds :=
    List.forall_mem_singleton.2 ⟨5, rfl⟩
  have distinct' (kind : FailureKind) :
      ((spoiledScheduler kind).lanes.map (·.probe.name)).Nodup := List.nodup_singleton _
  refine ⟨rfl, fresh, bounded, distinct, rfl, shows, ?_, ⟨final, later, same, held, ?_⟩, ?_, ?_⟩
  · have unmarked : ∀ lane ∈ sampleScheduler.lanes,
        '[' ∉ lane.probe.name.toList ∧ '[' ∉ (sampleVerdict lane).status.toList := by
      decide +kernel
    have sick : ¬ ∀ lane ∈ sampleScheduler.lanes, (sampleVerdict lane).ok = true := by
      decide +kernel
    rw [exits shows unmarked, if_neg sick]
  · have filed : sampleScheduler.filedPairs sampleScheduler.lanes = [("cache", "no answer")] := by
      decide +kernel
    rw [filed, List.perm_singleton] at pairs
    rw [added, ← pairs]
    rfl
  · have cancels : ((spoiledLane .cancelled).round 0).result? =
        some (.error (.of .cancelled "store is gone")) := by
      decide +kernel
    obtain ⟨first, listed, failure, fails, -, ending, -⟩ :=
      (once_round (Console.terminal 80) rfl (fresh' .cancelled) (bounded' _) (distinct' _) rfl
        20).2.1 ⟨_, List.mem_singleton_self _, _, cancels⟩
    obtain rfl := List.mem_singleton.1 listed
    cases cancels.symm.trans fails
    exact ending
  · have endless : ((spoiledLane .exhausted).round 0).result? = none := by decide +kernel
    refine (once_round (Console.terminal 80) rfl (fresh' .exhausted) (bounded' _) (distinct' _) rfl
      20).2.2.1 ?_ ⟨_, List.mem_singleton_self _, endless⟩
    intro lane listed failure fails
    obtain rfl := List.mem_singleton.1 listed
    cases endless.symm.trans fails

def taggedScheduler : Scheduler where
  lanes := [{
    probe := { name := "cache", timeout := some 5 }
    script := { check := fun _ => { outcome := .ok (.error "[/x]") } } }]
  origin := default

/-- The round has its verdict and its row, yet it ends in a failure and has no exit status. -/
theorem once_fails_on_closing_tag :
    taggedScheduler.runAll.1 = some (.ok [("cache", .error "[/x]")]) ∧
      (once (Console.terminal 80) 20 taggedScheduler).ending = .failed
        (.of .markup "closing tag '[/x]' at position 5 doesn't match any open tag") ∧
      ∀ status, (once (Console.terminal 80) 20 taggedScheduler).ending ≠ .exit status := by
  have answered : taggedScheduler.runAll.1 = some (.ok [("cache", .error "[/x]")]) := by
    decide +kernel
  have refused : verdictTable (Console.terminal 80) [("cache", .error "[/x]")] =
      .error (.of .markup "closing tag '[/x]' at position 5 doesn't match any open tag") := by
    decide +kernel
  have ending := (once_eq (Console.terminal 80) answered 20).1
  rw [endingOf, refused] at ending
  refine ⟨answered, ending, fun status exits => ?_⟩
  rw [ending] at exits
  cases exits

end Liveness.CommandLine
