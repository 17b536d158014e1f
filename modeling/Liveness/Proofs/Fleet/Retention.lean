import Liveness.Proofs.Fleet.Aggregation

/-!
Retention: what sweeps remove lies before every later window, so that the verdicts are those on a
store from which nothing is ever removed (`verdicts_eq_keepingAll`). That takes a retention as long
as the window and a zone whose offset stays the same meanwhile.
-/

namespace Liveness.Fleet

open Store (Log Posting Represents StatusRecord StatusStore Submission)
open Time (Instant Moment)

/-! ## Checks and what comes between them -/

inductive Removal where
  | succeeds
  | fails (failure : Failure) (late : Bool)

namespace StatusSource

variable {σ : Type} (source : StatusSource σ)

def withRemoval : Removal → StatusSource σ
  | .succeeds => source
  | .fails failure late =>
    { source with
      removeBefore := fun store cutoff =>
        (.error failure, if late then (source.removeBefore store cutoff).2 else store) }

def keepingAll : StatusSource σ := { source with removeBefore := fun store _ => (.ok 0, store) }

end StatusSource

inductive Visit where
  | submit (submission : Submission)
  | check (now : Moment) (removal : Removal)

namespace Visit

def reading? : Visit → Option Moment
  | .submit _ => none
  | .check now _ => some now

def moments (check : Aggregation) : Visit → List Moment
  | .submit submission => [submission.reportedAt]
  | .check now _ => [check.window, check.retention].filterMap fun span =>
    (now.before check.zone span).toOption

end Visit

namespace Aggregation

section Runs

variable {σ : Type} (check : Aggregation) (source : StatusSource σ)

def removal (store : σ) (now : Moment) : Except Failure Nat × σ :=
  match now.before check.zone check.retention with
  | .error fault => (.error fault.toFailure, store)
  | .ok cutoff => source.removeBefore store cutoff

theorem sweep_eq_removal (store : σ) (now : Moment) :
    (check.sweep source store now).2 = (check.removal source store now).2 := by
  rw [sweep]
  split
  next outcome kept removed =>
      have same : check.removal source store now = (outcome, kept) := removed
      rw [same]
      cases outcome with
      | error failure => rfl
      | ok count =>
          simp only
          split <;> rfl

variable (sourceOf : Removal → StatusSource StatusStore)

def visit (store : StatusStore) : Visit → List Verdict × StatusStore
  | .submit submission => ([], (store.step (.insert submission)).2)
  | .check now removal =>
    let (verdict, _, kept) := check.run (sourceOf removal) store now
    ([verdict], kept)

def visited (store : StatusStore) (visits : List Visit) : StatusStore :=
  visits.foldl (fun store visit => (check.visit sourceOf store visit).2) store

def verdicts (store : StatusStore) : List Visit → List Verdict
  | [] => []
  | visit :: visits =>
    (check.visit sourceOf store visit).1 ++ verdicts (check.visit sourceOf store visit).2 visits

theorem visit_check (store : StatusStore) (now : Moment) (removal : Removal) :
    check.visit sourceOf store (.check now removal) =
      ([check.evaluate (sourceOf removal) store now],
        (check.removal (sourceOf removal) store now).2) := by
  rw [← sweep_eq_removal]
  rfl

end Runs

/-! ## Logs that agree -/

def AgreeAfter (start : Int) (log log' : Log) : Prop :=
  log.filter (fun posting => start < posting.instant.micros) =
    log'.filter fun posting => start < posting.instant.micros

variable {check : Aggregation} {store store' : StatusStore} {log log' : Log} {now : Moment}

theorem AgreeAfter.append {start : Int} (agree : AgreeAfter start log log') (posting : Posting) :
    AgreeAfter start (log ++ [posting]) (log' ++ [posting]) := by
  rw [AgreeAfter, List.filter_append, List.filter_append, agree]

theorem agreeAfter_filter {start cutoff : Int} (before : cutoff ≤ start) (log : Log) :
    AgreeAfter start (log.filter fun posting => cutoff ≤ posting.instant.micros) log := by
  rw [AgreeAfter, List.filter_filter]
  apply List.filter_congr
  intro posting _
  rw [Bool.and_eq_left_iff_imp, decide_eq_true_eq, decide_eq_true_eq]
  omega

theorem recent_eq_error {since : Moment} {fault : Time.TimeFault}
    (untimely : since.toInstant = .error fault) : store.recent since = .error (.time fault) := by
  simp [StatusStore.recent, Time.Timestamp.write, untimely, Except.map, Except.mapError, bind,
    Except.bind]

theorem judge_congr {records records' : List StatusRecord}
    (same : records.map StatusRecord.posting = records'.map StatusRecord.posting)
    (expected : List String) : judge expected records = judge expected records' := by
  have pairs (records : List StatusRecord) :
      (records.map fun record => (record.name, record.status)) =
        (records.map StatusRecord.posting).map fun posting => (posting.name, posting.status) := by
    rw [List.map_map]
    rfl
  rw [judge, judge, latestStatuses, latestStatuses, pairs, pairs, same]

theorem evaluate_congr (represents : Represents store log) (represents' : Represents store' log')
    (agree : ∀ start, now.before check.zone check.window = .ok start →
      AgreeAfter start.utcMicros log log')
    (years : ∀ start, now.before check.zone check.window = .ok start →
      Store.HasFourDigitYear start) :
    check.evaluate StatusSource.table store now = check.evaluate StatusSource.table store' now := by
  cases window : now.before check.zone check.window with
  | error fault => simp [evaluate, recentAt, window, Except.mapError, bind, Except.bind]
  | ok start =>
      cases time : start.toInstant with
      | error fault =>
          simp [evaluate, recentAt, window, StatusSource.table, recent_eq_error time,
            Except.mapError, bind, Except.bind]
      | ok since =>
          have year := years start window since time
          obtain ⟨records, recent, read⟩ := check.exists_recentAt represents window time year
          obtain ⟨records', recent', read'⟩ := check.exists_recentAt represents' window time year
          have agree := agree start window
          rw [← Time.Moment.micros_of_toInstant time] at agree
          simp only [evaluate, recent, recent']
          apply judge_congr
          rw [read, read', Log.recent_congr agree]

/-! ## Sweeps -/

theorem snd_removeBefore (store : StatusStore) (cutoff : Moment) :
    (StatusSource.table.removeBefore store cutoff).2 = (store.step (.removeBefore cutoff)).2 := by
  simp only [StatusSource.table, StatusStore.step_removeBefore_eq]
  cases store.removeBefore cutoff <;> rfl

theorem agreeAfter_removeBefore {cutoff : Moment} {start : Int} (before : cutoff.utcMicros ≤ start)
    (log : Log) : AgreeAfter start (log.step (.removeBefore cutoff)).2 log := by
  rw [Log.step]
  cases time : cutoff.toInstant with
  | error fault => rfl
  | ok t =>
      rw [← Time.Moment.micros_of_toInstant time] at before
      exact agreeAfter_filter before log

theorem exists_represents_removal (represents : Represents store log) (removal : Removal)
    (years : ∀ cutoff, now.before check.zone check.retention = .ok cutoff →
      Store.HasFourDigitYear cutoff) :
    ∃ kept, Represents (check.removal (StatusSource.table.withRemoval removal) store now).2 kept ∧
      ∀ start, (∀ cutoff, now.before check.zone check.retention = .ok cutoff →
        cutoff.utcMicros ≤ start) → AgreeAfter start kept log := by
  rw [Aggregation.removal]
  cases before : now.before check.zone check.retention with
  | error fault => exact ⟨log, represents, fun _ _ => rfl⟩
  | ok cutoff =>
      have swept : ∃ kept, Represents (StatusSource.table.removeBefore store cutoff).2 kept ∧
          ∀ start, cutoff.utcMicros ≤ start → AgreeAfter start kept log := by
        rw [snd_removeBefore]
        exact ⟨_, (Store.step_removeBefore represents (years cutoff before)).2,
          fun start le => agreeAfter_removeBefore le log⟩
      simp only [Except.ok.injEq, forall_eq']
      cases removal with
      | succeeds => exact swept
      | fails failure late =>
          cases late with
          | false => exact ⟨log, represents, fun _ _ => rfl⟩
          | true => exact swept

theorem removeBefore_again {kept : StatusStore} {cutoff : Moment} {count : Nat}
    (removed : store.removeBefore cutoff = .ok (count, kept)) :
    kept.removeBefore cutoff = .ok (0, kept) := by
  simp only [StatusStore.removeBefore, bind_eq_ok] at removed ⊢
  obtain ⟨text, written, removed⟩ := removed
  refine ⟨text, written, ?_⟩
  cases opened : store.table with
  | none => simp [opened] at removed
  | some table =>
      simp only [opened, pure, Except.pure, Except.ok.injEq, Prod.mk.injEq] at removed
      obtain ⟨-, rfl⟩ := removed
      simp [pure, Except.pure]

theorem removal_again {first second : Removal} {count : Nat} {kept : StatusStore}
    (removed : check.removal (StatusSource.table.withRemoval first) store now = (.ok count, kept)) :
    (check.removal (StatusSource.table.withRemoval second) kept now).2 = kept ∧
      ∀ count, (check.removal (StatusSource.table.withRemoval second) kept now).1 = .ok count →
        count = 0 := by
  rw [removal] at removed ⊢
  cases before : now.before check.zone check.retention with
  | error fault => simp [before] at removed
  | ok cutoff =>
      simp only [before] at removed ⊢
      cases first with
      | fails failure late => simp [StatusSource.withRemoval] at removed
      | succeeds =>
          have again : StatusSource.table.removeBefore kept cutoff = (.ok 0, kept) := by
            simp only [StatusSource.withRemoval, StatusSource.table] at removed ⊢
            split at removed
            next found =>
                obtain ⟨-, rfl⟩ := Prod.mk.inj removed
                rw [removeBefore_again found]
            next => simp at removed
          cases second with
          | succeeds => simp [StatusSource.withRemoval, again]
          | fails failure late => simp [StatusSource.withRemoval, again]

/-! ## Verdicts -/

theorem evaluate_withRemoval (removal : Removal) (store : StatusStore) (now : Moment) :
    check.evaluate (StatusSource.table.withRemoval removal) store now =
      check.evaluate StatusSource.table store now := by
  cases removal <;> rfl

theorem removal_keepingAll (store : StatusStore) (now : Moment) :
    (check.removal StatusSource.table.keepingAll store now).2 = store := by
  rw [removal]
  split <;> rfl

variable {visits : List Visit}

theorem before_years {removal : Removal}
    (years : ∀ moment ∈ (Visit.check now removal).moments check, Store.HasFourDigitYear moment) :
    (∀ start, now.before check.zone check.window = .ok start → Store.HasFourDigitYear start) ∧
      ∀ cutoff, now.before check.zone check.retention = .ok cutoff →
        Store.HasFourDigitYear cutoff := by
  constructor
  · intro start before
    apply years
    simp [Visit.moments, before, Except.toOption]
  · intro cutoff before
    apply years
    simp [Visit.moments, before, Except.toOption]

/-- No removal of the first check reaches into the window of the second. -/
def CutsBehind (check : Aggregation) (earlier later : Moment) : Prop :=
  ∀ cutoff start, earlier.before check.zone check.retention = .ok cutoff →
    later.before check.zone check.window = .ok start → cutoff.utcMicros ≤ start.utcMicros

def KeepsWindows (check : Aggregation) (readings : List Moment) : Prop :=
  (∀ now ∈ readings, check.CutsBehind now now) ∧ readings.Pairwise check.CutsBehind

/-- The offset of the zone is the same at the ends of the window and of the retention. -/
def IsSteadyAt (check : Aggregation) (now : Moment) : Prop :=
  ∀ span ∈ [check.window, check.retention], ∀ time, now.before check.zone span = .ok time →
    time.offset = now.offset

theorem cutsBehind_of_steady {earlier later : Moment}
    (within : check.window.micros ≤ check.retention.micros)
    (ordered : earlier.utcMicros ≤ later.utcMicros) (steady : check.IsSteadyAt earlier)
    (steady' : check.IsSteadyAt later) : check.CutsBehind earlier later := by
  intro cutoff start before before'
  rw [Time.Moment.utcMicros_of_before before (steady _ (by simp) _ before),
    Time.Moment.utcMicros_of_before before' (steady' _ (by simp) _ before')]
  exact Int.sub_le_sub ordered within

theorem keepsWindows_of_steady {readings : List Moment}
    (within : check.window.micros ≤ check.retention.micros)
    (ordered : readings.Pairwise fun earlier later => earlier.utcMicros ≤ later.utcMicros)
    (steady : ∀ now ∈ readings, check.IsSteadyAt now) : check.KeepsWindows readings := by
  refine ⟨fun now listed => cutsBehind_of_steady within le_rfl (steady now listed)
    (steady now listed), ordered.imp_of_mem fun listed listed' le => ?_⟩
  exact cutsBehind_of_steady within le (steady _ listed) (steady _ listed')

theorem verdicts_eq_of_agree (represents : Represents store log)
    (represents' : Represents store' log')
    (agree : ∀ now ∈ visits.filterMap Visit.reading?, ∀ start,
      now.before check.zone check.window = .ok start → AgreeAfter start.utcMicros log log')
    (years : ∀ visit ∈ visits, ∀ moment ∈ visit.moments check, Store.HasFourDigitYear moment)
    (behind : (visits.filterMap Visit.reading?).Pairwise check.CutsBehind) :
    check.verdicts StatusSource.table.withRemoval store visits =
      check.verdicts (fun _ => StatusSource.table.keepingAll) store' visits := by
  induction visits generalizing store store' log log' with
  | nil => rfl
  | cons visit visits ih =>
      obtain ⟨year, others⟩ := List.forall_mem_cons.1 years
      rw [verdicts, verdicts]
      cases visit with
      | submit submission =>
          have kept := Store.step_insert represents (year _ (List.mem_singleton_self _))
          have kept' := Store.step_insert represents' (year _ (List.mem_singleton_self _))
          refine congrArg _ (ih kept.2 kept'.2 (fun now listed start begins => ?_) others behind)
          simp only [Log.step]
          cases submission.posting? with
          | none => exact agree now listed start begins
          | some posting => exact (agree now listed start begins).append posting
      | check now removal =>
          obtain ⟨starts, cutoffs⟩ := before_years year
          obtain ⟨kept, represents'', cut⟩ :=
            exists_represents_removal represents removal cutoffs
          have readings : (Visit.check now removal :: visits).filterMap Visit.reading? =
              now :: visits.filterMap Visit.reading? := rfl
          rw [readings] at agree behind
          obtain ⟨agree, agrees⟩ := List.forall_mem_cons.1 agree
          obtain ⟨later, behind⟩ := List.pairwise_cons.1 behind
          rw [visit_check, visit_check, evaluate_withRemoval, removal_keepingAll,
            evaluate_congr represents represents' agree starts]
          refine congrArg _ (ih represents'' represents' (fun next listed start begins => ?_)
            others behind)
          -- no later window reaches back behind the cutoff of this sweep
          have reaches := cut start.utcMicros fun cutoff cuts =>
            later next listed cutoff start cuts begins
          exact reaches.trans (agrees next listed start begins)

theorem exists_represents_visited (represents : Represents store log)
    (years : ∀ visit ∈ visits, ∀ moment ∈ visit.moments check, Store.HasFourDigitYear moment) :
    ∃ kept, Represents (check.visited StatusSource.table.withRemoval store visits) kept := by
  induction visits generalizing store log with
  | nil => exact ⟨log, represents⟩
  | cons visit visits ih =>
      obtain ⟨year, others⟩ := List.forall_mem_cons.1 years
      rw [visited, List.foldl_cons]
      cases visit with
      | submit submission =>
          exact ih (Store.step_insert represents (year _ (List.mem_singleton_self _))).2 others
      | check now removal =>
          obtain ⟨kept, represents', -⟩ :=
            exists_represents_removal represents removal (before_years year).2
          rw [visit_check]
          exact ih represents' others

/-- The verdicts are those of a store from which nothing is ever removed. A second check at the same
time comes to the same verdict and, if the first one could sweep, removes nothing. -/
def SweepsUnseen (check : Aggregation) (visits : List Visit) : Prop :=
  check.verdicts StatusSource.table.withRemoval {} visits =
      check.verdicts (fun _ => StatusSource.table.keepingAll) {} visits ∧
    ∀ before now first second after,
      visits = before ++ .check now first :: .check now second :: after →
      let source := StatusSource.table.withRemoval
      let store := check.visited source {} before
      let kept := (check.run (source first) store now).2.2
      (check.run (source second) kept now).1 = (check.run (source first) store now).1 ∧
        ((check.removal (source first) store now).1.isOk →
          (check.run (source second) kept now).2.2 = kept ∧
          ∀ count, (check.removal (source second) kept now).1 = .ok count → count = 0)

theorem KeepsWindows.sweepsUnseen
    (keeps : check.KeepsWindows (visits.filterMap Visit.reading?))
    (years : ∀ visit ∈ visits, ∀ moment ∈ visit.moments check, Store.HasFourDigitYear moment) :
    check.SweepsUnseen visits := by
  refine ⟨verdicts_eq_of_agree Store.represents_empty Store.represents_empty
    (fun _ _ _ _ => rfl) years keeps.2, ?_⟩
  rintro before now first second after rfl source store kept
  have years' : ∀ visit ∈ before, ∀ moment ∈ visit.moments check, Store.HasFourDigitYear moment :=
    fun visit listed => years visit (List.mem_append_left _ listed)
  have listed : .check now first ∈ before ++ .check now first :: .check now second :: after :=
    List.mem_append_right _ (List.mem_cons_self ..)
  have behind : check.CutsBehind now now :=
    keeps.1 now (List.mem_filterMap.2 ⟨_, listed, rfl⟩)
  obtain ⟨log, represents⟩ := check.exists_represents_visited Store.represents_empty years'
  obtain ⟨starts, cutoffs⟩ := before_years (years _ listed)
  obtain ⟨log', represents', cut⟩ := exists_represents_removal represents first cutoffs
  have swept : kept = (check.removal (source first) store now).2 :=
    check.sweep_eq_removal (source first) store now
  have swept' : (check.run (source second) kept now).2.2 =
      (check.removal (source second) kept now).2 := check.sweep_eq_removal (source second) kept now
  rw [← swept] at represents'
  constructor
  · have same := evaluate_congr represents' represents (fun start begins =>
      cut start.utcMicros fun cutoff cuts => behind cutoff start cuts begins) starts
    rw [← evaluate_withRemoval second, ← evaluate_withRemoval first] at same
    exact same
  · intro succeeded
    obtain ⟨count, counted⟩ := exists_of_isOk succeeded
    rw [swept']
    exact removal_again (Prod.ext counted swept.symm)

def sampleRetention : Aggregation where
  expected := ["db"]
  window := .ofMinutes 120
  retention := .ofMinutes 120

def sampleVisits : List Visit :=
  [.submit { name := some "db", status := some "Running", reportedAt := Store.tenOClock },
    .check eleven .succeeds,
    .submit { name := some "db", status := some "Stopped", reportedAt := nine },
    .check eleven (.fails (.of .runtime "disk full") true), .check Store.noon .succeeds,
    .check Store.noon .succeeds]

/-- Half past two is skipped: where the hour would be, the offset is still the one before it. -/
def shiftingCheck : Aggregation where
  expected := ["db"]
  window := .ofMinutes 10
  retention := .ofMinutes 50
  zone _ wall := some (if wall.micros < 1743303600000000 then 3600 else 7200)

def quarterPastOne : Instant := ⟨1743297300000000, by decide, by decide⟩

def twentyPastThree : Moment := ⟨⟨1743304800000000, by decide, by decide⟩, some 7200⟩

def shiftingVisits : List Visit :=
  [.submit { name := some "db", status := some "Running", reportedAt := quarterPastOne },
    .check twentyPastThree .succeeds, .check twentyPastThree .succeeds]

end Aggregation

end Liveness.Fleet
