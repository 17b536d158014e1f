import Liveness.Fleet.Aggregation
import Liveness.Proofs.Store.Refinement

namespace Liveness.Fleet

open Store (Log Posting Represents StatusRecord StatusStore)
open Time (Instant Moment)

theorem lookup_keepFirst (latest : List (String × String)) (record : String × String)
    (name : String) :
    (keepFirst latest record).lookup name = (latest ++ [record]).lookup name := by
  rw [keepFirst]
  split
  next known =>
      rw [List.lookup_append]
      cases found : latest.lookup name with
      | some state => rfl
      | none =>
          have other : name ≠ record.1 := by
            rintro rfl
            rw [found] at known
            cases known
          rw [List.lookup_cons, beq_false_of_ne other]
          rfl
  next => rfl

theorem lookup_latestOf (records : List (String × String)) (name : String) :
    (latestOf records).lookup name = records.lookup name := by
  have keeps (latest : List (String × String)) :
      (records.foldl keepFirst latest).lookup name = (latest ++ records).lookup name := by
    induction records generalizing latest with
    | nil => simp
    | cons record records ih =>
        rw [List.foldl_cons, ih, List.lookup_append, lookup_keepFirst, ← List.lookup_append,
          List.append_assoc, List.singleton_append]
  exact keeps []

theorem lookup_latestStatuses (records : List StatusRecord) (name : String) :
    (latestStatuses records).lookup name =
      ((records.map StatusRecord.posting).find? fun p => p.name = name).map (·.status) := by
  rw [latestStatuses, lookup_latestOf]
  induction records with
  | nil => rfl
  | cons record records ih =>
      rw [List.map_cons, List.lookup_cons, List.map_cons, List.find?_cons, ih]
      by_cases same : record.name = name
      · simp [StatusRecord.posting, same]
      · simp [StatusRecord.posting, same, beq_false_of_ne (Ne.symm same)]

theorem lookup_latestStatuses_of_ordered {log : Log} {since : Instant} {records : List StatusRecord}
    (read : records.map StatusRecord.posting = log.recent since)
    (recent : ∀ posting ∈ log, since.micros < posting.instant.micros) {name : String}
    (ordered : (log.filter (·.name = name)).Pairwise fun a b =>
      a.instant.micros ≤ b.instant.micros) :
    (latestStatuses records).lookup name =
      ((log.filter (·.name = name)).map (·.status)).getLast? := by
  rw [lookup_latestStatuses, read, List.getLast?_map]
  congr 1
  cases found : (log.recent since).find? fun p => p.name = name with
  | some posting =>
      have newest := (Log.isNewest_of_find? found).of_recent
      have nonempty : log.filter (·.name = name) ≠ [] :=
        List.ne_nil_of_mem (List.mem_filter.2 ⟨newest.mem, decide_eq_true newest.1⟩)
      have last := List.getLast?_eq_some_getLast nonempty
      rw [last, newest.unique (Log.isNewest_of_getLast? ordered last)]
  | none =>
      have nothing : log.filter (·.name = name) = [] := by
        rw [List.filter_eq_nil_iff]
        exact fun posting member =>
          List.find?_eq_none.1 found posting (Log.mem_recent.2 ⟨member, recent posting member⟩)
      rw [nothing, List.getLast?_nil]

/-! ## States of services -/

def IsRunning (log : Log) (since : Instant) (name : String) : Prop :=
  (∃ posting ∈ log, posting.name = name ∧ since.micros < posting.instant.micros) ∧
    ∃ posting, log.IsNewest (·.name = name) posting ∧ posting.status = runningStatus

def HasState (log : Log) (since : Instant) (name state : String) : Prop :=
  (∃ posting, log.IsNewest (fun p => p.name = name ∧ since.micros < p.instant.micros) posting ∧
      posting.status = state) ∨
    (¬ ∃ posting ∈ log, posting.name = name ∧ since.micros < posting.instant.micros) ∧ state = ""

variable {log : Log} {since : Instant} {records : List StatusRecord}

theorem hasState_lookup (read : records.map StatusRecord.posting = log.recent since)
    (name : String) :
    HasState log since name (((latestStatuses records).lookup name).getD "") := by
  rw [lookup_latestStatuses, read]
  cases found : (log.recent since).find? fun p => p.name = name with
  | some posting => exact .inl ⟨posting, Log.isNewest_of_find? found, rfl⟩
  | none =>
      refine .inr ⟨?_, rfl⟩
      rintro ⟨posting, member, named, later⟩
      have other := List.find?_eq_none.1 found posting (Log.mem_recent.2 ⟨member, later⟩)
      simp [named] at other

theorem HasState.isRunning_iff {name state : String} (has : HasState log since name state) :
    IsRunning log since name ↔ state = runningStatus := by
  rcases has with ⟨posting, newest, rfl⟩ | ⟨nothing, rfl⟩
  · constructor
    · rintro ⟨-, other, newest', running⟩
      rw [newest.of_recent.unique newest', running]
    · intro running
      exact ⟨⟨posting, newest.mem, newest.1⟩, posting, newest.of_recent, running⟩
  · constructor
    · rintro ⟨something, -⟩
      exact absurd something nothing
    · intro empty
      simp [runningStatus] at empty

theorem HasState.unique {name state state' : String} (has : HasState log since name state)
    (has' : HasState log since name state') : state = state' := by
  rcases has with ⟨posting, newest, rfl⟩ | ⟨nothing, rfl⟩
  · rcases has' with ⟨posting', newest', rfl⟩ | ⟨nothing, -⟩
    · rw [newest.unique newest']
    · exact absurd ⟨posting, newest.mem, newest.1⟩ nothing
  · rcases has' with ⟨posting', newest', -⟩ | ⟨-, rfl⟩
    · exact absurd ⟨posting', newest'.mem, newest'.1⟩ nothing
    · rfl

/-! ## Verdicts -/

namespace Aggregation

theorem judge_cons_of_running {name : String} {names : List String}
    (read : records.map StatusRecord.posting = log.recent since)
    (running : IsRunning log since name) : judge (name :: names) records = judge names records := by
  have state := (hasState_lookup read name).isRunning_iff.1 running
  simp [judge, firstFailing?, state]

theorem exists_judge_cons {name : String} (names : List String)
    (read : records.map StatusRecord.posting = log.recent since)
    (failing : ¬ IsRunning log since name) : ∃ state, HasState log since name state ∧
      judge (name :: names) records = .error s!"service {name} has unexpected state {state}" := by
  have has := hasState_lookup read name
  have other := has.isRunning_iff.not.1 failing
  refine ⟨_, has, ?_⟩
  simp [judge, firstFailing?, other]

theorem judge_append {running : List String} (names : List String)
    (read : records.map StatusRecord.posting = log.recent since)
    (all : ∀ name ∈ running, IsRunning log since name) :
    judge (running ++ names) records = judge names records := by
  induction running with
  | nil => rfl
  | cons name running ih =>
      obtain ⟨first, others⟩ := List.forall_mem_cons.1 all
      rw [List.cons_append, judge_cons_of_running read first, ih others]

theorem judge_eq_healthy_iff (read : records.map StatusRecord.posting = log.recent since)
    (names : List String) :
    judge names records = .healthy ↔ ∀ name ∈ names, IsRunning log since name := by
  induction names with
  | nil => simp [judge, firstFailing?]
  | cons name names ih =>
      rw [List.forall_mem_cons]
      by_cases running : IsRunning log since name
      · rw [judge_cons_of_running read running, ih, and_iff_right running]
      · obtain ⟨state, -, verdict⟩ := exists_judge_cons names read running
        rw [verdict]
        simp [running, Verdict.error, Verdict.healthy]

theorem exists_recentAt (check : Aggregation) {store : StatusStore}
    (represents : Represents store log) {now start : Moment}
    (window : now.before check.zone check.window = .ok start) (time : start.toInstant = .ok since)
    (year : since.HasFourDigitYear) :
    ∃ records, check.recentAt StatusSource.table store now = .ok records ∧
      records.map StatusRecord.posting = log.recent since := by
  obtain ⟨records, found, read⟩ := represents.exists_recent time year
  refine ⟨records, ?_, read⟩
  simp [recentAt, window, StatusSource.table, found, Except.mapError, bind, Except.bind]

/-- The verdict on a store that any operations made: the first expected service that does not run is
told with its last state in the window. -/
theorem evaluate_table (operations : List Store.Operation)
    (years : ∀ operation ∈ operations, ∀ moment ∈ operation.moments, Store.HasFourDigitYear moment)
    (check : Aggregation) {now start : Moment}
    (window : now.before check.zone check.window = .ok start)
    (time : start.toInstant = .ok since) (year : since.HasFourDigitYear) :
    let log := Store.after Log.step [] operations
    let verdict :=
      check.evaluate StatusSource.table (Store.after StatusStore.step {} operations) now
    (verdict = .healthy ↔ ∀ name ∈ check.expected, IsRunning log since name) ∧
      ∀ running name others, check.expected = running ++ name :: others →
        (∀ name ∈ running, IsRunning log since name) → ¬ IsRunning log since name →
        ∃ state, HasState log since name state ∧
          verdict = .error s!"service {name} has unexpected state {state}" := by
  intro log verdict
  have represents := Store.after_represents Store.represents_empty years
  obtain ⟨records, recent, read⟩ := check.exists_recentAt represents window time year
  have judged : verdict = judge check.expected records := by
    simp only [verdict, evaluate, recent]
  rw [judged]
  refine ⟨judge_eq_healthy_iff read check.expected, ?_⟩
  intro running name others expected all failing
  rw [expected, judge_append _ read all]
  exact exists_judge_cons others read failing

def nine : Instant := ⟨1767258000000000, by decide, by decide⟩

def eleven : Instant := ⟨1767265200000000, by decide, by decide⟩

def sampleReports : List Store.Operation :=
  let report (name status : String) (moment : Moment) : Store.Operation :=
    .insert { name := some name, status := some status, reportedAt := moment }
  [report "db" "Stopped" ⟨Store.noon, some 3600⟩, report "web" "Running" nine,
    report "api" "Stopped" ⟨eleven, none⟩, report "db" "Running" ⟨Store.noon, some 3600⟩]

def sampleCheck : Aggregation where
  expected := ["db", "api", "web"]
  window := .ofMinutes 120

theorem evaluate_sampleReports :
    (∀ operation ∈ sampleReports, ∀ moment ∈ operation.moments, Store.HasFourDigitYear moment) ∧
      Moment.before eleven .steady sampleCheck.window = .ok nine ∧
      Moment.toInstant nine = .ok nine ∧ nine.HasFourDigitYear ∧
      sampleCheck.evaluate StatusSource.table
        (Store.after StatusStore.step {} sampleReports) eleven =
          .error "service api has unexpected state Stopped" := by
  have years : ∀ operation ∈ sampleReports, ∀ moment ∈ operation.moments,
      Store.HasFourDigitYear moment := by
    decide +kernel
  have window : Moment.before eleven .steady sampleCheck.window = .ok nine := by rfl
  have time : Moment.toInstant nine = .ok nine := by rfl
  have year : nine.HasFourDigitYear := by decide +kernel
  refine ⟨years, window, time, year, ?_⟩
  let up : Posting := ⟨"db", "Running", eleven, "", "", .integer 0⟩
  let down : Posting := ⟨"api", "Stopped", eleven, "", "", .integer 0⟩
  have running : IsRunning (Store.after Log.step [] sampleReports) nine "db" :=
    ⟨⟨up, by decide +kernel⟩, up, ⟨rfl, 3, by decide +kernel, by decide +kernel⟩, rfl⟩
  have stopped : HasState (Store.after Log.step [] sampleReports) nine "api" "Stopped" :=
    .inl ⟨down, ⟨by decide +kernel, 2, by decide +kernel, by decide +kernel⟩, rfl⟩
  have failing := stopped.isRunning_iff.not.2 (by decide)
  obtain ⟨state, has, verdict⟩ := (evaluate_table sampleReports years sampleCheck window time
    year).2 ["db"] "api" ["web"] rfl (by simpa using running) failing
  rw [verdict, has.unique stopped]
  rfl

end Aggregation

end Liveness.Fleet
