import Liveness.Fleet.Registry
import Liveness.Proofs.Fleet.Aggregation

namespace Liveness.Fleet

open Store (StatusRecord StatusStore)
open Time (Moment)

theorem findSome?_splitRepeats {α : Type} {seen : List String} {search : String → Option α}
    (passed : ∀ name ∈ seen, search name = none) (names : List String) :
    (splitRepeats seen names).1.findSome? search = names.findSome? search := by
  induction names generalizing seen with
  | nil => rfl
  | cons name names ih =>
      rw [splitRepeats]
      split
      next again =>
          rw [List.findSome?_cons, passed name again]
          exact ih passed
      next =>
          rw [List.findSome?_cons, List.findSome?_cons]
          cases found : search name with
          | some result => rfl
          | none => exact ih (List.forall_mem_cons.2 ⟨found, passed⟩)

theorem findSome?_uniqueServices {α : Type} (search : String → Option α) (names : List String) :
    (uniqueServices names).1.findSome? search = names.findSome? search :=
  findSome?_splitRepeats (List.forall_mem_nil _) names

/-! ## Failing services -/

def stateIn (records : List StatusRecord) (name : String) : String :=
  ((records.find? fun record => record.name = name).map (·.status)).getD ""

def IsFailing (records : List StatusRecord) (name : String) : Prop :=
  stateIn records name ≠ runningStatus

theorem stateIn_eq_posting (records : List StatusRecord) (name : String) : stateIn records name =
    (((records.map StatusRecord.posting).find? fun p => p.name = name).map (·.status)).getD "" := by
  rw [stateIn, List.find?_map, Option.map_map]
  rfl

namespace Aggregation

variable {σ : Type} {records : List StatusRecord} {names before after : List String} {name : String}

def failing? (records : List StatusRecord) (name : String) : Option (String × String) :=
  if stateIn records name = runningStatus then none else some (name, stateIn records name)

theorem failing?_eq_none : failing? records name = none ↔ ¬ IsFailing records name := by
  rw [failing?, IsFailing, not_not]
  split
  next running => simp [running]
  next other => simp [other]

theorem firstFailing?_latestStatuses (names : List String) (records : List StatusRecord) :
    firstFailing? names (latestStatuses records) = names.findSome? (failing? records) := by
  have state (name : String) :
      ((latestStatuses records).lookup name).getD "" = stateIn records name := by
    rw [lookup_latestStatuses, stateIn_eq_posting]
  simp only [firstFailing?, state]
  rfl

theorem judge_uniqueServices (names : List String) (records : List StatusRecord) :
    judge (uniqueServices names).1 records = judge names records := by
  rw [judge, judge, firstFailing?_latestStatuses, firstFailing?_latestStatuses,
    findSome?_uniqueServices]

theorem judge_of_running (running : ∀ name ∈ names, ¬ IsFailing records name) :
    judge names records = .healthy := by
  rw [judge, firstFailing?_latestStatuses, List.findSome?_eq_none_iff.2]
  exact fun name listed => failing?_eq_none.2 (running name listed)

theorem judge_of_failing (running : ∀ name ∈ before, ¬ IsFailing records name)
    (failing : IsFailing records name) : judge (before ++ name :: after) records =
      .error s!"service {name} has unexpected state {stateIn records name}" := by
  have passed : before.findSome? (failing? records) = none :=
    List.findSome?_eq_none_iff.2 fun name listed => failing?_eq_none.2 (running name listed)
  rw [judge, firstFailing?_latestStatuses, List.findSome?_append, passed, Option.none_or,
    List.findSome?_cons, failing?, if_neg failing]

theorem ok_judge_iff :
    (judge names records).ok = true ↔ ∀ name ∈ names, ¬ IsFailing records name := by
  constructor
  · intro healthy name listed failing
    rw [judge, firstFailing?_latestStatuses] at healthy
    cases found : names.findSome? (failing? records) with
    | none => exact failing?_eq_none.1 (List.findSome?_eq_none_iff.1 found name listed) failing
    | some first =>
        rw [found] at healthy
        cases healthy
  · intro running
    rw [judge_of_running running]
    rfl

theorem ok_judge_perm {names' : List String} (perm : names'.Perm names) :
    (judge names' records).ok = (judge names records).ok := by
  rw [Bool.eq_iff_iff, ok_judge_iff, ok_judge_iff]
  exact ⟨fun running name listed => running name (perm.mem_iff.2 listed),
    fun running name listed => running name (perm.mem_iff.1 listed)⟩

/-! ## Verdicts on lists of the same names -/

/-- The verdict is the same without the repeats, to the letter. In another order it is as good or as
bad, and tells the first service that fails in that order; unless no records can be read, when the
order makes no difference at all. -/
theorem evaluate_of_same_names (check : Aggregation) (source : StatusSource σ) (store : σ)
    (now : Moment) :
    let verdict (names : List String) := { check with expected := names }.evaluate source store now
    verdict (uniqueServices check.expected).1 = verdict check.expected ∧
      ∀ names, names.Perm check.expected →
        (verdict names).ok = (verdict check.expected).ok ∧
        (∀ failure, check.recentAt source store now = .error failure →
          verdict names = verdict check.expected) ∧
        ∀ records, check.recentAt source store now = .ok records →
          ((∀ name ∈ names, ¬ IsFailing records name) → verdict names = .healthy) ∧
          ∀ before name after, names = before ++ name :: after →
            (∀ other ∈ before, ¬ IsFailing records other) → IsFailing records name →
            verdict names =
              .error s!"service {name} has unexpected state {stateIn records name}" := by
  intro verdict
  cases read : check.recentAt source store now with
  | error failure =>
      have unread (names : List String) : verdict names = .error
          ("could not retrieve service status from the service_status table: " ++
            failure.text) := by
        have same : { check with expected := names }.recentAt source store now = .error failure :=
          read
        simp only [verdict, evaluate, same]
      refine ⟨by rw [unread, unread], fun names _ => ⟨by rw [unread, unread], ?_, ?_⟩⟩
      · intro _ _
        rw [unread, unread]
      · rintro _ ⟨⟩
  | ok records =>
      have judged (names : List String) : verdict names = judge names records := by
        have same : { check with expected := names }.recentAt source store now = .ok records := read
        simp only [verdict, evaluate, same]
      refine ⟨?_, fun names perm => ⟨?_, ?_, ?_⟩⟩
      · rw [judged, judged, judge_uniqueServices]
      · rw [judged, judged, ok_judge_perm perm]
      · rintro _ ⟨⟩
      · rintro _ ⟨⟩
        refine ⟨fun running => ?_, ?_⟩
        · rw [judged, judge_of_running running]
        · rintro before name after rfl running failing
          rw [judged, judge_of_failing running failing]

def repeatingCheck : Aggregation := { sampleCheck with expected := ["db", "api", "db", "web"] }

theorem evaluate_of_same_names_repeating :
    let store := Store.after StatusStore.step {} sampleReports
    let verdict (names : List String) :=
      { repeatingCheck with expected := names }.evaluate StatusSource.table store eleven
    ["web", "db", "api", "db"].Perm ["db", "api", "db", "web"] ∧
      verdict ["db", "api", "db", "web"] = .error "service api has unexpected state Stopped" ∧
      verdict ["db", "api", "web"] = .error "service api has unexpected state Stopped" ∧
      verdict ["web", "db", "api", "db"] = .error "service web has unexpected state " := by
  intro store verdict
  have years : ∀ operation ∈ sampleReports, ∀ moment ∈ operation.moments,
      Store.HasFourDigitYear moment := by
    decide +kernel
  have year : nine.HasFourDigitYear := by decide +kernel
  have represents := Store.after_represents Store.represents_empty years
  have window : Moment.before eleven .steady repeatingCheck.window = .ok nine := rfl
  have time : Moment.toInstant nine = .ok nine := rfl
  obtain ⟨records, recent, read⟩ := repeatingCheck.exists_recentAt represents window time year
  have state (name : String) := stateIn_eq_posting records name
  rw [read] at state
  have up : stateIn records "db" = "Running" := by
    rw [state]
    cbv
  have stopped : stateIn records "api" = "Stopped" := by
    rw [state]
    cbv
  have silent : stateIn records "web" = "" := by
    rw [state]
    cbv
  have perm : ["web", "db", "api", "db"].Perm ["db", "api", "db", "web"] := by decide
  obtain ⟨unique, order⟩ :=
    evaluate_of_same_names repeatingCheck StatusSource.table store eleven
  have first := ((order _ (List.Perm.refl _)).2.2 records recent).2 ["db"] "api" ["db", "web"] rfl
    (by simp [IsFailing, up, runningStatus]) (by simp [IsFailing, stopped, runningStatus])
  have other := ((order _ perm).2.2 records recent).2 [] "web" ["db", "api", "db"] rfl
    (List.forall_mem_nil _) (by simp [IsFailing, silent, runningStatus])
  rw [stopped] at first
  rw [silent] at other
  exact ⟨perm, first, unique.trans first, other⟩

end Aggregation

end Liveness.Fleet
