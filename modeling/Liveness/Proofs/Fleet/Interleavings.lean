import Liveness.Proofs.Fleet.Aggregation
import Liveness.Proofs.Store.Readability

namespace Liveness.Store

open Fleet (latestStatuses lookup_latestStatuses)
open Time (Instant Moment Timestamp.ofInstant Timestamp.ofInstant_inj
  Timestamp.ofInstant_lt_ofInstant_iff)

/-! ## Interleavings -/

/-- The next item of a run is the next one of some writer, until all of them have finished. -/
inductive Interleaves {α : Type} : List (List α) → List α → Prop
  | done {writers : List (List α)} (finished : ∀ writer ∈ writers, writer = []) :
    Interleaves writers []
  | next {writers : List (List α)} {item : α} {writer run : List α} (place : Nat)
    (given : writers[place]? = some (item :: writer))
    (rest : Interleaves (writers.set place writer) run) : Interleaves writers (item :: run)

theorem Interleaves.perm {α : Type} {writers : List (List α)} {run : List α}
    (interleaves : Interleaves writers run) : run.Perm writers.flatten := by
  induction interleaves with
  | done finished => rw [List.flatten_eq_nil_iff.2 finished]
  | @next writers item writer run place given rest ih =>
      obtain ⟨bound, given⟩ := List.getElem?_eq_some_iff.1 given
      rw [List.set_eq_take_append_cons_drop, if_pos bound, List.flatten_append,
        List.flatten_cons] at ih
      have split : writers.flatten = (writers.take place).flatten ++
          item :: (writer ++ (writers.drop (place + 1)).flatten) := by
        conv_lhs =>
          rw [← List.take_append_drop place writers, List.drop_eq_getElem_cons bound, given]
        rw [List.flatten_append, List.flatten_cons, List.cons_append]
      rw [split]
      exact (ih.cons item).trans List.perm_middle.symm

def Operation.submission? : Operation → Option Submission
  | .insert submission => some submission
  | .removeBefore _ | .recent _ | .reopen => none

def written (run : List Operation) : List Row :=
  (run.filterMap Operation.submission?).filterMap Submission.row?

theorem perm_written {writers : List (List Submission)} {run : List Operation}
    (interleaves : Interleaves writers (run.filterMap Operation.submission?)) :
    (written run).Perm (writers.flatten.filterMap Submission.row?) :=
  interleaves.perm.filterMap _

/-! ## Rows that stay -/

section Kept

variable {run : List Operation} {keep : Row → Bool}

theorem filter_foldl_rows (keeps : ∀ cutoff t row, .removeBefore cutoff ∈ run →
      cutoff.toInstant = .ok t → keep row = true → ¬ row.lastUpdate < Timestamp.ofInstant t)
    (contents : List Row) :
    (run.foldl Operation.rows contents).filter keep = (contents ++ written run).filter keep := by
  induction run generalizing contents with
  | nil => simp [written]
  | cons operation run ih =>
      rw [List.foldl_cons, ih fun cutoff t row later => keeps cutoff t row (.tail _ later)]
      cases operation with
      | insert submission =>
          cases row : submission.row? <;> simp [Operation.rows, written, Operation.submission?, row]
      | removeBefore cutoff =>
          cases time : cutoff.toInstant with
          | error fault => simp only [Operation.rows, time]; rfl
          | ok t =>
              have stays : ∀ row ∈ contents,
                  (keep row && decide (¬ row.lastUpdate < Timestamp.ofInstant t)) = keep row := by
                intro row _
                cases kept : keep row with
                | false => rw [Bool.false_and]
                | true => simpa using keeps cutoff t row (.head _) time kept
              simp only [Operation.rows, time, List.filter_append, List.filter_filter]
              rw [List.filter_congr stays]
              rfl
      | recent since => rfl
      | reopen => rfl

theorem mem_foldl_rows {contents : List Row} {row : Row}
    (member : row ∈ run.foldl Operation.rows contents) : row ∈ contents ++ written run := by
  induction run generalizing contents with
  | nil => simpa [written] using member
  | cons operation run ih =>
      have member := ih member
      cases operation with
      | insert submission =>
          cases row : submission.row? <;>
            simpa [Operation.rows, written, Operation.submission?, row] using member
      | removeBefore cutoff =>
          cases time : cutoff.toInstant with
          | error fault =>
              rw [Operation.rows, time] at member
              exact member
          | ok t =>
              simp only [Operation.rows, time, List.mem_append, List.mem_filter] at member
              exact List.mem_append.2 (member.imp And.left id)
      | recent since => exact member
      | reopen => exact member

end Kept

def StatusStore.contents (store : StatusStore) : List Row :=
  (store.table.map Table.contents).getD []

theorem exists_table_after (run : List Operation) : ∃ table,
    (after StatusStore.step {} run).table = some table ∧
      table.contents = run.foldl Operation.rows [] := by
  have empty : ({} : StatusStore).table = some {} := rfl
  exact after_rows empty run

theorem contents_of_opened {store : StatusStore} {table : Table}
    (opened : store.table = some table) : store.contents = table.contents := by
  rw [StatusStore.contents, opened]
  rfl

theorem contents_after (run : List Operation) :
    (after StatusStore.step {} run).contents = run.foldl Operation.rows [] := by
  obtain ⟨table, opened, contents⟩ := exists_table_after run
  rw [contents_of_opened opened, contents]

/-! ## Readings of rows in any order -/

theorem newerFirst_iff {a b : Row} : a.newerFirst b = true ↔
    b.lastUpdate < a.lastUpdate ∨ a.lastUpdate = b.lastUpdate ∧ b.id ≤ a.id := by
  rw [Row.newerFirst]
  split
  next same => simp [same]
  next other => simp [other]

theorem newerFirst_total (a b : Row) : (a.newerFirst b || b.newerFirst a) = true := by
  rw [Bool.or_eq_true, newerFirst_iff, newerFirst_iff]
  rcases lt_trichotomy a.lastUpdate b.lastUpdate with before | same | behind
  · exact .inr (.inl before)
  · rcases Nat.le_total b.id a.id with le | le
    · exact .inl (.inr ⟨same, le⟩)
    · exact .inr (.inr ⟨same.symm, le⟩)
  · exact .inl (.inl behind)

theorem newerFirst_trans (a b c : Row) (ab : a.newerFirst b = true) (bc : b.newerFirst c = true) :
    a.newerFirst c = true := by
  rw [newerFirst_iff] at *
  rcases ab with ab | ⟨same, ab⟩
  · rcases bc with bc | ⟨same, -⟩
    · exact .inl (bc.trans ab)
    · exact .inl (same ▸ ab)
  · rcases bc with bc | ⟨same', bc⟩
    · exact .inl (same ▸ bc)
    · exact .inr ⟨same.trans same', bc.trans ab⟩

def found (table : Table) (text : String) : List Row :=
  (StatusStore.recentRows table text).map Row.content

theorem found_perm (table : Table) (text : String) :
    (found table text).Perm (table.contents.filter fun row => text < row.lastUpdate) := by
  rw [Table.contents, List.filter_map]
  exact (List.mergeSort_perm ..).map _

theorem found_pairwise (table : Table) (text : String) :
    (found table text).Pairwise fun a b => b.lastUpdate ≤ a.lastUpdate := by
  rw [found, List.pairwise_map]
  refine (List.pairwise_mergeSort newerFirst_trans newerFirst_total _).imp ?_
  intro a b newer
  rcases newerFirst_iff.1 newer with later | ⟨same, -⟩
  · exact later.le
  · exact same.ge

theorem filter_found_eq {table table' : Table} {text : String} (kind : Row → Bool)
    (same : (table.contents.filter fun row => text < row.lastUpdate).Perm
      (table'.contents.filter fun row => text < row.lastUpdate))
    (distinct : (((table.contents.filter fun row => text < row.lastUpdate).filter kind).map
      (·.lastUpdate)).Nodup) :
    (found table text).filter kind = (found table' text).filter kind := by
  have here := (found_perm table text).filter kind
  have there := ((found_perm table' text).trans same.symm).filter kind
  apply List.Perm.eq_of_pairwise _ ((found_pairwise table text).filter kind)
    ((found_pairwise table' text).filter kind) (here.trans there.symm)
  intro a b memberA memberB later earlier
  exact List.inj_on_of_nodup_map distinct (here.mem_iff.1 memberA) (there.mem_iff.1 memberB)
    (le_antisymm earlier later)

theorem recent_eq_mapM_found {store : StatusStore} {table : Table}
    (opened : store.table = some table) {since : Moment} {start : Instant}
    (time : since.toInstant = .ok start) :
    store.recent since = (found table (Timestamp.ofInstant start)).mapM Row.decode := by
  rw [recent_eq_mapM opened time, found, List.mapM_map]
  rfl

theorem name_status_of_decode {row : Row} {record : StatusRecord}
    (decoded : row.decode = .ok record) : record.name = row.name ∧ record.status = row.status := by
  simp only [Row.decode, bind_eq_ok] at decoded
  obtain ⟨t, -, decoded⟩ := decoded
  split at decoded
  all_goals
    obtain ⟨extra, -, made⟩ := bind_eq_ok.1 decoded
    obtain rfl := Except.ok.inj made
    exact ⟨rfl, rfl⟩

theorem lookup_latestStatuses_of_mapM {rows : List Row} {records : List StatusRecord}
    (read : rows.mapM Row.decode = .ok records) (name : String) :
    (latestStatuses records).lookup name =
      (rows.filter fun row => row.name = name).head?.map (·.status) := by
  rw [lookup_latestStatuses, List.head?_filter]
  rw [mapM_eq_ok] at read
  induction read with
  | nil => rfl
  | cons decoded read ih =>
      obtain ⟨sameName, sameStatus⟩ := name_status_of_decode decoded
      rw [List.map_cons, List.find?_cons, List.find?_cons]
      simp only [StatusRecord.posting, sameName]
      split
      · rw [Option.map_some, Option.map_some, sameStatus]
      · exact ih

/-! ## Records of different times -/

section Times

variable {submissions : List Submission}

theorem names_times_eq (submissions : List Submission) :
    (submissions.filterMap Submission.row?).map (fun row => (row.name, row.lastUpdate)) =
      (submissions.filterMap Submission.posting?).map fun posting =>
        (posting.name, Timestamp.ofInstant posting.instant) := by
  have tells := forall₂_tells submissions
  generalize submissions.filterMap Submission.row? = rows at tells ⊢
  generalize submissions.filterMap Submission.posting? = postings at tells ⊢
  induction tells with
  | nil => rfl
  | cons tells _ ih => rw [List.map_cons, List.map_cons, ih, tells.name, tells.lastUpdate]

variable (years : ∀ submission ∈ submissions, HasFourDigitYear submission.reportedAt)

include years

theorem hasFourDigitYear_of_mem {posting : Posting}
    (member : posting ∈ submissions.filterMap Submission.posting?) :
    posting.instant.HasFourDigitYear := by
  obtain ⟨submission, listed, posts⟩ := List.mem_filterMap.1 member
  obtain ⟨name, status, t, -, -, time, -, -, rfl⟩ := posting?_eq_some.1 posts
  exact years submission listed t time

theorem nodup_times (distinct : ((submissions.filterMap Submission.posting?).map
      (·.instant)).Nodup) :
    ((submissions.filterMap Submission.row?).map (·.lastUpdate)).Nodup := by
  have times : (submissions.filterMap Submission.row?).map (·.lastUpdate) =
      ((submissions.filterMap Submission.posting?).map (·.instant)).map Timestamp.ofInstant := by
    simpa [Function.comp_def] using congrArg (List.map Prod.snd) (names_times_eq submissions)
  rw [times]
  refine distinct.map_on ?_
  intro t member t' member' same
  obtain ⟨posting, listed, rfl⟩ := List.mem_map.1 member
  obtain ⟨posting', listed', rfl⟩ := List.mem_map.1 member'
  exact (Timestamp.ofInstant_inj (hasFourDigitYear_of_mem years listed)
    (hasFourDigitYear_of_mem years listed')).1 same

theorem nodup_times_of_name (distinct : ((submissions.filterMap Submission.posting?).map
      fun posting => (posting.name, posting.instant)).Nodup) (name : String) :
    (((submissions.filterMap Submission.row?).filter (·.name = name)).map
      (·.lastUpdate)).Nodup := by
  have pairs : ((submissions.filterMap Submission.row?).map
      fun row => (row.name, row.lastUpdate)).Nodup := by
    have split : (submissions.filterMap Submission.posting?).map (fun posting =>
        (posting.name, Timestamp.ofInstant posting.instant)) =
          ((submissions.filterMap Submission.posting?).map fun posting =>
            (posting.name, posting.instant)).map (Prod.map id Timestamp.ofInstant) := by
      rw [List.map_map]
      rfl
    rw [names_times_eq, split]
    refine distinct.map_on ?_
    intro pair member pair' member' same
    obtain ⟨posting, listed, rfl⟩ := List.mem_map.1 member
    obtain ⟨posting', listed', rfl⟩ := List.mem_map.1 member'
    obtain ⟨names, times⟩ := Prod.mk.inj same
    rw [Timestamp.ofInstant_inj (hasFourDigitYear_of_mem years listed)
      (hasFourDigitYear_of_mem years listed')] at times
    exact Prod.ext names times
  refine (pairs.of_map.filter _).map_on ?_
  intro row member row' member' same
  obtain ⟨listed, named⟩ := List.mem_filter.1 member
  obtain ⟨listed', named'⟩ := List.mem_filter.1 member'
  refine List.inj_on_of_nodup_map pairs listed listed' (Prod.ext ?_ same)
  exact (of_decide_eq_true named).trans (of_decide_eq_true named').symm

end Times

/-! ## Two interleavings -/

theorem not_lt_of_le {cutoff since : Moment} {t start : Instant} (year : HasFourDigitYear cutoff)
    (time : cutoff.toInstant = .ok t) (begins : since.toInstant = .ok start)
    (le : cutoff.utcMicros ≤ since.utcMicros) {text : String}
    (later : Timestamp.ofInstant start < text) : ¬ text < Timestamp.ofInstant t := by
  rw [← Time.Moment.micros_of_toInstant time, ← Time.Moment.micros_of_toInstant begins] at le
  have year := year t time
  have year' : start.HasFourDigitYear := by
    by_contra short
    unfold Instant.HasFourDigitYear at year short
    have before : start.toWall.Before t.toWall := .inl (by
      change start.year < t.year
      omega)
    exact absurd ((Instant.micros_lt_micros_iff start t).2 before) (by omega)
  have order : Timestamp.ofInstant t ≤ Timestamp.ofInstant start := by
    rw [← not_lt, Timestamp.ofInstant_lt_ofInstant_iff year' year]
    omega
  exact (order.trans_lt later).asymm

section Runs

variable {writers : List (List Submission)} {run run' : List Operation}

theorem hasFourDigitYear_of_interleaves
    (interleaves : Interleaves writers (run.filterMap Operation.submission?))
    (years : ∀ operation ∈ run, ∀ moment ∈ operation.moments, HasFourDigitYear moment) :
    ∀ submission ∈ writers.flatten, HasFourDigitYear submission.reportedAt := by
  intro submission given
  obtain ⟨operation, listed, own⟩ :=
    List.mem_filterMap.1 (interleaves.perm.mem_iff.2 given)
  cases operation with
  | insert submission' =>
      obtain rfl := Option.some.inj own
      exact years _ listed _ (List.mem_singleton_self _)
  | removeBefore cutoff => cases own
  | recent since => cases own
  | reopen => cases own

theorem filter_contents_perm
    (interleaves : Interleaves writers (run.filterMap Operation.submission?)) {keep : Row → Bool}
    (keeps : ∀ cutoff t row, .removeBefore cutoff ∈ run → cutoff.toInstant = .ok t →
      keep row = true → ¬ row.lastUpdate < Timestamp.ofInstant t) :
    ((after StatusStore.step {} run).contents.filter keep).Perm
      ((writers.flatten.filterMap Submission.row?).filter keep) := by
  rw [contents_after, filter_foldl_rows keeps, List.nil_append]
  exact (perm_written interleaves).filter keep

theorem later_contents_perm
    (interleaves : Interleaves writers (run.filterMap Operation.submission?))
    (years : ∀ operation ∈ run, ∀ moment ∈ operation.moments, HasFourDigitYear moment)
    {since : Moment} {start : Instant} (time : since.toInstant = .ok start)
    (cutoffs : ∀ cutoff, .removeBefore cutoff ∈ run → cutoff.utcMicros ≤ since.utcMicros) :
    ((after StatusStore.step {} run).contents.filter
        fun row => Timestamp.ofInstant start < row.lastUpdate).Perm
      ((writers.flatten.filterMap Submission.row?).filter
        fun row => Timestamp.ofInstant start < row.lastUpdate) := by
  refine filter_contents_perm interleaves fun cutoff t row removed time' later => ?_
  exact not_lt_of_le (years _ removed _ (List.mem_singleton_self _)) time' time
    (cutoffs cutoff removed) (of_decide_eq_true later)

theorem isOk_recent_after
    (interleaves : Interleaves writers (run.filterMap Operation.submission?))
    (years : ∀ operation ∈ run, ∀ moment ∈ operation.moments, HasFourDigitYear moment)
    {since : Moment} {start : Instant} (time : since.toInstant = .ok start) :
    ((after StatusStore.step {} run).recent since).isOk = true := by
  have years := hasFourDigitYear_of_interleaves interleaves years
  obtain ⟨table, opened, contents⟩ := exists_table_after run
  rw [recent_eq_mapM_found opened time, isOk_mapM_iff]
  intro row member
  have listed := (List.mem_filter.1 ((found_perm table _).mem_iff.1 member)).1
  rw [contents] at listed
  have listed := (perm_written interleaves).mem_iff.1 (mem_foldl_rows listed)
  obtain ⟨submission, given, written⟩ := List.mem_filterMap.1 listed
  obtain ⟨posting, posts, tells⟩ := exists_tells_of_row? written
  exact tells.isOk_decode_iff.2
    (hasFourDigitYear_of_mem years (List.mem_filterMap.2 ⟨submission, given, posts⟩))

theorem filter_found_agree
    (interleaves : Interleaves writers (run.filterMap Operation.submission?))
    (interleaves' : Interleaves writers (run'.filterMap Operation.submission?))
    (years : ∀ operation ∈ run ++ run', ∀ moment ∈ operation.moments, HasFourDigitYear moment)
    {table table' : Table} (opened : (after StatusStore.step {} run).table = some table)
    (opened' : (after StatusStore.step {} run').table = some table')
    {since : Moment} {start : Instant} (time : since.toInstant = .ok start)
    (cutoffs : ∀ cutoff, .removeBefore cutoff ∈ run ++ run' → cutoff.utcMicros ≤ since.utcMicros)
    (kind : Row → Bool) (distinct : (((writers.flatten.filterMap Submission.row?).filter kind).map
      (·.lastUpdate)).Nodup) :
    (found table (Timestamp.ofInstant start)).filter kind =
      (found table' (Timestamp.ofInstant start)).filter kind := by
  obtain ⟨years, years'⟩ := List.forall_mem_append.1 years
  have here := later_contents_perm interleaves years time
    fun cutoff removed => cutoffs cutoff (List.mem_append_left _ removed)
  have there := later_contents_perm interleaves' years' time
    fun cutoff removed => cutoffs cutoff (List.mem_append_right _ removed)
  rw [contents_of_opened opened] at here
  rw [contents_of_opened opened'] at there
  refine filter_found_eq kind (here.trans there.symm) ?_
  rw [((here.filter kind).map _).nodup_iff]
  exact distinct.sublist ((List.filter_sublist.filter kind).map _)

def latestByName (records : List StatusRecord) (name : String) : Option String :=
  (latestStatuses records).lookup name

/-- However the inserts of several writers interleave, and whatever is removed in between that is
not later than `since`: every later record is there once, and a reading is the same when no two
records tell one time. When no two of one name do, at least the latest statuses are the same. -/
theorem readings_agree
    (interleaves : Interleaves writers (run.filterMap Operation.submission?))
    (interleaves' : Interleaves writers (run'.filterMap Operation.submission?))
    (years : ∀ operation ∈ run ++ run', ∀ moment ∈ operation.moments, HasFourDigitYear moment) :
    let store := after StatusStore.step {} run
    let store' := after StatusStore.step {} run'
    let rows := writers.flatten.filterMap Submission.row?
    let postings := writers.flatten.filterMap Submission.posting?
    ((∀ cutoff, .removeBefore cutoff ∉ run) → store.contents.Perm rows) ∧
      ∀ since : Moment,
        (∀ cutoff, .removeBefore cutoff ∈ run ++ run' → cutoff.utcMicros ≤ since.utcMicros) →
          (∀ start, since.toInstant = .ok start → (store.recent since).isOk = true ∧
            (store.contents.filter fun row => Timestamp.ofInstant start < row.lastUpdate).Perm
              (rows.filter fun row => Timestamp.ofInstant start < row.lastUpdate)) ∧
          ((postings.map (·.instant)).Nodup → store.recent since = store'.recent since) ∧
          ((postings.map fun posting => (posting.name, posting.instant)).Nodup →
            (store.recent since).map latestByName = (store'.recent since).map latestByName) := by
  intro store store' rows postings
  have early := List.forall_mem_append.1 years
  have timely := hasFourDigitYear_of_interleaves interleaves early.1
  refine ⟨fun unremoved => ?_, fun since cutoffs => ?_⟩
  · have all : (store.contents.filter fun _ => true).Perm (rows.filter fun _ => true) :=
      filter_contents_perm interleaves fun cutoff t row removed => absurd removed (unremoved cutoff)
    rwa [List.filter_true, List.filter_true] at all
  obtain ⟨table, opened, -⟩ := exists_table_after run
  obtain ⟨table', opened', -⟩ := exists_table_after run'
  cases time : since.toInstant with
  | error fault =>
      have same : store.recent since = store'.recent since := by
        simp [StatusStore.recent, Time.Timestamp.write, time, Except.map, Except.mapError, bind,
          Except.bind]
      refine ⟨?_, fun _ => same, fun _ => by rw [same]⟩
      intro _ begins
      cases begins
  | ok start =>
      have agree := filter_found_agree interleaves interleaves' years opened opened' time cutoffs
      refine ⟨?_, fun distinct => ?_, fun distinct => ?_⟩
      · intro _ begins
        obtain rfl := Except.ok.inj begins
        refine ⟨isOk_recent_after interleaves early.1 time, ?_⟩
        exact later_contents_perm interleaves early.1 time
          fun cutoff removed => cutoffs cutoff (List.mem_append_left _ removed)
      · have same := agree (fun _ => true) (by
          rw [List.filter_true]
          exact nodup_times timely distinct)
        rw [List.filter_true, List.filter_true] at same
        rw [recent_eq_mapM_found opened time, recent_eq_mapM_found opened' time, same]
      · obtain ⟨records, read⟩ := exists_of_isOk (isOk_recent_after interleaves early.1 time)
        obtain ⟨records', read'⟩ := exists_of_isOk (isOk_recent_after interleaves' early.2 time)
        have latest : latestByName records = latestByName records' := by
          funext name
          have same := agree (fun row => row.name = name) (nodup_times_of_name timely distinct name)
          rw [recent_eq_mapM_found opened time] at read
          rw [recent_eq_mapM_found opened' time] at read'
          rw [latestByName, latestByName, lookup_latestStatuses_of_mapM read,
            lookup_latestStatuses_of_mapM read', same]
        rw [read, read', Except.map, Except.map, latest]

end Runs

def eight : Instant := ⟨1767254400000000, by decide, by decide⟩

def statusAt (moment : Moment) (name status : String) : Submission :=
  { name := some name, status := some status, reportedAt := moment }

def twoWriters (last : Instant) : List (List Submission) :=
  [[statusAt tenOClock "db" "Stopped", statusAt last "db" "Running"],
    [statusAt eight "web" "Stopped", statusAt ⟨noon, some 3600⟩ "web" "Running"]]

def inTurns (last : Instant) : List Operation :=
  [.insert (statusAt tenOClock "db" "Stopped"), .insert (statusAt eight "web" "Stopped"),
    .removeBefore tenOClock, .insert (statusAt last "db" "Running"),
    .insert (statusAt ⟨noon, some 3600⟩ "web" "Running")]

def oneByOne (last : Instant) : List Operation :=
  [.removeBefore tenOClock, .insert (statusAt eight "web" "Stopped"),
    .insert (statusAt ⟨noon, some 3600⟩ "web" "Running"), .recent tenOClock,
    .insert (statusAt tenOClock "db" "Stopped"), .insert (statusAt last "db" "Running")]

theorem interleaves_inTurns (last : Instant) :
    Interleaves (twoWriters last) ((inTurns last).filterMap Operation.submission?) :=
  .next 0 rfl (.next 1 rfl (.next 0 rfl (.next 1 rfl (.done (by simp [twoWriters])))))

theorem interleaves_oneByOne (last : Instant) :
    Interleaves (twoWriters last) ((oneByOne last).filterMap Operation.submission?) :=
  .next 1 rfl (.next 1 rfl (.next 0 rfl (.next 0 rfl (.done (by simp [twoWriters])))))

theorem years_runs : ∀ last ∈ [noon, Fleet.Aggregation.eleven],
    ∀ operation ∈ inTurns last ++ oneByOne last, ∀ moment ∈ operation.moments,
      HasFourDigitYear moment := by
  decide +kernel

theorem cutoffs_runs (last : Instant) : ∀ cutoff,
    .removeBefore cutoff ∈ inTurns last ++ oneByOne last →
      cutoff.utcMicros ≤ Moment.utcMicros tenOClock := by
  intro cutoff removed
  simp only [inTurns, oneByOne, List.mem_append, List.mem_cons, List.not_mem_nil, reduceCtorEq,
    Operation.removeBefore.injEq, false_or, or_false, or_self] at removed
  exact removed ▸ le_rfl

theorem readings_agree_twoWriters :
    let store (run : Instant → List Operation) (last : Instant) :=
      after StatusStore.step {} (run last)
    (store inTurns noon).contents.length = 3 ∧ (store oneByOne noon).contents.length = 4 ∧
      ((store inTurns noon).recent tenOClock).isOk = true ∧
      (store inTurns noon).recent tenOClock = (store oneByOne noon).recent tenOClock ∧
      ((store inTurns Fleet.Aggregation.eleven).recent tenOClock).map latestByName =
        ((store oneByOne Fleet.Aggregation.eleven).recent tenOClock).map latestByName := by
  have agree (last : Instant) (listed : last ∈ [noon, Fleet.Aggregation.eleven]) :=
    (readings_agree (interleaves_inTurns last) (interleaves_oneByOne last)
      (years_runs last listed)).2 tenOClock (cutoffs_runs last)
  obtain ⟨found, same, -⟩ := agree noon (.head _)
  obtain ⟨-, -, latest⟩ := agree Fleet.Aggregation.eleven (.tail _ (.head _))
  refine ⟨by decide +kernel, by decide +kernel, (found tenOClock rfl).1, ?_, ?_⟩
  · exact same (by decide +kernel)
  · exact latest (by decide +kernel)

end Liveness.Store
