import Liveness.Proofs.Json.RoundTrip
import Liveness.Proofs.Store.Newest

/-!
The status store is the log that callers see: `answers_eq_log_answers`. The store compares texts of
times and breaks ties by row number; while every year has four digits, the order of the texts is the
order of the times, and row numbers grow along the log.
-/

namespace Liveness.Store

open Database (Cell)
open Time (Instant Moment Timestamp.ofInstant Timestamp.ofInstant_lt_ofInstant_iff
  Timestamp.ofInstant_inj)

/-! ## Rows and postings -/

theorem decode_eq_ok {row : Row} {t : Instant} (time : Time.Timestamp.read row.lastUpdate = .ok t)
    {extra : Json} (missing : row.metadata = none → extra = .null)
    (present : ∀ text ∈ row.metadata, Json.parse text = .ok extra) :
    row.decode = .ok ⟨row.name, row.status, t, row.executableName.getD "", row.version.getD "",
      pidOf row.pid, extra⟩ := by
  cases stored : row.metadata with
  | none =>
      obtain rfl := missing stored
      simp [Row.decode, time, stored, Except.mapError, bind, Except.bind, pure, Except.pure]
  | some text =>
      have parsed := present text stored
      simp [Row.decode, time, stored, parsed, Except.mapError, bind, Except.bind, pure, Except.pure]

theorem exists_decode {row : Row} {t : Instant} (time : Time.Timestamp.read row.lastUpdate = .ok t)
    (readable : ∀ text ∈ row.metadata, ∃ value, Json.parse text = .ok value) :
    ∃ extra, row.decode = .ok ⟨row.name, row.status, t, row.executableName.getD "",
      row.version.getD "", pidOf row.pid, extra⟩ := by
  have tells : ∃ extra, (row.metadata = none → extra = .null) ∧
      ∀ text ∈ row.metadata, Json.parse text = .ok extra := by
    cases stored : row.metadata with
    | none => exact ⟨.null, fun _ => rfl, by simp⟩
    | some text =>
        obtain ⟨value, parsed⟩ := readable text stored
        exact ⟨value, nofun, by simpa using parsed⟩
  obtain ⟨extra, missing, present⟩ := tells
  exact ⟨extra, decode_eq_ok time missing present⟩

theorem pidOf_map_integer (pid : Option Int) :
    pidOf ((pid.map Cell.integer).getD .null) = .integer (pid.getD 0) := by
  cases pid <;> rfl

/-- A row with the time that it tells, and with metadata that can be read. -/
structure Entry where
  id : Nat
  name : String
  status : String
  instant : Instant
  executableName : Option String
  version : Option String
  pid : Option Int
  metadata : Option String
  year : instant.HasFourDigitYear
  readable : ∀ text ∈ metadata, ∃ value, Json.parse text = .ok value

namespace Entry

def row (entry : Entry) : Row where
  id := entry.id
  name := entry.name
  executableName := entry.executableName
  version := entry.version
  pid := (entry.pid.map Cell.integer).getD .null
  status := entry.status
  metadata := entry.metadata
  lastUpdate := Timestamp.ofInstant entry.instant

def posting (entry : Entry) : Posting where
  name := entry.name
  status := entry.status
  instant := entry.instant
  executableName := entry.executableName.getD ""
  version := entry.version.getD ""
  pid := .integer (entry.pid.getD 0)

theorem pidOf_row (entry : Entry) : pidOf entry.row.pid = .integer (entry.pid.getD 0) :=
  pidOf_map_integer entry.pid

theorem exists_decode_row (entry : Entry) :
    ∃ record, entry.row.decode = .ok record ∧ record.posting = entry.posting := by
  have time : Time.Timestamp.read entry.row.lastUpdate = .ok entry.instant :=
    Time.Timestamp.read_ofInstant entry.year
  obtain ⟨extra, decoded⟩ := exists_decode time entry.readable
  refine ⟨_, decoded, ?_⟩
  rw [StatusRecord.posting, posting, entry.pidOf_row]
  rfl

theorem exists_mapM_decode (entries : List Entry) :
    ∃ records, (entries.map row).mapM Row.decode = .ok records ∧
      records.map StatusRecord.posting = entries.map posting := by
  induction entries with
  | nil => exact ⟨[], rfl, rfl⟩
  | cons entry entries ih =>
      obtain ⟨record, decoded, same⟩ := entry.exists_decode_row
      obtain ⟨records, rest, sames⟩ := ih
      refine ⟨record :: records, ?_, ?_⟩
      · simp [decoded, rest, bind, Except.bind, pure, Except.pure]
      · rw [List.map_cons, List.map_cons, same, sames]

theorem lt_lastUpdate_iff {t : Instant} (year : t.HasFourDigitYear) (entry : Entry) :
    Timestamp.ofInstant t < entry.row.lastUpdate ↔ t.micros < entry.instant.micros :=
  Timestamp.ofInstant_lt_ofInstant_iff year entry.year

theorem lastUpdate_lt_iff {t : Instant} (year : t.HasFourDigitYear) (entry : Entry) :
    entry.row.lastUpdate < Timestamp.ofInstant t ↔ entry.instant.micros < t.micros :=
  Timestamp.ofInstant_lt_ofInstant_iff entry.year year

theorem newerFirst_row {a b : Entry} {i j : Nat} (places : b.id ≤ a.id ↔ j ≤ i) :
    Row.newerFirst a.row b.row = Log.newerFirst (a.posting, i) (b.posting, j) := by
  have same := Timestamp.ofInstant_inj a.year b.year
  have later := Timestamp.ofInstant_lt_ofInstant_iff b.year a.year
  rw [Bool.eq_iff_iff]
  simp only [Row.newerFirst, Log.newerFirst, row, posting, same, later, places]
  by_cases h : a.instant = b.instant
  · simp [h]
  · simp [h, Ne.symm h]

end Entry

/-! ## The invariant -/

/-- Rows are those of the entries, and their numbers grow up to the last one given. -/
structure Holds (table : Table) (entries : List Entry) : Prop where
  rows : table.rows = entries.map Entry.row
  increasing : entries.Pairwise fun a b => a.id < b.id
  lastId : ∀ entry ∈ entries, entry.id ≤ table.lastId

def Represents (store : StatusStore) (log : Log) : Prop :=
  ∃ table entries, store.table = some table ∧ Holds table entries ∧ log = entries.map Entry.posting

theorem represents_empty : Represents {} [] :=
  ⟨{}, [], rfl, ⟨rfl, .nil, by simp⟩, rfl⟩

theorem Represents.exists_rows {store : StatusStore} {log : Log}
    (represents : Represents store log) :
    ∃ table, store.table = some table ∧ ∀ name,
      (table.rows.filter (·.name = name)).map (·.status) =
        (log.filter (·.name = name)).map (·.status) := by
  obtain ⟨table, entries, opened, holds, rfl⟩ := represents
  refine ⟨table, opened, fun name => ?_⟩
  rw [holds.rows, List.filter_map, List.filter_map, List.map_map, List.map_map]
  rfl

namespace Holds

variable {table : Table} {entries : List Entry}

theorem append (holds : Holds table entries) {entry : Entry} (next : entry.id = table.lastId + 1) :
    Holds ⟨table.rows ++ [entry.row], table.lastId + 1⟩ (entries ++ [entry]) where
  rows := by rw [holds.rows, List.map_append, List.map_singleton]
  increasing := by
    rw [List.pairwise_append]
    refine ⟨holds.increasing, List.pairwise_singleton .., fun a old b new => ?_⟩
    obtain rfl := List.mem_singleton.1 new
    have := holds.lastId a old
    omega
  lastId := by
    intro a member
    rcases List.mem_append.1 member with old | new
    · exact Nat.le_succ_of_le (holds.lastId a old)
    · rw [List.mem_singleton.1 new, next]

theorem filter (holds : Holds table entries) {keepRow : Row → Bool} {keep : Entry → Bool}
    (same : ∀ entry, keepRow entry.row = keep entry) :
    Holds { table with rows := table.rows.filter keepRow } (entries.filter keep) where
  rows := by
    have agree : keepRow ∘ Entry.row = keep := funext same
    rw [holds.rows, List.filter_map, agree]
  increasing := holds.increasing.filter _
  lastId entry member := holds.lastId entry (List.mem_filter.1 member).1

def recent (entries : List Entry) (since : Instant) : List (Entry × Nat) :=
  (entries.zipIdx.filter fun entry => since.micros < entry.1.instant.micros).mergeSort fun a b =>
    Log.newerFirst (a.1.posting, a.2) (b.1.posting, b.2)

theorem recentRows_eq (holds : Holds table entries) {since : Instant}
    (year : since.HasFourDigitYear) :
    StatusStore.recentRows table (Timestamp.ofInstant since) =
      ((recent entries since).map (·.1)).map Entry.row := by
  have later : (fun row : Row => decide (Timestamp.ofInstant since < row.lastUpdate)) ∘
      (fun entry : Entry × Nat => entry.1.row) =
        fun entry => decide (since.micros < entry.1.instant.micros) := by
    funext entry
    exact decide_eq_decide.2 (entry.1.lt_lastUpdate_iff year)
  have rows : table.rows = entries.zipIdx.map fun entry => entry.1.row := by
    conv_lhs => rw [holds.rows, ← List.zipIdx_map_fst 0 entries, List.map_map]
    rfl
  rw [StatusStore.recentRows, rows, List.filter_map, later, recent, List.map_map]
  symm
  apply List.map_mergeSort
  intro a ha b hb
  have places := key_le_key_iff holds.increasing (List.mem_filter.1 ha).1 (List.mem_filter.1 hb).1
  exact (Entry.newerFirst_row places).symm

theorem log_recent_eq (entries : List Entry) (since : Instant) :
    Log.recent (entries.map Entry.posting) since =
      ((recent entries since).map (·.1)).map Entry.posting := by
  have sorted : (recent entries since).map (fun entry => (entry.1.posting, entry.2)) =
      ((entries.map Entry.posting).zipIdx.filter fun entry =>
        since.micros < entry.1.instant.micros).mergeSort Log.newerFirst := by
    rw [recent, List.map_mergeSort (s := Log.newerFirst) (fun _ _ _ _ => rfl), List.zipIdx_map,
      List.filter_map]
    rfl
  rw [Log.recent, ← sorted, List.map_map, List.map_map]
  rfl

end Holds

/-! ## One operation -/

theorem exists_metadataText_found {extra : Json} (short : extra.exceedsDigits = false) :
    ∃ metadata found, metadataText extra = .ok metadata ∧ (metadata = none → found = .null) ∧
      (∀ text ∈ metadata, Json.parse text = .ok found) ∧
        (extra.isPlain = true → found = extra) := by
  unfold metadataText
  split
  · exact ⟨none, .null, rfl, fun _ => rfl, by simp, fun _ => rfl⟩
  · obtain ⟨found, parsed, plain⟩ := Json.parse_render short
    refine ⟨some (extra.render Json.Style.stored), found, by simp [short], nofun,
      fun text written => ?_, plain⟩
    obtain rfl := Option.mem_some_iff.1 written
    exact parsed

theorem exists_metadataText {extra : Json} (short : extra.exceedsDigits = false) :
    ∃ metadata, metadataText extra = .ok metadata ∧
      ∀ text ∈ metadata, ∃ value, Json.parse text = .ok value := by
  obtain ⟨metadata, found, written, -, present, -⟩ := exists_metadataText_found short
  exact ⟨metadata, written, fun text stored => ⟨found, present text stored⟩⟩

theorem exceedsDigits_of_metadataText {extra : Json} {metadata : Option String}
    (written : metadataText extra = .ok metadata) : extra.exceedsDigits = false := by
  unfold metadataText at written
  split at written
  · rfl
  · by_contra long
    rw [Bool.not_eq_false] at long
    rw [if_pos long] at written
    cases written

theorem rowOf_eq_ok {submission : Submission} {metadata : Option String} {lastUpdate : String}
    {id : Nat} {row : Row} : StatusStore.rowOf submission metadata lastUpdate id = .ok row ↔
      ∃ name status, submission.name = some name ∧ submission.status = some status ∧
        Cell.fitsInteger (submission.pid.getD 0) = true ∧
        ⟨id, name, submission.executableName, submission.version,
          (submission.pid.map Cell.integer).getD .null, status, metadata, lastUpdate⟩ = row := by
  unfold StatusStore.rowOf
  by_cases fits : Cell.fitsInteger (submission.pid.getD 0) = true
  · cases submission.name <;> cases submission.status <;> simp [fits, pure, Except.pure]
  · simp [fits, bind, Except.bind]

variable {store store' : StatusStore} {table : Table} {entries : List Entry} {log : Log}

theorem exists_insert (opened : store.table = some table) {submission : Submission}
    (year : HasFourDigitYear submission.reportedAt) {posting : Posting}
    (posts : submission.posting? = some posting) : ∃ entry : Entry,
      entry.id = table.lastId + 1 ∧ entry.posting = posting ∧
        store.insert submission = .ok ⟨some ⟨table.rows ++ [entry.row], table.lastId + 1⟩⟩ := by
  obtain ⟨name, status, t, named, reported, time, fits, short, rfl⟩ := posting?_eq_some.1 posts
  obtain ⟨metadata, written, readable⟩ := exists_metadataText short
  let entry : Entry := ⟨table.lastId + 1, name, status, t, submission.executableName,
    submission.version, submission.pid, metadata, year t time, readable⟩
  have row : StatusStore.rowOf submission metadata (Timestamp.ofInstant t) (table.lastId + 1) =
      .ok entry.row := rowOf_eq_ok.2 ⟨name, status, named, reported, fits, rfl⟩
  refine ⟨entry, rfl, rfl, ?_⟩
  simp [StatusStore.insert, written, Time.Timestamp.write, time, opened, row, Except.map,
    Except.mapError, bind, Except.bind, pure, Except.pure]

theorem exists_posting_of_insert {submission : Submission}
    (inserted : store.insert submission = .ok store') :
    ∃ posting, submission.posting? = some posting := by
  simp only [StatusStore.insert, bind_eq_ok, mapError_eq_ok, Time.Timestamp.write, map_eq_ok]
    at inserted
  obtain ⟨metadata, written, lastUpdate, ⟨t, time, -⟩, inserted⟩ := inserted
  have short := exceedsDigits_of_metadataText written
  cases opened : store.table with
  | none => simp [opened] at inserted
  | some table =>
      simp only [opened, bind_eq_ok, rowOf_eq_ok] at inserted
      obtain ⟨row, ⟨name, status, named, reported, fits, -⟩, -⟩ := inserted
      exact ⟨_, posting?_eq_some.2 ⟨name, status, t, named, reported, time, fits, short, rfl⟩⟩

theorem step_insert (represents : Represents store log) {submission : Submission}
    (year : HasFourDigitYear submission.reportedAt) :
    (store.step (.insert submission)).1 = (log.step (.insert submission)).1 ∧
      Represents (store.step (.insert submission)).2 (log.step (.insert submission)).2 := by
  obtain ⟨table, entries, opened, holds, rfl⟩ := represents
  cases posts : submission.posting? with
  | some posting =>
      obtain ⟨entry, next, posted, inserted⟩ := exists_insert opened year posts
      simp only [StatusStore.step_insert_eq, Log.step, inserted, posts, true_and]
      refine ⟨_, entries ++ [entry], rfl, holds.append next, ?_⟩
      rw [List.map_append, List.map_singleton, posted]
  | none =>
      cases inserted : store.insert submission with
      | ok store' =>
          obtain ⟨posting, posts'⟩ := exists_posting_of_insert inserted
          rw [posts] at posts'
          cases posts'
      | error fault =>
          simp only [StatusStore.step_insert_eq, Log.step, inserted, posts, true_and]
          exact ⟨table, entries, opened, holds, rfl⟩

theorem count_removed (holds : Holds table entries) {t : Instant} (year : t.HasFourDigitYear) :
    table.rows.length -
        (table.rows.filter fun row => ¬ row.lastUpdate < Timestamp.ofInstant t).length =
      (entries.map Entry.posting).countP fun posting => posting.instant.micros < t.micros := by
  have parts : table.rows.length = _ := List.length_eq_countP_add_countP
    fun row => decide (row.lastUpdate < Timestamp.ofInstant t)
  have before : (fun row : Row => decide (row.lastUpdate < Timestamp.ofInstant t)) ∘ Entry.row =
      fun entry => decide (entry.instant.micros < t.micros) :=
    funext fun entry => decide_eq_decide.2 (entry.lastUpdate_lt_iff year)
  simp only [decide_eq_true_eq] at parts
  rw [← List.countP_eq_length_filter, parts, Nat.add_sub_cancel, holds.rows, List.countP_map,
    before, List.countP_map]
  rfl

theorem step_removeBefore (represents : Represents store log) {cutoff : Moment}
    (year : HasFourDigitYear cutoff) :
    (store.step (.removeBefore cutoff)).1 = (log.step (.removeBefore cutoff)).1 ∧
      Represents (store.step (.removeBefore cutoff)).2 (log.step (.removeBefore cutoff)).2 := by
  obtain ⟨table, entries, opened, holds, rfl⟩ := represents
  cases time : cutoff.toInstant with
  | error fault =>
      have refused : store.removeBefore cutoff = .error (.time fault) := by
        simp [StatusStore.removeBefore, Time.Timestamp.write, time, Except.map, Except.mapError,
          bind, Except.bind]
      simp only [StatusStore.step_removeBefore_eq, Log.step, refused, time, true_and]
      exact ⟨table, entries, opened, holds, rfl⟩
  | ok t =>
      have year := year t time
      let keepRow (row : Row) : Bool := ¬ row.lastUpdate < Timestamp.ofInstant t
      let keep (entry : Entry) : Bool := t.micros ≤ entry.instant.micros
      have same (entry : Entry) : keepRow entry.row = keep entry :=
        decide_eq_decide.2 (by rw [entry.lastUpdate_lt_iff year, not_lt])
      have removed : store.removeBefore cutoff =
          .ok (table.rows.length - (table.rows.filter keepRow).length,
            ⟨some { table with rows := table.rows.filter keepRow }⟩) := by
        simp [StatusStore.removeBefore, Time.Timestamp.write, time, opened, keepRow, Except.map,
          Except.mapError, bind, Except.bind, pure, Except.pure]
      simp only [StatusStore.step_removeBefore_eq, Log.step, removed, time]
      refine ⟨congrArg _ (count_removed holds year), _, _, rfl, holds.filter same, ?_⟩
      rw [List.filter_map]
      rfl

theorem step_recent (represents : Represents store log) {since : Moment}
    (year : HasFourDigitYear since) :
    (store.step (.recent since)).1 = (log.step (.recent since)).1 ∧
      Represents (store.step (.recent since)).2 (log.step (.recent since)).2 := by
  obtain ⟨table, entries, opened, holds, rfl⟩ := represents
  have unchanged : Represents store (entries.map Entry.posting) :=
    ⟨table, entries, opened, holds, rfl⟩
  cases time : since.toInstant with
  | error fault =>
      have refused : store.recent since = .error (.time fault) := by
        simp [StatusStore.recent, Time.Timestamp.write, time, Except.map, Except.mapError, bind,
          Except.bind]
      simp only [StatusStore.step_recent_eq, Log.step, refused, time, true_and]
      exact unchanged
  | ok t =>
      have rows := holds.recentRows_eq (year t time)
      obtain ⟨records, decoded, postings⟩ :=
        Entry.exists_mapM_decode ((Holds.recent entries t).map (·.1))
      have found : store.recent since = .ok records := by
        rw [← decoded, ← rows]
        simp [StatusStore.recent, Time.Timestamp.write, time, opened, Except.map, Except.mapError,
          bind, Except.bind]
      simp only [StatusStore.step_recent_eq, Log.step, found, time, postings, Holds.log_recent_eq,
        true_and]
      exact unchanged

theorem Represents.exists_recent (represents : Represents store log) {since : Moment} {t : Instant}
    (time : since.toInstant = .ok t) (year : t.HasFourDigitYear) : ∃ records,
      store.recent since = .ok records ∧ records.map StatusRecord.posting = log.recent t := by
  have years : HasFourDigitYear since := by
    intro t' time'
    rw [time] at time'
    cases time'
    exact year
  have answer := (step_recent represents years).1
  cases found : store.recent since with
  | error fault => simp [StatusStore.step_recent_eq, Log.step, time, found] at answer
  | ok records =>
      simp only [StatusStore.step_recent_eq, Log.step, time, found, Answer.found.injEq] at answer
      exact ⟨records, rfl, answer⟩

/-- One operation is answered as by the log, and keeps the store and the log alike. -/
theorem step_represents (represents : Represents store log) {operation : Operation}
    (years : ∀ moment ∈ operation.moments, HasFourDigitYear moment) :
    (store.step operation).1 = (log.step operation).1 ∧
      Represents (store.step operation).2 (log.step operation).2 := by
  cases operation with
  | insert submission => exact step_insert represents (years _ (List.mem_singleton_self _))
  | removeBefore cutoff => exact step_removeBefore represents (years _ (List.mem_singleton_self _))
  | recent since => exact step_recent represents (years _ (List.mem_singleton_self _))
  | reopen =>
      obtain ⟨table, entries, opened, holds, rfl⟩ := represents
      exact ⟨rfl, table, entries, StatusStore.reopen_table opened, holds, rfl⟩

/-! ## A run of operations -/

theorem answers_eq (represents : Represents store log) {operations : List Operation}
    (years : ∀ operation ∈ operations, ∀ moment ∈ operation.moments, HasFourDigitYear moment) :
    answers StatusStore.step store operations = answers Log.step log operations := by
  induction operations generalizing store log with
  | nil => rfl
  | cons operation operations ih =>
      obtain ⟨year, years⟩ := List.forall_mem_cons.1 years
      obtain ⟨same, represents⟩ := step_represents represents year
      rw [answers, answers, same, ih represents years]

theorem after_represents (represents : Represents store log) {operations : List Operation}
    (years : ∀ operation ∈ operations, ∀ moment ∈ operation.moments, HasFourDigitYear moment) :
    Represents (after StatusStore.step store operations) (after Log.step log operations) := by
  induction operations generalizing store log with
  | nil => exact represents
  | cons operation operations ih =>
      obtain ⟨year, years⟩ := List.forall_mem_cons.1 years
      exact ih (step_represents represents year).2 years

/-- The store answers every run of operations as the log does, and refuses no complete ones. -/
theorem answers_eq_log_answers (operations : List Operation)
    (years : ∀ operation ∈ operations, ∀ moment ∈ operation.moments, HasFourDigitYear moment) :
    answers StatusStore.step {} operations = answers Log.step [] operations ∧
      ((∀ operation ∈ operations, operation.IsComplete) →
        .refused ∉ answers StatusStore.step {} operations) := by
  have same := answers_eq represents_empty years
  refine ⟨same, fun complete => ?_⟩
  rw [same]
  exact Log.refused_notMem_answers [] complete

def tenOClock : Instant := ⟨1767261600000000, by decide, by decide⟩

def noon : Instant := ⟨1767268800000000, by decide, by decide⟩

def sampleOperations : List Operation :=
  [.insert { name := some "db", status := some "Stopped", reportedAt := ⟨noon, some 7200⟩ },
    .insert { name := some "db", status := some "Running", reportedAt := ⟨tenOClock, none⟩ },
    .insert { name := some "web", status := some "Running", reportedAt := ⟨noon, some 0⟩,
              version := none },
    .reopen, .recent ⟨tenOClock, some 3600⟩, .removeBefore ⟨noon, none⟩,
    .recent ⟨tenOClock, some 3600⟩]

theorem answers_sampleOperations :
    (∀ operation ∈ sampleOperations, ∀ moment ∈ operation.moments, HasFourDigitYear moment) ∧
      (∀ operation ∈ sampleOperations, operation.IsComplete) ∧
      answers StatusStore.step {} sampleOperations =
        [.done, .done, .done, .done,
          .found [⟨"web", "Running", noon, "", "", .integer 0⟩,
            ⟨"db", "Running", tenOClock, "", "", .integer 0⟩,
            ⟨"db", "Stopped", tenOClock, "", "", .integer 0⟩],
          .removed 2, .found [⟨"web", "Running", noon, "", "", .integer 0⟩]] := by
  have years : ∀ operation ∈ sampleOperations, ∀ moment ∈ operation.moments,
      HasFourDigitYear moment := by
    decide +kernel
  have complete : ∀ operation ∈ sampleOperations, operation.IsComplete := by
    decide +kernel
  refine ⟨years, complete, ?_⟩
  rw [(answers_eq_log_answers sampleOperations years).1]
  cbv

end Liveness.Store
