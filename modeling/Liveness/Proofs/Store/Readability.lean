import Liveness.Proofs.Store.Refinement

namespace Liveness.Store

open Database (Cell)
open Time (Instant Moment Timestamp.ofInstant)

/-! ## Rows without their numbers -/

def Row.content (row : Row) : Row := { row with id := 0 }

/-- What is written for a submission, but for the number of the row. -/
def Submission.row? (submission : Submission) : Option Row :=
  let row : Except StoreFault Row := do
    let metadata ← metadataText submission.extra
    let lastUpdate ← (Time.Timestamp.write submission.reportedAt).mapError .time
    StatusStore.rowOf submission metadata lastUpdate 0
  row.toOption

theorem row?_eq_some {submission : Submission} {row : Row} : submission.row? = some row ↔
    ∃ metadata t name status, metadataText submission.extra = .ok metadata ∧
      submission.reportedAt.toInstant = .ok t ∧ submission.name = some name ∧
      submission.status = some status ∧ Cell.fitsInteger (submission.pid.getD 0) = true ∧
      ⟨0, name, submission.executableName, submission.version,
        (submission.pid.map Cell.integer).getD .null, status, metadata,
        Timestamp.ofInstant t⟩ = row := by
  simp only [Submission.row?, toOption_eq_some, bind_eq_ok, mapError_eq_ok, Time.Timestamp.write,
    map_eq_ok, rowOf_eq_ok]
  constructor
  · rintro ⟨metadata, written, _, ⟨t, time, rfl⟩, name, status, named, reported, fits, rfl⟩
    exact ⟨metadata, t, name, status, written, time, named, reported, fits, rfl⟩
  · rintro ⟨metadata, t, name, status, written, time, named, reported, fits, rfl⟩
    exact ⟨metadata, written, _, ⟨t, time, rfl⟩, name, status, named, reported, fits, rfl⟩

theorem insert_eq_ok {store store' : StatusStore} {table : Table} {submission : Submission}
    (opened : store.table = some table) : store.insert submission = .ok store' ↔
      ∃ row, submission.row? = some row ∧
        ⟨some ⟨table.rows ++ [{ row with id := table.lastId + 1 }], table.lastId + 1⟩⟩ =
          store' := by
  simp only [StatusStore.insert, opened, bind_eq_ok, mapError_eq_ok, Time.Timestamp.write,
    map_eq_ok, rowOf_eq_ok, row?_eq_some]
  constructor
  · rintro ⟨metadata, written, _, ⟨t, time, rfl⟩, _, ⟨name, status, named, reported, fits, rfl⟩,
      inserted⟩
    exact ⟨_, ⟨metadata, t, name, status, written, time, named, reported, fits, rfl⟩,
      Except.ok.inj inserted⟩
  · rintro ⟨_, ⟨metadata, t, name, status, written, time, named, reported, fits, rfl⟩, rfl⟩
    exact ⟨metadata, written, _, ⟨t, time, rfl⟩, _, ⟨name, status, named, reported, fits, rfl⟩, rfl⟩

theorem insert_cases {store : StatusStore} {table : Table} (opened : store.table = some table)
    (submission : Submission) :
    (∃ row, submission.row? = some row ∧ store.insert submission =
      .ok ⟨some ⟨table.rows ++ [{ row with id := table.lastId + 1 }], table.lastId + 1⟩⟩) ∨
    (submission.row? = none ∧ ∃ fault, store.insert submission = .error fault) := by
  cases written : submission.row? with
  | some row => exact .inl ⟨row, rfl, (insert_eq_ok opened).2 ⟨row, written, rfl⟩⟩
  | none =>
      cases inserted : store.insert submission with
      | ok store' =>
          obtain ⟨row, written', -⟩ := (insert_eq_ok opened).1 inserted
          rw [written] at written'
          cases written'
      | error fault => exact .inr ⟨rfl, fault, rfl⟩

/-! ## Rows after a run -/

def Table.contents (table : Table) : List Row := table.rows.map Row.content

theorem contents_empty : ({} : Table).contents = [] := rfl

def Operation.rows (contents : List Row) : Operation → List Row
  | .insert submission => contents ++ submission.row?.toList
  | .removeBefore cutoff =>
    match cutoff.toInstant with
    | .ok t => contents.filter fun row => ¬ row.lastUpdate < Timestamp.ofInstant t
    | .error _ => contents
  | .recent _ | .reopen => contents

theorem step_rows {store : StatusStore} {table : Table} (opened : store.table = some table)
    (operation : Operation) : ∃ table', (store.step operation).2.table = some table' ∧
      table'.contents = operation.rows table.contents := by
  cases operation with
  | insert submission =>
      cases inserted : store.insert submission with
      | ok store' =>
          obtain ⟨row, written, rfl⟩ := (insert_eq_ok opened).1 inserted
          have own : row.content = row := by
            obtain ⟨_, _, _, _, _, _, _, _, _, rfl⟩ := row?_eq_some.1 written
            rfl
          refine ⟨_, by rw [StatusStore.step_insert_eq, inserted], ?_⟩
          simp only [Operation.rows, written, Table.contents, List.map_append, List.map_singleton,
            Option.toList_some]
          rw [← own]
          rfl
      | error fault =>
          have refused : submission.row? = none := by
            rw [Option.eq_none_iff_forall_ne_some]
            intro row written
            rw [(insert_eq_ok opened).2 ⟨row, written, rfl⟩] at inserted
            cases inserted
          refine ⟨table, by rw [StatusStore.step_insert_eq, inserted]; exact opened, ?_⟩
          rw [Operation.rows, refused, Option.toList_none, List.append_nil]
  | removeBefore cutoff =>
      cases time : cutoff.toInstant with
      | ok t =>
          refine ⟨{ table with rows := table.rows.filter fun row =>
            ¬ row.lastUpdate < Timestamp.ofInstant t }, ?_, ?_⟩
          · simp [StatusStore.step_removeBefore_eq, StatusStore.removeBefore, Time.Timestamp.write,
              time, opened, Except.map, Except.mapError, bind, Except.bind, pure, Except.pure]
          · simp only [Operation.rows, time, Table.contents, List.filter_map]
            rfl
      | error fault =>
          refine ⟨table, ?_, by simp only [Operation.rows, time]⟩
          simpa [StatusStore.step_removeBefore_eq, StatusStore.removeBefore, Time.Timestamp.write,
            time, Except.map, Except.mapError, bind, Except.bind] using opened
  | recent since =>
      refine ⟨table, ?_, rfl⟩
      rw [StatusStore.step_recent_eq]
      split <;> exact opened
  | reopen =>
      exact ⟨table, StatusStore.reopen_table opened, rfl⟩

theorem after_rows {store : StatusStore} {table : Table} (opened : store.table = some table)
    (operations : List Operation) : ∃ table',
      (after StatusStore.step store operations).table = some table' ∧
        table'.contents = operations.foldl Operation.rows table.contents := by
  induction operations generalizing store table with
  | nil => exact ⟨table, opened, rfl⟩
  | cons operation operations ih =>
      obtain ⟨middle, opened, contents⟩ := step_rows opened operation
      obtain ⟨table', opened', contents'⟩ := ih opened
      exact ⟨table', opened', by rw [contents', contents, List.foldl_cons]⟩

theorem foldl_rows_of_inserts (contents : List Row) (submissions : List Submission) :
    (submissions.map Operation.insert).foldl Operation.rows contents =
      contents ++ submissions.filterMap Submission.row? := by
  induction submissions generalizing contents with
  | nil => simp
  | cons submission submissions ih =>
      rw [List.map_cons, List.foldl_cons, ih, Operation.rows, List.append_assoc]
      cases written : submission.row? <;> simp [written]

/-! ## Reading rows back -/

structure Row.Tells (row : Row) (posting : Posting) : Prop where
  name : row.name = posting.name
  status : row.status = posting.status
  executableName : row.executableName.getD "" = posting.executableName
  version : row.version.getD "" = posting.version
  pid : pidOf row.pid = posting.pid
  lastUpdate : row.lastUpdate = Timestamp.ofInstant posting.instant
  readable : ∀ text ∈ row.metadata, ∃ value, Json.parse text = .ok value

theorem tells_content {row : Row} {posting : Posting} :
    row.content.Tells posting ↔ row.Tells posting :=
  ⟨fun ⟨name, status, executable, version, pid, time, readable⟩ =>
      ⟨name, status, executable, version, pid, time, readable⟩,
    fun ⟨name, status, executable, version, pid, time, readable⟩ =>
      ⟨name, status, executable, version, pid, time, readable⟩⟩

theorem exists_tells_of_row? {submission : Submission} {row : Row}
    (written : submission.row? = some row) :
    ∃ posting, submission.posting? = some posting ∧ row.Tells posting := by
  obtain ⟨metadata, t, name, status, encoded, time, named, reported, fits, rfl⟩ :=
    row?_eq_some.1 written
  have short := exceedsDigits_of_metadataText encoded
  obtain ⟨metadata', encoded', readable⟩ := exists_metadataText short
  rw [encoded] at encoded'
  obtain rfl := Except.ok.inj encoded'
  refine ⟨_, posting?_eq_some.2 ⟨name, status, t, named, reported, time, fits, short, rfl⟩, ?_⟩
  exact ⟨rfl, rfl, rfl, rfl, pidOf_map_integer submission.pid, rfl, readable⟩

theorem row?_eq_none_iff {submission : Submission} :
    submission.row? = none ↔ submission.posting? = none := by
  constructor
  · intro refused
    rw [Option.eq_none_iff_forall_ne_some] at refused ⊢
    intro posting posts
    obtain ⟨name, status, t, named, reported, time, fits, short, rfl⟩ := posting?_eq_some.1 posts
    obtain ⟨metadata, encoded, -⟩ := exists_metadataText short
    exact refused _
      (row?_eq_some.2 ⟨metadata, t, name, status, encoded, time, named, reported, fits, rfl⟩)
  · intro refused
    rw [Option.eq_none_iff_forall_ne_some]
    intro row written
    obtain ⟨posting, posts, -⟩ := exists_tells_of_row? written
    rw [refused] at posts
    cases posts

theorem forall₂_tells (submissions : List Submission) : List.Forall₂ Row.Tells
    (submissions.filterMap Submission.row?) (submissions.filterMap Submission.posting?) := by
  induction submissions with
  | nil => exact .nil
  | cons submission submissions ih =>
      cases written : submission.row? with
      | none =>
          rw [List.filterMap_cons_none written,
            List.filterMap_cons_none (row?_eq_none_iff.1 written)]
          exact ih
      | some row =>
          obtain ⟨posting, posts, tells⟩ := exists_tells_of_row? written
          rw [List.filterMap_cons_some written, List.filterMap_cons_some posts]
          exact .cons tells ih

theorem Row.Tells.exists_decode {row : Row} {posting : Posting} (tells : row.Tells posting)
    (year : posting.instant.HasFourDigitYear) :
    ∃ record, row.decode = .ok record ∧ record.posting = posting := by
  have time : Time.Timestamp.read row.lastUpdate = .ok posting.instant := by
    rw [tells.lastUpdate]
    exact Time.Timestamp.read_ofInstant year
  obtain ⟨extra, decoded⟩ := Store.exists_decode time tells.readable
  refine ⟨_, decoded, ?_⟩
  simp only [StatusRecord.posting, tells.name, tells.status, tells.executableName, tells.version,
    tells.pid]

theorem Row.Tells.decode_eq_error {row : Row} {posting : Posting} (tells : row.Tells posting)
    (short : ¬ posting.instant.HasFourDigitYear) :
    row.decode = .error (.timestamp (.mismatch row.lastUpdate)) := by
  have time := Time.Timestamp.read_ofInstant_of_short short
  rw [← tells.lastUpdate] at time
  simp [Row.decode, time, Except.mapError, bind, Except.bind]

theorem Row.Tells.isOk_decode_iff {row : Row} {posting : Posting} (tells : row.Tells posting) :
    row.decode.isOk = true ↔ posting.instant.HasFourDigitYear := by
  by_cases year : posting.instant.HasFourDigitYear
  · obtain ⟨record, decoded, -⟩ := tells.exists_decode year
    rw [decoded]
    exact iff_of_true rfl year
  · rw [tells.decode_eq_error year]
    exact iff_of_false Bool.false_ne_true year

theorem recent_eq_mapM {store : StatusStore} {table : Table} (opened : store.table = some table)
    {since : Moment} {start : Instant} (time : since.toInstant = .ok start) : store.recent since =
      (StatusStore.recentRows table (Timestamp.ofInstant start)).mapM Row.decode := by
  simp [StatusStore.recent, Time.Timestamp.write, time, opened, Except.map, Except.mapError, bind,
    Except.bind]

theorem isOk_recent_iff {store : StatusStore} {table : Table} (opened : store.table = some table)
    {postings : List Posting} (rows : List.Forall₂ Row.Tells table.rows postings)
    {since : Moment} {start : Instant} (time : since.toInstant = .ok start) :
    (store.recent since).isOk = true ↔ ∀ posting ∈ postings,
      Timestamp.ofInstant start < Timestamp.ofInstant posting.instant →
        posting.instant.HasFourDigitYear := by
  rw [recent_eq_mapM opened time, isOk_mapM_iff]
  simp only [StatusStore.recentRows, List.mem_mergeSort, List.mem_filter, decide_eq_true_eq,
    and_imp]
  generalize table.rows = written at rows
  induction rows with
  | nil => simp
  | cons tells rows ih =>
      rw [List.forall_mem_cons, List.forall_mem_cons, ih, tells.isOk_decode_iff, tells.lastUpdate]

/-! ## Runs of writes -/

inductive Write where
  | insert (submission : Submission)
  | report (reporter : Reporter) (name status : Option String) (moment : Moment) (extra : Json)

def Write.submission : Write → Submission
  | .insert submission => submission
  | .report reporter name status moment extra => reporter.submission name status moment extra

def afterWrites (writes : List Write) : StatusStore :=
  after StatusStore.step {} ((writes.map Write.submission).map Operation.insert)

def accepted (writes : List Write) : List Posting :=
  (writes.map Write.submission).filterMap Submission.posting?

theorem exists_rows_afterWrites (writes : List Write) : ∃ table,
    (afterWrites writes).table = some table ∧
      List.Forall₂ Row.Tells table.rows (accepted writes) := by
  have empty : ({} : StatusStore).table = some {} := rfl
  obtain ⟨table, opened, contents⟩ :=
    after_rows empty ((writes.map Write.submission).map Operation.insert)
  refine ⟨table, opened, ?_⟩
  have tells := forall₂_tells (writes.map Write.submission)
  rw [foldl_rows_of_inserts, contents_empty, List.nil_append] at contents
  rw [← contents, Table.contents, List.forall₂_map_left_iff] at tells
  exact tells.imp fun _ _ => tells_content.1

/-- Every accepted write is a row, which is read back just when its year has four digits. A reading
fails when it comes across a row of another year, and in no other case. -/
theorem isOk_recent_iff_afterWrites (writes : List Write) : ∃ table,
    (afterWrites writes).table = some table ∧
      List.Forall₂ (fun row posting =>
        (posting.instant.HasFourDigitYear →
          ∃ record, row.decode = .ok record ∧ record.posting = posting) ∧
        (¬ posting.instant.HasFourDigitYear →
          row.decode = .error (.timestamp (.mismatch row.lastUpdate))))
        table.rows (accepted writes) ∧
      ∀ since start, since.toInstant = .ok start →
        (((afterWrites writes).recent since).isOk = true ↔ ∀ posting ∈ accepted writes,
          Timestamp.ofInstant start < Timestamp.ofInstant posting.instant →
            posting.instant.HasFourDigitYear) := by
  obtain ⟨table, opened, rows⟩ := exists_rows_afterWrites writes
  refine ⟨table, opened, rows.imp fun row posting tells => ?_, fun since start time => ?_⟩
  · exact ⟨tells.exists_decode, tells.decode_eq_error⟩
  · exact isOk_recent_iff opened rows time

def lastOf999 : Instant := ⟨-30610224000000001, by decide, by decide⟩

def earlyWrites : List Write :=
  [.insert { name := some "cache", status := some "Stopped", reportedAt := ⟨lastOf999, some 0⟩ },
    .report {} (some "cache") (some "OK") ⟨noon, some 0⟩ .null]

/-- Both writes succeed, and then what is recent today cannot be read. -/
theorem recent_fails_after_earlyWrites :
    (accepted earlyWrites).map Posting.status = ["Stopped", "OK"] ∧
      ((afterWrites earlyWrites).table.map fun table => table.rows.map (·.status)) =
        some ["Stopped", "OK"] ∧
      tenOClock.micros < noon.micros ∧
      ((afterWrites earlyWrites).recent ⟨tenOClock, some 0⟩).isOk = false := by
  refine ⟨by decide +kernel, by decide +kernel, by decide +kernel, ?_⟩
  obtain ⟨table, opened, rows⟩ := exists_rows_afterWrites earlyWrites
  have readable := isOk_recent_iff opened rows (Moment.toInstant_ofInstant tenOClock)
  have early : ¬ ∀ posting ∈ accepted earlyWrites,
      Timestamp.ofInstant tenOClock < Timestamp.ofInstant posting.instant →
        posting.instant.HasFourDigitYear := by
    decide +kernel
  exact Bool.eq_false_iff.2 fun read => early (readable.1 read)

end Liveness.Store
