import Liveness.Proofs.Store.Readability

namespace Liveness.Store

open Database (Cell)
open Time (Instant Moment Timestamp.ofInstant)

variable {store : StatusStore} {submission : Submission}

/-! ## Readings -/

theorem recentRows_append (table : Table) {row : Row} {text : String}
    (later : text < row.lastUpdate) (lastId : Nat) :
    (StatusStore.recentRows ⟨table.rows ++ [row], lastId⟩ text).Perm
      (row :: StatusStore.recentRows table text) := by
  have kept : (table.rows ++ [row]).filter (fun row => text < row.lastUpdate) =
      table.rows.filter (fun row => text < row.lastUpdate) ++ [row] := by
    rw [List.filter_append, List.filter_singleton, decide_eq_true later]
    rfl
  rw [StatusStore.recentRows, StatusStore.recentRows, kept]
  refine (List.mergeSort_perm _ _).trans ((List.perm_append_singleton row _).trans ?_)
  exact (List.mergeSort_perm _ _).symm.cons row

theorem exists_opened_of_recent {since : Moment} {records : List StatusRecord}
    (read : store.recent since = .ok records) : ∃ table start, store.table = some table ∧
      since.toInstant = .ok start ∧
        (StatusStore.recentRows table (Timestamp.ofInstant start)).mapM Row.decode =
          .ok records := by
  simp only [StatusStore.recent, bind_eq_ok, mapError_eq_ok, Time.Timestamp.write,
    map_eq_ok] at read
  obtain ⟨_, ⟨start, begins, rfl⟩, read⟩ := read
  cases opened : store.table with
  | none => simp [opened] at read
  | some table => exact ⟨table, start, rfl, begins, by simpa [opened] using read⟩

theorem Represents.isOk_recent {log : Log} (represents : Represents store log) {since : Moment}
    {start : Instant} (begins : since.toInstant = .ok start) :
    (store.recent since).isOk = true := by
  obtain ⟨table, entries, opened, holds, -⟩ := represents
  rw [recent_eq_mapM opened begins, isOk_mapM_iff, StatusStore.recentRows, holds.rows]
  intro row member
  rw [List.mem_mergeSort] at member
  obtain ⟨entry, -, rfl⟩ := List.mem_map.1 (List.mem_filter.1 member).1
  obtain ⟨record, decoded, -⟩ := entry.exists_decode_row
  rw [decoded]
  rfl

/-! ## Complete submissions -/

def Submission.record (submission : Submission) (name status : String) (t : Instant) :
    StatusRecord where
  name := name
  status := status
  reportedAt := t
  executableName := submission.executableName.getD ""
  version := submission.version.getD ""
  pid := .integer (submission.pid.getD 0)
  extra := submission.extra

section Complete

variable {name status : String} {t : Instant} (named : submission.name = some name)
  (reported : submission.status = some status) (time : submission.reportedAt.toInstant = .ok t)
  (year : t.HasFourDigitYear) (fits : Cell.fitsInteger (submission.pid.getD 0) = true)
  (plain : submission.extra.isPlain = true) (short : submission.extra.exceedsDigits = false)

include named reported time year fits plain short

theorem exists_row?_decode : ∃ row, submission.row? = some row ∧
    row.lastUpdate = Timestamp.ofInstant t ∧
      ∀ id, { row with id := id }.decode = .ok (submission.record name status t) := by
  obtain ⟨metadata, found, written, missing, present, same⟩ := exists_metadataText_found short
  obtain rfl := same plain
  let row : Row := ⟨0, name, submission.executableName, submission.version,
    (submission.pid.map Cell.integer).getD .null, status, metadata, Timestamp.ofInstant t⟩
  have made : submission.row? = some row :=
    row?_eq_some.2 ⟨metadata, t, name, status, written, time, named, reported, fits, rfl⟩
  refine ⟨row, made, rfl, fun id => ?_⟩
  have read : Time.Timestamp.read row.lastUpdate = .ok t := Time.Timestamp.read_ofInstant year
  let numbered : Row := { row with id := id }
  have decoded : numbered.decode = _ := decode_eq_ok read missing present
  rw [decoded, Submission.record, pidOf_map_integer]

/-- After an insertion a reading finds what it found before and the new record, with its metadata as
it was. Such readings succeed after every run of operations whose years have four digits. The times
compare as texts, which for these years is the order of time. -/
theorem recent_insert {since : Moment} {start : Instant} (begins : since.toInstant = .ok start)
    (later : Timestamp.ofInstant start < Timestamp.ofInstant t) :
    (∀ store records, StatusStore.recent store since = .ok records → ∃ store' found,
      store.insert submission = .ok store' ∧ store'.recent since = .ok found ∧
        found.Perm (submission.record name status t :: records)) ∧
    ∀ operations : List Operation,
      (∀ operation ∈ operations, ∀ moment ∈ operation.moments, HasFourDigitYear moment) →
        ∃ records, (after StatusStore.step {} operations).recent since = .ok records := by
  constructor
  · intro store records read
    obtain ⟨table, start', opened, begins', decoded⟩ := exists_opened_of_recent read
    obtain rfl := Except.ok.inj (begins.symm.trans begins')
    obtain ⟨row, written, last, decodes⟩ :=
      exists_row?_decode named reported time year fits plain short
    let next : Row := { row with id := table.lastId + 1 }
    have within : Timestamp.ofInstant start < next.lastUpdate := by rwa [← last] at later
    have rows := recentRows_append table within (table.lastId + 1)
    obtain ⟨found, read', same⟩ := exists_mapM_of_perm rows
      (mapM_eq_ok.2 (.cons (decodes _) (mapM_eq_ok.1 decoded)))
    refine ⟨_, found, (insert_eq_ok opened).2 ⟨row, written, rfl⟩, ?_, same⟩
    rw [recent_eq_mapM rfl begins, read']
  · intro operations years
    exact exists_of_isOk ((after_represents represents_empty years).isOk_recent begins)

end Complete

def nestedExtra : Json :=
  .object [("peers", .array [.integer (-3), .null, .object [("name", .text "\"a\\b\"\n😀")]]),
    ("synced", .bool true), ("", .object [])]

def nestedSubmission : Submission where
  name := some "db"
  status := some "Running"
  reportedAt := ⟨noon, none⟩
  extra := nestedExtra

theorem recent_insert_nestedExtra : ∃ records store' found,
    (after StatusStore.step {} sampleOperations).recent ⟨tenOClock, some 0⟩ = .ok records ∧
      (after StatusStore.step {} sampleOperations).insert nestedSubmission = .ok store' ∧
      store'.recent ⟨tenOClock, some 0⟩ = .ok found ∧
      found.Perm (nestedSubmission.record "db" "Running" noon :: records) := by
  have time : nestedSubmission.reportedAt.toInstant = .ok noon := by decide +kernel
  have begins : (Moment.mk tenOClock (some 0)).toInstant = .ok tenOClock := by decide +kernel
  have named : nestedSubmission.name = some "db" := rfl
  have reported : nestedSubmission.status = some "Running" := rfl
  obtain ⟨inserts, reads⟩ := recent_insert named reported time (by decide +kernel)
    (by decide +kernel) (by decide +kernel) (by decide +kernel) begins (by decide +kernel)
  obtain ⟨records, read⟩ := reads sampleOperations (by decide +kernel)
  obtain ⟨store', found, inserted, read', same⟩ := inserts _ records read
  exact ⟨records, store', found, read, inserted, read', same⟩

example : metadataText .null = .ok none ∧ metadataText (.object []) = .ok (some "\x7b\x7d") :=
  ⟨rfl, rfl⟩

end Liveness.Store
