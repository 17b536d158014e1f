import Liveness.Proofs.Database.Numbers
import Liveness.Proofs.Explorer.Reading
import Liveness.Proofs.Freshness.Primary
import Liveness.Proofs.Freshness.Secondary
import Liveness.Proofs.Outcome

namespace Liveness

theorem foldl_mem_of_keeps {α : Type} {keep : α → α → α}
    (keeps : ∀ a b, keep a b = a ∨ keep a b = b)
    (first : α) (items : List α) : items.foldl keep first ∈ first :: items := by
  induction items generalizing first with
  | nil => exact List.mem_singleton_self first
  | cons item items ih =>
      rw [List.foldl_cons]
      rcases List.mem_cons.1 (ih (keep first item)) with same | member
      · rw [same]
        rcases keeps first item with same | same <;> simp [same]
      · exact List.mem_cons_of_mem _ (List.mem_cons_of_mem _ member)

namespace Explorer

open Database (Cell Contents Files)
open Freshness (Clock PrimaryCheck PrimaryQuantity SecondaryCheck)
open Numeric (Binary64)
open Text (digitLimit)
open Time (Moment)

variable {files : Files} {path table column : String} {contents : Contents} {n : Int}

/-! ## What a read comes from -/

def Holds (files : Files) (contents : Contents) : Prop :=
  contents = [] ∨ ∃ entry ∈ files.entries, entry.2.found = .ok contents

theorem openReadOnly_eq_ok (opened : (files.openReadOnly path).1 = .ok contents) :
    Holds files contents := by
  rw [openReadOnly_eq] at opened
  split at opened
  next => cases opened
  next address named =>
      rw [Files.openAddress] at opened
      split at opened
      next => exact .inl (Except.ok.inj opened).symm
      next =>
          split at opened
          next => cases opened
          next =>
              split at opened
              next file listed =>
                  obtain ⟨before, after, split, -⟩ := List.lookup_eq_some_iff.1 listed
                  exact .inr ⟨(_, file), split ▸ List.mem_append_right _ List.mem_cons_self,
                    opened⟩
              next =>
                  split at opened
                  next => exact .inl (Except.ok.inj opened).symm
                  next => cases opened

theorem query_eq_ok {α : Type} {run : Contents → Except Failure α} {a : α}
    (found : (query files path run).1 = .ok a) :
    ∃ contents, Holds files contents ∧ run contents = .ok a := by
  rw [query_eq] at found
  obtain ⟨contents, opened, run⟩ := bind_eq_ok.1 found
  exact ⟨contents, openReadOnly_eq_ok (mapError_eq_ok.1 opened), run⟩

theorem columnMaximum_eq_ok (found : columnMaximum contents table column = .ok n) :
    ∃ cells, contents.column table column = .ok cells ∧ ∃ cell ∈ cells, cell.toInt = .ok n := by
  obtain ⟨cells, read, found⟩ := bind_eq_ok.1 found
  refine ⟨cells, mapError_eq_ok.1 read, Cell.maximum cells, ?_, ?_⟩
  · have keeps : ∀ a b : Cell, a.greater b = a ∨ a.greater b = b := by
      intro a b
      rw [Cell.greater]
      split
      · exact .inr rfl
      · exact .inl rfl
    rcases List.mem_cons.1 (foldl_mem_of_keeps keeps .null cells) with null | member
    · rw [Cell.maximum, null] at found
      cases found
    · exact member
  · split at found
    · cases found
    · exact found

theorem newestRow?_mem {rows : List (Cell × Cell)} {row : Cell × Cell}
    (newest : newestRow? rows = some row) : row ∈ rows := by
  cases rows with
  | nil => cases newest
  | cons first rest =>
      cases newest
      refine foldl_mem_of_keeps (fun a b => ?_) first rest
      split
      · exact .inr rfl
      · exact .inl rfl

theorem newestBlock_eq_ok {time : Moment} (found : newestBlock contents = .ok (n, time)) :
    (∃ cells, contents.column "blocks" "number" = .ok cells ∧
      ∃ cell ∈ cells, cell.toInt = .ok n) ∧ time.offset.isSome := by
  obtain ⟨numbers, read, found⟩ := bind_eq_ok.1 found
  obtain ⟨times, -, found⟩ := bind_eq_ok.1 found
  split at found
  next => cases found
  next number began newest =>
      obtain ⟨m, whole, found⟩ := bind_eq_ok.1 found
      obtain ⟨t, -, found⟩ := bind_eq_ok.1 found
      cases found
      exact ⟨⟨numbers, mapError_eq_ok.1 read, number,
        (List.of_mem_zip (newestRow?_mem newest)).1, whole⟩, rfl⟩

/-! ## Columns without texts -/

def HoldsNumbers (files : Files) (table column : String) : Prop :=
  ∀ entry ∈ files.entries,
    ∀ cell ∈ (entry.2.found >>= (Contents.column · table column)).toOption.getD [], cell.IsNumeric

instance (files : Files) (table column : String) : Decidable (HoldsNumbers files table column) :=
  inferInstanceAs (Decidable (∀ entry ∈ files.entries, ∀ cell ∈ _, Cell.IsNumeric cell))

theorem HoldsNumbers.natAbs_lt (numbers : HoldsNumbers files table column)
    (kept : Holds files contents)
    (found : ∃ cells, contents.column table column = .ok cells ∧
      ∃ cell ∈ cells, cell.toInt = .ok n) : n.natAbs < Binary64.magnitude := by
  obtain ⟨cells, read, cell, member, whole⟩ := found
  rcases kept with rfl | ⟨entry, listed, holds⟩
  · cases read
  · have numeric := numbers entry listed
    rw [holds] at numeric
    simp only [bind, Except.bind, read] at numeric
    exact Cell.natAbs_toInt_lt (numeric cell member) whole

/-! ## Checks without a verdict -/

theorem canonical_eq (files : Files) (path : String) :
    (secondaryReadings files path).canonical = (readCanonical files path).1 := by
  rw [secondaryReadings]

theorem indexed_eq (files : Files) (path : String) :
    (secondaryReadings files path).indexed = (readIndexed files path).1 := by
  rw [secondaryReadings]

theorem isSome_offset_of_canonical (number : Int) (time : Moment)
    (read : (secondaryReadings files path).canonical = .ok (number, time)) :
    time.offset.isSome := by
  rw [canonical_eq] at read
  obtain ⟨contents, -, found⟩ := query_eq_ok read
  exact (newestBlock_eq_ok found).2

theorem natAbs_lag_lt {number indexed : Int} {time : Moment}
    (numbers : HoldsNumbers files "blocks" "number")
    (numbers' : HoldsNumbers files "data" "block_number")
    (read : (secondaryReadings files path).canonical = .ok (number, time))
    (read' : (secondaryReadings files path).indexed = .ok indexed) :
    (number - indexed).natAbs < 10 ^ digitLimit := by
  rw [canonical_eq] at read
  rw [indexed_eq] at read'
  obtain ⟨contents, kept, found⟩ := query_eq_ok read
  obtain ⟨contents', kept', found'⟩ := query_eq_ok read'
  have canonical := numbers.natAbs_lt kept (newestBlock_eq_ok found).1
  have index := numbers'.natAbs_lt kept' (columnMaximum_eq_ok found')
  have bound := Binary64.double_magnitude_le
  generalize 10 ^ digitLimit = limit at bound ⊢
  omega

/-- Whatever the databases hold, the primary check ends without a verdict exactly at a number whose
slot or epoch begins outside the years 1 to 9999, as soon as it comes across one. The secondary
check does so exactly at a lag of too many digits, and never on columns without texts. -/
theorem failures_on_data (files : Files) (path : String) (clock : Clock) (aware : clock.IsAware) :
    (∀ (check : PrimaryCheck) (failure : Failure),
      (check.run (primaryReadings files path) clock).verdict = .error failure ↔
        ∃ before quantity rest fault, PrimaryQuantity.inOrder = before ++ quantity :: rest ∧
          check.AreFresh (primaryReadings files path) clock before ∧
          (∃ n, primaryReadings files path quantity = .ok n ∧
            quantity.time check.chain n = .error fault) ∧
          fault.toFailure = failure) ∧
    (∀ (check : SecondaryCheck) (failure : Failure),
      (check.run (secondaryReadings files path) clock).verdict = .error failure ↔
        ∃ number time indexed,
          (secondaryReadings files path).canonical = .ok (number, time) ∧
          clock.next.utcMicros - time.utcMicros ≤ check.threshold.micros ∧
          (secondaryReadings files path).indexed = .ok indexed ∧
          indexed < number - check.maxLag ∧
          10 ^ digitLimit ≤ (number - indexed).natAbs ∧ SecondaryCheck.untoldLag = failure) ∧
    (HoldsNumbers files "blocks" "number" → HoldsNumbers files "data" "block_number" →
      ∀ check : SecondaryCheck, ∃ verdict,
        (check.run (secondaryReadings files path) clock).verdict = .ok verdict) := by
  refine ⟨fun check failure => PrimaryCheck.verdict_eq_error_iff aware, fun check failure =>
    SecondaryCheck.verdict_eq_error_iff aware isSome_offset_of_canonical,
    fun numbers numbers' check => ?_⟩
  cases outcome : (check.run (secondaryReadings files path) clock).verdict with
  | ok verdict => exact ⟨verdict, rfl⟩
  | error failure =>
      obtain ⟨number, time, indexed, read, -, read', -, long, -⟩ :=
        (SecondaryCheck.verdict_eq_error_iff aware isSome_offset_of_canonical).1 outcome
      exact absurd long (natAbs_lag_lt numbers numbers' read read').not_ge

theorem failures_on_data_yearTenThousand :
    let files : Files := .holding
      [("cl.db", primaryContents (some [.integer 20982956400]) none none),
       ("el.db", secondaryContents (some [(.integer 9223372036854775807, .integer 0)])
        (some [.null, .integer (-9223372036854775808)]))]
    let clock : Clock := .stopped default
    clock.IsAware ∧
      (({ chain := {} } : PrimaryCheck).run (primaryReadings files "cl.db") clock).verdict =
        .error (.of .value "year 10000 is out of range") ∧
      ∃ verdict, (({} : SecondaryCheck).run (secondaryReadings files "el.db") clock).verdict =
        .ok verdict := by
  intro files clock
  have aware : clock.IsAware := by decide
  obtain ⟨primary, -, secondary⟩ := failures_on_data files "cl.db" clock aware
  obtain ⟨-, -, secondary⟩ := failures_on_data files "el.db" clock aware
  refine ⟨aware, ?_, secondary (by decide +kernel) (by decide +kernel) {}⟩
  refine (primary { chain := {} } _).2 ⟨[], .attestationSlot, [.blockSlot, .epoch],
    .yearOutOfRange 10000, rfl, PrimaryCheck.areFresh_nil, ⟨20982956400, ?_, ?_⟩, ?_⟩
  all_goals decide +kernel

/-- The greatest whole number that a database holds is no slot of the calendar. -/
theorem no_verdict_on_far_slot :
    (({ chain := {} } : PrimaryCheck).run (primaryReadings
      (.holding [("cl.db", primaryContents (some [.integer 9223372036854775807]) none none)])
      "cl.db") (.stopped default)).verdict =
        .error (.of .overflow "timestamp out of range for platform time_t") := by
  decide +kernel

end Explorer

end Liveness
