import Liveness.Proofs.Explorer.Reading
import Liveness.Proofs.Outcome
import Liveness.Proofs.Time.WallTime

namespace Liveness

/-! ## Maxima of columns -/

namespace Database.Cell

def ofInteger? : Option Int → Cell
  | none => .null
  | some n => .integer n

theorem lt_integer (a b : Int) : (integer a).lt (integer b) = decide (a < b) := by
  simp [lt, classRank, numberLt, toRat?]

theorem greater_integer (a b : Int) : (integer a).greater (integer b) = .integer (max a b) := by
  rw [greater, lt_integer, max_def_lt]
  split <;> simp_all

theorem foldl_greater_integer (n : Int) (values : List (Option Int)) :
    (values.map ofInteger?).foldl greater (.integer n) =
      .integer (values.reduceOption.foldl max n) := by
  induction values generalizing n with
  | nil => rfl
  | cons value values ih =>
      cases value with
      | none => exact ih n
      | some m =>
          rw [List.map_cons, List.foldl_cons, List.reduceOption_cons_of_some, List.foldl_cons]
          rw [ofInteger?, greater_integer]
          exact ih (max n m)

theorem maximum_integers (values : List (Option Int)) :
    maximum (values.map ofInteger?) = ofInteger? values.reduceOption.max? := by
  induction values with
  | nil => rfl
  | cons value values ih =>
      cases value with
      | none => exact ih
      | some n =>
          rw [List.reduceOption_cons_of_some, List.max?_cons']
          exact foldl_greater_integer n values

end Database.Cell

namespace Explorer

open Database (Cell Contents File Files NamesHost OpenFault cleanParts)
open Freshness (PrimaryQuantity)
open Time (Instant Moment WallTime)

variable {files : Files} {path table column : String} {contents : Contents}
variable {values : List (Option Int)} {rows : List (Int × Int)}

def TellsGreatest (table : String) (values : List (Option Int)) (outcome : Except Failure Int) :
    Prop :=
  (∃ n, IsGreatest {m | some m ∈ values} n ∧ outcome = .ok n) ∨
    (∀ m, some m ∉ values) ∧ outcome = .error (emptyStore table)

theorem TellsGreatest.eq_ok {outcome : Except Failure Int} {n : Int}
    (tells : TellsGreatest table values outcome) (greatest : IsGreatest {m | some m ∈ values} n) :
    outcome = .ok n := by
  rcases tells with ⟨m, greatest', found⟩ | ⟨none, -⟩
  · rw [found, greatest.unique greatest']
  · exact absurd greatest.1 (none n)

theorem columnMaximum_integers
    (integers : contents.column table column = .ok (values.map Cell.ofInteger?)) :
    columnMaximum contents table column = match values.reduceOption.max? with
      | none => .error (emptyStore table)
      | some n => .ok n := by
  rw [columnMaximum, integers]
  simp only [Except.mapError, bind, Except.bind, Cell.maximum_integers]
  cases values.reduceOption.max? <;> rfl

theorem columnMaximum_tellsGreatest
    (integers : contents.column table column = .ok (values.map Cell.ofInteger?)) :
    TellsGreatest table values (columnMaximum contents table column) := by
  rw [columnMaximum_integers integers]
  cases greatest : values.reduceOption.max? with
  | none =>
      right
      rw [List.max?_eq_none_iff] at greatest
      refine ⟨fun m mem => ?_, rfl⟩
      rw [← List.reduceOption_mem_iff, greatest] at mem
      exact absurd mem List.not_mem_nil
  | some n =>
      left
      obtain ⟨mem, least⟩ := List.max?_eq_some_iff.1 greatest
      refine ⟨n, ⟨List.reduceOption_mem_iff.1 mem, fun m mem => ?_⟩, rfl⟩
      exact least m (List.reduceOption_mem_iff.2 mem)

/-! ## The newest row -/

def blockCells (row : Int × Int) : Cell × Cell := (.integer row.1, .integer row.2)

theorem newestRow?_concat (rows : List (Cell × Cell)) (row : Cell × Cell) :
    newestRow? (rows ++ [row]) = match newestRow? rows with
      | none => some row
      | some best => some (if best.1.lt row.1 then row else best) := by
  cases rows with
  | nil => rfl
  | cons first rest => simp [newestRow?]

theorem newestRow?_blockCells (rows : List (Int × Int)) :
    newestRow? (rows.map blockCells) = (rows.argmax Prod.fst).map blockCells := by
  induction rows using List.reverseRecOn with
  | nil => rfl
  | append_singleton rows row ih =>
      rw [List.map_append, List.map_singleton, newestRow?_concat, ih, List.argmax_concat]
      cases rows.argmax Prod.fst with
      | none => rfl
      | some best =>
          simp only [Option.map_some, blockCells, Cell.lt_integer, decide_eq_true_eq]
          split <;> rfl

def IsInYears (seconds : Int) : Prop :=
  let year := (WallTime.ofMicros (seconds * 1000000)).date.year
  1 ≤ year ∧ year ≤ 9999

instance (seconds : Int) : Decidable (IsInYears seconds) :=
  inferInstanceAs (Decidable (_ ∧ _))

theorem exists_cellTime {seconds : Int} (years : IsInYears seconds) :
    ∃ t : Instant, cellTime (.integer seconds) = .ok t ∧ t.micros = seconds * 1000000 := by
  obtain ⟨t, found⟩ := (Instant.exists_ofMicros?_iff_year (seconds * 1000000)).2 years
  exact ⟨t, mapError_eq_ok.2 (Instant.ofSeconds_eq_ok.2 found), Instant.micros_of_ofMicros? found⟩

def TellsNewest (rows : List (Int × Int)) (outcome : Except Failure (Int × Moment)) : Prop :=
  (∃ number seconds, (number, seconds) ∈ rows ∧ (∀ row ∈ rows, row.1 ≤ number) ∧
    ∃ t : Instant, t.micros = seconds * 1000000 ∧ outcome = .ok (number, .ofInstant t)) ∨
    rows = [] ∧ outcome = .error (emptyStore "blocks")

theorem newestBlock_integers
    (numbers : contents.column "blocks" "number" = .ok (rows.map fun row => .integer row.1))
    (times : contents.column "blocks" "time" = .ok (rows.map fun row => .integer row.2)) :
    newestBlock contents = match rows.argmax Prod.fst with
      | none => .error (emptyStore "blocks")
      | some row => (cellTime (.integer row.2)).map fun t => (row.1, Moment.ofInstant t) := by
  have newest : newestRow? (rows.map fun row => (Cell.integer row.1, Cell.integer row.2)) =
      (rows.argmax Prod.fst).map blockCells := newestRow?_blockCells rows
  rw [newestBlock, numbers, times]
  simp only [Except.mapError, bind, Except.bind, List.zip_map', newest]
  cases rows.argmax Prod.fst <;> rfl

theorem newestBlock_tellsNewest
    (numbers : contents.column "blocks" "number" = .ok (rows.map fun row => .integer row.1))
    (times : contents.column "blocks" "time" = .ok (rows.map fun row => .integer row.2))
    (years : ∀ row ∈ rows, IsInYears row.2) : TellsNewest rows (newestBlock contents) := by
  rw [newestBlock_integers numbers times]
  cases newest : rows.argmax Prod.fst with
  | none => exact .inr ⟨List.argmax_eq_none.1 newest, rfl⟩
  | some row =>
      have mem := List.argmax_mem newest
      obtain ⟨t, time, micros⟩ := exists_cellTime (years row mem)
      refine .inl ⟨row.1, row.2, mem, fun other listed => ?_, t, micros, ?_⟩
      · exact List.le_of_mem_argmax listed newest
      · simp only [time]
        rfl

/-! ## Reads of files -/

def IsPlain (path : String) : Prop :=
  ∀ c ∈ path.toList, c.isAlphanum = true ∨ c ∈ ['.', '_', '/']

-- The instance that is found by itself would go through all characters there are.
instance (path : String) : Decidable (IsPlain path) :=
  List.decidableBAll _ path.toList

theorem IsPlain.notMem (plain : IsPlain path) {c : Char} (mark : c.isAlphanum = false)
    (other : c ∉ ['.', '_', '/']) : c ∉ path.toList := by
  intro mem
  rcases plain c mem with letter | listed
  · exact Bool.false_ne_true (mark.symm.trans letter)
  · exact other listed

theorem IsPlain.not_hasEscape (plain : IsPlain path) : ¬ Database.HasEscape path.toList := by
  rintro ⟨a, b, inside, -⟩
  exact plain.notMem (by decide) (by decide) (inside.subset List.mem_cons_self)

theorem IsPlain.query_files (plain : IsPlain path) (rest : IsAtRest files) {α : Type}
    (run : Contents → Except Failure α) : (query files path run).2 = files := by
  rw [query_eq, rest.openReadOnly_files (plain.notMem (by decide) (by decide))
    (plain.notMem (by decide) (by decide))]

theorem IsPlain.query_eq (plain : IsPlain path) (noHost : ¬ NamesHost path.toList) {α : Type}
    (run : Contents → Except Failure α) : query files path run = readNamed files path run :=
  query_verbatim files run noHost (plain.notMem (by decide) (by decide))
    (plain.notMem (by decide) (by decide)) (plain.notMem (by decide) (by decide))
    plain.not_hasEscape

theorem IsPlain.query_of_found (plain : IsPlain path) (noHost : ¬ NamesHost path.toList)
    {file : File} (named : files.find? path = some file) (holds : file.found = .ok contents)
    {α : Type} (run : Contents → Except Failure α) : (query files path run).1 = run contents := by
  rw [plain.query_eq noHost, readNamed, named]
  simp only [holds]
  rfl

def AllFail (files : Files) (path : String) (fault : OpenFault) : Prop :=
  (∀ quantity, (readQuantity files path quantity).1 = .error fault.toFailure) ∧
    (readCanonical files path).1 = .error fault.toFailure ∧
    (readIndexed files path).1 = .error fault.toFailure

theorem allFail_of_query {fault : OpenFault}
    (fails : ∀ {α : Type} (run : Contents → Except Failure α),
      (query files path run).1 = .error fault.toFailure) : AllFail files path fault :=
  ⟨fun _ => fails _, fails _, fails _⟩

theorem IsPlain.allFail_of_missing (plain : IsPlain path) (noHost : ¬ NamesHost path.toList)
    (missing : files.find? path = none) : AllFail files path .unableToOpen := by
  refine allFail_of_query fun run => ?_
  rw [plain.query_eq noHost, readNamed, missing]
  rfl

theorem exists_allFail_refused (host : NamesHost path.toList)
    (other : ∀ rest, rest ≠ [] → cleanParts path.toList ≠ "localhost".toList :: rest) :
    ∃ name, AllFail files path (.badAuthority name) := by
  obtain ⟨name, refused⟩ := openReadOnly_refused files host other
  refine ⟨name, allFail_of_query fun run => ?_⟩
  rw [Explorer.query_eq, refused]
  rfl

theorem query_localhost (host : NamesHost path.toList) {rest : List (List Char)} (some : rest ≠ [])
    (parts : cleanParts path.toList = "localhost".toList :: rest) {α : Type}
    (run : Contents → Except Failure α) : query files path run =
      query files (String.ofList ('/' :: ['/'].intercalate rest)) run := by
  rw [Explorer.query_eq, Explorer.query_eq, openReadOnly_localhost files host some parts]

deriving instance DecidableEq for File

end Explorer

end Liveness
