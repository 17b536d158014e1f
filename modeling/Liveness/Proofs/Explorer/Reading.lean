import Liveness.Explorer.Stores
import Liveness.Proofs.Database.Addresses
import Mathlib

/-!
Which file a read of the explorer's databases runs on. A relative path without `?`, `#` and escapes
is read from the file it names, only if that is there, and files at rest stay as they are
(`reads_named_file`). With one of the three in it a path names another file, or one that is made
(`read_misses_marked_paths`).
-/

namespace Liveness.Explorer

open Database (AccessMode AreClean Contents Files HasEscape IsRelative NamesHost OpenFault
  cleanParts readOnlyOption)
open Freshness (PrimaryQuantity)

/-- No database keeps a log, so opening one leaves nothing beside it. -/
def IsAtRest (files : Files) : Prop := ∀ entry ∈ files.entries, entry.2.beside = []

instance (files : Files) : Decidable (IsAtRest files) :=
  List.decidableBAll _ files.entries

/-- What is found under a path, when it is no address but the name of a file. -/
def openNamed (files : Files) (path : String) : Except OpenFault Contents × Files :=
  match files.find? path with
  | some file => (file.found, files.leave file.beside)
  | none => (.error .unableToOpen, files)

theorem leave_nil (files : Files) : files.leave [] = files := by
  rw [Files.leave, List.filter_nil, List.map_nil, List.append_nil]

theorem find?_mem {files : Files} {path : String} {file : Database.File}
    (found : files.find? path = some file) : ∃ name, (name, file) ∈ files.entries := by
  obtain ⟨name, -, listed⟩ := Option.bind_eq_some_iff.1 found
  obtain ⟨before, after, split, -⟩ := List.lookup_eq_some_iff.1 listed
  exact ⟨name, split ▸ List.mem_append_right _ List.mem_cons_self⟩

theorem IsAtRest.openNamed_files {files : Files} (rest : IsAtRest files) (path : String) :
    (openNamed files path).2 = files := by
  rw [openNamed]
  cases found : files.find? path with
  | none => rfl
  | some file =>
      obtain ⟨name, listed⟩ := find?_mem found
      have quiet : file.beside = [] := rest _ listed
      simp only [quiet, leave_nil]

theorem openAddress_readOnly (files : Files) (name : List Char) :
    files.openAddress ⟨name, .readOnly⟩ =
      if name = [] then (.ok [], files) else openNamed files (String.ofList name) := by
  have mode : AccessMode.readOnly ≠ .memory := AccessMode.noConfusion
  have mode' : AccessMode.readOnly ≠ .create := AccessMode.noConfusion
  simp only [Files.openAddress, mode, mode', false_or, false_and, if_false,
    String.isEmpty_iff, String.ofList_eq_empty_iff, openNamed, Files.find?]
  cases files.fullName? (Database.cleanPath (String.ofList name)) with
  | none => rfl
  | some full =>
      cases found : files.entries.lookup full <;> simp only [Option.bind_some, found]

theorem openReadOnly_eq (files : Files) (path : String) :
    files.openReadOnly path =
      match Database.parseAddress ((Database.cleanPath path).toList ++ '?' :: readOnlyOption) with
      | .error fault => (.error fault, files)
      | .ok address => files.openAddress address := by
  have option : "?mode=ro".toList = '?' :: readOnlyOption := by decide
  rw [← option]
  -- The equation of the definition would evaluate the address; only its name is to be opened.
  delta Files.openReadOnly
  cases Database.parseAddress ((Database.cleanPath path).toList ++ "?mode=ro".toList) <;> rfl

theorem IsAtRest.openReadOnly_files {files : Files} (rest : IsAtRest files) {path : String}
    (noHash : '#' ∉ path.toList) (noQuestion : '?' ∉ path.toList) :
    (files.openReadOnly path).2 = files := by
  rw [openReadOnly_eq]
  split
  next => rfl
  next address named =>
      obtain ⟨name, mode⟩ := address
      cases Database.mode_of_parseAddress noHash noQuestion named
      rw [openAddress_readOnly]
      split
      · rfl
      · exact rest.openNamed_files _

theorem openReadOnly_refused (files : Files) {path : String} (host : NamesHost path.toList)
    (other : ∀ rest, rest ≠ [] → cleanParts path.toList ≠ "localhost".toList :: rest) :
    ∃ name, files.openReadOnly path = (.error (.badAuthority name), files) := by
  obtain ⟨name, refused⟩ := Database.exists_parseAddress_refused host other
  rw [openReadOnly_eq, refused]
  exact ⟨name, rfl⟩

theorem openReadOnly_localhost (files : Files) {path : String} (host : NamesHost path.toList)
    {rest : List (List Char)} (some : rest ≠ [])
    (parts : cleanParts path.toList = "localhost".toList :: rest) :
    files.openReadOnly path =
      files.openReadOnly (String.ofList ('/' :: ['/'].intercalate rest)) := by
  have clean : AreClean rest := (List.forall_mem_cons.1
    (parts ▸ Database.areClean_cleanParts path.toList)).2
  rw [openReadOnly_eq, openReadOnly_eq, Database.toList_cleanPath_rooted clean,
    Database.parseAddress_localhost host some parts]

theorem not_hasEscape_cleanPath {path : String} (noEscape : ¬ HasEscape path.toList) :
    ¬ HasEscape (Database.cleanPath path).toList := by
  rintro ⟨a, b, inside, high, low⟩
  have noSlash : ∀ c, (Text.hexDigit? c).isSome → '/' ≠ c := by
    rintro c digit rfl
    exact absurd digit (by decide)
  rcases Database.infix_of_infix_cleanPath (List.cons_ne_nil _ _)
    (by simp [noSlash a high, noSlash b low]) inside with dot | inPath
  · exact absurd (List.cons.inj dot).1 (by decide)
  · exact noEscape ⟨a, b, inPath, high, low⟩

theorem openNamed_cleanPath (files : Files) (path : String) :
    openNamed files (Database.cleanPath path) = openNamed files path := by
  rw [openNamed, openNamed, Database.find?_cleanPath]

theorem openReadOnly_verbatim (files : Files) {path : String} (noHost : ¬ NamesHost path.toList)
    (noZero : '\x00' ∉ path.toList) (noHash : '#' ∉ path.toList) (noQuestion : '?' ∉ path.toList)
    (noEscape : ¬ HasEscape path.toList) : files.openReadOnly path = openNamed files path := by
  rw [openReadOnly_eq, Database.parseAddress_verbatim (Database.not_prefix_cleanPath noHost)
    (Database.notMem_cleanPath (by decide) (by decide) noZero)
    (Database.notMem_cleanPath (by decide) (by decide) noHash)
    (Database.notMem_cleanPath (by decide) (by decide) noQuestion)
    (not_hasEscape_cleanPath noEscape)]
  simp only [openAddress_readOnly, Database.cleanPath_ne_nil path, if_false,
    String.ofList_toList, openNamed_cleanPath]

theorem query_eq {α : Type} (files : Files) (path : String) (run : Contents → Except Failure α) :
    query files path run =
      ((files.openReadOnly path).1.mapError OpenFault.toFailure >>= run,
        (files.openReadOnly path).2) := by
  delta query
  obtain ⟨opened, after⟩ := files.openReadOnly path
  cases opened <;> rfl

/-- A read of the file that a path names, and of no other: without that file it fails. -/
def readNamed {α : Type} (files : Files) (path : String) (run : Contents → Except Failure α) :
    Except Failure α × Files :=
  match files.find? path with
  | some file => (file.found.mapError OpenFault.toFailure >>= run, files.leave file.beside)
  | none =>
    (.error (.of (.database "OperationalError") "unable to open database file"), files)

theorem query_verbatim {α : Type} (files : Files) {path : String}
    (run : Contents → Except Failure α) (noHost : ¬ NamesHost path.toList)
    (noZero : '\x00' ∉ path.toList) (noHash : '#' ∉ path.toList) (noQuestion : '?' ∉ path.toList)
    (noEscape : ¬ HasEscape path.toList) : query files path run = readNamed files path run := by
  rw [query_eq, openReadOnly_verbatim files noHost noZero noHash noQuestion noEscape, openNamed,
    readNamed]
  cases files.find? path <;> rfl

/-- Both stores read the file that their path names, and no other, and leave files at rest as they
are. Beside one with a log they leave what belongs to it. -/
theorem reads_named_file (files : Files) (path : String) (relative : IsRelative path.toList)
    (noZero : '\x00' ∉ path.toList) (noHash : '#' ∉ path.toList)
    (noQuestion : '?' ∉ path.toList) :
    (IsAtRest files → (∀ quantity, (readQuantity files path quantity).2 = files) ∧
      (readCanonical files path).2 = files ∧ (readIndexed files path).2 = files) ∧
    (¬ HasEscape path.toList →
      (∀ quantity, readQuantity files path quantity =
        readNamed files path fun contents =>
          columnMaximum contents (source quantity).1 (source quantity).2) ∧
      readCanonical files path = readNamed files path newestBlock ∧
      readIndexed files path =
        readNamed files path fun contents => columnMaximum contents "data" "block_number") := by
  refine ⟨fun rest => ?_, fun noEscape => ?_⟩
  · have unchanged {α : Type} (run : Contents → Except Failure α) :
        (query files path run).2 = files := by
      rw [query_eq, rest.openReadOnly_files noHash noQuestion]
    exact ⟨fun quantity => unchanged _, unchanged _, unchanged _⟩
  · have named {α : Type} (run : Contents → Except Failure α) :
        query files path run = readNamed files path run :=
      query_verbatim files run relative.not_namesHost noZero noHash noQuestion noEscape
    exact ⟨fun quantity => named _, named _, named _⟩

theorem reads_named_file_nested :
    let files : Files := .holding
      [("data/primary.db", primaryContents none (some [.integer 7, .integer 9]) none),
       ("data%/100%.db", secondaryContents none (some [.integer 5]))]
    let others : Files := { files with entries := [("notes.txt", .foreign), ("wal.db",
      { found := .ok (primaryContents none (some [.integer 3]) none)
        beside := ["wal.db-shm", "wal.db-wal"] })] }
    (readQuantity files "data/old/..//primary.db" .blockSlot).1 = .ok 9 ∧
    (readIndexed files "data%/100%.db").1 = .ok 5 ∧
    (readIndexed files "data%.db").1 =
      .error (.of (.database "OperationalError") "unable to open database file") ∧
    (readIndexed files "data%.db").2 = files ∧
    (readCanonical others "notes.txt").1 =
      .error (.of (.database "DatabaseError") "file is not a database") ∧
    (readQuantity others "wal.db" .blockSlot).1 = .ok 3 ∧
    (readQuantity others "wal.db" .blockSlot).2.entries.map (·.1) =
      ["notes.txt", "wal.db", "wal.db-shm", "wal.db-wal"] := by
  intro files others
  have first := (reads_named_file files "data/old/..//primary.db" (by decide) (by decide)
    (by decide) (by decide)).2 (by decide)
  have second := (reads_named_file files "data%/100%.db" (by decide) (by decide) (by decide)
    (by decide)).2 (by decide)
  have missing := reads_named_file files "data%.db" (by decide) (by decide) (by decide)
    (by decide)
  have notes := (reads_named_file others "notes.txt" (by decide) (by decide) (by decide)
    (by decide)).2 (by decide)
  have log := (reads_named_file others "wal.db" (by decide) (by decide) (by decide)
    (by decide)).2 (by decide)
  refine ⟨?_, ?_, ?_, (missing.1 (by decide +kernel)).2.2, ?_, ?_, ?_⟩
  · rw [first.1 .blockSlot]
    decide +kernel
  · rw [second.2.2]
    decide +kernel
  · rw [(missing.2 (by decide)).2.2]
    decide +kernel
  · rw [notes.2.1]
    decide +kernel
  · rw [log.1 .blockSlot]
    decide +kernel
  · rw [log.1 .blockSlot]
    decide +kernel

/-- A file with an escape in its name is not found, a path with `?` is read from the file named
before it, and a path with `#` makes the file named before it. -/
theorem read_misses_marked_paths :
    (readQuantity (.holding [("c%41.db", primaryContents none (some [.integer 2]) none)]) "c%41.db"
      .blockSlot).1 = .error (.of (.database "OperationalError") "unable to open database file") ∧
    (readQuantity (.holding [("cl.db", primaryContents none (some [.integer 2]) none)]) "cl.db?x"
      .blockSlot).1 = .ok 2 ∧
    (readQuantity (.holding []) "el.db#1" .blockSlot).2.entries.map (·.1) = ["el.db"] := by
  refine ⟨?_, ?_, ?_⟩ <;> decide +kernel

end Liveness.Explorer
