import Liveness.Database.Cell
import Liveness.Database.Location

/-!
Database files: what is stored under which path, and what a query on an opened file finds.
-/

namespace Liveness.Database

structure Table where
  columns : List String
  rows : List (List Cell)
deriving Inhabited, DecidableEq

abbrev Contents := List (String × Table)

/-- A file as an opening of it goes: what is found, and the names of the files that are left beside
it, as they are for a database that keeps a log of its own. -/
structure File where
  found : Except OpenFault Contents
  beside : List String := []

def File.database (contents : Contents) : File := { found := .ok contents }

def File.foreign : File := { found := .error .notDatabase }

/-- The files under their full names. The system makes a full name of a path by following links and
`..`; a path without one, for its length or for want of permission, cannot be opened. -/
structure Files where
  entries : List (String × File)
  fullName? : String → Option String
  isDirectory : String → Bool

def parentOf (path : String) : String :=
  let parts := pathParts (cleanPath path).toList
  String.ofList (((parts.dropLast).intersperse ['/']).flatten)

namespace Files

def find? (files : Files) (path : String) : Option File :=
  (files.fullName? (cleanPath path)).bind fun name => files.entries.lookup name

def leave (files : Files) (names : List String) : Files :=
  let absent := names.filter fun name => (files.entries.lookup name).isNone
  { files with entries := files.entries ++ absent.map fun name => (name, .foreign) }

def openAddress (files : Files) (address : Address) : Except OpenFault Contents × Files :=
  let path := String.ofList address.file
  if address.mode = .memory ∨ path.isEmpty then (.ok [], files)
  else match files.fullName? (cleanPath path) with
    | none => (.error .unableToOpen, files)
    | some name =>
      match files.entries.lookup name with
      | some file => (file.found, files.leave file.beside)
      | none =>
        if address.mode = .create ∧ files.isDirectory (parentOf name) ∧
            ¬ files.isDirectory name then
          (.ok [], { files with entries := files.entries ++ [(name, .database [])] })
        else (.error .unableToOpen, files)

/-- Opens the file at a path as the adapters do: the path is put into an address as it is. -/
def openReadOnly (files : Files) (path : String) : Except OpenFault Contents × Files :=
  match parseAddress ((cleanPath path).toList ++ "?mode=ro".toList) with
  | .error fault => (.error fault, files)
  | .ok address => files.openAddress address

def longestName : Nat := 504

def enter (kept : List (List Char)) (part : List Char) : List (List Char) :=
  if part ≠ ['.', '.'] then part :: kept
  else match kept with
    | [] => [part]
    | last :: before =>
      if last = [] then kept else if last = ['.', '.'] then part :: kept else before

def linkless? (path : String) : Option String :=
  let parts := ((pathParts path.toList).foldl enter []).reverse
  let name := (parts.intersperse ['/']).flatten
  if (Text.utf8Encode name).length ≤ longestName then some (String.ofList name) else none

/-- Databases without links and logs. A directory is one that holds a file, or the current one. -/
def holding (databases : List (String × Contents)) : Files where
  entries := databases.filterMap fun (path, contents) =>
    (linkless? (cleanPath path)).map fun name => (name, .database contents)
  fullName? := linkless?
  isDirectory directory := directory.isEmpty || directory = "." ||
    databases.any fun file => (directory ++ "/").toList.isPrefixOf (cleanPath file.1).toList

end Files

def Contents.column (contents : Contents) (table column : String) :
    Except OpenFault (List Cell) :=
  match contents.lookup table with
  | none => .error (.noSuchTable table)
  | some t =>
    match t.columns.idxOf? column with
    | none => .error (.noSuchColumn column)
    | some i => .ok (t.rows.map fun row => (row[i]?).getD .null)

end Liveness.Database
