import Liveness.Database.Location
import Liveness.Fleet.Registry
import Liveness.Text.Utf8
import Liveness.Yaml.Values

namespace Liveness.Fleet

structure Disk where
  present : String → Except Failure Bool
  read : String → Except Failure (List UInt8)

def notUtf8 : Failure := ⟨.undecodableText, .none⟩

def noServices (path : String) : Failure := .of .value s!"{path}: expected a 'services' list"

def loadedLog (count : Nat) (path : String) : LogEntry :=
  ⟨.info, s!"Loaded {count} expected services from {path}"⟩

def unifyLineEnds : List Char → List Char
  | [] => []
  | '\r' :: '\n' :: rest => '\n' :: unifyLineEnds rest
  | '\r' :: rest => '\n' :: unifyLineEnds rest
  | c :: rest => c :: unifyLineEnds rest

def serviceItems? (values : Option Yaml.Values) : Option (List Yaml.Item) := do
  let v ← values
  v.items? (← v.get? v.root "services")

def textsUntilFailure : List (Except Failure String) → List String × Option Failure
  | [] => ([], none)
  | .error failure :: _ => ([], some failure)
  | .ok text :: rest =>
    let (texts, failure) := textsUntilFailure rest
    (text :: texts, failure)

def serviceTexts (load : Yaml.Loader) (path : String) (content : List UInt8) :
    Except Failure (List (Except Failure String)) := do
  let some text := Text.utf8Decode? content | .error notUtf8
  let values ← load (unifyLineEnds text)
  match values, serviceItems? values with
  | some v, some items => return items.map v.itemText
  | _, _ => .error (noServices path)

def servicesOf (load : Yaml.Loader) (path : String) (content : List UInt8) :
    Except Failure (List String) × List LogEntry :=
  match serviceTexts load path content with
  | .error failure => (.error failure, [])
  | .ok texts =>
    let (good, failure) := textsUntilFailure texts
    let (names, warnings) := uniqueServices good
    match failure with
    | some failure => (.error failure, warnings)
    | none => (.ok names, warnings ++ [loadedLog names.length path])

/-- The expected services: those of the file, or the default ones where there is none. The path is
looked for in its clean spelling, and opened as it is. -/
def loadServices (disk : Disk) (load : Yaml.Loader) (path : Option String) :
    Except Failure (List String) × List LogEntry :=
  match path with
  | none => (.ok defaultServices, [])
  | some path =>
    match disk.present (Database.cleanPath path) with
    | .error failure => (.error failure, [])
    | .ok false => (.ok defaultServices, [])
    | .ok true =>
      match disk.read path with
      | .error failure => (.error failure, [])
      | .ok content => servicesOf load path content

/-! ## A disk of a few files -/

inductive FileEntry where
  | directory
  | file (content : List UInt8)

abbrev FileEntries := List (String × FileEntry)

namespace FileEntries

def find? (entries : FileEntries) (path : String) : Option FileEntry :=
  let clean := Database.cleanPath path
  if clean = "." then some .directory
  else (List.find? (fun entry => Database.cleanPath entry.1 = clean) entries).map (·.2)

def noSuchFile (path : String) : Failure :=
  ⟨.notFound, .numbered 2 s!"No such file or directory: {Text.quoted path}"⟩

def isDirectory (path : String) : Failure :=
  ⟨.isDirectory, .numbered 21 s!"Is a directory: {Text.quoted path}"⟩

def notDirectory (path : String) : Failure :=
  ⟨.notDirectory, .numbered 20 s!"Not a directory: {Text.quoted path}"⟩

def nameTooLong (path : String) : Failure :=
  ⟨.os, .numbered 36 s!"File name too long: {Text.quoted path}"⟩

def nameLimit : Nat := 255

def present (entries : FileEntries) (path : String) : Except Failure Bool :=
  let isThere (parts : List (List Char)) : Bool := entries.any fun entry =>
    parts.isPrefixOf (Database.pathParts (Database.cleanPath entry.1).toList)
  let isLong (parts : List (List Char)) : Bool :=
    parts.getLast?.any fun name => nameLimit < (Text.utf8Encode name).length
  let parts := Database.pathParts path.toList
  let walk := (List.range parts.length).map fun k => parts.take (k + 1)
  match walk.find? fun parts => isLong parts || !isThere parts with
  | none => .ok true
  | some parts => if isLong parts then .error (nameTooLong path) else .ok (path == ".")

/-- Whether a path ends in a name, without a slash or a dot behind it. Only so a file is opened,
although what stands under the path is found without regard to that. -/
def endsInName (path : String) : Bool :=
  (Database.pathParts path.toList).getLast?.any fun part => part ≠ [] ∧ part ≠ ['.']

def read (entries : FileEntries) (path : String) : Except Failure (List UInt8) :=
  match entries.find? path with
  | none => .error (noSuchFile path)
  | some .directory => .error (if path.isEmpty then noSuchFile path else isDirectory path)
  | some (.file content) => if endsInName path then .ok content else .error (notDirectory path)

def disk (entries : FileEntries) : Disk := ⟨entries.present, entries.read⟩

end FileEntries

end Liveness.Fleet
