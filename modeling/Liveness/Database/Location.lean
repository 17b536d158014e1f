import Liveness.Failure
import Liveness.Text.Digit
import Liveness.Text.Utf8

/-!
Where a database is: paths of files, and the `file:` addresses under which they are opened. In an
address `%` with two digits stands for a byte, `?` begins options and `#` ends the address.
-/

namespace Liveness.Database

def pathParts (path : List Char) : List (List Char) :=
  path.foldr (fun c parts =>
    if c = '/' then [] :: parts
    else match parts with
      | part :: rest => (c :: part) :: rest
      | [] => [[c]]) [[]]

def rootOf (path : List Char) : List Char :=
  match (path.takeWhile (· = '/')).length with
  | 0 => []
  | 2 => ['/', '/']
  | _ => ['/']

/-- One spelling for a path: no empty parts, and none that are a single dot. -/
def cleanPath (path : String) : String :=
  let chars := path.toList
  let parts := (pathParts chars).filter fun part => part ≠ [] ∧ part ≠ ['.']
  let root := rootOf chars
  let body := (parts.intersperse ['/']).flatten
  if root.isEmpty ∧ body.isEmpty then "." else String.ofList (root ++ body)

inductive OpenFault where
  | unableToOpen
  | noSuchMode (kind value : String)
  | badAuthority (name : String)
  | noSuchVfs (name : String)
  | noSuchTable (name : String)
  | noSuchColumn (name : String)
  | notDatabase
deriving DecidableEq

def OpenFault.message : OpenFault → String
  | .unableToOpen => "unable to open database file"
  | .noSuchMode kind value => s!"no such {kind} mode: {value}"
  | .badAuthority name => s!"invalid uri authority: {name}"
  | .noSuchVfs name => s!"no such vfs: {name}"
  | .noSuchTable name => s!"no such table: {name}"
  | .noSuchColumn name => s!"no such column: {name}"
  | .notDatabase => "file is not a database"

def OpenFault.className : OpenFault → String
  | .notDatabase => "DatabaseError"
  | _ => "OperationalError"

def OpenFault.toFailure (fault : OpenFault) : Failure :=
  .of (.database fault.className) fault.message

inductive AccessMode where
  | readOnly
  | readWrite
  | create
  | memory
deriving DecidableEq

structure Address where
  file : List Char
  mode : AccessMode
deriving DecidableEq

inductive AddressToken where
  | byte (b : UInt8)
  | mark (c : Char)
deriving DecidableEq

def tokens : List Char → List AddressToken
  | [] => []
  | '#' :: _ => []
  | '%' :: a :: b :: rest =>
    match Text.hexDigit? a, Text.hexDigit? b with
    | some high, some low => .byte (16 * high + low).toUInt8 :: tokens rest
    | _, _ => .mark '%' :: tokens (a :: b :: rest)
  | c :: rest =>
    if c.toNat < 0x80 then .mark c :: tokens rest
    else (Text.utf8Bytes c).map .byte ++ tokens rest

def partBytes (part : List AddressToken) : List UInt8 :=
  (part.map fun
    | .byte b => b
    | .mark c => c.toNat.toUInt8).takeWhile (· ≠ 0)

def cut (mark : Char) (ts : List AddressToken) : List AddressToken × List AddressToken :=
  let (before, rest) := ts.span (· ≠ .mark mark)
  (before, rest.drop 1)

def cutAll (mark : Char) (ts : List AddressToken) : List (List AddressToken) :=
  ts.foldr (fun t parts =>
    if t = .mark mark then [] :: parts
    else match parts with
      | part :: rest => (t :: part) :: rest
      | [] => [[t]]) [[]]

def options (query : List AddressToken) : List (String × String) :=
  (cutAll '&' query).filterMap fun option =>
    let (name, value) := cut '=' option
    if name.isEmpty then none
    else some (Text.utf8Lossy (partBytes name), Text.utf8Lossy (partBytes value))

def accessModes : List (String × AccessMode) :=
  [("ro", .readOnly), ("rw", .readWrite), ("rwc", .create), ("memory", .memory)]

/-- One option after the other decides the mode; one with an unknown value is refused. -/
def modeOf (mode : AccessMode) : List (String × String) → Except OpenFault AccessMode
  | [] => .ok mode
  | (name, value) :: rest =>
    if name = "mode" then
      match accessModes.lookup value with
      | some found => modeOf found rest
      | none => .error (.noSuchMode "access" value)
    else if name = "cache" ∧ value ≠ "shared" ∧ value ≠ "private" then
      .error (.noSuchMode "cache" value)
    else modeOf mode rest

def knownVfs : List String := ["unix", "unix-none", "unix-dotfile", "unix-excl", "memdb"]

def parseAddress (text : List Char) : Except OpenFault Address := do
  let text ← match text with
    | '/' :: '/' :: rest =>
      let host := rest.takeWhile (· ≠ '/')
      if host.isEmpty ∨ host = "localhost".toList then .ok (rest.dropWhile (· ≠ '/'))
      else .error (.badAuthority (String.ofList host))
    | _ => .ok text
  let (file, query) := cut '?' (tokens text)
  let chosen := options query
  let mode ← modeOf .create chosen
  if let some (_, vfs) := chosen.reverse.find? fun (name, _) => name = "vfs" then
    if ¬ knownVfs.contains vfs then .error (.noSuchVfs vfs)
  match Text.utf8Decode? (partBytes file) with
  | some name => return ⟨name, mode⟩
  | none => .error .unableToOpen

end Liveness.Database
