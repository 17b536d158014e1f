import Liveness.Text.Integer
import Liveness.Text.Utf8

namespace Liveness.Reachability

structure Url where
  scheme : String := ""
  userInfo : String := ""
  host : String := ""
  port : Option Int := none
  path : String := ""
  query : Option String := none
  fragment : Option String := none
deriving DecidableEq, Inhabited

inductive UrlFault where
  | tooLong
  | control (char : Char) (position : Nat)
  | port (text : String)
  | relativePath
  | doubleSlash
  | colonFirst
deriving DecidableEq

def UrlFault.message : UrlFault → String
  | .tooLong => "URL too long"
  | .control char position =>
    s!"Invalid non-printable ASCII character in URL, {Text.quoted (String.singleton char)} " ++
      s!"at position {position}."
  | .port text => s!"Invalid port: {Text.quoted text}"
  | .relativePath => "For absolute URLs, path must be empty or begin with '/'"
  | .doubleSlash => "Relative URLs cannot have a path starting with '//'"
  | .colonFirst => "Relative URLs cannot have a path starting with ':'"

namespace Url

def isUnreserved (c : Char) : Bool :=
  c.isAlphanum || c = '-' || c = '.' || c = '_' || c = '~'

def safeExcept (unsafeChars : List Char) (c : Char) : Bool :=
  0x20 ≤ c.toNat && c.toNat < 0x7f && !unsafeChars.contains c

def queryUnsafe : List Char := [' ', '"', '#', '<', '>']

def isPathSafe : Char → Bool := safeExcept (queryUnsafe ++ ['?', '\x60', '\x7b', '\x7d'])

def isQuerySafe : Char → Bool := safeExcept queryUnsafe

def isFragmentSafe : Char → Bool := safeExcept [' ', '"', '<', '>', '\x60']

def isUserSafe : Char → Bool :=
  safeExcept (queryUnsafe ++
    ['?', '\x60', '\x7b', '\x7d', '/', ';', '=', '@', '[', '\\', ']', '^', '|'])

def isHostSafe (c : Char) : Bool :=
  isUnreserved c || "!$&'()*+,;=\"\x60\x7b\x7d%|\\".toList.contains c

def upperHex (n : Nat) : List Char := (Text.hexText 2 n).map Char.toUpper

def percentEncode (c : Char) : List Char :=
  (Text.utf8Bytes c).flatMap fun byte => '%' :: upperHex byte.toNat

def encode (safe : Char → Bool) (text : List Char) : String :=
  String.ofList (text.flatMap fun c => if safe c then [c] else percentEncode c)

def splitOn (mark : Char) (text : List Char) : List (List Char) :=
  text.foldr (fun c parts =>
    if c = mark then [] :: parts
    else match parts with
      | part :: rest => (c :: part) :: rest
      | [] => [[c]]) [[]]

def joinWith (mark : Char) (parts : List (List Char)) : List Char :=
  match parts with
  | [] => []
  | first :: rest => first ++ rest.flatMap (mark :: ·)

def pushSegment (done : List (List Char)) (segment : List Char) : List (List Char) :=
  if segment = ['.'] then done
  else if segment = ['.', '.'] then
    if done.isEmpty ∨ done = [[]] then done else done.drop 1
  else segment :: done

def normalizePath (path : List Char) : List Char :=
  let segments := splitOn '/' path
  if segments.contains ['.'] ∨ segments.contains ['.', '.'] then
    joinWith '/' (segments.foldl pushSegment []).reverse
  else path

def cutAt (marks : List Char) (text : List Char) : List Char × List Char :=
  text.span fun c => !marks.contains c

def isSchemeChar (c : Char) : Bool := c.isAlphanum || c = '+' || c = '.' || c = '-'

def takeScheme (text : List Char) : List Char × List Char :=
  let (name, rest) := text.span isSchemeChar
  match name, rest with
  | first :: _, ':' :: after => if first.isAlpha then (name, after) else ([], text)
  | [], ':' :: after => ([], after)
  | _, _ => ([], text)

def impliedPorts : List (String × Int) :=
  [("ftp", 21), ("http", 80), ("https", 443), ("ws", 80), ("wss", 443)]

def readPort (scheme : String) (text : List Char) : Except UrlFault (Option Int) :=
  if text.isEmpty then .ok none
  else match Text.readInteger (String.ofList text) with
    | .error _ => .error (.port (String.ofList text))
    | .ok n => .ok (if impliedPorts.lookup scheme = some n then none else some n)

def takeAuthority (text : List Char) : List Char × List Char × List Char :=
  let (user, rest) := match text.span (· ≠ '@') with
    | (user, '@' :: rest) => (user, rest)
    | _ => ([], text)
  let (host, rest) := match rest with
    | '[' :: inner =>
      match inner.span (· ≠ ']') with
      | (address, ']' :: after) => ('[' :: address ++ [']'], after)
      | _ => rest.span fun c => c ≠ ':' && c ≠ '@'
    | _ => rest.span fun c => c ≠ ':' && c ≠ '@'
  (user, host, match rest with
    | ':' :: port => port
    | port => port)

def lower (text : List Char) : List Char := text.map Char.toLower

def encodeHost (host : List Char) : String :=
  match host with
  | '[' :: inner => String.ofList (inner.takeWhile (· ≠ ']'))
  | _ =>
    if host.all fun c => c.toNat < 0x80 then encode isHostSafe (lower host)
    else String.ofList (lower host)

def longest : Nat := 65536

def parse (text : String) : Except UrlFault Url := do
  let chars := text.toList
  if longest < chars.length then .error .tooLong
  if let some (char, position) :=
      chars.zipIdx.find? fun (c, _) => c.toNat < 0x20 || c.toNat = 0x7f then
    .error (.control char position)
  let (schemeChars, rest) := takeScheme chars
  let (authority, rest) := match rest with
    | '/' :: '/' :: more => cutAt ['/', '?', '#'] more
    | _ => ([], rest)
  let (path, rest) := cutAt ['?', '#'] rest
  let (query, rest) := match rest with
    | '?' :: more => let (q, after) := cutAt ['#'] more; (some q, after)
    | _ => (none, rest)
  let fragment := match rest with
    | '#' :: more => some more
    | _ => none
  let (user, host, portText) := takeAuthority authority
  let scheme := String.ofList (lower schemeChars)
  let port ← readPort scheme portText
  let hasAuthority := !user.isEmpty || !host.isEmpty || port.isSome
  if hasAuthority ∧ ¬ path.isEmpty ∧ path.head? ≠ some '/' then .error .relativePath
  if ¬ hasAuthority ∧ schemeChars.isEmpty then
    if path.take 2 = ['/', '/'] then .error .doubleSlash
    if path.head? = some ':' then .error .colonFirst
  let path := if hasAuthority ∨ ¬ schemeChars.isEmpty then normalizePath path else path
  return {
    scheme := scheme
    userInfo := encode isUserSafe user
    host := encodeHost host
    port := port
    path := encode isPathSafe path
    query := query.map (encode isQuerySafe)
    fragment := fragment.map (encode isFragmentSafe) }

def authority (url : Url) : String :=
  let host := if url.host.toList.contains ':' then "[" ++ url.host ++ "]" else url.host
  (if url.userInfo.isEmpty then "" else url.userInfo ++ "@") ++ host ++
    match url.port with
    | some n => s!":{n}"
    | none => ""

def toText (url : Url) : String :=
  (if url.scheme.isEmpty then "" else url.scheme ++ ":") ++
    (if url.authority.isEmpty then "" else "//" ++ url.authority) ++ url.path ++
    (match url.query with
      | some q => "?" ++ q
      | none => "") ++
    match url.fragment with
    | some f => "#" ++ f
    | none => ""

def isAbsolute (url : Url) : Bool := !url.scheme.isEmpty && !url.host.isEmpty

def stepSegment (done : List (List Char)) (segment : List Char) : List (List Char) :=
  if segment = ['.'] then done
  else if segment = ['.', '.'] then done.drop 1
  else segment :: done

def joinPath (base path : List Char) : List Char :=
  let segments :=
    if path.head? = some '/' then splitOn '/' path
    else
      let parts := splitOn '/' base
      let directory := if parts.getLast? = some [] then parts else parts.dropLast
      let all := directory ++ splitOn '/' path
      all.take 1 ++ ((all.drop 1).dropLast.filter fun s => !s.isEmpty) ++
        (if all.length ≤ 1 then [] else all.drop (all.length - 1))
  let last := segments.getLast?
  let resolved := (segments.foldl stepSegment []).reverse ++
    if last = some ['.'] ∨ last = some ['.', '.'] then [[]] else []
  let joined := joinWith '/' resolved
  if joined.isEmpty then ['/'] else joined

def join (base relative : Url) : Url :=
  if ¬ relative.host.isEmpty then { relative with scheme := base.scheme }
  else
    let root := { base with fragment := relative.fragment }
    if relative.path.isEmpty then
      { root with
        query := if (relative.query.getD "").isEmpty then base.query else relative.query
        fragment := relative.fragment }
    else
      { root with
        path := String.ofList (joinPath base.path.toList relative.path.toList)
        query := relative.query }

end Url

end Liveness.Reachability
