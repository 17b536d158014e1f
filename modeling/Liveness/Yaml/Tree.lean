import Liveness.Yaml.Tag
import Liveness.Yaml.Timestamp
import Liveness.Yaml.Token.Lexer

namespace Liveness.Yaml

inductive Tree where
  | alias (name : String)
  | scalar (anchor : Option String) (tag : Tag) (text : String)
  | sequence (anchor : Option String) (tag : Tag) (items : List Tree)
  | mapping (anchor : Option String) (tag : Tag) (pairs : List (Tree × Tree))
deriving Inhabited

def Tag.ofPlain (text : String) : Tag :=
  let chars := text.toList
  if Look.isBoolWord text then .bool
  else if Look.isReal chars then .real
  else if Look.isInteger chars then .integer
  else if text = "<<" then .merge
  else if Look.isNullWord text then .null
  else if (TimestampText.read? chars).any TimestampText.isPlain then .timestamp
  else if text = "=" then .defaultValue
  else .text

namespace Tree

abbrev Handles := List (String × String)

def standardHandles : Handles := [("!", "!"), ("!!", Tag.standard)]

def empty : Tree := .scalar none .null ""

abbrev Parsed (α : Type) := α × List Token

def comesNext (choices tokens : List Token) : Bool := tokens.head?.any choices.contains

def expandTag (handles : Handles) (handle : Option String) (rest : String) :
    Except Fault String :=
  match handle with
  | none => .ok rest
  | some h =>
    match handles.lookup h with
    | some expansion => .ok (expansion ++ rest)
    | none => .error (.unknownHandle h)

def properties (handles : Handles) :
    List Token → Except Fault (Parsed (Option String × Option String))
  | .anchor name :: .tag handle rest :: tokens => do
    return ((some name, some (← expandTag handles handle rest)), tokens)
  | .tag handle rest :: .anchor name :: tokens => do
    return ((some name, some (← expandTag handles handle rest)), tokens)
  | .anchor name :: tokens => .ok ((some name, none), tokens)
  | .tag handle rest :: tokens => do
    return ((none, some (← expandTag handles handle rest)), tokens)
  | tokens => .ok ((none, none), tokens)

def isOpenTag (name : Option String) : Bool := name = none || name = some "!"

def scalarTag (name : Option String) (plain : Bool) (text : String) : Tag :=
  match name with
  | none => if plain then Tag.ofPlain text else .text
  | some n => if n = "!" then Tag.ofPlain text else Tag.ofName n

def collectionTag (name : Option String) (usual : Tag) : Tag :=
  if isOpenTag name then usual else ((name.map Tag.ofName).getD usual)

mutual

/-- A node. Block collections count where `block` says so, and entries at the column of their key
where `loose` says so. -/
def node (handles : Handles) (block loose : Bool) : Nat → List Token → Except Fault (Parsed Tree)
  | 0, _ => .error .unexpectedToken
  | _ + 1, .alias name :: rest => .ok (.alias name, rest)
  | fuel + 1, tokens => do
    let ((anchor, tag), tokens) ← properties handles tokens
    let sequence (parse : Except Fault (Parsed (List Tree))) : Except Fault (Parsed Tree) :=
      parse.map fun (items, rest) => (.sequence anchor (collectionTag tag .list) items, rest)
    let mapping (parse : Except Fault (Parsed (List (Tree × Tree)))) :
        Except Fault (Parsed Tree) :=
      parse.map fun (pairs, rest) => (.mapping anchor (collectionTag tag .map) pairs, rest)
    match tokens, block, loose with
    | .blockEntry :: _, _, true => sequence (looseItems handles fuel tokens)
    | .scalar text plain :: rest, _, _ => .ok (.scalar anchor (scalarTag tag plain text) text, rest)
    | .flowSequenceStart :: rest, _, _ => sequence (flowItems handles true fuel rest)
    | .flowMappingStart :: rest, _, _ => mapping (flowPairs handles true fuel rest)
    | .blockSequenceStart :: rest, true, _ => sequence (blockItems handles fuel rest)
    | .blockMappingStart :: rest, true, _ => mapping (blockPairs handles fuel rest)
    | _, _, _ =>
      if anchor.isNone ∧ tag.isNone then .error .unexpectedToken
      else .ok (.scalar anchor (scalarTag tag true "") "", tokens)

def nodeOrEmpty (handles : Handles) (block loose : Bool) (instead : List Token) :
    Nat → List Token → Except Fault (Parsed Tree)
  | 0, _ => .error .unexpectedToken
  | fuel + 1, tokens =>
    if comesNext instead tokens then .ok (.empty, tokens) else node handles block loose fuel tokens

def blockItems (handles : Handles) : Nat → List Token → Except Fault (Parsed (List Tree))
  | 0, _ => .error .unexpectedToken
  | fuel + 1, .blockEntry :: rest => do
    let (item, rest) ← nodeOrEmpty handles true false [.blockEntry, .blockEnd] fuel rest
    let (items, rest) ← blockItems handles fuel rest
    return (item :: items, rest)
  | _, .blockEnd :: rest => .ok ([], rest)
  | _, _ => .error .unexpectedToken

def looseItems (handles : Handles) : Nat → List Token → Except Fault (Parsed (List Tree))
  | 0, _ => .error .unexpectedToken
  | fuel + 1, .blockEntry :: rest => do
    let (item, rest) ←
      nodeOrEmpty handles true false [.blockEntry, .key, .value, .blockEnd] fuel rest
    let (items, rest) ← looseItems handles fuel rest
    return (item :: items, rest)
  | _, tokens => .ok ([], tokens)

def valueOrEmpty (handles : Handles) (block : Bool) (instead : List Token) :
    Nat → List Token → Except Fault (Parsed Tree)
  | 0, _ => .error .unexpectedToken
  | fuel + 1, .value :: rest => nodeOrEmpty handles block block instead fuel rest
  | _, tokens => .ok (.empty, tokens)

def blockPairs (handles : Handles) : Nat → List Token → Except Fault (Parsed (List (Tree × Tree)))
  | 0, _ => .error .unexpectedToken
  | fuel + 1, .key :: rest => do
    let instead := [Token.key, .value, .blockEnd]
    let (key, rest) ← nodeOrEmpty handles true true instead fuel rest
    let (value, rest) ← valueOrEmpty handles true instead fuel rest
    let (pairs, rest) ← blockPairs handles fuel rest
    return ((key, value) :: pairs, rest)
  | _, .blockEnd :: rest => .ok ([], rest)
  | _, _ => .error .unexpectedToken

/-- Entries of a sequence in brackets and its end. A pair among them is a mapping of its own. -/
def flowItems (handles : Handles) (first : Bool) :
    Nat → List Token → Except Fault (Parsed (List Tree))
  | 0, _ => .error .unexpectedToken
  | _, .flowSequenceEnd :: rest => .ok ([], rest)
  | fuel + 1, tokens => do
    let tokens ← match first, tokens with
      | true, _ => pure tokens
      | false, .flowEntry :: rest => pure rest
      | false, _ => .error .unexpectedToken
    match tokens with
    | .flowSequenceEnd :: rest => return ([], rest)
    | .key :: rest =>
      let (key, rest) ←
        nodeOrEmpty handles false false [.value, .flowEntry, .flowSequenceEnd] fuel rest
      let (value, rest) ← valueOrEmpty handles false [.flowEntry, .flowSequenceEnd] fuel rest
      let (items, rest) ← flowItems handles false fuel rest
      return (.mapping none .map [(key, value)] :: items, rest)
    | _ =>
      let (item, rest) ← node handles false false fuel tokens
      let (items, rest) ← flowItems handles false fuel rest
      return (item :: items, rest)

def flowPairs (handles : Handles) (first : Bool) :
    Nat → List Token → Except Fault (Parsed (List (Tree × Tree)))
  | 0, _ => .error .unexpectedToken
  | _, .flowMappingEnd :: rest => .ok ([], rest)
  | fuel + 1, tokens => do
    let tokens ← match first, tokens with
      | true, _ => pure tokens
      | false, .flowEntry :: rest => pure rest
      | false, _ => .error .unexpectedToken
    match tokens with
    | .flowMappingEnd :: rest => return ([], rest)
    | .key :: rest =>
      let (key, rest) ←
        nodeOrEmpty handles false false [.value, .flowEntry, .flowMappingEnd] fuel rest
      let (value, rest) ← valueOrEmpty handles false [.flowEntry, .flowMappingEnd] fuel rest
      let (pairs, rest) ← flowPairs handles false fuel rest
      return ((key, value) :: pairs, rest)
    | _ =>
      let (key, rest) ← node handles false false fuel tokens
      let (pairs, rest) ← flowPairs handles false fuel rest
      return ((key, .empty) :: pairs, rest)

end

def directives (seenVersion : Bool) (handles : Handles) : List Token → Except Fault (Parsed Handles)
  | .directive (.version major _) :: rest =>
    if seenVersion then .error .repeatedDirective
    else if major ≠ 1 then .error .badVersion
    else directives true handles rest
  | .directive (.handle name expansion) :: rest =>
    if (handles.lookup name).isSome then .error .repeatedDirective
    else directives seenVersion (handles ++ [(name, expansion)]) rest
  | .directive .other :: rest => directives seenVersion handles rest
  | tokens => .ok (handles ++ standardHandles, tokens)

def expectEnd : List Token → Except Fault Unit
  | .documentEnd :: rest => expectEnd rest
  | [.streamEnd] => .ok ()
  | _ => .error .secondDocument

def callsPerToken : Nat := 4

def fuelFor (tokens : List Token) : Nat := callsPerToken * (tokens.length + 1)

def content (handles : Handles) (tokens : List Token) : Except Fault (Parsed Tree) :=
  match tokens with
  | .directive _ :: _ | .documentStart :: _ | .documentEnd :: _ | .streamEnd :: _ =>
    .ok (.empty, tokens)
  | _ => node handles true false (fuelFor tokens) tokens

def ofTokens (tokens : List Token) : Except Fault (Option Tree) := do
  match tokens with
  | .streamEnd :: _ => return none
  | .directive _ :: _ | .documentStart :: _ =>
    let (handles, rest) ← directives false [] tokens
    match rest with
    | .documentStart :: rest =>
      let (tree, rest) ← content handles rest
      expectEnd rest
      return some tree
    | _ => .error .unexpectedToken
  | _ =>
    let (tree, rest) ← node standardHandles true false (fuelFor tokens) tokens
    expectEnd rest
    return some tree

end Tree

def parse (text : List Char) : Except Fault (Option Tree) := do
  Tree.ofTokens (← tokensOf text).toList

end Liveness.Yaml
