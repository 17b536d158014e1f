import Liveness.Yaml.Token.Block
import Liveness.Yaml.Token.Name
import Liveness.Yaml.Token.Plain
import Liveness.Yaml.Token.Quoted

/-!
From a text to its tokens. Outside brackets the column of a token opens and closes block
collections. That something is a key is only known at the colon behind it, so the lexer keeps the
places at which a key may have begun, one for each depth of brackets, and marks the key afterwards.
-/

namespace Liveness.Yaml

/-- A place at which a key may have begun. -/
structure KeyPlace where
  position : Nat
  required : Bool
  index : Nat
  line : Nat
  column : Nat

structure Lexer where
  cursor : Cursor
  tokens : Array Token := #[]
  indent : Int := -1
  outerIndents : List Int := []
  depth : Nat := 0
  keyAllowed : Bool := true
  keyPlaces : List (Nat × KeyPlace) := []

def longestKey : Nat := 1024

namespace Lexer

def inFlow (s : Lexer) : Bool := s.depth ≠ 0

def push (token : Token) (s : Lexer) : Lexer := { s with tokens := s.tokens.push token }

def skipGap : Nat → Bool → Cursor → Cursor × Bool
  | 0, crossed, c => (c, crossed)
  | fuel + 1, crossed, c =>
    let c := c.skipSpaces.skipComment
    match c.lineBreak? with
    | some (_, c) => skipGap fuel true c
    | none => (c, crossed)

def toNextToken (s : Lexer) : Lexer :=
  let start :=
    if s.cursor.index = 0 ∧ s.cursor.next? = some byteOrderMark then s.cursor.advance else s.cursor
  let (c, crossed) := skipGap (start.rest.length + 1) false start
  { s with cursor := c, keyAllowed := s.keyAllowed || (crossed && !s.inFlow) }

def isStale (c : Cursor) (place : KeyPlace) : Bool :=
  place.line ≠ c.line || longestKey < c.index - place.index

/-- Gives up places that are on an earlier line or too far behind. -/
def dropStaleKeys (s : Lexer) : Except Fault Lexer :=
  let (stale, fresh) := s.keyPlaces.partition fun (_, place) => isStale s.cursor place
  if stale.any fun (_, place) => place.required then .error .missingColon
  else .ok { s with keyPlaces := fresh }

def dropKey (s : Lexer) : Except Fault Lexer :=
  match s.keyPlaces.lookup s.depth with
  | none => .ok s
  | some place =>
    if place.required then .error .missingColon
    else .ok { s with keyPlaces := s.keyPlaces.filter fun (depth, _) => depth ≠ s.depth }

def keepKey (s : Lexer) : Except Fault Lexer := do
  if ¬ s.keyAllowed then return s
  let s ← s.dropKey
  let place : KeyPlace := {
    position := s.tokens.size
    required := !s.inFlow && s.indent = s.cursor.column
    index := s.cursor.index
    line := s.cursor.line
    column := s.cursor.column }
  return { s with keyPlaces := (s.depth, place) :: s.keyPlaces }

def closeBlocks (column indent : Int) (tokens : Array Token) :
    List Int → Int × List Int × Array Token
  | [] => (indent, [], tokens)
  | outer :: rest =>
    if column < indent then closeBlocks column outer (tokens.push .blockEnd) rest
    else (indent, outer :: rest, tokens)

def unwind (column : Int) (s : Lexer) : Lexer :=
  if s.inFlow then s
  else
    let (indent, outer, tokens) := closeBlocks column s.indent s.tokens s.outerIndents
    { s with indent := indent, outerIndents := outer, tokens := tokens }

/-- Opens a block collection at a column, unless one is open there; its start goes to `position`. -/
def openBlock (start : Token) (column position : Nat) (s : Lexer) : Lexer :=
  if s.indent < column then
    { s with
      indent := column
      outerIndents := s.indent :: s.outerIndents
      tokens := s.tokens.insertIdxIfInBounds position start }
  else s

def standsAlone (s : Lexer) : Bool := s.inFlow || s.cursor.spacingAt 1

def startsPlain (s : Lexer) : Bool :=
  match s.cursor.rest with
  | [] => false
  | char :: _ =>
    !(isSpacing char || "-?:,[]\x7b\x7d#&*!|>'\"%@\x60".toList.contains char) ||
      (!s.cursor.spacingAt 1 && (char = '-' || (!s.inFlow && (char = '?' || char = ':'))))

def finish (s : Lexer) : Except Fault (Array Token) := do
  let s ← (s.unwind (-1)).dropKey
  return s.tokens.push .streamEnd

def betweenDocuments (token : Token) (after : Cursor) (s : Lexer) : Except Fault Lexer := do
  let s ← (s.unwind (-1)).dropKey
  return { s.push token with cursor := after, keyAllowed := false }

def openBracket (token : Token) (s : Lexer) : Except Fault Lexer := do
  let s ← s.keepKey
  return { s.push token with cursor := s.cursor.advance, depth := s.depth + 1, keyAllowed := true }

def closeBracket (token : Token) (s : Lexer) : Except Fault Lexer := do
  let s ← s.dropKey
  return { s.push token with cursor := s.cursor.advance, depth := s.depth - 1, keyAllowed := false }

def comma (s : Lexer) : Except Fault Lexer := do
  let s ← s.dropKey
  return { s.push .flowEntry with cursor := s.cursor.advance, keyAllowed := true }

def blockMark (start mark : Token) (fault : Fault) (keyAfter : Bool) (s : Lexer) :
    Except Fault Lexer := do
  if ¬ s.inFlow ∧ ¬ s.keyAllowed then .error fault
  let s := if s.inFlow then s else s.openBlock start s.cursor.column s.tokens.size
  let s ← s.dropKey
  return { s.push mark with cursor := s.cursor.advance, keyAllowed := keyAfter }

def colon (s : Lexer) : Except Fault Lexer :=
  match s.keyPlaces.lookup s.depth with
  | some place =>
    let s := { s with
      keyPlaces := s.keyPlaces.filter fun (depth, _) => depth ≠ s.depth
      tokens := s.tokens.insertIdxIfInBounds place.position .key }
    let s := if s.inFlow then s else s.openBlock .blockMappingStart place.column place.position
    .ok { s.push .value with cursor := s.cursor.advance, keyAllowed := false }
  | none => s.blockMark .blockMappingStart .value .misplacedValue (!s.inFlow)

def mayBeginKey (read : Cursor → Except Fault (Token × Cursor)) (s : Lexer) :
    Except Fault Lexer := do
  let s ← s.keepKey
  let (token, c) ← read s.cursor
  return { s.push token with cursor := c, keyAllowed := false }

def blockScalar (folded : Bool) (s : Lexer) : Except Fault Lexer := do
  let s ← s.dropKey
  let (text, c) ← Block.read folded s.indent s.cursor
  return { s.push (.scalar text false) with cursor := c, keyAllowed := true }

def plainScalar (s : Lexer) : Except Fault Lexer := do
  let s ← s.keepKey
  let (text, c, crossed) := Plain.read s.inFlow (s.indent + 1) s.cursor
  return { s.push (.scalar text true) with cursor := c, keyAllowed := crossed }

def quotedScalar (double : Bool) (s : Lexer) : Except Fault Lexer :=
  s.mayBeginKey fun c => (Quoted.read double c).map fun (text, c) => (.scalar text false, c)

def readToken (char : Char) (s : Lexer) : Except Fault Lexer := do
  let c := s.cursor
  let atLineStart := c.column = 0
  if char = '%' ∧ atLineStart then
    let (directive, after) ← Name.readDirective c
    s.betweenDocuments (.directive directive) after
  else if atLineStart ∧ c.startsWith Cursor.documentStart ∧ c.spacingAt 3 then
    s.betweenDocuments .documentStart (c.forward 3)
  else if atLineStart ∧ c.startsWith Cursor.documentEnd ∧ c.spacingAt 3 then
    s.betweenDocuments .documentEnd (c.forward 3)
  else if char = '[' then s.openBracket .flowSequenceStart
  else if char = '\x7b' then s.openBracket .flowMappingStart
  else if char = ']' then s.closeBracket .flowSequenceEnd
  else if char = '\x7d' then s.closeBracket .flowMappingEnd
  else if char = ',' then s.comma
  else if char = '-' ∧ c.spacingAt 1 then
    s.blockMark .blockSequenceStart .blockEntry .misplacedEntry true
  else if char = '?' ∧ s.standsAlone then
    s.blockMark .blockMappingStart .key .misplacedKey (!s.inFlow)
  else if char = ':' ∧ s.standsAlone then s.colon
  else if char = '*' then
    s.mayBeginKey fun c => (Name.readAnchor c).map fun (name, c) => (.alias name, c)
  else if char = '&' then
    s.mayBeginKey fun c => (Name.readAnchor c).map fun (name, c) => (.anchor name, c)
  else if char = '!' then s.mayBeginKey Name.readTag
  else if char = '|' ∧ ¬ s.inFlow then s.blockScalar false
  else if char = '>' ∧ ¬ s.inFlow then s.blockScalar true
  else if char = '\'' then s.quotedScalar false
  else if char = '"' then s.quotedScalar true
  else if s.startsPlain then s.plainScalar
  else .error (.strayCharacter char)

def run : Nat → Lexer → Except Fault (Array Token)
  | 0, s => s.finish
  | fuel + 1, s => do
    let s ← s.toNextToken.dropStaleKeys
    let s := s.unwind s.cursor.column
    match s.cursor.next? with
    | none => s.finish
    | some char => run fuel (← s.readToken char)

end Lexer

def isReadable (c : Char) : Bool :=
  let n := c.toNat
  n = 0x9 || n = 0xa || n = 0xd || (0x20 ≤ n && n ≤ 0x7e) || n = 0x85 ||
    (0xa0 ≤ n && n ≤ 0xd7ff) || (0xe000 ≤ n && n ≤ 0xfffd) || 0x10000 ≤ n

def tokensOf (text : List Char) : Except Fault (Array Token) :=
  match text.find? fun c => !isReadable c with
  | some char => .error (.unreadable char)
  | none => Lexer.run (text.length + 1) { cursor := ⟨text, 0, 0, 0⟩ }

end Liveness.Yaml
