import Liveness.Text.Digit
import Liveness.Yaml.Cursor

namespace Liveness.Yaml.Quoted

def escapes : List (Char × Char) :=
  [('0', '\x00'), ('a', '\x07'), ('b', '\x08'), ('t', '\t'), ('\t', '\t'), ('n', '\n'),
   ('v', '\x0b'), ('f', '\x0c'), ('r', '\r'), ('e', '\x1b'), (' ', ' '), ('"', '"'), ('\\', '\\'),
   ('/', '/'), ('N', '\x85'), ('_', '\xa0'), ('L', '\u2028'), ('P', '\u2029')]

def escapeWidth? (c : Char) : Option Nat :=
  if c = 'x' then some 2 else if c = 'u' then some 4 else if c = 'U' then some 8 else none

def hexNumber? (width : Nat) (c : Cursor) : Option (Nat × Cursor) := do
  let digits ← (c.rest.take width).mapM Text.hexDigit?
  if digits.length = width then some (Text.ofDigits 16 digits, c.forward width) else none

def isHighSurrogate (code : Nat) : Bool := 0xd800 ≤ code && code < 0xdc00

def isLowSurrogate (code : Nat) : Bool := 0xdc00 ≤ code && code < 0xe000

def lowHalf? (c : Cursor) : Option (Nat × Cursor) :=
  match c.rest with
  | '\\' :: 'u' :: _ => (hexNumber? 4 (c.forward 2)).filter fun (code, _) => isLowSurrogate code
  | _ => none

/-- The character that a code point stands for; a pair of halves stands for one character, and a
half alone for the replacement character. -/
def codePoint (code : Nat) (c : Cursor) : Except Fault (Char × Cursor) :=
  if 0x10ffff < code then .error (.codePoint code)
  else if isHighSurrogate code then
    match lowHalf? c with
    | some (low, c) =>
      .ok (Char.ofNat (0x10000 + (code - 0xd800) * 0x400 + (low - 0xdc00)), c)
    | none => .ok ('\ufffd', c)
  else if isLowSurrogate code then .ok ('\ufffd', c)
  else .ok (Char.ofNat code, c)

def emptyLines : Nat → Cursor → Except Fault (List Char × Cursor)
  | 0, c => .ok ([], c)
  | fuel + 1, c => do
    if c.atDocumentMark then .error .quoteAcrossDocuments
    let c := c.skipWhile fun char => char = ' ' || char = '\t'
    match c.lineBreak? with
    | none => return ([], c)
    | some (char, c) =>
      let (more, c) ← emptyLines fuel c
      return (char :: more, c)

def gap (c : Cursor) : Except Fault (List Char × Cursor) := do
  let (blanks, c) := c.takeWhile fun char => char = ' ' || char = '\t'
  match c.lineBreak? with
  | none => return (blanks, c)
  | some (char, c) =>
    let (lines, c) ← emptyLines (c.rest.length + 1) c
    let first := if char ≠ '\n' then [char] else if lines.isEmpty then [' '] else []
    return (first ++ lines, c)

def escape (c : Cursor) : Except Fault (List Char × Cursor) :=
  match c.next? with
  | none => .error .badEscape
  | some char =>
    match escapes.lookup char, escapeWidth? char with
    | some meant, _ => .ok ([meant], c.advance)
    | none, some width =>
      match hexNumber? width c.advance with
      | none => .error .badEscape
      | some (code, c) => (codePoint code c).map fun (meant, c) => ([meant], c)
    | none, none =>
      match c.lineBreak? with
      | some (_, c) => emptyLines (c.rest.length + 1) c
      | none => .error .badEscape

def piece? (double : Bool) (c : Cursor) : Except Fault (Option (List Char × Cursor)) :=
  match c.rest with
  | [] => .error .unclosedQuote
  | '\'' :: rest =>
    if double then .ok (some (['\''], c.advance))
    else if rest.head? = some '\'' then .ok (some (['\''], c.forward 2))
    else .ok none
  | '"' :: _ => .ok (if double then none else some (['"'], c.advance))
  | '\\' :: _ => if double then (escape c.advance).map some else .ok (some (['\\'], c.advance))
  | char :: _ =>
    if isSpacing char then (gap c).map some else .ok (some ([char], c.advance))

def piecesFrom (double : Bool) : Nat → Cursor → Except Fault (List Char × Cursor)
  | 0, _ => .error .unclosedQuote
  | fuel + 1, c => do
    match ← piece? double c with
    | none => return ([], c.advance)
    | some (text, c) =>
      let (more, c) ← piecesFrom double fuel c
      return (text ++ more, c)

def read (double : Bool) (c : Cursor) : Except Fault (String × Cursor) := do
  let (text, c) ← piecesFrom double (c.rest.length + 1) c.advance
  return (String.ofList text, c)

end Liveness.Yaml.Quoted
