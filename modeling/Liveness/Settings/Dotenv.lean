import Liveness.Text.Blank

namespace Liveness.Settings.Dotenv

/-- Variables in the order in which they were first assigned. A name without a value is known but
stands for nothing. -/
abbrev Variables := List (String × Option String)

def assign (name : String) (value : Option String) : Variables → Variables
  | [] => [(name, value)]
  | (n, v) :: rest => if n = name then (n, value) :: rest else (n, v) :: assign name value rest

def isLineEnd (c : Char) : Bool := c = '\n' ∨ c = '\r'

def isInlineBlank (c : Char) : Bool := Text.isBlank c && !isLineEnd c

def unifyLines : List Char → List Char
  | '\r' :: '\n' :: rest => '\n' :: unifyLines rest
  | '\r' :: rest => '\n' :: unifyLines rest
  | c :: rest => c :: unifyLines rest
  | [] => []

/-- The text before a closing quote and what follows it. A quote behind a backslash does not
close; when nothing else does, the last such quote closes after all. -/
def closeQuote (quote : Char) : List Char → Option (List Char × List Char)
  | [] => none
  | '\\' :: c :: rest =>
    if c = quote then
      match closeQuote quote rest with
      | some (inner, after) => some ('\\' :: c :: inner, after)
      | none => some (['\\'], rest)
    else (closeQuote quote (c :: rest)).map fun (inner, after) => ('\\' :: inner, after)
  | c :: rest =>
    if c = quote then some ([], rest)
    else (closeQuote quote rest).map fun (inner, after) => (c :: inner, after)

def doubleEscapes : List (Char × Char) :=
  [('\\', '\\'), ('\'', '\''), ('"', '"'), ('a', '\x07'), ('b', '\x08'), ('f', '\x0c'),
   ('n', '\n'), ('r', '\r'), ('t', '\t'), ('v', '\x0b')]

def singleEscapes : List (Char × Char) := [('\\', '\\'), ('\'', '\'')]

def unescape (escapes : List (Char × Char)) : List Char → List Char
  | '\\' :: c :: rest =>
    match escapes.lookup c with
    | some plain => plain :: unescape escapes rest
    | none => '\\' :: unescape escapes (c :: rest)
  | c :: rest => c :: unescape escapes rest
  | [] => []

/-- Cuts a value at the first run of blanks that a number sign follows. -/
def cutComment : List Char → List Char
  | [] => []
  | c :: rest =>
    if Text.isBlank c ∧ (rest.dropWhile Text.isBlank).head? = some '#' then []
    else c :: cutComment rest

def trimRight (text : List Char) : List Char :=
  (text.reverse.dropWhile Text.isBlank).reverse

def takeValue (text : List Char) : Option (List Char × List Char) :=
  match text with
  | '\'' :: rest => (closeQuote '\'' rest).map fun (v, after) => (unescape singleEscapes v, after)
  | '"' :: rest => (closeQuote '"' rest).map fun (v, after) => (unescape doubleEscapes v, after)
  | _ =>
    let (line, after) := text.span fun c => !isLineEnd c
    some (trimRight (cutComment line), after)

def dropExport (text : List Char) : List Char :=
  let word := "export".toList
  if word.isPrefixOf text then
    let rest := text.drop word.length
    if rest.head?.any isInlineBlank then rest.dropWhile isInlineBlank else text
  else text

/-- A name, in single quotes or up to a blank, an equals sign or a number sign. A comment has
none; no name at all is a fault. -/
def takeName (text : List Char) : Option (Option (List Char) × List Char) :=
  match text with
  | '#' :: _ => some (none, text)
  | '\'' :: rest =>
    match rest.span (· ≠ '\'') with
    | (name, '\'' :: after) => if name.isEmpty then none else some (some name, after)
    | _ => none
  | _ =>
    let (name, after) := text.span fun c => !(c = '=' ∨ c = '#' ∨ Text.isBlank c)
    if name.isEmpty then none else some (some name, after)

def takeLineEnd (text : List Char) : Option (List Char) :=
  let text := text.dropWhile isInlineBlank
  let text := if text.head? = some '#' then text.dropWhile fun c => !isLineEnd c else text
  match text with
  | [] => some []
  | c :: rest => if isLineEnd c then some rest else none

structure Line where
  assignment : Option (String × Option String)
  rest : List Char

def skipLine (text : List Char) : Line :=
  ⟨none, (text.dropWhile fun c => !isLineEnd c).drop 1⟩

def takeLine (text : List Char) : Line :=
  let start := dropExport (text.dropWhile Text.isBlank)
  match takeName start with
  | none => skipLine start
  | some (name, afterName) =>
    let afterName := afterName.dropWhile isInlineBlank
    let valued : Option (Option (List Char) × List Char) := match afterName with
      | '=' :: rest =>
        (takeValue (rest.dropWhile isInlineBlank)).map fun (value, after) => (some value, after)
      | _ => some (none, afterName)
    match valued with
    | none => skipLine ((afterName.drop 1).dropWhile isInlineBlank)
    | some (value, after) =>
      match takeLineEnd after with
      | none => skipLine (after.dropWhile isInlineBlank)
      | some rest => ⟨name.map fun n => (String.ofList n, value.map String.ofList), rest⟩

/-- The assignments of a file in order. Each line takes a character at least, so `steps` counts
characters. -/
def takeLines : Nat → List Char → List (String × Option String)
  | 0, _ => []
  | steps + 1, text =>
    if text.all Text.isBlank then []
    else
      let line := takeLine text
      line.assignment.toList ++ takeLines steps line.rest

inductive Part where
  | text (c : Char)
  | variable (name alternative : List Char)

def takeVariable (text : List Char) : Option (Part × List Char) :=
  let (name, rest) := text.span fun c => !(c = '\x7d' ∨ c = ':')
  match rest with
  | '\x7d' :: after => some (.variable name [], after)
  | ':' :: '-' :: more =>
    match more.span (· ≠ '\x7d') with
    | (alternative, '\x7d' :: after) => some (.variable name alternative, after)
    | _ => none
  | _ => none

def parts : Nat → List Char → List Part
  | 0, _ | _, [] => []
  | steps + 1, c :: rest =>
    match c, rest with
    | '$', '\x7b' :: inner =>
      match takeVariable inner with
      | some (part, after) => part :: parts steps after
      | none => .text c :: parts steps rest
    | _, _ => .text c :: parts steps rest

def Part.resolve (environment : List (String × String)) (known : Variables) : Part → List Char
  | .text c => [c]
  | .variable name alternative =>
    let name := String.ofList name
    match known.lookup name, environment.lookup name with
    | some value, _ => (value.getD "").toList
    | none, some value => value.toList
    | none, none => alternative

def resolve (environment : List (String × String)) (known : Variables)
    (assignment : String × Option String) : Variables :=
  assign assignment.1 (assignment.2.map fun value =>
    String.ofList ((parts value.length value.toList).flatMap (Part.resolve environment known)))
    known

def read (environment : List (String × String)) (text : String) : Variables :=
  let chars := unifyLines text.toList
  (takeLines (chars.length + 1) chars).foldl (resolve environment) []

end Liveness.Settings.Dotenv
