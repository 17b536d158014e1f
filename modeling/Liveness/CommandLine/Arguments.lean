import Liveness.Text.Blank
import Liveness.Text.Digit
import Liveness.Text.Quoted

namespace Liveness.CommandLine

def programName : String := "beaconwatch"

inductive Command where
  | run
  | once
deriving DecidableEq

def Command.name : Command → String
  | .run => "run"
  | .once => "once"

def Command.all : List Command := [.run, .once]

inductive Request where
  | command (command : Command)
  | nothing
  | help (of : Option Command)
  | misuse (of : Option Command) (message : String)
deriving DecidableEq

def usage : Option Command → String
  | none => s!"usage: {programName} [-h] \x7brun,once\x7d ...\n"
  | some command => s!"usage: {programName} {command.name} [-h]\n"

def optionsHelp : String := "\noptions:\n  -h, --help  show this help message and exit\n"

def helpText : Option Command → String
  | none =>
    usage none ++ s!"\n{programName} liveness monitor\n\npositional arguments:\n" ++
      "  \x7brun,once\x7d\n    run       Run all probes forever\n" ++
      "    once      Run each probe once and print the verdicts\n" ++ optionsHelp
  | some command => usage (some command) ++ optionsHelp

def misuseText (of : Option Command) (message : String) : String :=
  let program := match of with
    | none => programName
    | some command => programName ++ " " ++ command.name
  usage of ++ s!"{program}: error: {message}\n"

inductive Argument where
  | positional
  | help
  | helpWithValue (value : String)
  | unknownOption
deriving DecidableEq

def isNegativeNumber (text : List Char) : Bool :=
  match text with
  | '-' :: rest =>
    let isDigit := fun c => (Text.decimalDigit? c).isSome
    let (whole, after) := rest.span isDigit
    match after with
    | [] => !whole.isEmpty
    | '.' :: fraction => !fraction.isEmpty && fraction.all isDigit
    | _ => false
  | _ => false

/-- Short options may be run together, so that help is asked for whatever letter comes next; a
value is neither one that follows an equals sign nor one that begins with a dash. -/
def shortHelp (value : List Char) : Argument :=
  match value with
  | '=' :: rest => .helpWithValue (String.ofList rest)
  | '-' :: _ => .helpWithValue (String.ofList value)
  | 'h' :: rest => shortHelp rest
  | _ => .help

/-- Tells an argument that begins with two dashes: any beginning of the option's name will do. -/
def longOption (text : List Char) : Argument :=
  let (name, value) := text.span (· ≠ '=')
  if name.isPrefixOf "--help".toList then
    match value with
    | [] => .help
    | _ :: value => .helpWithValue (String.ofList value)
  else .unknownOption

def classifyUnknown (text : List Char) : Argument :=
  if isNegativeNumber text ∨ text.contains ' ' then .positional else .unknownOption

def classify (argument : String) : Argument :=
  match argument.toList with
  | '-' :: '-' :: rest =>
    match longOption ('-' :: '-' :: rest) with
    | .unknownOption => classifyUnknown ('-' :: '-' :: rest)
    | found => found
  | '-' :: 'h' :: value => shortHelp value
  | ['-'] => .positional
  | '-' :: rest => classifyUnknown ('-' :: rest)
  | _ => .positional

def ignoredValue (value : String) : String :=
  s!"argument -h/--help: ignored explicit argument {Text.quoted value}"

def unrecognized (extras : List String) : String :=
  "unrecognized arguments: " ++ " ".intercalate extras

def invalidChoice (found : String) : String :=
  s!"argument command: invalid choice: {Text.quoted found} (choose from " ++
    ", ".intercalate (Command.all.map fun command => Text.quoted command.name) ++ ")"

def readOwn (command : Command) : List String → Except Request (List String)
  | [] => .ok []
  | "--" :: rest => .ok ("--" :: rest)
  | argument :: rest =>
    match classify argument with
    | .help => .error (.help (some command))
    | .helpWithValue value => .error (.misuse (some command) (ignoredValue value))
    | .positional | .unknownOption => (readOwn command rest).map (argument :: ·)

def finish (found : Option Command) (extras : List String) : Request :=
  if extras.isEmpty then
    match found with
    | some command => .command command
    | none => .nothing
  else .misuse none (unrecognized extras)

def readCommand (extras : List String) (name : String) (rest : List String) : Request :=
  match Command.all.find? fun command => command.name = name with
  | none => .misuse none (invalidChoice name)
  | some command =>
    match readOwn command rest with
    | .error request => request
    | .ok left => finish (some command) (extras ++ left)

/-- Reads arguments after some that are wrong. A `--` with nothing behind it is left over; any other
is taken for the command. -/
def readFrom (extras : List String) : List String → Request
  | [] => finish none extras
  | ["--"] => finish none (extras ++ ["--"])
  | "--" :: rest => readCommand extras "--" rest
  | argument :: rest =>
    match classify argument with
    | .positional => readCommand extras argument rest
    | .help => .help none
    | .helpWithValue value => .misuse none (ignoredValue value)
    | .unknownOption => readFrom (extras ++ [argument]) rest

def read (arguments : List String) : Request := readFrom [] arguments

end Liveness.CommandLine
