import Liveness.Failure

namespace Liveness.Yaml

inductive Fault where
  | unreadable (char : Char)
  | strayCharacter (char : Char)
  | missingColon
  | misplacedEntry
  | misplacedKey
  | misplacedValue
  | badDirective
  | badVersion
  | repeatedDirective
  | badName
  | badTag
  | unknownHandle (handle : String)
  | badEscape
  | badBlockHeader
  | unclosedQuote
  | quoteAcrossDocuments
  | unexpectedToken
  | secondDocument
  | undefinedAlias (name : String)
  | repeatedAnchor (name : String)
  | unknownTag
  | wrongKind
  | collectionAsKey
  | badBytes
  | codePoint (code : Nat)
  | value (failure : Failure)
deriving DecidableEq

/-- Code points above this do not even count as numbers of characters. -/
def greatestCode : Nat := Nat.pow 2 31 - 1

def Fault.toFailure : Fault → Failure
  | .codePoint code =>
    if greatestCode < code then .of .overflow "Python int too large to convert to C int"
    else .of .value "chr() arg not in range(0x110000)"
  | .value failure => failure
  | _ => ⟨.malformedYaml, .none⟩

end Liveness.Yaml
