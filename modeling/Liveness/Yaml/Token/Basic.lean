import Liveness.Yaml.Cursor

namespace Liveness.Yaml

inductive Directive where
  | version (major minor : Nat)
  | handle (name expansion : String)
  | other
deriving DecidableEq

inductive Token where
  | streamEnd
  | directive (content : Directive)
  | documentStart
  | documentEnd
  | blockSequenceStart
  | blockMappingStart
  | blockEnd
  | flowSequenceStart
  | flowSequenceEnd
  | flowMappingStart
  | flowMappingEnd
  | flowEntry
  | blockEntry
  | key
  | value
  | alias (name : String)
  | anchor (name : String)
  | tag (handle : Option String) (rest : String)
  | scalar (text : String) (plain : Bool)
deriving DecidableEq

end Liveness.Yaml
