import Liveness.Numeric.Decimal
import Liveness.Text.Integer

namespace Liveness

inductive Json where
  | null
  | bool (b : Bool)
  | integer (n : Int)
  | float (x : Numeric.Binary64)
  | text (s : String)
  | array (items : List Json)
  | object (members : List (String × Json))
deriving Inhabited

namespace Json

/-- The members after one more: a name seen before keeps its place and takes the new value. -/
def putMember (name : String) (value : Json) :
    List (String × Json) → List (String × Json)
  | [] => [(name, value)]
  | (n, v) :: rest => if n = name then (n, value) :: rest else (n, v) :: putMember name value rest

def get? (value : Json) (name : String) : Option Json :=
  match value with
  | object members => members.lookup name
  | _ => none

mutual

def exceedsDigits : Json → Bool
  | integer n => Nat.pow 10 Text.digitLimit ≤ n.natAbs
  | array items => anyExceeds items
  | object members => anyMemberExceeds members
  | _ => false

def anyExceeds : List Json → Bool
  | [] => false
  | item :: rest => item.exceedsDigits || anyExceeds rest

def anyMemberExceeds : List (String × Json) → Bool
  | [] => false
  | (_, value) :: rest => value.exceedsDigits || anyMemberExceeds rest

end

end Json

end Liveness
