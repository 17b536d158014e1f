import Liveness.Numeric.Decimal

namespace Liveness.Numeric

inductive Number where
  | whole (n : Int)
  | real (x : Binary64)
deriving DecidableEq, Inhabited

namespace Number

def toRat? : Number → Option Rat
  | .whole n => some n
  | .real x => x.toRat?

end Number

end Liveness.Numeric
