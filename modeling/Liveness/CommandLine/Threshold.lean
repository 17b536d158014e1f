import Liveness.Failure

namespace Liveness.CommandLine

def thresholds : List (String × Nat) :=
  [("CRITICAL", 50), ("FATAL", 50), ("ERROR", 40), ("WARNING", 30), ("WARN", 30), ("INFO", 20),
   ("DEBUG", 10), ("NOTSET", 0)]

def usualThreshold : Nat := 20

def initialThreshold : Nat := 30

def formatName : String := "BASIC_FORMAT"

def formatFailure : Failure :=
  .of .value "Unknown level: '%(levelname)s:%(name)s:%(message)s'"

/-- Capital letters; the dotless i and the long s have plain ones. -/
def capital (c : Char) : Char :=
  if c = 'ı' then 'I' else if c = 'ſ' then 'S' else c.toUpper

def threshold (name : String) : Except Failure Nat :=
  let upper := String.ofList (name.toList.map capital)
  if upper = formatName then .error formatFailure
  else .ok ((thresholds.lookup upper).getD usualThreshold)

end Liveness.CommandLine
