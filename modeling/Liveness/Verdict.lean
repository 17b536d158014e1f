namespace Liveness

def okStatus : String := "OK"

structure Verdict where
  ok : Bool
  message : String := ""
deriving DecidableEq, Inhabited

namespace Verdict

def healthy : Verdict := ⟨true, okStatus⟩

def error (message : String) : Verdict := ⟨false, message⟩

def status (v : Verdict) : String := if v.ok then okStatus else v.message

end Verdict

inductive LogLevel where
  | debug
  | info
  | warning
  | error
deriving DecidableEq

def LogLevel.name : LogLevel → String
  | .debug => "DEBUG"
  | .info => "INFO"
  | .warning => "WARNING"
  | .error => "ERROR"

structure LogEntry where
  level : LogLevel
  message : String
deriving DecidableEq

end Liveness
