import Liveness.Text.Quoted

namespace Liveness

inductive FailureKind where
  | runtime
  | value
  | key
  | lookup
  | type
  | zeroDivision
  | overflow
  | os
  | notFound
  | permission
  | isDirectory
  | notDirectory
  | connection
  | connectionReset
  | connectionRefused
  | timeout
  | emptyStore
  | index
  | missingAttribute
  | malformedJson
  | malformedYaml
  | undecodableText
  | markup
  /-- The end of an iterator, which no future takes for its outcome. -/
  | exhausted
  | cancelled
  | database (name : String)
  | cache (name : String)
  | http (name : String)
deriving DecidableEq

def FailureKind.name : FailureKind → String
  | .runtime => "RuntimeError"
  | .value => "ValueError"
  | .key => "KeyError"
  | .lookup => "LookupError"
  | .type => "TypeError"
  | .zeroDivision => "ZeroDivisionError"
  | .overflow => "OverflowError"
  | .os => "OSError"
  | .notFound => "FileNotFoundError"
  | .permission => "PermissionError"
  | .isDirectory => "IsADirectoryError"
  | .notDirectory => "NotADirectoryError"
  | .connection => "ConnectionError"
  | .connectionReset => "ConnectionResetError"
  | .connectionRefused => "ConnectionRefusedError"
  | .timeout => "TimeoutError"
  | .emptyStore => "StoreEmptyError"
  | .index => "IndexError"
  | .missingAttribute => "AttributeError"
  | .malformedJson => "JSONDecodeError"
  | .malformedYaml => "YAMLError"
  | .undecodableText => "UnicodeDecodeError"
  | .markup => "MarkupError"
  | .exhausted => "StopIteration"
  | .cancelled => "CancelledError"
  | .database name | .cache name | .http name => name

inductive FailureArguments where
  | none
  | message (text : String)
  | numbered (number : Int) (text : String)
deriving DecidableEq

structure Failure where
  kind : FailureKind
  arguments : FailureArguments
deriving DecidableEq

namespace Failure

def of (kind : FailureKind) (text : String) : Failure := ⟨kind, .message text⟩

def kindOfErrorNumber (number : Int) : FailureKind :=
  if number = 2 then .notFound
  else if number = 13 then .permission
  else if number = 20 then .notDirectory
  else if number = 21 then .isDirectory
  else if number = 104 then .connectionReset
  else if number = 110 then .timeout
  else if number = 111 then .connectionRefused
  else .os

def isSystemKind : FailureKind → Bool
  | .os | .notFound | .permission | .isDirectory | .notDirectory | .connection
  | .connectionReset | .connectionRefused | .timeout => true
  | _ => false

def quotedPair (number : Int) (text : String) : String :=
  s!"({number}, {Text.quoted text})"

def text (failure : Failure) : String :=
  match failure.arguments with
  | .none => ""
  | .message m => if failure.kind = .key then Text.quoted m else m
  | .numbered number m =>
    if isSystemKind failure.kind then s!"[Errno {number}] {m}" else quotedPair number m

def networkFaults : List String :=
  ["ConnectionError", "TimeoutError", "BusyLoadingError", "MaxConnectionsError"]

def accessFaults : List String :=
  ["AuthenticationError", "AuthorizationError", "AuthenticationWrongNumberOfArgsError",
   "NoPermissionError", "ExternalAuthProviderError"]

def cacheFaultPlace (name : String) : String :=
  if networkFaults.contains name then "network"
  else if accessFaults.contains name then "auth"
  else "server"

/-- The kind with its arguments, as logs show it. A fault of the cache client is shown with the
place where it lies instead. -/
def shown (failure : Failure) : String :=
  match failure.kind with
  | .cache name => cacheFaultPlace name ++ ":" ++ name
  | kind =>
    kind.name ++ match failure.arguments with
      | .none => "()"
      | .message m => s!"({Text.quoted m})"
      | .numbered number m => quotedPair number m

def headline (failure : Failure) : String :=
  s!"{failure.kind.name}: {failure.text}"

def isTimeout (failure : Failure) : Bool := failure.kind == .timeout

/-- Whether the failure never reaches who waits for it. -/
def isLost (failure : Failure) : Bool := failure.kind == .exhausted

def isCancellation (failure : Failure) : Bool := failure.kind == .cancelled

end Failure

end Liveness
