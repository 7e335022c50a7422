import TaskDaemon.Error.Kind
import TaskDaemon.Error.System
import TaskDaemon.Time.Span

/-!
# Errors

An error is a tree: causes at its leaves, and above them the operations that failed because of a
cause (`context`) and sets of causes that came together (`multiple`).

* `TaskDaemon.Error`: the tree;
* `TaskDaemon.Error.text`: its wording;
* `TaskDaemon.Error.kind`: its kind, which is that of its first cause;
* `TaskDaemon.Error.combine`: several errors as one;
* `TaskDaemon.Error.inContext`: an outcome whose error tells what was being done.
-/

namespace TaskDaemon

/-- **What went wrong.** -/
inductive Error where
  /-- An argument makes no sense. -/
  | invalidArgument (message : String)
  /-- There is no task of this id. -/
  | taskNotFound (id : String)
  /-- Another daemon holds the lock on this file. -/
  | alreadyRunning (path : String)
  /-- A rule of the program itself is broken. -/
  | internal (message : String)
  /-- An operation on a file failed. -/
  | fileSystem (path operation : String) (source : SystemFault)
  /-- A text is not the JSON that was wanted. -/
  | json (message : String)
  /-- A setting makes no sense. -/
  | configuration (message : String)
  /-- Talking to this endpoint failed. -/
  | network (endpoint message : String)
  /-- The other side answered with an error. -/
  | rpc (code : Int) (message : String)
  /-- An operation took longer than this. -/
  | timeout (operation : String) (after : Span)
  /-- This operation failed because of that. -/
  | context (operation : String) (source : Error)
  /-- Several things went wrong. -/
  | multiple (errors : List Error)
  deriving Repr

namespace Error

mutual

/-- **The wording of an error.** -/
def text : Error → String
  | invalidArgument message => "invalid argument: " ++ message
  | taskNotFound id => "no such task: " ++ id
  | alreadyRunning path =>
    "another instance is already running (lock '" ++ path ++ "' is held)"
  | internal message => "internal error: " ++ message
  | fileSystem path operation source =>
    "file system " ++ operation ++ " operation failed for '" ++ path ++ "': " ++ source.text
  | json message => "JSON error: " ++ message
  | configuration message => "configuration error: " ++ message
  | network endpoint message => "network error for '" ++ endpoint ++ "': " ++ message
  | rpc code message => "RPC error " ++ Decimal.intText code ++ ": " ++ message
  | timeout operation after =>
    "operation '" ++ operation ++ "' timed out after " ++ after.text
  | context operation source => operation ++ ": " ++ source.text
  | multiple errors => joinTexts errors

/-- The wordings of several errors, separated by semicolons. -/
def joinTexts : List Error → String
  | [] => ""
  | [error] => error.text
  | error :: rest => error.text ++ "; " ++ joinTexts rest

end

/-- **The kind of an error**: that of its first cause, seen through contexts and sets. An empty set
is an internal error. -/
def kind : Error → ErrorKind
  | invalidArgument _ => .invalidArgument
  | json _ => .invalidArgument
  | taskNotFound _ => .notFound
  | alreadyRunning _ => .alreadyRunning
  | network _ _ => .unavailable
  | timeout _ _ => .unavailable
  | rpc code _ => .ofRpcCode code
  | context _ source => source.kind
  | multiple [] => .internal
  | multiple (error :: _) => error.kind
  | internal _ => .internal
  | fileSystem _ _ _ => .internal
  | configuration _ => .internal

/-- Whether something that was named does not exist. -/
def isNotFound (error : Error) : Bool :=
  error.kind = .notFound

/-- Whether another daemon is running. -/
def isAlreadyRunning (error : Error) : Bool :=
  error.kind = .alreadyRunning

/-- **The wording of the cause below an error**, where it has one of its own. -/
def cause? : Error → Option String
  | fileSystem _ _ source => some source.text
  | json message => some message
  | context _ source => some source.text
  | _ => none

/-- The name of the kind of node an error is. -/
def variant : Error → String
  | invalidArgument _ => "InvalidArgument"
  | taskNotFound _ => "TaskNotFound"
  | alreadyRunning _ => "AlreadyRunning"
  | internal _ => "Internal"
  | fileSystem _ _ _ => "FileSystem"
  | json _ => "Json"
  | configuration _ => "Configuration"
  | network _ _ => "Network"
  | rpc _ _ => "Rpc"
  | timeout _ _ => "Timeout"
  | context _ _ => "Context"
  | multiple _ => "Multiple"

/-- **Several errors as one**; a single one is itself. -/
def combine : List Error → Error
  | [error] => error
  | errors => multiple errors

/-- A failure of the system that no path is known for. -/
def ofSystemFault (fault : SystemFault) : Error :=
  fileSystem "" "unknown" fault

/-- **An outcome whose error tells what was being done.** -/
def inContext {α : Type} (operation : String) (outcome : Except Error α) : Except Error α :=
  outcome.mapError (context operation)

end Error

/-- **The outcome of an operation that may fail.** -/
abbrev Outcome (α : Type) := Except Error α

end TaskDaemon
