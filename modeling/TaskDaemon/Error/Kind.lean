/-!
# Kinds of errors

Whatever goes wrong belongs to one of five kinds, and the kind is all that crosses the protocols: an
error has a code in JSON-RPC answers, and a client turns the code back into a kind.

* `TaskDaemon.ErrorKind`: the kinds;
* `TaskDaemon.ErrorKind.rpcCode`: the code of a kind;
* `TaskDaemon.ErrorKind.ofRpcCode`: the kind of a code, which is inverse to it but for running
  instances, which share the code of internal errors
  (`TaskDaemon.ErrorKind.ofRpcCode_rpcCode`).
-/

namespace TaskDaemon

/-- **The kinds of errors.** -/
inductive ErrorKind where
  /-- The caller asked for something that makes no sense. -/
  | invalidArgument
  /-- What the caller named does not exist. -/
  | notFound
  /-- Another daemon holds the lock. -/
  | alreadyRunning
  /-- The other side cannot be reached now. -/
  | unavailable
  /-- Anything else. -/
  | internal
  deriving DecidableEq, Repr

namespace ErrorKind

/-- The name of a kind. -/
def name : ErrorKind → String
  | invalidArgument => "InvalidArgument"
  | notFound => "NotFound"
  | alreadyRunning => "AlreadyRunning"
  | unavailable => "Unavailable"
  | internal => "Internal"

/-- **The JSON-RPC code of a kind.** -/
def rpcCode : ErrorKind → Int
  | invalidArgument => -32602
  | notFound => -32004
  | unavailable => -32014
  | alreadyRunning => -32603
  | internal => -32603

/-- **The kind a JSON-RPC code tells**; every other code is an internal error. -/
def ofRpcCode (code : Int) : ErrorKind :=
  if code = -32602 then invalidArgument
  else if code = -32004 then notFound
  else if code = -32014 then unavailable
  else internal

/-- **A kind survives the way over a code**, except that a running instance becomes an internal
error. -/
theorem ofRpcCode_rpcCode (kind : ErrorKind) :
    ofRpcCode kind.rpcCode = if kind = alreadyRunning then internal else kind := by
  cases kind <;> rfl

end ErrorKind

end TaskDaemon
