import TaskDaemon.Task.Change
import TaskDaemon.Daemon.Status

/-!
# Messages of the RPC protocol

Requests and responses are JSON-RPC 2.0 objects, one on a line in either direction.

* `TaskDaemon.Rpc.Method`: what can be called;
* `TaskDaemon.Rpc.Request`: a request as the server sees it, its parameters and id not yet looked
  at;
* `TaskDaemon.Rpc.Response`: a response with a result of some type;
* `TaskDaemon.Rpc.UpdateParams` and the shapes of the other parameters and results.
-/

namespace TaskDaemon

namespace Rpc

/-- The version of the protocol. -/
def version : String := "2.0"

/-- **What can be called.** -/
inductive Method where
  /-- What the daemon tells about itself. -/
  | status
  /-- Make a task. -/
  | createTask
  /-- All tasks. -/
  | listTasks
  /-- Change a task. -/
  | updateTask
  /-- Remove a task. -/
  | deleteTask
  deriving DecidableEq, Repr

namespace Method

/-- The name of a method. -/
def name : Method → String
  | status => "status"
  | createTask => "tasks/create"
  | listTasks => "tasks/list"
  | updateTask => "tasks/update"
  | deleteTask => "tasks/delete"

/-- All methods. -/
def all : List Method := [status, createTask, listTasks, updateTask, deleteTask]

/-- **The method of a name.** -/
def ofName? (name : String) : Option Method :=
  all.find? fun method => method.name == name

end Method

/-- The code for a line that is not JSON. -/
def parseErrorCode : Int := -32700

/-- The code for JSON that is not a request. -/
def invalidRequestCode : Int := -32600

/-- The code for a method that does not exist. -/
def methodNotFoundCode : Int := -32601

/-- **A request as it arrives.** -/
structure Request where
  /-- The version of the protocol. -/
  version : String
  /-- The name of the method. -/
  method : String
  /-- The parameters. -/
  params : Json
  /-- The id that the response repeats. -/
  id : Json

/-- **An error on the wire.** -/
structure Failure where
  /-- The code. -/
  code : Int
  /-- The message. -/
  message : String
  /-- Anything else. -/
  data : Option Json := none

/-- **A response** with a result of type `α`. -/
structure Response (α : Type) where
  /-- The version of the protocol. -/
  version : String
  /-- The result, if the call succeeded. -/
  result : Option α
  /-- The error, if it failed. -/
  error : Option Failure
  /-- The id of the request. -/
  id : Json

/-- **The parameters of a change to a task.** -/
structure UpdateParams where
  /-- The task. -/
  id : String
  /-- New values. -/
  update : TaskPatch := {}
  /-- The fields to be changed. -/
  fields : FieldMask := {}
  deriving DecidableEq, Repr

/-! ### JSON -/

/-- A record without fields. -/
def emptySchema (name : String) : Json.Schema Unit :=
  .record name .done

/-- A record of one field. -/
def singleSchema {α : Type} (name key : String) (s : Json.Schema α) : Json.Schema α :=
  .convert (fun r => r.1) (fun a => (a, ())) (.record name (.need key s .done))

/-- **The shape of a request.** -/
def Request.schema : Json.Schema Request :=
  .convert (fun r => ⟨r.1, r.2.1, r.2.2.1, r.2.2.2.1⟩)
    (fun q => (q.version, q.method, q.params, q.id, ()))
    (.record "IncomingRequest" (.need "jsonrpc" textSchema (.need "method" textSchema
      (.default "params" .any .null (.default "id" .any .null .done)))))

/-- A code: an integer of 32 bits. -/
def codeSchema : Json.Schema Int :=
  .atom (.int "i32" (-2147483648) 2147483647)

/-- **The shape of an error.** -/
def Failure.schema : Json.Schema Failure :=
  .convert (fun r => ⟨r.1, r.2.1, r.2.2.1⟩) (fun f => (f.code, f.message, f.data, ()))
    (.record "JsonRpcError" (.need "code" codeSchema (.need "message" textSchema
      (.maybe "data" .any .done))))

/-- **The shape of a response**, given that of its result. -/
def Response.schema {α : Type} (s : Json.Schema α) : Json.Schema (Response α) :=
  .convert (fun r => ⟨r.1, r.2.1, r.2.2.1, r.2.2.2.1⟩)
    (fun q => (q.version, q.result, q.error, q.id, ()))
    (.record "JsonRpcResponse" (.need "jsonrpc" textSchema
      (.field "result" (.option s) (.inObject none) Option.isNone
        (.maybe "error" Failure.schema (.need "id" .any .done)))))

/-- The shape of the parameters of `status`. -/
def statusParams : Json.Schema Unit :=
  emptySchema "StatusParams"

/-- The shape of the parameters of `tasks/create`: a summary. -/
def createParams : Json.Schema String :=
  singleSchema "CreateTaskParams" "summary" textSchema

/-- The shape of the parameters of `tasks/list`. -/
def listParams : Json.Schema Unit :=
  emptySchema "ListTasksParams"

/-- **The shape of the parameters of `tasks/update`.** -/
def UpdateParams.schema : Json.Schema UpdateParams :=
  .convert (fun r => ⟨r.1, r.2.1, r.2.2.1⟩) (fun p => (p.id, p.update, p.fields, ()))
    (.record "UpdateTaskParams" (.need "id" textSchema
      (.default "update" TaskPatch.schema {} (.default "fields" FieldMask.schema {} .done))))

/-- The shape of the parameters of `tasks/delete`: an id. -/
def deleteParams : Json.Schema String :=
  singleSchema "DeleteTaskParams" "id" textSchema

/-- The shape of the result of `tasks/list`. -/
def listResult : Json.Schema (List Task) :=
  singleSchema "ListTasksResult" "tasks" (.list Task.schema)

/-- The shape of the result of `tasks/delete`. -/
def deleteResult : Json.Schema Unit :=
  emptySchema "DeleteTaskResult"

/-- **A call as a client writes it.** -/
def callJson (method : Method) (params : Json) (id : Nat) : Json :=
  .object [("jsonrpc", .string version), ("method", .string method.name), ("params", params),
    ("id", Json.int id)]

end Rpc

end TaskDaemon
