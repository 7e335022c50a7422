import TaskDaemon.Rpc.Message
import TaskDaemon.Store.Backend

/-!
# Answering RPC requests

Every line that reaches the service gets one reply, whatever it holds.

* `TaskDaemon.Rpc.Reply`: an id and a result or an error; `TaskDaemon.Rpc.Reply.render` is its line;
* `TaskDaemon.Rpc.dispatch`: a call of a method;
* `TaskDaemon.Rpc.handle`: the reply to a line, and the backend afterwards.

A line is refused for the first of these reasons that applies: it is not JSON, it is not a request,
its version is unknown, its method is unknown, its parameters do not fit, the call itself fails.
-/

namespace TaskDaemon

namespace Rpc

/-- **A reply**: the id of the request, and a result or an error. -/
structure Reply where
  /-- The id of the request. -/
  id : Json
  /-- What came of it. -/
  outcome : Except Failure Json

namespace Reply

/-- **The JSON of a reply**, its keys in order. -/
def toJson (reply : Reply) : Json :=
  match reply.outcome with
  | .ok result =>
    Json.canonical (.object [("jsonrpc", .string version), ("result", result), ("id", reply.id)])
  | .error failure =>
    Json.canonical (.object [("jsonrpc", .string version),
      ("error", .object [("code", Json.int failure.code), ("message", .string failure.message)]),
      ("id", reply.id)])

/-- **The line of a reply**, without the newline behind it. -/
def render (reply : Reply) : String :=
  reply.toJson.render

end Reply

/-- The failure that an error becomes. -/
def Failure.ofError (error : Error) : Failure :=
  { code := error.kind.rpcCode, message := error.text }

/-- **The parameters of a call**; null stands for none. -/
def takeParams {α : Type} (s : Json.Schema α) (params : Json) : Except Failure α :=
  let params := match params with
    | .null => .object []
    | given => given
  (s.decode params).mapError fun message =>
    { code := ErrorKind.invalidArgument.rpcCode, message := "Invalid params: " ++ message }

/-- The result of an operation, as JSON or as the failure that it is. -/
def settle {α : Type} (s : Json.Schema α) (operation : String) (outcome : Outcome α) :
    Except Failure Json :=
  match Error.inContext operation outcome with
  | .ok value => .ok (s.toJson value)
  | .error error => .error (.ofError error)

/-- **A call of a method** at the time `now`. -/
def call (snapshot : ProcessSnapshot) (backend : Backend) (now : Instant) (method : Method)
    (params : Json) : Except Failure Json × Backend :=
  match method with
  | .status =>
    match takeParams statusParams params with
    | .error failure => (.error failure, backend)
    | .ok () =>
      (settle ServerStatus.schema "cannot get server status" snapshot.report, backend)
  | .createTask =>
    match takeParams createParams params with
    | .error failure => (.error failure, backend)
    | .ok summary =>
      let (outcome, backend) := backend.create ⟨summary⟩ now
      (settle Task.schema "cannot create task" outcome, backend)
  | .listTasks =>
    match takeParams listParams params with
    | .error failure => (.error failure, backend)
    | .ok () => (.ok (listResult.toJson backend.list), backend)
  | .updateTask =>
    match takeParams UpdateParams.schema params with
    | .error failure => (.error failure, backend)
    | .ok p =>
      let (outcome, backend) := backend.update p.id p.update p.fields now
      (settle Task.schema ("cannot update task '" ++ p.id ++ "'") outcome, backend)
  | .deleteTask =>
    match takeParams deleteParams params with
    | .error failure => (.error failure, backend)
    | .ok id =>
      let (outcome, backend) := backend.delete id
      (settle deleteResult ("cannot delete task '" ++ id ++ "'") outcome, backend)

/-- **A call of the method of a name**, if there is one. -/
def dispatch (snapshot : ProcessSnapshot) (backend : Backend) (now : Instant) (method : String)
    (params : Json) : Except Failure Json × Backend :=
  match Method.ofName? method with
  | some known => call snapshot backend now known params
  | none =>
    (.error { code := methodNotFoundCode, message := "Method not found: " ++ method }, backend)

/-- A reply that tells an error. -/
def Reply.failed (id : Json) (code : Int) (message : String) : Reply :=
  ⟨id, .error { code := code, message := message }⟩

/-- **The reply to a JSON value**, and the backend afterwards. -/
def handleValue (snapshot : ProcessSnapshot) (backend : Backend) (now : Instant) (raw : Json) :
    Reply × Backend :=
  let id := (raw.member? "id").getD .null
  match Request.schema.decode raw with
  | .error message =>
    (.failed id invalidRequestCode ("Invalid request: " ++ message), backend)
  | .ok request =>
    if request.version ≠ version then
      (.failed id invalidRequestCode ("Unsupported JSON-RPC version '" ++ request.version ++ "'"),
        backend)
    else
      let (outcome, backend) := dispatch snapshot backend now request.method request.params
      (⟨request.id, outcome⟩, backend)

/-- **The reply to a line**, and the backend afterwards. -/
def handle (snapshot : ProcessSnapshot) (backend : Backend) (now : Instant) (line : String) :
    Reply × Backend :=
  let glyphs := Glyph.ofString line
  match Json.parse glyphs with
  | .error fault =>
    (.failed .null parseErrorCode ("Parse error: " ++ fault.message glyphs), backend)
  | .ok value => handleValue snapshot backend now value.canonical

/-- **Whether a line asks to make a task**, in a form that the store gets to see. -/
def asksCreate (line : String) : Bool :=
  match Json.parse (Glyph.ofString line) with
  | .error _ => false
  | .ok value =>
    match Request.schema.decode value.canonical with
    | .error _ => false
    | .ok request =>
      request.version = version && Method.ofName? request.method = some .createTask &&
        (takeParams createParams request.params).isOk

/-- **The reply to a line that is too long.** -/
def oversized (limit : Nat) : Reply :=
  .failed .null invalidRequestCode
    ("Invalid request: line exceeds " ++ Decimal.text limit ++ " bytes")

end Rpc

end TaskDaemon
