import TaskDaemon.Rest.Body
import TaskDaemon.Rest.MediaType
import TaskDaemon.Rest.Route
import TaskDaemon.Store.Backend

/-!
# Answering REST requests

* `TaskDaemon.Rest.Request` and `TaskDaemon.Rest.Response`;
* `TaskDaemon.Rest.plan`: what a request asks the store for, or the answer that it gets without the
  store being asked;
* `TaskDaemon.Rest.serve`: the answer to a request, and the backend afterwards;
* `TaskDaemon.Rest.serveWithin`: the same where the backend takes some time and the request has only
  so much.

A request that asks the store for nothing is answered in no time.
-/

namespace TaskDaemon

namespace Rest

/-- **A request.** -/
structure Request where
  /-- The method. -/
  method : String
  /-- The target. -/
  target : List Char
  /-- The content type, if one is given. -/
  contentType : Option String
  /-- The body. -/
  body : Bytes

/-- **An answer.** -/
structure Response where
  /-- The status. -/
  status : Nat
  /-- The type of the body, if there is one. -/
  contentType : Option String
  /-- The methods that are allowed, where another was used. -/
  allow : Option String
  /-- The body. -/
  body : String
  deriving DecidableEq, Repr

/-- The content type of JSON. -/
def jsonType : String := "application/json"

namespace Response

/-- An answer with a body of JSON. -/
def json (status : Nat) (body : String) : Response :=
  ⟨status, some jsonType, none, body⟩

/-- An answer without a body. -/
def bare (status : Nat) : Response :=
  ⟨status, none, none, ""⟩

/-- **An answer that tells an error.** -/
def failed (status : Nat) (message : String) : Response :=
  json status (errorSchema.render message)

/-- Nothing is found at the path. -/
def notFound : Response := bare 404

/-- The method does not exist at the path; these do. -/
def notAllowed (methods : String) : Response :=
  ⟨405, none, some methods, ""⟩

/-- The answer to a request that took too long. -/
def timedOut : Response := failed 408 "request timed out"

/-- An answer that says everything but its body. -/
def withoutBody (response : Response) : Response :=
  { response with body := "" }

end Response

/-- **Status and message of an error.** What is nobody's business outside is not told. -/
def statusOf (error : Error) : Nat × String :=
  match error.kind with
  | .invalidArgument => (400, error.text)
  | .notFound => (404, error.text)
  | _ => (500, "internal server error")

/-- **The answer that an error becomes.** -/
def Response.ofError (error : Error) : Response :=
  .failed (statusOf error).1 (statusOf error).2

/-! ### Bodies -/

/-- The number of bytes that a body may have. -/
def bodyLimit : Nat := 2 * 1024 * 1024

/-- Why a body is refused. -/
inductive BodyFault where
  /-- Its type is not announced as JSON. -/
  | notJson
  /-- It is too long. -/
  | tooLong
  /-- It is JSON of another shape than wanted. -/
  | unfit (message : String)
  /-- It is not JSON. -/
  | malformed (message : String)
  deriving DecidableEq, Repr

namespace BodyFault

/-- **The wording of a fault.** -/
def message : BodyFault → String
  | notJson => "Expected request with `Content-Type: application/json`"
  | tooLong => "Failed to buffer the request body: length limit exceeded"
  | unfit message =>
    "Failed to deserialize the JSON body into the target type: " ++ message
  | malformed message => "Failed to parse the request body as JSON: " ++ message

end BodyFault

/-- **The value at the front of a body.** -/
def readBody {α : Type} (s : Json.Schema α) (request : Request) : Except BodyFault α :=
  if ¬ MediaType.announcesJson request.contentType then .error .notJson
  else if bodyLimit < request.body.length then .error .tooLong
  else
    let glyphs := Glyph.ofBytes request.body
    match s.parseFront glyphs with
    | .ok value => .ok value
    | .error fault =>
      let message := fault.messageWithPath glyphs
      .error (if fault.complaint.isMismatch then .unfit message else .malformed message)

/-! ### Requests -/

/-- **What a request asks the store for.** -/
inductive Operation where
  /-- All tasks. -/
  | list
  /-- A new task. -/
  | create (draft : TaskDraft)
  /-- A change to a task. -/
  | update (id : String) (body : PatchBody)
  /-- The removal of a task. -/
  | delete (id : String)
  deriving DecidableEq, Repr

/-- The answer to a path whose id is not text. -/
def badId : Response :=
  ⟨400, some "text/plain; charset=utf-8", none, "Invalid URL: Invalid UTF-8 in `id`"⟩

/-- **What a request asks the store for**, or its answer if it does not get that far. -/
def plan (request : Request) : Except Response Operation :=
  let refused (fault : BodyFault) : Response := .failed 400 fault.message
  match Route.ofPath (pathOf request.target) with
  | .unknown => .error .notFound
  | .tasks =>
    if request.method = "GET" ∨ request.method = "HEAD" then .ok .list
    else if request.method = "POST" then
      ((readBody TaskDraft.schema request).mapError refused).map .create
    else .error (.notAllowed "GET,HEAD,POST")
  | .task segment =>
    if request.method = "PATCH" ∨ request.method = "DELETE" then
      match Utf8.toString? (percentDecode segment) with
      | none => .error badId
      | some id =>
        if request.method = "PATCH" then
          ((readBody PatchBody.schema request).mapError refused).map (.update id)
        else .ok (.delete id)
    else .error (.notAllowed "PATCH,DELETE")

/-- The answer of an operation: `success` for its value, and an error with what was being done. -/
def answer {α : Type} (operation : String) (success : α → Response) (outcome : Outcome α) :
    Response :=
  match Error.inContext operation outcome with
  | .ok value => success value
  | .error error => .ofError error

/-- **Does what a request asks for**, at the time `now`. -/
def Operation.run (backend : Backend) (now : Instant) : Operation → Response × Backend
  | .list => (.json 200 ((Json.Schema.list Task.schema).render backend.list), backend)
  | .create draft =>
    let (outcome, backend) := backend.create draft now
    (answer "cannot create task" (fun task => .json 201 (Task.schema.render task)) outcome, backend)
  | .update id body =>
    let (outcome, backend) := backend.update id body.patch body.mask now
    (answer ("cannot update task '" ++ id ++ "'")
      (fun task => .json 200 (Task.schema.render task)) outcome, backend)
  | .delete id =>
    let (outcome, backend) := backend.delete id
    (answer ("cannot delete task '" ++ id ++ "'") (fun _ => .bare 204) outcome, backend)

/-- An answer as the method of its request wants it. -/
def shape (request : Request) (response : Response) : Response :=
  if request.method = "HEAD" then response.withoutBody else response

/-- **The answer to a request** at the time `now`, and the backend afterwards. -/
def serve (backend : Backend) (now : Instant) (request : Request) : Response × Backend :=
  match plan request with
  | .error response => (shape request response, backend)
  | .ok operation =>
    let (response, backend) := operation.run backend now
    (shape request response, backend)

/-- **How long things take**, in milliseconds: the backend's answer, and a request at most. -/
structure Pace where
  /-- How long the backend takes for every operation. -/
  delay : Nat
  /-- How long a request may take. -/
  limit : Nat
  deriving DecidableEq, Repr

/-- **The answer to a request where things take time.** A request whose time is over before the
backend gets to it is dropped, and the backend never sees it. -/
def serveWithin (pace : Pace) (backend : Backend) (now : Instant) (request : Request) :
    Response × Backend :=
  match plan request with
  | .error response => (shape request response, backend)
  | .ok operation =>
    if pace.limit < pace.delay then (shape request .timedOut, backend)
    else
      let (response, backend) := operation.run backend now
      (shape request response, backend)

end Rest

end TaskDaemon
