import TaskDaemon.Net.Endpoint
import TaskDaemon.Rpc.Service

/-!
# Calling a daemon

A client makes its calls one after the other on one connection. Each call writes a line and reads
one, and the line it reads must answer the line it wrote. When a call breaks off on the way, what
comes next on the connection may belong to it; so the client makes no further calls on it.

* `TaskDaemon.Rpc.Client`: the state of a client;
* `TaskDaemon.Rpc.Client.begin`: the line of a call;
* `TaskDaemon.Rpc.Client.conclude`: what comes of a call, given what was read;
* `TaskDaemon.Rpc.Channel`: a connection to a peer that answers by a script, and
  `TaskDaemon.Rpc.Client.callOn`: a call over it.
-/

namespace TaskDaemon

namespace Rpc

/-- **A client of a daemon.** -/
structure Client where
  /-- The name of the daemon's endpoint, for messages. -/
  endpoint : String
  /-- How long a call may take. -/
  timeout : Span
  /-- The id of the next call. -/
  nextId : Nat := 1
  /-- Whether a call has broken off. -/
  broken : Bool := false
  deriving DecidableEq, Repr

/-- **What was read in answer to a call.** -/
inductive Received where
  /-- The request could not be written, for this reason. -/
  | unsent (fault : SystemFault)
  /-- A line, its newline included if it has one. -/
  | line (bytes : Bytes)
  /-- The end of the stream. -/
  | ended
  /-- Nothing in time. -/
  | silence
  deriving DecidableEq, Repr

namespace Client

/-- The number of ids that a call can have. Behind the last one the ids begin anew at zero. -/
def ids : Nat := Nat.pow 2 64

/-- A failure of the connection. -/
def fault (client : Client) (message : String) : Error :=
  .network client.endpoint message

/-- **The line of a call**, without its newline, and the client afterwards. A broken client writes
nothing; the id is used up all the same. -/
def begin (client : Client) (method : Method) (params : Json) : Outcome String × Client :=
  let next := { client with nextId := (client.nextId + 1) % ids }
  if client.broken then
    (.error (client.fault
      "connection is unusable after an earlier failed call, reconnect first"), next)
  else (.ok (callJson method params client.nextId).render, next)

/-- **The response that was read**, which must be of this protocol and answer the call `id`. -/
def accept {α : Type} (client : Client) (id : Nat) (method : Method) (s : Json.Schema α) :
    Received → Outcome (Response α)
  | .unsent reason => .error (client.fault ("failed to send request: " ++ reason.text))
  | .ended => .error (client.fault "connection closed by server")
  | .silence => .error (.timeout ("RPC call '" ++ method.name ++ "'") client.timeout)
  | .line bytes =>
    match Utf8.decode bytes with
    | .error reason => .error (client.fault ("failed to read response: " ++ reason.message))
    | .ok chars =>
      let glyphs := chars.map Glyph.char
      match (Response.schema s).parse glyphs with
      | .error reason =>
        .error (client.fault ("failed to parse response: " ++ reason.message glyphs))
      | .ok response =>
        if response.version ≠ version then
          .error (client.fault ("invalid JSON-RPC version: expected '" ++ version ++ "', got '"
            ++ response.version ++ "'"))
        else
          match response.id with
          | .number (.int n) =>
            if n = id then .ok response
            else .error (client.fault ("response ID mismatch: expected " ++ Decimal.text id
              ++ ", got " ++ response.id.render))
          | _ => .error (client.fault ("response ID mismatch: expected " ++ Decimal.text id
              ++ ", got " ++ response.id.render))

/-- **What a response says came of the call.** -/
def result {α : Type} (client : Client) (method : Method) (response : Response α) : Outcome α :=
  match response.error with
  | some failure => .error (.rpc failure.code failure.message)
  | none =>
    match response.result with
    | some value => .ok value
    | none => .error (client.fault ("response to '" ++ method.name ++ "' carries no result"))

/-- **What comes of a call**, given what was read, and the client afterwards. An answer that tells
an error leaves the connection as good as it was. -/
def conclude {α : Type} (client : Client) (id : Nat) (method : Method) (s : Json.Schema α)
    (received : Received) : Outcome α × Client :=
  match client.accept id method s received with
  | .error error => (.error error, { client with broken := true })
  | .ok response => (client.result method response, client)

end Client

/-! ### Peers that answer by a script -/

/-- **What a peer does with one request line**: what it sends, and whether it closes the
connection then. -/
structure PeerMove where
  /-- The bytes sent. -/
  send : Bytes := []
  /-- Whether the connection is closed. -/
  closes : Bool := false
  deriving DecidableEq, Repr

/-- **A connection to a peer that answers by a script.** Where the script ends, the peer reads on
and is silent. -/
structure Channel where
  /-- What the peer will do with the lines to come. -/
  script : List PeerMove
  /-- The number of lines written that the peer has not read. -/
  waiting : Nat := 0
  /-- What the peer has sent and the client not read. -/
  unread : Bytes := []
  /-- Whether the peer has closed the connection. -/
  closed : Bool := false
  deriving DecidableEq, Repr

namespace Channel

/-- **The peer reads the lines written to it**, and does for each what its script says. -/
def answered (channel : Channel) : Nat → Channel
  | 0 => { channel with waiting := 0 }
  | waiting + 1 =>
    if channel.closed then { channel with waiting := 0 }
    else
      match channel.script with
      | [] => { channel with waiting := 0 }
      | move :: script =>
        answered { channel with
          script := script
          unread := channel.unread ++ move.send
          closed := move.closes } waiting

/-- The line at the front of what the peer has sent, and the bytes behind it. -/
def takeLine (unread : Bytes) : Option (Bytes × Bytes) :=
  let size := (unread.takeWhile (· ≠ 10)).length
  if size < unread.length then some (unread.take (size + 1), unread.drop (size + 1)) else none

/-- **Writes a line and reads one.** A line that the peer has sent before is taken at once, without
the peer getting to read; else the peer reads all that was written. The second component tells
whether the peer has read the line. -/
def exchange (channel : Channel) : Received × Bool × Channel :=
  if channel.closed then (.unsent (.number 32), false, channel)
  else
    let written := { channel with waiting := channel.waiting + 1 }
    match takeLine written.unread with
    | some (line, rest) => (.line line, false, { written with unread := rest })
    | none =>
      let after := written.answered written.waiting
      match takeLine after.unread with
      | some (line, rest) => (.line line, true, { after with unread := rest })
      | none =>
        if ¬ after.closed then (.silence, true, after)
        else if after.unread.isEmpty then (.ended, true, after)
        else (.line after.unread, true, { after with unread := [] })

end Channel

/-- **A call that was made**: what came of it, the line written if one was, and whether the peer has
read it. -/
structure CallRecord (α : Type) where
  /-- What came of the call. -/
  outcome : Outcome α
  /-- The line written. -/
  written : Option String
  /-- Whether the peer has read it. -/
  seen : Bool

/-- **A call over a connection to a peer.** -/
def Client.callOn {α : Type} (client : Client) (channel : Channel) (method : Method)
    (params : Json) (s : Json.Schema α) : CallRecord α × Client × Channel :=
  match client.begin method params with
  | (.error error, next) => (⟨.error error, none, false⟩, next, channel)
  | (.ok line, next) =>
    let (received, seen, channel) := channel.exchange
    let (outcome, next) := next.conclude client.nextId method s received
    (⟨outcome, some line, seen⟩, next, channel)

/-! ### The calls -/

/-- **A call of a method**: its parameters, and the shape of its result. -/
structure Call (α : Type) where
  /-- The method. -/
  method : Method
  /-- The parameters. -/
  params : Json
  /-- The shape of the result. -/
  result : Json.Schema α

namespace Call

/-- What the daemon tells about itself. -/
def status : Call ServerStatus :=
  ⟨.status, statusParams.toJson (), ServerStatus.schema⟩

/-- Make a task. -/
def create (summary : String) : Call Task :=
  ⟨.createTask, createParams.toJson summary, Task.schema⟩

/-- All tasks. -/
def list : Call (List Task) :=
  ⟨.listTasks, listParams.toJson (), listResult⟩

/-- Change a task. -/
def update (id : String) (patch : TaskPatch) (mask : FieldMask) : Call Task :=
  ⟨.updateTask, UpdateParams.schema.toJson ⟨id, patch, mask⟩, Task.schema⟩

/-- **Complete a task** at the time `now`, leaving its summary alone. -/
def complete (id : String) (now : Instant) : Call Task :=
  update id { completedAt := some now } { completedAt := true }

/-- Remove a task. -/
def delete (id : String) : Call Unit :=
  ⟨.deleteTask, deleteParams.toJson id, deleteResult⟩

end Call

/-- A call over a connection to a peer. -/
def Client.make {α : Type} (client : Client) (channel : Channel) (call : Call α) :
    CallRecord α × Client × Channel :=
  client.callOn channel call.method call.params call.result

/-- **The error of an endpoint that nobody listens on.** -/
def cannotConnect (endpoint : Endpoint) (fault : SystemFault) : Error :=
  .network endpoint.text ("cannot connect: " ++ fault.text)

end Rpc

end TaskDaemon
