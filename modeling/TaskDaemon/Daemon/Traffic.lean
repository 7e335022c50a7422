import TaskDaemon.Daemon.Signal
import TaskDaemon.Rest.Service
import TaskDaemon.Rpc.Connection

/-!
# Connections of a server

A connection is served one request at a time, and what it does it does in small steps, between which
anything else may happen: it looks whether the server drains before it reads, and whether the server
gives up each time before it goes on with its work. A look says how things stand when it is made,
and not how they stand when the step after it is made.

* `TaskDaemon.Work`: a request that is being worked on, and `TaskDaemon.Reaction`: what its sender
  gets;
* `TaskDaemon.Link`: a connection, and `TaskDaemon.Link.Stage`: how far it is;
* `TaskDaemon.Link.step`: what its peer and the server do to it;
* `TaskDaemon.Link.finish`: the backend lets the work through.

A connection for lines goes round `idle`, `reading`, `waiting`, `working`. One for REST requests has
no `reading`: whether another request is taken or the connection is hung up is not said here, not
even when the server drains. Its request is worked on as soon as its head is there, and the work
cannot come to an end before the body is.
-/

namespace TaskDaemon

/-- **The two protocols.** -/
inductive Protocol where
  /-- Lines with JSON-RPC calls. -/
  | rpc
  /-- REST requests. -/
  | rest
  deriving DecidableEq, Repr

/-- **A request that is being worked on.** -/
inductive Work where
  /-- A JSON-RPC call. -/
  | line (text : String)
  /-- A REST request, and whether it has come in whole; if not, its body is still being sent. -/
  | request (request : Rest.Request) (whole : Bool)

/-- **What the sender of a request gets.** -/
inductive Reaction where
  /-- A line. -/
  | line (reply : Rpc.Reply)
  /-- An answer to a REST request. -/
  | response (response : Rest.Response)

/-- **What a server knows besides its store.** -/
structure Service where
  /-- The longest line that may be sent, in bytes. -/
  limit : Nat := Rpc.defaultLineLimit
  /-- What status calls tell. -/
  snapshot : ProcessSnapshot

/-- The answer to a REST request that is given up. -/
def Rest.Response.givenUp : Rest.Response := .failed 503 "server is shutting down"

namespace Work

/-- Whether a piece of work has all that it needs from its sender. -/
def isWhole : Work → Bool
  | line _ => true
  | request _ whole => whole

/-- **What comes of a piece of work** that the backend lets through at the time `now`: what its
sender gets, and the backend afterwards. -/
def answer (service : Service) (backend : Backend) (now : Instant) : Work → Reaction × Backend
  | line text =>
    (.line (Rpc.handle service.snapshot backend now text).1,
      (Rpc.handle service.snapshot backend now text).2)
  | request asked _ =>
    (.response (Rest.serve backend now asked).1, (Rest.serve backend now asked).2)

/-- **Whether a piece of work makes a task**, as far as its form goes. -/
def makesTask : Work → Bool
  | line content => Rpc.asksCreate content
  | request asked _ =>
    match Rest.plan asked with
    | .ok (.create _) => true
    | _ => false

end Work

/-- **How far a connection is** with its next request. -/
inductive Link.Stage where
  /-- Nothing is being done. -/
  | idle
  /-- It has seen that the server does not drain, and reads a line. -/
  | reading
  /-- A request was read, and the work on it has to be looked after. -/
  | waiting (work : Work)
  /-- It has seen that the server does not give up, and works. -/
  | working (work : Work)
  /-- The server has closed the connection. -/
  | closed

/-- **A connection.** -/
structure Link where
  /-- The protocol. -/
  protocol : Protocol
  /-- The bytes that were sent and not read, for lines. -/
  unread : Bytes := []
  /-- Whether the peer sends no more bytes. -/
  ended : Bool := false
  /-- The heads of requests that were sent and not read, for REST. -/
  asked : List Rest.Request := []
  /-- How far it is. -/
  stage : Link.Stage := .idle
  /-- What was sent to the peer, in order. -/
  sent : List Reaction := []
  /-- Whether the peer is gone, or does not take in time what it is sent. -/
  lost : Bool := false

namespace Link

/-- What is being worked on at a stage. -/
def Stage.work : Stage → Option Work
  | waiting work => some work
  | working work => some work
  | _ => none

/-- **What a connection is working on.** -/
def work (link : Link) : Option Work :=
  link.stage.work

/-- The closed connection. -/
def close (link : Link) : Link :=
  { link with stage := .closed }

/-- **Sends a reaction**, after which the connection is idle. It is closed if that fails. -/
def reply (link : Link) (reaction : Reaction) : Link :=
  if link.lost then link.close
  else { link with stage := .idle, sent := link.sent ++ [reaction] }

/-- What a peer gets that is not lost. -/
theorem reply_of_peer {link : Link} (hpeer : link.lost = false) (reaction : Reaction) :
    link.reply reaction = { link with stage := .idle, sent := link.sent ++ [reaction] } := by
  rw [reply, hpeer]
  rfl

/-! ### Lines -/

/-- **Looks whether the server drains**, before a line is read. If so, the connection is closed, and
what was sent stays unread. -/
def turn (flags : StopFlags) (link : Link) : Link :=
  match link.protocol, link.stage with
  | .rpc, .idle => if flags.draining then link.close else { link with stage := .reading }
  | _, _ => link

/-- **Reads the next line**, if it is there. -/
def readLine (limit : Nat) (link : Link) : Link :=
  let line := (Rpc.window limit link.unread).1
  let rest := (Rpc.window limit link.unread).2
  if line = [] then
    if link.ended ∨ Rpc.windowSize limit = 0 then link.close else { link with stage := .idle }
  else if ¬ link.ended ∧ Rpc.isPartial limit line then { link with stage := .idle }
  else
    match Rpc.classify limit line with
    | .notText => link.close
    | .tooLong => (link.reply (.line (Rpc.oversized limit))).close
    | .blank => { link with unread := rest, stage := .idle }
    | .request text => { link with unread := rest, stage := .waiting (.line text) }

/-- Reads, if that is what comes next. -/
def read (limit : Nat) (link : Link) : Link :=
  match link.stage with
  | .reading => link.readLine limit
  | _ => link

/-! ### REST requests -/

/-- **Takes the next REST request**, as soon as its head is there. -/
def take (link : Link) : Link :=
  match link.protocol, link.stage, link.asked with
  | .rest, .idle, head :: more =>
    { link with asked := more, stage := .waiting (.request head false) }
  | _, _, _ => link

/-- **The work gets the body** of its request. -/
def fill (body : Bytes) (link : Link) : Link :=
  match link.stage with
  | .working (.request head false) =>
    { link with stage := .working (.request { head with body := body } true) }
  | _ => link

/-- **Hangs up**, between two requests. -/
def hangUp (link : Link) : Link :=
  match link.protocol, link.stage with
  | .rest, .idle => link.close
  | _, _ => link

/-! ### Work -/

/-- **Looks whether the server gives up**, each time before work goes on. If so, the work is
dropped, and the backend never sees it. -/
def look (flags : StopFlags) (link : Link) : Link :=
  match link.stage with
  | .waiting work =>
    if flags.aborted then
      match work with
      | .line _ => link.close
      | .request asked _ => link.reply (.response (Rest.shape asked .givenUp))
    else { link with stage := .working work }
  | _ => link

/-- **Work does not get on**: the body is not there, or the backend does not let it through. It has
to be looked after again before it goes on. -/
def wait (link : Link) : Link :=
  match link.stage with
  | .working work => { link with stage := .waiting work }
  | _ => link

/-- **A time is over**: the time that a connection may be idle, or that a REST request may take. -/
def expire (link : Link) : Link :=
  match link.protocol, link.stage with
  | .rpc, .idle => link.close
  | .rpc, .reading => link.close
  | .rest, .working (.request asked _) => link.reply (.response (Rest.shape asked .timedOut))
  | _, _ => link

/-- **The peer is lost.** Lines that it has sent are still there, but nothing can be sent to it. A
REST request is dropped. -/
def lose (link : Link) : Link :=
  match link.protocol with
  | .rpc => { link with lost := true, ended := true }
  | .rest => { link with lost := true, ended := true }.close

/-- **Work that can come to its end** as soon as the backend lets it through. -/
def ready (link : Link) : Option Work :=
  match link.stage with
  | .working work => if work.isWhole then some work else none
  | _ => none

/-- **The backend lets through what is being worked on**, at the time `now`, and its sender gets
what comes of it. -/
def finish (service : Service) (now : Instant) (backend : Backend) (link : Link) : Link × Backend :=
  match link.ready with
  | some work =>
    let (reaction, backend) := work.answer service backend now
    (link.reply reaction, backend)
  | none => (link, backend)

/-- **What may happen to a connection** besides. -/
inductive Event where
  /-- The peer sends bytes. -/
  | send (bytes : Bytes)
  /-- The peer sends no more bytes. -/
  | shut
  /-- The peer sends the head of a REST request. -/
  | ask (head : Rest.Request)
  /-- The peer is lost. -/
  | lose
  /-- It is looked whether the server drains. -/
  | turn
  /-- A line is read. -/
  | read
  /-- A REST request is taken. -/
  | take
  /-- The work gets the body of its request. -/
  | fill (body : Bytes)
  /-- It is looked whether the server gives up. -/
  | look
  /-- Work does not get on. -/
  | wait
  /-- A time is over. -/
  | expire
  /-- The connection is hung up between two requests. -/
  | hangUp

/-- **The connection after an event**, where `flags` is what was asked of the server by then. Events
that cannot happen change nothing. -/
def step (limit : Nat) (flags : StopFlags) (link : Link) : Event → Link
  | .send bytes => { link with unread := link.unread ++ bytes }
  | .shut => { link with ended := true }
  | .ask head => { link with asked := link.asked ++ [head] }
  | .lose => link.lose
  | .turn => link.turn flags
  | .read => link.read limit
  | .take => link.take
  | .fill body => link.fill body
  | .look => link.look flags
  | .wait => link.wait
  | .expire => link.expire
  | .hangUp => link.hangUp

/-- **Whether an accept loop does not wait for a connection any more.** The loop for lines waits
until its connections are closed, unless the server gives up. The loop for REST requests waits for
that as well; and if the server gives up, it waits until nothing is worked on. -/
def isReleased (aborted : Bool) (link : Link) : Bool :=
  match link.stage, link.protocol with
  | .closed, _ => true
  | _, .rpc => aborted
  | stage, .rest => aborted && stage.work.isNone

end Link

end TaskDaemon
