import TaskDaemon.Daemon.Server

/-!
# A server on a host

A server needs files and a network to listen, and what it binds it gives back as soon as it takes in
no more work.

* `TaskDaemon.Hosted`: a server with what it runs on;
* `TaskDaemon.Hosted.serve`: a call of `serve`;
* `TaskDaemon.Hosted.cancel`, `TaskDaemon.Hosted.stop`, `TaskDaemon.Hosted.gracefulStop`: the ways
  to end it;
* `TaskDaemon.Hosted.connect`, `TaskDaemon.Hosted.sendLine`: what peers do;
* `TaskDaemon.Hosted.settle`: all that can happen has happened.
-/

namespace TaskDaemon

/-- **A server with what it runs on.** -/
structure Hosted where
  /-- The network. -/
  network : Network
  /-- Where it listens for RPC calls. -/
  endpoint : Endpoint
  /-- Its settings. -/
  config : ServerConfig := {}
  /-- What it knows besides its store. -/
  service : Service
  /-- The files. -/
  host : Host := {}
  /-- The server. -/
  server : Server := {}
  /-- Whether the backend holds back what makes tasks. -/
  held : Bool := false
  /-- What the first call of `serve` came to. -/
  served : Option (Outcome Unit) := none

namespace Hosted

/-- Something happens in the life of the server. -/
def live (hosted : Hosted) (event : Lifecycle.Event) : Hosted :=
  { hosted with server := hosted.server.step hosted.service (.life event) }

/-- **What a call of `serve` has come to**, if the server's life so far says so. A call that was
served to its end is no error. -/
def concluded (hosted : Hosted) : Hosted :=
  if hosted.server.life.phase = .over ∧ hosted.served.isNone then
    { hosted with served := some (.ok ()) }
  else hosted

/-- Gives back what the server has bound, which it does when it begins to drain. -/
def unbind (hosted : Hosted) : Hosted :=
  match hosted.server.life.bound with
  | some listeners => { hosted with host := hosted.host.unlisten listeners.rpc }
  | none => hosted

/-- **All that can happen has happened** at the time `now`. -/
def settle (hosted : Hosted) (now : Instant) : Hosted :=
  concluded { hosted with server := hosted.server.settle hosted.service hosted.held now }

/-- **A call of `serve`**: the error that it is refused with, or the server afterwards. -/
def serve (hosted : Hosted) : Except Error Hosted :=
  match hosted.server.life.refusal with
  | some error => .error error
  | none =>
    let (outcome, host) :=
      hosted.host.listenAll hosted.network hosted.endpoint hosted.config.http.host
    let after := ({ hosted with host := host }.live .serve).live (.bind outcome)
    match outcome with
    | .error error => .ok { after with served := some (.error error) }
    | .ok listeners =>
      -- nobody needs the listeners if someone had asked to stop
      if after.server.life.phase = .over then
        .ok (concluded { after with host := after.host.unlisten listeners.rpc })
      else .ok after

/-- **Someone asks to stop once running work is finished.** -/
def gracefulStop (hosted : Hosted) (now : Instant) : Hosted :=
  let draining := hosted.server.life.flags.draining
  let after := hosted.live .gracefulStop
  (if draining then after else after.unbind).settle now

/-- **Someone asks to stop at once.** -/
def stop (hosted : Hosted) (now : Instant) : Hosted :=
  let draining := hosted.server.life.flags.draining
  let after := hosted.live .stop
  (if draining then after else after.unbind).settle now

/-- **The first call of `serve` is dropped.** -/
def cancel (hosted : Hosted) (now : Instant) : Hosted :=
  let draining := hosted.server.life.flags.draining
  let after := hosted.live .cancel
  { (if draining then after else after.unbind).settle now with served := hosted.served }

/-- Whether a peer that speaks RPC gets through to the server. -/
def reachable (hosted : Hosted) : Bool :=
  hosted.server.accepts &&
    match hosted.server.life.bound with
    | some ⟨.unix path number, _⟩ => (hosted.host.dial (· == number) path).isOk
    | some ⟨.tcp _, _⟩ => hosted.network.reachable
    | none => false

/-- **A peer connects** to make RPC calls: the index of the connection. -/
def connect (hosted : Hosted) : Option (Nat × Hosted) :=
  if hosted.reachable then
    some (hosted.server.links.length,
      { hosted with server := hosted.server.step hosted.service (.connect .rpc) })
  else none

/-- **A peer sends a line.** -/
def sendLine (hosted : Hosted) (index : Nat) (line : Bytes) (now : Instant) : Hosted :=
  let event := .link index (.send (line ++ [Rpc.newline]))
  { hosted with server := hosted.server.step hosted.service event }.settle now

/-- **A connection has been idle for too long.** -/
def expire (hosted : Hosted) (index : Nat) : Hosted :=
  { hosted with server := hosted.server.step hosted.service (.link index .expire) }

/-- What the server sent over a connection, in order. -/
def reactions (hosted : Hosted) (index : Nat) : List Reaction :=
  match hosted.server.links[index]? with
  | some link => link.sent
  | none => []

/-- The backend holds back what makes tasks, or does so no more. -/
def hold (hosted : Hosted) (held : Bool) (now : Instant) : Hosted :=
  { hosted with held := held }.settle now

/-- **Whether something that makes a task waits** in the backend. -/
def waiting (hosted : Hosted) : Bool :=
  hosted.server.links.any fun link =>
    match link.work with
    | some work => work.makesTask
    | none => false

end Hosted

end TaskDaemon
