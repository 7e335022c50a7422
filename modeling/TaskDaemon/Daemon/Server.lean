import TaskDaemon.Daemon.Lifecycle
import TaskDaemon.Daemon.Traffic

/-!
# A server at work

A server is its life, its connections and the backend they share. What happens to it is a series of
events in any order: peers connect, something happens on a connection, the backend lets work
through, and someone asks to stop.

* `TaskDaemon.Server` and `TaskDaemon.Server.Event`;
* `TaskDaemon.Server.step` and `TaskDaemon.Server.run`: the server after an event, and after a
  series of them;
* `TaskDaemon.Server.settle`: the server once all connections have done what they can.
-/

namespace TaskDaemon

/-- **A server at work.** -/
structure Server where
  /-- Its life. -/
  life : Lifecycle := {}
  /-- What it serves from. -/
  backend : Backend := {}
  /-- Its connections, in the order of their coming. -/
  links : List Link := []

namespace Server

/-- **What may happen to a server.** -/
inductive Event where
  /-- Something in its life. -/
  | life (event : Lifecycle.Event)
  /-- A peer connects. -/
  | connect (protocol : Protocol)
  /-- Something happens on a connection. -/
  | link (index : Nat) (event : Link.Event)
  /-- The backend lets a connection's work through. -/
  | finish (index : Nat) (now : Instant)

/-- **Whether the accept loops have ended**: nothing is taken in any more, and neither waits for a
connection. -/
def loopsEnded (server : Server) : Bool :=
  server.life.flags.draining &&
    server.links.all fun link => link.isReleased server.life.flags.aborted

/-- **Whether peers can connect.** -/
def accepts (server : Server) : Bool :=
  server.life.phase = .serving && !server.life.flags.draining

/-- **The server after an event.** Events that cannot happen change nothing. Who is let in at the
moment at which the server begins to drain is a connection like any other. -/
def step (service : Service) (server : Server) : Event → Server
  | .life .finish =>
    if server.loopsEnded then { server with life := server.life.step .finish } else server
  | .life event => { server with life := server.life.step event }
  | .connect protocol =>
    if server.life.phase = .serving then
      { server with links := server.links ++ [{ protocol := protocol }] }
    else server
  | .link index event =>
    { server with
      links := server.links.modify index fun link =>
        link.step service.limit server.life.flags event }
  | .finish index now =>
    match server.links[index]? with
    | none => server
    | some link =>
      let (link, backend) := link.finish service now server.backend
      { server with links := server.links.set index link, backend := backend }

/-- **The server after a series of events.** -/
def run (service : Service) (server : Server) (events : List Event) : Server :=
  events.foldl (step service) server

/-! ### Letting things happen -/

/-- Whether a connection's work does not get on, while the backend holds back what makes tasks. -/
def waits (server : Server) (held : Bool) (index : Nat) : Bool :=
  match server.links[index]? with
  | some link =>
    match link.work with
    | some work => held && work.makesTask
    | none => false
  | none => false

/-- One round of a connection for lines: a line is read, and the work on it is let through unless
the backend holds it back. -/
def round (service : Service) (held : Bool) (now : Instant) (index : Nat) (server : Server) :
    Server :=
  let server := server.run service [.link index .turn, .link index .read, .link index .look]
  server.step service (if server.waits held index then .link index .wait else .finish index now)

/-- **The server once a connection has done what it can.** -/
def settleLink (service : Service) (held : Bool) (now : Instant) (server : Server) (index : Nat) :
    Server :=
  match server.links[index]? with
  | some link => Nat.repeat (round service held now index) (link.unread.length + 2) server
  | none => server

/-- **The server once all connections have done what they can**, and once it has ended if it can
end. -/
def settle (service : Service) (held : Bool) (now : Instant) (server : Server) : Server :=
  let server := (List.range server.links.length).foldl (settleLink service held now) server
  server.step service (.life .finish)

end Server

end TaskDaemon
