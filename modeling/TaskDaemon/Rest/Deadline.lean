import TaskDaemon.Rest.Service

/-!
# Requests under a deadline

A request is worked on in looks. At each look the work is taken as far as it can come by then: it
waits until the request has come in, then for the backend to get to it, and does what is asked for
in one piece. Only when a look has left the work undone does the deadline count, and a request that
is past it is dropped with everything that it was still waiting for.

* `TaskDaemon.Rest.Stage`: how far a request has come, and `TaskDaemon.Rest.Look`: a look at it;
* `TaskDaemon.Rest.Stage.advance`: what the work comes to at a look;
* `TaskDaemon.Rest.Stage.attend`: the same under a deadline;
* `TaskDaemon.Rest.attend`: a request from its beginning, through any number of looks.

Looks may come at any time and in any number. `TaskDaemon.Rest.serveWithin` is the case where they
come as soon as there is something to do.
-/

namespace TaskDaemon

namespace Rest

/-- **How far a request has come.** -/
inductive Stage where
  /-- It is coming in. -/
  | arriving
  /-- The backend was asked, and gets to it at the time `due`. -/
  | asking (operation : Operation) (due : Nat)
  /-- It is answered. -/
  | answered (response : Response)
  deriving DecidableEq, Repr

/-- **A look at a request.** -/
structure Look where
  /-- The milliseconds since the request began. -/
  time : Nat
  /-- What the clock shows. -/
  clock : Instant
  deriving DecidableEq, Repr

/-- **Does an operation** if it is due at a look, and waits for it otherwise. -/
def Operation.awaited (operation : Operation) (due : Nat) (request : Request) (look : Look)
    (backend : Backend) : Stage × Backend :=
  if look.time < due then (.asking operation due, backend)
  else
    let (response, backend) := operation.run backend look.clock
    (.answered (shape request response), backend)

namespace Stage

/-- **What the work comes to at a look.** A request has come in, as far as it has to be known, at
the time `arrival`; the backend takes `delay` from when it is asked. -/
def advance (arrival delay : Nat) (request : Request) (look : Look) (stage : Stage)
    (backend : Backend) : Stage × Backend :=
  match stage with
  | arriving =>
    if look.time < arrival then (arriving, backend)
    else
      match plan request with
      | .error response => (answered (shape request response), backend)
      | .ok operation => operation.awaited (look.time + delay) request look backend
  | asking operation due => operation.awaited due request look backend
  | answered response => (answered response, backend)

/-- **A look under a deadline**: first the work, and what is not answered by then is dropped if its
time is over. -/
def attend (pace : Pace) (arrival : Nat) (request : Request) (look : Look) (stage : Stage)
    (backend : Backend) : Stage × Backend :=
  match stage.advance arrival pace.delay request look backend with
  | (answered response, backend) => (answered response, backend)
  | (stage, backend) =>
    if pace.limit ≤ look.time then (answered (shape request .timedOut), backend)
    else (stage, backend)

end Stage

/-- **A request through some looks**, one after the other. -/
def attend (pace : Pace) (arrival : Nat) (request : Request) (looks : List Look)
    (backend : Backend) : Stage × Backend :=
  looks.foldl (fun state look => state.1.attend pace arrival request look state.2)
    (.arriving, backend)

end Rest

end TaskDaemon
