import TaskDaemon.Daemon.Listener
import TaskDaemon.Daemon.Signal

/-!
# The life of a server

A server is created, listens, drains and is stopped, in this order, though it may skip what it never
came to. It serves once: the first call of `serve` binds the listeners and runs both accept loops,
and every further call is refused.

* `TaskDaemon.ServerState`: what others see of the life of a server;
* `TaskDaemon.Lifecycle`: the same with all that decides how it goes on;
* `TaskDaemon.Lifecycle.Event` and `TaskDaemon.Lifecycle.step`: what may happen, in any order;
* `TaskDaemon.Lifecycle.run`: the life after a series of events.

An event that cannot happen at a time changes nothing then.
-/

namespace TaskDaemon

/-- **What others see of the life of a server.** -/
inductive ServerState where
  /-- Nothing is bound yet. -/
  | created
  /-- Both listeners accept connections. -/
  | listening
  /-- No new work is taken in, and running work is finished. -/
  | draining
  /-- All is over. -/
  | stopped
  deriving DecidableEq, Repr

/-- **How far the first call of `serve` is.** -/
inductive ServePhase where
  /-- There was none. -/
  | notCalled
  /-- It binds the listeners. -/
  | binding
  /-- It runs the accept loops. -/
  | serving
  /-- It has returned, or was dropped. -/
  | over
  deriving DecidableEq, Repr

/-- **The life of a server.** -/
structure Lifecycle where
  /-- What others see. -/
  state : ServerState := .created
  /-- How far the first call of `serve` is. -/
  phase : ServePhase := .notCalled
  /-- The listeners, once both were bound and nobody had asked to stop. -/
  bound : Option Listeners := none
  /-- What was asked of the server. -/
  flags : StopFlags := {}
  deriving DecidableEq, Repr

namespace Lifecycle

/-- **What may happen** in the life of a server. -/
inductive Event where
  /-- A call of `serve`. -/
  | serve
  /-- Binding comes to an end. -/
  | bind (outcome : Outcome Listeners)
  /-- Someone asks to stop once running work is finished. -/
  | gracefulStop
  /-- Someone asks to stop at once. -/
  | stop
  /-- One of the accept loops ends. -/
  | loopEnd
  /-- Both accept loops have ended, and so `serve` returns. -/
  | finish
  /-- The first call of `serve` is dropped. -/
  | cancel

/-- The end of the first call of `serve`: nothing that it started goes on. -/
def exit (life : Lifecycle) : Lifecycle :=
  { life with state := .stopped, phase := .over, flags := life.flags.abort }

/-- What others see once someone asks to stop. Who was never started has nothing to drain. -/
def beginStop : ServerState → ServerState
  | .created => .stopped
  | .listening => .draining
  | .draining => .draining
  | .stopped => .stopped

/-- What others see once an accept loop has ended. -/
def beginDraining : ServerState → ServerState
  | .listening => .draining
  | other => other

/-- **The life after an event.** -/
def step (life : Lifecycle) : Event → Lifecycle
  | .serve => if life.phase = .notCalled then { life with phase := .binding } else life
  | .bind outcome =>
    if life.phase = .binding then
      match outcome with
      | .ok listeners =>
        if life.state = .created then
          { life with state := .listening, phase := .serving, bound := some listeners }
        else life.exit
      | .error _ => life.exit
    else life
  | .gracefulStop => { life with state := beginStop life.state, flags := life.flags.drain }
  | .stop => { life with state := beginStop life.state, flags := life.flags.abort }
  | .loopEnd =>
    if life.phase = .serving ∨ life.phase = .over then
      { life with state := beginDraining life.state, flags := life.flags.drain }
    else life
  | .finish => if life.phase = .serving then life.exit else life
  | .cancel => if life.phase = .binding ∨ life.phase = .serving then life.exit else life

/-- **The life after a series of events.** -/
def run (life : Lifecycle) (events : List Event) : Lifecycle :=
  events.foldl step life

/-- The error of a call of `serve` that is not the first. -/
def alreadyStarted : Error := .internal "server has already been started"

/-- **What a call of `serve` is told at once**, if it is told anything then. -/
def refusal (life : Lifecycle) : Option Error :=
  if life.phase = .notCalled then none else some alreadyStarted

/-- **What those are told who wait for the server to listen**, once there is something to tell. -/
def listening (life : Lifecycle) : Option (Outcome Listeners) :=
  if life.state = .created then none
  else
    match life.bound with
    | some listeners => some (.ok listeners)
    | none => some (.error (.internal "server stopped before listening"))

end Lifecycle

end TaskDaemon
