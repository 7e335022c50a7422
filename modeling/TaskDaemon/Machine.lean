import TaskDaemon.Command.Execution
import TaskDaemon.Daemon.Launch

/-!
# Daemons on one machine

Daemons share the files of the machine they run on, and commands find them by their sockets.

* `TaskDaemon.Machine`: files, locks and the daemons that run;
* `TaskDaemon.Machine.start` and `TaskDaemon.Machine.stop`: a daemon comes and goes;
* `TaskDaemon.Machine.dial`: the daemon at an endpoint;
* `TaskDaemon.Machine.execute`: a command that talks to a daemon.
-/

namespace TaskDaemon

/-- **A daemon that runs.** -/
structure RunningDaemon where
  /-- Its process id. -/
  pid : Nat
  /-- Its lock and its listeners. -/
  launched : Launched
  /-- What it serves from. -/
  backend : Backend

/-- The number of the socket that a daemon listens on. -/
def RunningDaemon.socket? (daemon : RunningDaemon) : Option Nat :=
  match daemon.launched.listeners.rpc with
  | .unix _ number => some number
  | .tcp _ => none

/-- What a daemon tells about itself. -/
def RunningDaemon.snapshot (daemon : RunningDaemon) : ProcessSnapshot :=
  ⟨daemon.pid, daemon.launched.listeners.http⟩

/-- **Files, locks and the daemons that run.** -/
structure Machine where
  /-- The files, and which of them are locked. -/
  host : Host := {}
  /-- The network. -/
  network : Network
  /-- The settings where no file gives others. -/
  defaults : DaemonConfig
  /-- The file of settings that the environment names. -/
  environment : Option Path := none
  /-- The daemons that run. -/
  daemons : List RunningDaemon := []

namespace Machine

/-- Where the settings of a command come from. -/
def settings (machine : Machine) : Settings :=
  { defaults := machine.defaults
    environment := machine.environment
    read := machine.host.tree.read }

/-- The store that a daemon starts with. -/
def freshStore (config : DaemonConfig) (now : Instant) : Store :=
  if config.server.seedDemoTasks then .demo (fun _ => now) else .empty

/-- **Starts a daemon** with settings, as a process; it has the lock that the result tells. -/
def start (machine : Machine) (pid : Nat) (config : DaemonConfig) (now : Instant) :
    Outcome FileLock × Machine :=
  match machine.host.launch machine.network pid config with
  | (.error error, host) => (.error error, { machine with host := host })
  | (.ok launched, host) =>
    (.ok launched.lock,
      { machine with
        host := host
        daemons := ⟨pid, launched, { store := freshStore config now }⟩ :: machine.daemons })

/-- **Stops the daemon** that has a lock. -/
def stop (machine : Machine) (lock : FileLock) : Machine :=
  match machine.daemons.find? fun daemon => daemon.launched.lock.number = lock.number with
  | none => machine
  | some daemon =>
    { machine with
      host := machine.host.conclude daemon.launched
      daemons := machine.daemons.filter fun other => other.launched.lock.number ≠ lock.number }

/-- **The daemon at an endpoint.** -/
def dial (machine : Machine) (endpoint : Endpoint) : Outcome RunningDaemon :=
  match endpoint with
  | .unix path =>
    let live (number : Nat) : Bool :=
      machine.daemons.any fun daemon => daemon.socket? = some number
    match machine.host.dial live path with
    | .error fault => .error (Rpc.cannotConnect endpoint fault)
    | .ok number =>
      match machine.daemons.find? fun daemon => daemon.socket? = some number with
      | some daemon => .ok daemon
      | none => .error (Rpc.cannotConnect endpoint .refused)
  | .tcp _ => .error (Rpc.cannotConnect endpoint .refused)

/-- Puts a daemon's backend in place of the one it has. -/
def setBackend (machine : Machine) (daemon : RunningDaemon) (backend : Backend) : Machine :=
  { machine with daemons := machine.daemons.map fun other =>
      if other.launched.lock.number = daemon.launched.lock.number then
        { other with backend := backend }
      else other }

/-- **Makes calls to the daemon** that a command with this socket finds. -/
def visit (machine : Machine) (sock : Option Path) (now : Instant)
    (calls : Rpc.Terms → Rpc.Session → Printed × Rpc.Session) : Printed × Machine :=
  match machine.settings.endpoint sock with
  | .error error => (.failed error, machine)
  | .ok endpoint =>
    match machine.dial endpoint with
    | .error error => (.failed error, machine)
    | .ok daemon =>
      let (printed, session) :=
        calls { snapshot := daemon.snapshot, clock := fun _ => now }
          { client := .fresh endpoint, backend := daemon.backend }
      (printed, machine.setBackend daemon session.backend)

/-- **Executes an invocation** as a process with an output: what it comes to, and the machine
afterwards. A daemon that it runs is stopped at once. -/
def execute (machine : Machine) (pid : Nat) (now : Instant) (output : Output)
    (invocation : Invocation) : Printed × Machine :=
  match invocation.command with
  | .status format => machine.visit invocation.sock now (format.perform output)
  | .tasks command => machine.visit invocation.sock now (command.perform output now now)
  | .run lock config seed =>
    match machine.settings.ofRun invocation.sock lock config seed with
    | .error error => (.failed error, machine)
    | .ok config =>
      match machine.start pid config now with
      | (.error error, machine) => (.failed error, machine)
      | (.ok lock, machine) => (⟨[], .done⟩, machine.stop lock)

/-- **Starts the daemon that an invocation asks for**, as a process. Other invocations start
none. -/
def spawn (machine : Machine) (pid : Nat) (now : Instant) (invocation : Invocation) :
    Option (Outcome FileLock × Machine) :=
  match invocation.command with
  | .run lock config seed =>
    match machine.settings.ofRun invocation.sock lock config seed with
    | .error error => some (.error error, machine)
    | .ok config => some (machine.start pid config now)
  | _ => none

end Machine

end TaskDaemon
