import TaskDaemon.Command.Invocation
import TaskDaemon.Daemon.Config
import TaskDaemon.Rpc.Session

/-!
# What commands do

A command finds the socket of the daemon, makes its calls on one connection, and prints what came of
them; where a call fails, nothing is printed. Printing comes last, and may fail when all else is
done: a list of tasks that cannot be printed is an error, and a status that cannot is a panic.

* `TaskDaemon.Settings`: where settings come from;
* `TaskDaemon.Settings.ofRun`: the settings of a daemon that is to run;
* `TaskDaemon.Settings.endpoint`: where a command looks for the daemon;
* `TaskDaemon.Output`: where a command prints, and `TaskDaemon.Printed`: what a command comes to;
* `TaskDaemon.TaskCommand.perform` and `TaskDaemon.StatusFormat.perform`: the calls of a command,
  and what it prints.
-/

namespace TaskDaemon

/-! ### Settings -/

/-- **Where settings come from.** -/
structure Settings where
  /-- The settings where no file gives others. -/
  defaults : DaemonConfig
  /-- The file of settings that the environment names. -/
  environment : Option Path := none
  /-- What reading a file gives. -/
  read : Path → Except SystemFault Bytes

namespace Settings

/-- **The settings of a file**: the one given, or else the one that the environment names. -/
def load (settings : Settings) (given : Option Path) : Outcome DaemonConfig :=
  DaemonConfig.load settings.defaults settings.read
    (DaemonConfig.source given settings.environment)

/-- **Settings with those replaced that a command line gives.** -/
def override (config : DaemonConfig) (sock lock : Option Path) (seedDemoTasks : Bool) :
    DaemonConfig :=
  { config with
    sockFile := sock.getD config.sockFile
    lockFile := lock.getD config.lockFile
    server := { config.server with
      seedDemoTasks := config.server.seedDemoTasks || seedDemoTasks } }

/-- **The settings of a daemon that is to run.** -/
def ofRun (settings : Settings) (sock lock config : Option Path) (seedDemoTasks : Bool) :
    Outcome DaemonConfig :=
  (settings.load config).map fun config => override config sock lock seedDemoTasks

/-- The socket that a command is to use. -/
def sockFile (settings : Settings) (sock : Option Path) : Outcome Path :=
  match sock with
  | some path => .ok path
  | none => (settings.load none).map DaemonConfig.sockFile

/-- **Where a command looks for the daemon.** -/
def endpoint (settings : Settings) (sock : Option Path) : Outcome Endpoint := do
  Endpoint.parse "unix" (← settings.sockFile sock).text

end Settings

/-! ### Printing -/

/-- **Where a command prints.** -/
inductive Output where
  /-- It takes all that is printed. -/
  | whole
  /-- It was closed: nothing is taken, and nobody is told. -/
  | closed
  /-- It takes so many bytes, and printing more than them fails. -/
  | bounded (room : Nat) (fault : SystemFault)
  deriving DecidableEq, Repr

namespace Output

/-- **What is taken** of the bytes that are printed. -/
def taken (bytes : Bytes) : Output → Bytes
  | whole => bytes
  | closed => []
  | bounded room _ => bytes.take room

/-- **What goes wrong** when bytes are printed. -/
def fault? (bytes : Bytes) : Output → Option SystemFault
  | bounded room fault => if room < bytes.length then some fault else none
  | _ => none

end Output

/-- **How a command ends.** -/
inductive Fate where
  /-- It has done what it was to do. -/
  | done
  /-- It failed. -/
  | failed (error : Error)
  /-- It was broken off. -/
  | panicked (message : String)

/-- **What a command comes to.** -/
structure Printed where
  /-- The bytes that its output has taken. -/
  taken : Bytes
  /-- How it ended. -/
  fate : Fate

/-- A command that has printed nothing when it failed. -/
def Printed.failed (error : Error) : Printed :=
  ⟨[], .failed error⟩

/-! ### Calls -/

/-- How long a command waits for an answer. -/
def defaultPatience : Span := .ofSeconds 30 0

/-- A client that has just connected. -/
def Rpc.Client.fresh (endpoint : Endpoint) : Rpc.Client :=
  { endpoint := endpoint.text, timeout := defaultPatience }

/-- A call that tells what it was for if it fails. -/
def Rpc.Session.callFor {α : Type} (operation : String) (terms : Rpc.Terms) (session : Rpc.Session)
    (call : Rpc.Call α) : Outcome α × Rpc.Session :=
  let (outcome, session) := session.call terms call
  (Error.inContext operation outcome, session)

/-- **Prints a status** as it is shown. -/
def StatusFormat.print (format : StatusFormat) (output : Output) (status : ServerStatus) :
    Printed :=
  let bytes := Utf8.ofString (status.shown format ++ "\n")
  ⟨output.taken bytes,
    match output.fault? bytes with
    | none => .done
    | some fault => .panicked ("failed printing to stdout: " ++ fault.text)⟩

/-- **The calls of a command that shows the status**, and what it comes to. -/
def StatusFormat.perform (format : StatusFormat) (output : Output) (terms : Rpc.Terms)
    (session : Rpc.Session) : Printed × Rpc.Session :=
  match session.callFor "cannot get server status" terms .status with
  | (.error error, session) => (.failed error, session)
  | (.ok status, session) => (format.print output status, session)

namespace TaskCommand

/-- **The change that a command makes**, at the time `now`. -/
def change (command : TaskCommand) (now : Instant) (terms : Rpc.Terms) (session : Rpc.Session) :
    Outcome Unit × Rpc.Session :=
  match command with
  | .add words =>
    let (outcome, session) :=
      session.callFor "cannot create task" terms (.create (String.intercalate " " words))
    (outcome.map fun _ => (), session)
  | .list => (.ok (), session)
  | .done id =>
    let (outcome, session) := session.callFor "cannot complete task" terms (.complete id now)
    (outcome.map fun _ => (), session)
  | .remove id => session.callFor "cannot remove task" terms (.delete id)

/-- **Prints a list of tasks** at a time. -/
def print (output : Output) (now : Instant) (tasks : List Task) : Printed :=
  let bytes := Utf8.ofString (Listing.text tasks now)
  ⟨output.taken bytes,
    match output.fault? bytes with
    | none => .done
    | some fault => .failed (.fileSystem "<stdout>" "print tasks" fault)⟩

/-- **The calls of a command on the tasks**, and what it comes to: all tasks that there are then are
printed. The first call is made at the time `now`, and the printing is done at the time `later`. -/
def perform (command : TaskCommand) (output : Output) (now later : Instant) (terms : Rpc.Terms)
    (session : Rpc.Session) : Printed × Rpc.Session :=
  match command.change now terms session with
  | (.error error, session) => (.failed error, session)
  | (.ok (), session) =>
    match session.callFor "cannot retrieve tasks" terms .list with
    | (.error error, session) => (.failed error, session)
    | (.ok tasks, session) => (print output later tasks, session)

end TaskCommand

end TaskDaemon
