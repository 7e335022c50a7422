import TaskDaemon.Command.Execution
import TaskDaemon.Daemon.Traffic
import TaskDaemon.Host.Lock
import Std.Time.DateTime.Timestamp

/-!
# The program

The layer between the library and the system, which decides nothing. The system gives it files,
locks and the standard streams, but no local sockets. So a daemon that runs serves one connection,
which is its standard input and output, until that ends; and a command that looks for a daemon finds
none.
-/

namespace TaskDaemon

namespace Program

/-- The failure of the system behind an error. -/
def faultOf : IO.Error → SystemFault
  | .noFileOrDirectory _ code _ => .number code.toNat
  | .permissionDenied _ code _ => .number code.toNat
  | .alreadyExists _ code _ => .number code.toNat
  | .inappropriateType _ code _ => .number code.toNat
  | .invalidArgument _ code _ => .number code.toNat
  | other => .told .other (toString other)

/-- What comes of an action on a file. -/
def attempt {α : Type} (action : IO α) : IO (Except SystemFault α) := do
  match ← action.toBaseIO with
  | .ok value => return .ok value
  | .error error => return .error (faultOf error)

/-- The time on the clock. -/
def clock : IO Instant := do
  let nanos := (← Std.Time.Timestamp.now).toNanosecondsSinceUnixEpoch.val
  return ⟨nanos / 1000000000, (nanos % 1000000000).toNat⟩

/-- The first number in a text. -/
def firstNumber (text : String) : Nat :=
  let digits := (text.toList.dropWhile fun c => !c.isDigit).takeWhile Char.isDigit
  digits.foldl (fun n c => n * 10 + (c.toNat - '0'.toNat)) 0

/-- The id of this process. -/
def processId : IO Nat := do
  return firstNumber (← IO.FS.readFile "/proc/self/stat")

/-- The number of the user. -/
def userNumber : IO Nat := do
  let status ← IO.FS.readFile "/proc/self/status"
  let line := (status.splitOn "\n").find? fun line => line.startsWith "Uid:"
  return firstNumber (line.getD "")

/-- Where settings come from: the file given, or else the one that the environment names, is read
beforehand. -/
def settings (given : Option Path) : IO Settings := do
  let xdg := (← IO.getEnv "XDG_RUNTIME_DIR").map Path.ofString
  let user := Decimal.text (← userNumber)
  let environment := (← IO.getEnv "TODO_DAEMON_CONFIG").map Path.ofString
  let content : Except SystemFault Bytes ←
    match DaemonConfig.source given environment with
    | some path => attempt do return (← IO.FS.readBinFile path.text).toList
    | none => pure (.ok [])
  return {
    defaults := .inDirectory (RuntimeDir.path xdg user)
    environment := environment
    read := fun _ => content }

/-- Serves the connection that the standard streams are. -/
partial def serveStreams (service : Service) (input output : IO.FS.Stream) (link : Link)
    (backend : Backend) : IO Unit := do
  let link := (((link.turn {}).read service.limit).look {})
  let (link, backend) := link.finish service (← clock) backend
  for reaction in link.sent do
    match reaction with
    | .line reply => output.putStrLn reply.render
    | .response _ => pure ()
  output.flush
  let link := { link with sent := [] }
  match link.stage with
  | .closed => pure ()
  | _ =>
    if link.ended then serveStreams service input output link backend
    else
      let line ← input.getLine
      serveStreams service input output
        { link with unread := link.unread ++ Utf8.ofString line, ended := line.isEmpty } backend

/-- Runs a daemon that has won its lock. -/
def serve (pid : Nat) (config : DaemonConfig) : IO Unit := do
  let now ← clock
  let store := if config.server.seedDemoTasks then Store.demo (fun _ => now) else .empty
  let service : Service := { snapshot := ⟨pid, ⟨config.server.http.host, 0, 0⟩⟩ }
  serveStreams service (← IO.getStdin) (← IO.getStdout) { protocol := .rpc } { store := store }

/-- Runs a daemon. -/
def runDaemon (config : DaemonConfig) : IO (Outcome String) := do
  let refused (error : Error) : Outcome String := .error (.context "cannot start server" error)
  let path := config.lockFile
  if let some parent := path.parent? then
    unless parent.isEmpty do
      if let .error fault ← attempt (IO.FS.createDirAll parent.text) then
        return refused (.fileSystem parent.text "create lock directory" fault)
  match ← attempt (IO.FS.Handle.mk path.text .append) with
  | .error fault => return refused (.fileSystem path.text "open lock file" fault)
  | .ok file =>
    match ← attempt file.tryLock with
    | .error fault => return refused (.fileSystem path.text "lock" fault)
    | .ok false => return refused (.alreadyRunning path.text)
    | .ok true =>
      let pid ← processId
      let written ← attempt do
        file.truncate
        file.write ⟨(Host.pidLine pid).toArray⟩
        file.flush
      if let .error fault := written then
        return refused (.fileSystem path.text "write lock file" fault)
      serve pid config
      file.unlock
      return .ok ""

/-- Executes an invocation: what it prints. -/
def execute (invocation : Invocation) : IO (Outcome String) := do
  match invocation.command with
  | .run lock config seed =>
    match (← settings config).ofRun invocation.sock lock config seed with
    | .error error => return .error error
    | .ok config => runDaemon config
  | _ =>
    match (← settings none).endpoint invocation.sock with
    | .error error => return .error error
    | .ok endpoint => return .error (Rpc.cannotConnect endpoint (.number 38))

end Program

end TaskDaemon

open TaskDaemon in
/-- The program. -/
def main (arguments : List String) : IO UInt32 := do
  match Invocation.read (arguments.map Utf8.ofString) with
  | .error halt =>
    IO.print halt.output
    return halt.exitCode.toUInt32
  | .ok invocation =>
    match ← Program.execute invocation with
    | .ok printed =>
      IO.print printed
      return 0
    | .error error =>
      IO.eprintln ("Error: " ++ error.text)
      return 1
