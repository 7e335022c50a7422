import TaskDaemon.Host.Path
import TaskDaemon.Net.Ip
import TaskDaemon.Task.Basic

/-!
# Settings of a daemon

* `TaskDaemon.RuntimeDir.path`: the directory for a user's running daemon, and the default files in
  it;
* `TaskDaemon.DaemonConfig`: the settings, with a default for each of them;
* `TaskDaemon.DaemonConfig.schema`: their JSON shape. The settings of the server stand in the same
  object as those of the process;
* `TaskDaemon.DaemonConfig.load`: the settings of a file.
-/

namespace TaskDaemon

/-- The name of the lock file. -/
def lockFileName : String := "todo-daemon.lock"

/-- The name of the socket file. -/
def sockFileName : String := "todo-daemon.sock"

namespace RuntimeDir

/-- The directory of the directories that belong to users. -/
def ofUsers : Path := "/run/user"

/-- **The directory for what a user's processes need while they run**: the one the environment
names, if that is an absolute path, and else the one that belongs to the user's number. -/
def path (fromEnvironment : Option Path) (user : String) : Path :=
  match fromEnvironment with
  | some directory => if directory.isAbsolute then directory else ofUsers.below user
  | none => ofUsers.below user

/-- The default lock file. -/
def lockFile (directory : Path) : Path :=
  directory.below lockFileName

/-- The default socket file. -/
def sockFile (directory : Path) : Path :=
  directory.below sockFileName

end RuntimeDir

/-- **Settings of the REST interface.** -/
structure HttpConfig where
  /-- The address it is bound to, at a port that the system chooses. -/
  host : Ip := .loopback
  /-- How long a request may take, in milliseconds. -/
  requestTimeoutMs : Nat := 10000
  deriving DecidableEq, Repr

/-- **Settings of the RPC interface.** -/
structure RpcConfig where
  /-- How long a connection may be silent, in milliseconds. -/
  idleTimeoutMs : Nat := 60000
  /-- How long writing a response may take, in milliseconds. -/
  writeTimeoutMs : Nat := 10000
  deriving DecidableEq, Repr

/-- **Settings of the server.** -/
structure ServerConfig where
  /-- Whether to start with the demo tasks. -/
  seedDemoTasks : Bool := false
  /-- The REST interface. -/
  http : HttpConfig := {}
  /-- The RPC interface. -/
  rpc : RpcConfig := {}
  deriving DecidableEq, Repr

/-- **Settings of a daemon.** -/
structure DaemonConfig where
  /-- The file that is locked while the daemon runs. -/
  lockFile : Path
  /-- The socket file. -/
  sockFile : Path
  /-- How long stopping may wait for running requests, in milliseconds; without end if absent. -/
  drainTimeoutMs : Option Nat := none
  /-- The server. -/
  server : ServerConfig := {}
  deriving DecidableEq, Repr

/-- How long a request may take. -/
def HttpConfig.requestTimeout (config : HttpConfig) : Span :=
  .ofMillis config.requestTimeoutMs

/-- **How long a connection may be silent, and how long a write may take.** -/
structure RpcTimeouts where
  /-- Between two requests. -/
  idle : Span
  /-- For one response. -/
  write : Span
  deriving DecidableEq, Repr

/-- The limits of the RPC interface. -/
def RpcConfig.timeouts (config : RpcConfig) : RpcTimeouts :=
  ⟨.ofMillis config.idleTimeoutMs, .ofMillis config.writeTimeoutMs⟩

/-- The limits as text. -/
def RpcTimeouts.text (timeouts : RpcTimeouts) : String :=
  "RpcTimeouts \x7b idle: " ++ timeouts.idle.text ++ ", write: " ++ timeouts.write.text ++ " \x7d"

namespace DaemonConfig

/-- How long stopping may wait. -/
def drainTimeout (config : DaemonConfig) : Option Span :=
  config.drainTimeoutMs.map Span.ofMillis

/-- **The settings of a daemon with its files in a directory**, all else by default. -/
def inDirectory (directory : Path) : DaemonConfig where
  lockFile := RuntimeDir.lockFile directory
  sockFile := RuntimeDir.sockFile directory

/-- A number of milliseconds. -/
def millisSchema : Json.Schema Nat :=
  .atom (.nat "u64" 18446744073709551616)

/-- The name of a file, which is text here. -/
def pathSchema : Json.Schema Path :=
  .convert Path.ofString Path.text (.atom .path)

/-- **The shape of the settings of the REST interface.** -/
def httpSchema : Json.Schema HttpConfig :=
  .convert (fun r => ⟨r.1, r.2.1⟩) (fun c => (c.host, c.requestTimeoutMs, ()))
    (.record "HttpConfig" (.default "host" Ip.schema .loopback
      (.default "request_timeout_ms" millisSchema 10000 .done)))

/-- **The shape of the settings of the RPC interface.** -/
def rpcSchema : Json.Schema RpcConfig :=
  .convert (fun r => ⟨r.1, r.2.1⟩) (fun c => (c.idleTimeoutMs, c.writeTimeoutMs, ()))
    (.record "RpcConfig" (.default "idle_timeout_ms" millisSchema 60000
      (.default "write_timeout_ms" millisSchema 10000 .done)))

/-- **The shape of the settings of a daemon**, those absent being taken from `base`. -/
def schema (base : DaemonConfig) : Json.Schema DaemonConfig :=
  .convert
    (fun r =>
      ⟨r.1.1, r.1.2.1, r.1.2.2.1, ⟨r.2.1, r.2.2.1, r.2.2.2.1⟩⟩)
    (fun c =>
      ((c.lockFile, c.sockFile, c.drainTimeoutMs, ()),
        (c.server.seedDemoTasks, c.server.http, c.server.rpc, ())))
    (.merged "DaemonConfig"
      (.default "lock_file" pathSchema base.lockFile
        (.default "sock_file" pathSchema base.sockFile
          (.default "drain_timeout_ms" (.option millisSchema) base.drainTimeoutMs .done)))
      (.default "seed_demo_tasks" (.atom .bool) base.server.seedDemoTasks
        (.default "http" httpSchema base.server.http
          (.default "rpc" rpcSchema base.server.rpc .done))))

/-- **The settings that a text gives**, those absent being taken from `base`; `path` is the file it
was read from. -/
def parse (base : DaemonConfig) (path : Path) (text : String) : Outcome DaemonConfig :=
  let glyphs := Glyph.ofString text
  Error.inContext ("cannot parse config file '" ++ path.text ++ "'")
    (((schema base).parse glyphs).mapError fun fault => .json (fault.message glyphs))

/-- **The settings of a file** that is read by `read`; without a path they are `base`. -/
def load (base : DaemonConfig) (read : Path → Except SystemFault Bytes) :
    Option Path → Outcome DaemonConfig
  | none => .ok base
  | some path => do
    let text ←
      match read path with
      | .error fault => .error (.fileSystem path.text "read config" fault)
      | .ok bytes =>
        match Utf8.toString? bytes with
        | some text => .ok text
        | none =>
          .error (.fileSystem path.text "read config"
            (.told .invalidData "stream did not contain valid UTF-8"))
    parse base path text

/-- **The file that settings are read from**: the one given, or else the one the environment
names. -/
def source (given fromEnvironment : Option Path) : Option Path :=
  given.orElse fun _ => fromEnvironment

end DaemonConfig

end TaskDaemon
