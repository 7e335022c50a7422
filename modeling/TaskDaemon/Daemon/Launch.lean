import TaskDaemon.Daemon.Listener

/-!
# Starting and ending a daemon

A daemon claims its lock, clears the way for its socket, and listens. When it ends, in whatever way,
its socket file is taken away and its lock is given up.

* `TaskDaemon.Host.launch`: the start, which yields a `TaskDaemon.Launched` daemon or an error;
* `TaskDaemon.Host.conclude`: the end;
* `TaskDaemon.Host.run`: a whole run, up to its `TaskDaemon.Ending`, and
  `TaskDaemon.Host.serveUntil`: what of it is done while the lock is held.

A socket file that stands in the way is taken for a left-over, since the lock is held: no daemon
with the same lock can be alive.
-/

namespace TaskDaemon

/-- **A daemon that listens.** -/
structure Launched where
  /-- Its lock. -/
  lock : FileLock
  /-- Its listeners. -/
  listeners : Listeners
  deriving DecidableEq, Repr

/-- **How the serving of a daemon ends.** -/
inductive Ending where
  /-- It was asked to stop before it listened. -/
  | withdrawn
  /-- It was asked to stop, and all running work was finished. -/
  | drained
  /-- It was asked to stop, and running work was given up when the time for it was over. -/
  | abandoned
  /-- It was asked to stop, and something went wrong while it did. -/
  | stumbled (error : Error)
  /-- Nobody asked, but it could not go on. -/
  | failed (error : Error)

namespace Ending

/-- Whether a daemon that ended in this way was asked to stop. -/
def isAsked : Ending → Bool
  | failed _ => false
  | _ => true

/-- What a run comes to that ended in this way: being asked to stop is no error, whatever happens
while stopping. -/
def outcome : Ending → Outcome Unit
  | failed error => .error (.context "server terminated" error)
  | _ => .ok ()

/-- What a run comes to that could not listen: nobody minds if it had been asked to stop. -/
def unbound (error : Error) : Ending → Outcome Unit
  | withdrawn => .ok ()
  | _ => .error error

end Ending

namespace Host

/-- **Clears the way for a socket**: its directory is made, and what stands at its path is
removed. -/
def prepareSocket (host : Host) (path : Path) : Outcome Unit × Host :=
  match host.makeParent "create socket directory" path with
  | (.error error, host) => (.error error, host)
  | (.ok (), host) =>
    match host.tree.remove path with
    | .ok tree => (.ok (), { host with tree := tree })
    | .error fault =>
      if fault.kind = .notFound then (.ok (), host)
      else (.error (.fileSystem path.text "remove stale socket" fault), host)

/-- **Makes a daemon listen** that holds its lock. -/
def openListeners (network : Network) (host : Host) (config : DaemonConfig) :
    Outcome Listeners × Host :=
  match host.prepareSocket config.sockFile with
  | (.error error, host) => (.error error, host)
  | (.ok (), host) =>
    let (outcome, host) := host.listenAll network (.unix config.sockFile) config.server.http.host
    (Error.inContext "server terminated" outcome, host)

/-- **Starts a daemon** as a process. -/
def launch (network : Network) (host : Host) (pid : Nat) (config : DaemonConfig) :
    Outcome Launched × Host :=
  match host.acquire pid config.lockFile with
  | (.error error, host) => (.error (.context "cannot start server" error), host)
  | (.ok lock, host) =>
    match host.openListeners network config with
    | (.error error, host) => (.error error, host.release lock)
    | (.ok listeners, host) => (.ok ⟨lock, listeners⟩, host)

/-- **Ends a daemon.** -/
def conclude (host : Host) (launched : Launched) : Host :=
  (host.unlisten launched.listeners.rpc).release launched.lock

/-- **Serves and stops** as the holder of a lock; `meanwhile` is what others do to the machine while
the daemon listens. -/
def serveUntil (network : Network) (host : Host) (config : DaemonConfig) (meanwhile : Host → Host)
    (ending : Ending) : Outcome Unit × Host :=
  match host.prepareSocket config.sockFile with
  | (.error error, host) => (.error error, host)
  | (.ok (), host) =>
    match host.listenAll network (.unix config.sockFile) config.server.http.host with
    | (.error error, host) => (ending.unbound (.context "server terminated" error), host)
    | (.ok listeners, host) => (ending.outcome, (meanwhile host).unlisten listeners.rpc)

/-- **A whole run of a daemon**, if its serving ends in this way. -/
def run (network : Network) (host : Host) (pid : Nat) (config : DaemonConfig)
    (meanwhile : Host → Host) (ending : Ending) : Outcome Unit × Host :=
  match host.acquire pid config.lockFile with
  | (.error error, host) => (.error (.context "cannot start server" error), host)
  | (.ok lock, host) =>
    let (outcome, host) := host.serveUntil network config meanwhile ending
    (outcome, host.release lock)

end Host

end TaskDaemon
