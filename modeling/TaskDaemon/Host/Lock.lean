import TaskDaemon.Error.Basic
import TaskDaemon.Host.FileTree

/-!
# Locks on files

A process claims a lock on a file by which others see that it runs. The lock is on the file itself
and not on its name: two paths that lead to one file are two names of one lock. Whoever holds it has
written its process id into the file, and nobody writes into it before the lock is won. Who cannot
write does not hold the lock, and leaves in the file what came there.

* `TaskDaemon.Host`: the files of a machine, and what is locked or taken;
* `TaskDaemon.Refusal`: what a file can refuse, such as a device or one on a full disk;
* `TaskDaemon.FileLock`: a lock that is held;
* `TaskDaemon.Host.acquire` and `TaskDaemon.Host.release`;
* `TaskDaemon.LockGuard`: what the holder of a lock keeps of it, `TaskDaemon.Host.releaseGuard` and
  `TaskDaemon.Host.dropGuard`.
-/

namespace TaskDaemon

/-- **What a file refuses** to who claims its lock. -/
inductive Refusal where
  /-- It cannot be locked, for another reason than that it is locked. -/
  | lock (fault : SystemFault) (uncontended : fault.kind ≠ .wouldBlock)
  /-- It cannot be emptied. -/
  | empty (fault : SystemFault)
  /-- It cannot be written to, once so many bytes are written. -/
  | write (taken : Nat) (fault : SystemFault)
  /-- What is written cannot be kept. -/
  | sync (fault : SystemFault)
  deriving DecidableEq, Repr

namespace Refusal

/-- **What is told** to who claims the lock at a path. -/
def error (path : Path) : Refusal → Error
  | lock fault _ => .fileSystem path.text "lock" fault
  | empty fault | write _ fault | sync fault => .fileSystem path.text "write lock file" fault

/-- **What is left** of an attempt to write a line into the file of a number. -/
def leave (tree : FileTree) (number : Nat) (line : Bytes) : Refusal → FileTree
  | lock _ _ | empty _ => tree
  | write taken _ => tree.setContent number (line.take taken)
  | sync _ => tree.setContent number line

end Refusal

/-- **The files of a machine, and what is locked or taken.** -/
structure Host where
  /-- The files. -/
  tree : FileTree := {}
  /-- The numbers of the files that are locked. -/
  held : List Nat := []
  /-- The names that listeners have taken without a file, with the numbers of the listeners. -/
  names : List (Path × Nat) := []
  /-- What files refuse, by their numbers. -/
  refusals : List (Nat × Refusal) := []
  deriving DecidableEq, Repr

/-- **A lock that is held.** -/
structure FileLock where
  /-- The number of the file. -/
  number : Nat
  /-- The path by which the file was named. -/
  path : Path
  deriving DecidableEq, Repr

/-- **The guard of a lock**, which its holder keeps. -/
structure LockGuard where
  /-- The process that has claimed the lock. -/
  pid : Nat
  /-- The lock. -/
  lock : FileLock
  /-- Whether the lock is still to be given up. -/
  isLive : Bool := true
  deriving DecidableEq, Repr

namespace Host

/-- What a process writes into the file that it locks. -/
def pidLine (pid : Nat) : Bytes :=
  Utf8.ofString (Decimal.text pid ++ "\n")

/-- **Makes the directory of a file for its owner alone**, unless the file is named without one;
`operation` is what this is for. -/
def makeParent (host : Host) (operation : String) (path : Path) : Outcome Unit × Host :=
  match path.parent? with
  | none => (.ok (), host)
  | some parent =>
    let (outcome, tree) := host.tree.makePrivate parent
    (outcome.mapError (.fileSystem parent.text operation), { host with tree := tree })

/-- **Locks the file at a path**, making it if there is none, and writes the process id into it.
That a file is locked is found out before anything that it refuses. -/
def lockFile (host : Host) (pid : Nat) (path : Path) : Outcome FileLock × Host :=
  match host.tree.openFile path with
  | .error fault => (.error (.fileSystem path.text "open lock file" fault), host)
  | .ok (_, number, tree) =>
    if number ∈ host.held then (.error (.alreadyRunning path.text), { host with tree := tree })
    else
      match host.refusals.lookup number with
      | some refusal => (.error (refusal.error path), { host with
          tree := refusal.leave tree number (pidLine pid) })
      | none => (.ok ⟨number, path⟩, { host with
          tree := tree.setContent number (pidLine pid)
          held := number :: host.held })

/-- **Claims the lock at a path** for a process, making the file and its directory if need be. -/
def acquire (host : Host) (pid : Nat) (path : Path) : Outcome FileLock × Host :=
  match host.makeParent "create lock directory" path with
  | (.error error, host) => (.error error, host)
  | (.ok (), host) => host.lockFile pid path

/-- **Gives a lock up.** The file stays, with what is written in it. -/
def release (host : Host) (lock : FileLock) : Host :=
  { host with held := host.held.filter (· ≠ lock.number) }

/-- **Takes the lock out of a guard** and gives it up, unless that was done before. -/
def emptyGuard (host : Host) (guard : LockGuard) : Host × LockGuard :=
  if guard.isLive then (host.release guard.lock, { guard with isLive := false }) else (host, guard)

/-- **A guard goes** without a word. -/
def dropGuard (host : Host) (guard : LockGuard) : Host :=
  (host.emptyGuard guard).1

/-- **A guard is released** by its holder, and goes then. -/
def releaseGuard (host : Host) (guard : LockGuard) : Host :=
  let (host, guard) := host.emptyGuard guard
  host.dropGuard guard

end Host

end TaskDaemon
