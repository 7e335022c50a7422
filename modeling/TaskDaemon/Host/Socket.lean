import TaskDaemon.Host.Lock

/-!
# Local sockets

A listener takes a path, where a socket file then stands, or a *name*, which is kept in no file
system and is given back when the listener ends. A name is told from a path by a NUL byte in front;
the empty path is a name too, one that says as little as the NUL byte alone.

* `TaskDaemon.Path.isName`: which of both a path is;
* `TaskDaemon.Host.bindSocket` and `TaskDaemon.Host.freeSocket`: a listener comes and goes;
* `TaskDaemon.Host.dial`: the listener that is found at a path.

A listener on a path takes away, when it ends, whatever stands there by then.
-/

namespace TaskDaemon

namespace Path

/-- **Whether a path is a name** that is kept in no file system. -/
def isName (path : Path) : Bool :=
  path.isEmpty || path.bytes.head? = some 0

/-- Whether a path is a name that says nothing. -/
def isNoName (path : Path) : Bool :=
  path.isEmpty || path.bytes = [0]

end Path

namespace Host

/-- Whether a name may be that of a socket. -/
def checkName (path : Path) : Except SystemFault Unit :=
  if FileTree.maxSocketPath < path.bytes.length then
    .error (.told .invalidInput "abstract socket name must be shorter than SUN_LEN")
  else .ok ()

/-- The host with a name taken by a new listener, and the number of that. -/
def takeName (host : Host) (path : Path) : Nat × Host :=
  let number := host.tree.nextNumber
  (number, { host with
    tree := { host.tree with nextNumber := number + 1 }
    names := (path, number) :: host.names })

/-- **Binds a listener to a name**, which nobody else may have. For a name that says nothing the
system chooses one that is free. -/
def bindName (host : Host) (path : Path) : Except SystemFault (Nat × Host) := do
  checkName path
  if ¬ path.isNoName ∧ (host.names.lookup path).isSome then .error .inUse
  .ok (host.takeName path)

/-- **Binds a listener** to a path or name: its number. -/
def bindSocket (host : Host) (path : Path) : Except SystemFault (Nat × Host) :=
  if path.isName then host.bindName path
  else (host.tree.bindSocket path).map fun r => (r.1, { host with tree := r.2 })

/-- Takes away the file at a path, if that can be done. -/
def removeIfAny (host : Host) (path : Path) : Host :=
  match host.tree.remove path with
  | .ok tree => { host with tree := tree }
  | .error _ => host

/-- **Gives back what a listener has taken.** -/
def freeSocket (host : Host) (path : Path) (number : Nat) : Host :=
  if path.isName then { host with names := host.names.filter fun name => name.2 ≠ number }
  else host.removeIfAny path

/-- **The listener that has a name.** A name that says nothing is nobody's. -/
def dialName (host : Host) (path : Path) : Except SystemFault Nat := do
  checkName path
  if path.isNoName then .error .invalidArgument
  match host.names.lookup path with
  | some number => .ok number
  | none => .error .refused

/-- **The listener that is found at a path or name**, if `live` says that it listens. -/
def dial (host : Host) (live : Nat → Bool) (path : Path) : Except SystemFault Nat :=
  if path.isName then host.dialName path else host.tree.dial live path

end Host

end TaskDaemon
