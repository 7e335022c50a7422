import TaskDaemon.Error.System
import TaskDaemon.Host.Path

/-!
# Files and directories

The part of a file system that a daemon sees: directories, files and sockets below two roots, the
working directory and the root of all absolute paths.

* `TaskDaemon.FileTree`: the tree;
* `TaskDaemon.FileTree.Spot`: what a path names, in a directory that exists, and
  `TaskDaemon.FileTree.reach`: how a path is followed as far as that;
* `TaskDaemon.FileTree.locate`: the place a path leads to;
* `TaskDaemon.FileTree.read`, `TaskDaemon.FileTree.write`, `TaskDaemon.FileTree.makeDirectory`,
  `TaskDaemon.FileTree.makePrivate`, `TaskDaemon.FileTree.remove`: the operations of the system;
* `TaskDaemon.FileTree.bindSocket`, `TaskDaemon.FileTree.dial`: the same for socket files.

A file has a number of its own, so that one that was removed is told from a later one of its name;
it may stand at several places. A slash behind the last name says that it names a directory.
Operations differ in what they find wrong first where it does not.

Nothing here is a symbolic link: what a path names is found by its names alone, and a path that goes
through links stands for the one that is left when they are followed.
-/

namespace TaskDaemon

/-- **What stands at a place.** There are no symbolic links. -/
inductive Node where
  /-- A directory with its permissions. -/
  | directory (mode : Nat)
  /-- A file with its number and its content. -/
  | file (number : Nat) (content : Bytes)
  /-- A socket file, with the number of the listener that made it. -/
  | socket (number : Nat)
  deriving DecidableEq, Repr

/-- **A place**: the names on the way from a root, the last one first. Absolute places start at the
name that is a slash. -/
abbrev Place := List Bytes

/-- **Files and directories.** -/
structure FileTree where
  /-- What stands where, but for the roots. -/
  nodes : List (Place × Node) := []
  /-- The number of the next file or listener. -/
  nextNumber : Nat := 0
  deriving DecidableEq, Repr

namespace FileTree

/-- The root of all absolute paths. -/
def root : Place := [[Path.slash]]

/-- The permissions of directories that are for their owner alone. -/
def privateMode : Nat := 0o700

/-- The permissions of other directories. -/
def publicMode : Nat := 0o755

/-- The longest name of a file, in bytes. -/
def maxName : Nat := 255

/-- The bytes that a path must stay below. -/
def maxPath : Nat := 4096

/-- What stands at a place. The roots are directories. -/
def node? (tree : FileTree) (place : Place) : Option Node :=
  if place = [] ∨ place = root then some (.directory publicMode)
  else tree.nodes.lookup place

/-- The place above a place; a root is above itself. -/
def above (place : Place) : Place :=
  if place = root then place else place.tail

/-- **Enters directories** one after the other, by their names. -/
def enter (tree : FileTree) (place : Place) : List Bytes → Except SystemFault Place
  | [] => .ok place
  | name :: rest =>
    if name = Path.dot then enter tree place rest
    else if name = Path.dotDot then enter tree (above place) rest
    else if maxName < name.length then .error .nameTooLong
    else
      match tree.node? (name :: place) with
      | some (.directory _) => enter tree (name :: place) rest
      | some _ => .error .notDirectory
      | none => .error .noEntry

/-- **What a path names**, in a directory that exists. -/
structure Spot where
  /-- The directory. -/
  directory : Place
  /-- The last name; none if the path leads to the directory itself, which it does with dots at its
  end or without names. -/
  name : Option Bytes
  /-- Whether a slash stands behind the last name. -/
  slashed : Bool
  deriving DecidableEq, Repr

namespace Spot

/-- **The place of a spot.** -/
def place (spot : Spot) : Place :=
  match spot.name with
  | none => spot.directory
  | some name => name :: spot.directory

/-- Whether a name may stand there. -/
def checkName (spot : Spot) : Except SystemFault Unit :=
  if spot.name.any fun name => maxName < name.length then .error .nameTooLong else .ok ()

end Spot

/-- Whether a path can be followed at all. -/
def checkPath (path : Path) : Except SystemFault Unit :=
  if path.isEmpty then .error .noEntry
  else if path.bytes.contains 0 then
    .error (.told .invalidInput "file name contained an unexpected NUL byte")
  else if maxPath ≤ path.bytes.length then .error .nameTooLong
  else .ok ()

/-- **Follows a path** up to its last name. -/
def reach (tree : FileTree) (path : Path) : Except SystemFault Spot := do
  checkPath path
  let start := if path.isAbsolute then root else []
  match path.names.reverse with
  | [] => .ok ⟨start, none, true⟩
  | last :: before =>
    let directory ← tree.enter start before.reverse
    if last = Path.dot then .ok ⟨directory, none, path.endsInSlash⟩
    else if last = Path.dotDot then .ok ⟨above directory, none, path.endsInSlash⟩
    else .ok ⟨directory, some last, path.endsInSlash⟩

/-- **The place a path leads to**, which need not exist. With a slash at its end, it leads to
nothing but a directory. -/
def locate (tree : FileTree) (path : Path) : Except SystemFault Place := do
  let spot ← tree.reach path
  spot.checkName
  match tree.node? spot.place with
  | none | some (.directory _) => .ok spot.place
  | some _ => if spot.slashed then .error .notDirectory else .ok spot.place

/-- Whether something may be made or removed at a place: the root of all absolute paths is not the
user's. -/
def checkOwned (place : Place) : Except SystemFault Unit :=
  if place.tail = root then .error .denied else .ok ()

/-- Puts a node at a place. -/
def put (tree : FileTree) (place : Place) (node : Node) : FileTree :=
  { tree with nodes := (place, node) :: tree.nodes.filter (·.1 ≠ place) }

/-- Takes away what stands at a place. -/
def drop (tree : FileTree) (place : Place) : FileTree :=
  { tree with nodes := tree.nodes.filter (·.1 ≠ place) }

/-- What a path leads to, if it exists. -/
def look (tree : FileTree) (path : Path) : Option Node :=
  match tree.locate path with
  | .ok place => tree.node? place
  | .error _ => none

/-- Whether a path leads to something. -/
def holds (tree : FileTree) (path : Path) : Bool :=
  (tree.look path).isSome

/-- Whether a path leads to a directory. -/
def isDirectory (tree : FileTree) (path : Path) : Bool :=
  match tree.look path with
  | some (.directory _) => true
  | _ => false

/-- The permissions of what a path leads to. -/
def mode? (tree : FileTree) (path : Path) : Option Nat :=
  (tree.look path).map fun
    | .directory mode => mode
    | .file _ _ => 0o644
    | .socket _ => 0o755

/-- No such device or address. -/
def noDevice : SystemFault := .number 6

/-- **The content of a file.** -/
def read (tree : FileTree) (path : Path) : Except SystemFault Bytes := do
  let place ← tree.locate path
  match tree.node? place with
  | some (.file _ content) => .ok content
  | some (.directory _) => .error .isDirectory
  | some (.socket _) => .error noDevice
  | none => .error .noEntry

/-- **Opens a file for writing**, making an empty one if there is none: its place and number. What
is named as a directory is not even looked for. -/
def openFile (tree : FileTree) (path : Path) : Except SystemFault (Place × Nat × FileTree) := do
  let spot ← tree.reach path
  if spot.slashed then .error .isDirectory
  spot.checkName
  match tree.node? spot.place with
  | some (.file number _) => .ok (spot.place, number, tree)
  | some (.directory _) => .error .isDirectory
  | some (.socket _) => .error noDevice
  | none =>
    checkOwned spot.place
    let number := tree.nextNumber
    .ok (spot.place, number,
      { tree.put spot.place (.file number []) with nextNumber := number + 1 })

/-- **Gives the file of a number a new content**, wherever it stands. -/
def setContent (tree : FileTree) (number : Nat) (content : Bytes) : FileTree :=
  { tree with nodes := tree.nodes.map fun
      | (place, .file n old) => (place, .file n (if n = number then content else old))
      | other => other }

/-- **Writes a file**, in place of its content or anew. -/
def write (tree : FileTree) (path : Path) (content : Bytes) : Except SystemFault FileTree := do
  let (_, number, tree) ← tree.openFile path
  .ok (tree.setContent number content)

/-- **Makes a directory** in one that exists. -/
def makeDirectory (tree : FileTree) (mode : Nat) (path : Path) : Except SystemFault FileTree := do
  let spot ← tree.reach path
  spot.checkName
  match tree.node? spot.place with
  | some _ => .error .fileExists
  | none =>
    checkOwned spot.place
    .ok (tree.put spot.place (.directory mode))

/-- **Makes a directory for its owner alone**, unless there is one; `absent` is what is done if the
one above it is missing. -/
def attemptPrivate (tree : FileTree) (path : Path)
    (absent : SystemFault → Except SystemFault Unit × FileTree) :
    Except SystemFault Unit × FileTree :=
  match tree.makeDirectory privateMode path with
  | .ok tree => (.ok (), tree)
  | .error fault =>
    if fault = .noEntry then absent fault
    else if tree.isDirectory path then (.ok (), tree)
    else (.error fault, tree)

/-- **Makes a directory for its owner alone**, and with it those above it that do not exist. The
first argument bounds how many those are. What fails half way leaves what was made before. -/
def makePrivateFrom (tree : FileTree) : Nat → Path → Except SystemFault Unit × FileTree
  | 0, _ => (.error .noEntry, tree)
  | depth + 1, path =>
    if path.isEmpty then (.ok (), tree)
    else
      tree.attemptPrivate path fun fault =>
        match path.parent? with
        | none => (.error fault, tree)
        | some parent =>
          match makePrivateFrom tree depth parent with
          | (.error fault, tree) => (.error fault, tree)
          | (.ok (), tree) => tree.attemptPrivate path fun fault => (.error fault, tree)

/-- **Makes a directory for its owner alone**, and with it those above it that do not exist. -/
def makePrivate (tree : FileTree) (path : Path) : Except SystemFault Unit × FileTree :=
  tree.makePrivateFrom (path.names.length + 2) path

/-- **Removes a file or socket file.** -/
def remove (tree : FileTree) (path : Path) : Except SystemFault FileTree := do
  let place ← tree.locate path
  match tree.node? place with
  | some (.directory _) => .error .isDirectory
  | some _ =>
    checkOwned place
    .ok (tree.drop place)
  | none => .error .noEntry

/-! ### Socket files -/

/-- The bytes that the path of a socket must stay below. -/
def maxSocketPath : Nat := 108

/-- Whether a path may be that of a socket. -/
def checkSocketPath (path : Path) : Except SystemFault Unit :=
  if path.bytes.contains 0 then
    .error (.told .invalidInput "paths must not contain interior null bytes")
  else if maxSocketPath ≤ path.bytes.length then
    .error (.told .invalidInput "path must be shorter than SUN_LEN")
  else .ok ()

/-- **Binds a listener to a path**, where nothing may stand: the number of the listener. -/
def bindSocket (tree : FileTree) (path : Path) : Except SystemFault (Nat × FileTree) := do
  checkSocketPath path
  let spot ← tree.reach path
  spot.checkName
  match tree.node? spot.place with
  | some _ => .error .inUse
  | none =>
    if spot.slashed then .error .noEntry
    checkOwned spot.place
    let number := tree.nextNumber
    .ok (number, { tree.put spot.place (.socket number) with nextNumber := number + 1 })

/-- **The listener that a path leads to**, if `live` says that it listens. -/
def dial (tree : FileTree) (live : Nat → Bool) (path : Path) : Except SystemFault Nat := do
  checkSocketPath path
  let place ← tree.locate path
  match tree.node? place with
  | some (.socket number) => if live number then .ok number else .error .refused
  | some _ => .error .refused
  | none => .error .noEntry

end FileTree

end TaskDaemon
