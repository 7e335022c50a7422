import TaskDaemon.Text.Utf8

/-!
# Paths

A path is a byte string, and need not be text. What separates its names is the slash; a name that is
empty or a single dot says nothing.

* `TaskDaemon.Path`: the paths, and `TaskDaemon.Path.text`: a path as messages show it;
* `TaskDaemon.Path.names`: the names on the way;
* `TaskDaemon.Path.parent?`: the directory part of a path;
* `TaskDaemon.Path.below`: a path below a directory.
-/

namespace TaskDaemon

/-- **A path.** -/
structure Path where
  /-- The bytes of the path. -/
  bytes : Bytes
  deriving DecidableEq, Repr

namespace Path

/-- **A text as a path.** -/
def ofString (text : String) : Path :=
  ⟨Utf8.ofString text⟩

instance : Coe String Path := ⟨ofString⟩

/-- **A path as messages show it**: what is no text in it is replaced. -/
def text (path : Path) : String :=
  Utf8.lossy path.bytes

/-- The slash as a byte. -/
def slash : UInt8 := 47

/-- The name of the directory itself. -/
def dot : Bytes := [46]

/-- The name of the directory above. -/
def dotDot : Bytes := [46, 46]

/-- Whether a path is empty. -/
def isEmpty (path : Path) : Bool :=
  path.bytes.isEmpty

/-- **Whether a path starts at the root of all.** -/
def isAbsolute (path : Path) : Bool :=
  path.bytes.head? = some slash

/-- Whether a path ends with a slash. -/
def endsInSlash (path : Path) : Bool :=
  path.bytes.getLast? = some slash

/-- **The pieces between slashes.** -/
def pieces : Bytes → List Bytes
  | [] => [[]]
  | byte :: rest =>
    if byte = slash then [] :: pieces rest
    else
      match pieces rest with
      | [] => [[byte]]
      | piece :: more => (byte :: piece) :: more

/-- Pieces with slashes between them. -/
def join : List Bytes → Bytes
  | [] => []
  | [piece] => piece
  | piece :: rest => piece ++ slash :: join rest

/-- **The names of a path**, in order. -/
def names (path : Path) : List Bytes :=
  (pieces path.bytes).filter (· ≠ [])

/-- A piece that says nothing. -/
def isIdle (piece : Bytes) : Bool :=
  piece = [] || piece = dot

/-- Pieces without those at the end that say nothing. -/
def withoutIdleEnd (parts : List Bytes) : List Bytes :=
  (parts.reverse.dropWhile isIdle).reverse

/-- **What a path starts with**, and the rest: a slash for the root of all, or a dot for the
directory itself. -/
def lead : Bytes → Bytes × Bytes
  | byte :: rest =>
    if byte = slash ∨ (byte = 46 ∧ (rest = [] ∨ rest.head? = some slash)) then ([byte], rest)
    else ([], byte :: rest)
  | [] => ([], [])

/-- **The directory part of a path**, which is empty for a name alone. A root has none, and an empty
path neither. -/
def parent? (path : Path) : Option Path :=
  let (front, body) := lead path.bytes
  match withoutIdleEnd (pieces body) with
  | [] => if front = dot then some ⟨[]⟩ else none
  | parts => some ⟨front ++ join (withoutIdleEnd parts.dropLast)⟩

/-- **A path below a directory.** An absolute path stays as it is. -/
def below (directory path : Path) : Path :=
  if path.isAbsolute ∨ directory.isEmpty then path
  else if directory.endsInSlash then ⟨directory.bytes ++ path.bytes⟩
  else ⟨directory.bytes ++ slash :: path.bytes⟩

end Path

end TaskDaemon
