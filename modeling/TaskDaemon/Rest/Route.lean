import TaskDaemon.Text.Utf8

/-!
# Paths of the REST interface

* `TaskDaemon.Rest.pathOf`: the path of a request target;
* `TaskDaemon.Rest.Route` and `TaskDaemon.Rest.Route.ofPath`: what a path leads to;
* `TaskDaemon.Rest.percentDecode`: the bytes of a path segment.
-/

namespace TaskDaemon

namespace Rest

/-- The text behind the first occurrence of `://`, if there is one. -/
def behindScheme : List Char → Option (List Char)
  | ':' :: '/' :: '/' :: rest => some rest
  | _ :: rest => behindScheme rest
  | [] => none

/-- **The path of a request target**: without scheme and host, and without what follows a question
mark or a number sign. -/
def pathOf (target : List Char) : List Char :=
  let whole :=
    match target with
    | '/' :: _ => target
    | _ =>
      match behindScheme target with
      | some rest =>
        let path := rest.dropWhile fun c => c ≠ '/' && c ≠ '?' && c ≠ '#'
        match path with
        | '/' :: _ => path
        | _ => '/' :: path
      | none => target
  whole.takeWhile fun c => c ≠ '?' && c ≠ '#'

/-- The path of the tasks. -/
def tasksPath : List Char := "/api/v1/tasks".toList

/-- **What a path leads to.** -/
inductive Route where
  /-- The tasks. -/
  | tasks
  /-- One task, by its id as it stands in the path. -/
  | task (segment : List Char)
  /-- Nothing. -/
  | unknown
  deriving DecidableEq, Repr

namespace Route

/-- **The route of a path.** It is taken letter for letter. -/
def ofPath (path : List Char) : Route :=
  if path = tasksPath then .tasks
  else if path.take (tasksPath.length + 1) = tasksPath ++ ['/'] then
    let segment := path.drop (tasksPath.length + 1)
    if segment.isEmpty ∨ segment.contains '/' then .unknown else .task segment
  else .unknown

end Route

/-- The value of a hexadecimal digit. -/
def hexValue? (c : Char) : Option Nat :=
  if '0' ≤ c ∧ c ≤ '9' then some (c.toNat - '0'.toNat)
  else if 'a' ≤ c ∧ c ≤ 'f' then some (c.toNat - 'a'.toNat + 10)
  else if 'A' ≤ c ∧ c ≤ 'F' then some (c.toNat - 'A'.toNat + 10)
  else none

/-- **The bytes of a path segment**: a percent sign with two digits is a byte, and anything else
stands for itself. -/
def percentDecode : List Char → Bytes
  | [] => []
  | '%' :: h :: l :: rest =>
    match hexValue? h, hexValue? l with
    | some high, some low => UInt8.ofNat (high * 16 + low) :: percentDecode rest
    | _, _ => String.utf8EncodeChar '%' ++ percentDecode (h :: l :: rest)
  | c :: rest => String.utf8EncodeChar c ++ percentDecode rest

end Rest

end TaskDaemon
