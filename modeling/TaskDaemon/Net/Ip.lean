import TaskDaemon.Text.Decimal
import TaskDaemon.Json.Schema

/-!
# Internet addresses

* `TaskDaemon.Ip`: an address of version 4 or 6, `TaskDaemon.Ip.text` and `TaskDaemon.Ip.parse?`;
* `TaskDaemon.SocketAddress`: an address with a port, `TaskDaemon.SocketAddress.text` and
  `TaskDaemon.SocketAddress.parse?`.

An address of version 6 is written with the first of its longest runs of zeros left out, if that is
longer than one; the last two groups may be read as an address of version 4, and are written as one
if the address stands for one. A scope behind a percent sign is shown unless it is zero.
-/

namespace TaskDaemon

/-- **An internet address.** -/
inductive Ip where
  /-- Version 4, by its four octets. -/
  | v4 (octets : List Nat)
  /-- Version 6, by its eight groups of sixteen bits. -/
  | v6 (groups : List Nat)
  deriving DecidableEq, Repr, Inhabited

namespace Ip

/-- The address of the machine itself. -/
def loopback : Ip := .v4 [127, 0, 0, 1]

/-! ### Text -/

/-- Texts with a separator between them. -/
def joined (separator : String) : List String → String
  | [] => ""
  | [text] => text
  | text :: rest => text ++ separator ++ joined separator rest

/-- A group of sixteen bits. -/
def groupText (group : Nat) : String :=
  String.ofList (Nat.toDigits 16 group)

/-- The groups of an address in order. -/
def groupsText (groups : List Nat) : String :=
  joined ":" (groups.map groupText)

/-- The length of the run of zeros at the front. -/
def zeroRun (groups : List Nat) : Nat :=
  (groups.takeWhile (· = 0)).length

/-- **The first of the longest runs of zeros**: where it starts and how long it is. -/
def longestZeros (groups : List Nat) : Nat × Nat :=
  (List.range groups.length).foldl (fun best start =>
    let run := zeroRun (groups.drop start)
    if best.2 < run then (start, run) else best) (0, 0)

/-- The text of an address of version 4. -/
def octetsText (octets : List Nat) : String :=
  joined "." (octets.map Decimal.text)

/-- The octets of two groups. -/
def octetsOf (groups : List Nat) : List Nat :=
  groups.flatMap fun group => [group / 256, group % 256]

/-- Whether an address of version 6 stands for one of version 4. -/
def isMapped (groups : List Nat) : Bool :=
  groups.take 6 = [0, 0, 0, 0, 0, 0xFFFF]

/-- **The text of an address.** -/
def text : Ip → String
  | .v4 octets => octetsText octets
  | .v6 groups =>
    if isMapped groups then "::ffff:" ++ octetsText (octetsOf (groups.drop 6))
    else
      let (start, run) := longestZeros groups
      if 1 < run then
        groupsText (groups.take start) ++ "::" ++ groupsText (groups.drop (start + run))
      else groupsText groups

/-! ### Reading -/

/-- The value of a digit of the given radix. -/
def radixDigit? (radix : Nat) (c : Char) : Option Nat :=
  let d? :=
    if '0' ≤ c ∧ c ≤ '9' then some (c.toNat - '0'.toNat)
    else if 'a' ≤ c ∧ c ≤ 'f' then some (c.toNat - 'a'.toNat + 10)
    else if 'A' ≤ c ∧ c ≤ 'F' then some (c.toNat - 'A'.toNat + 10)
    else none
  d?.filter (· < radix)

/-- **Reads a number below `bound`** with all the digits there are: at most `width` of them, where a
width is given, and without a zero in front of others unless `zeros` allows it. -/
def readNumber (radix : Nat) (width : Option Nat) (zeros : Bool) (bound : Nat)
    (text : List Char) : Option (Nat × List Char) :=
  let run := text.takeWhile fun c => (radixDigit? radix c).isSome
  let tooWide : Bool := match width with
    | some w => w < run.length
    | none => false
  let value := (run.filterMap (radixDigit? radix)).foldl (fun n d => n * radix + d) 0
  if run.isEmpty ∨ tooWide then none
  else if ¬ zeros ∧ run.head? = some '0' ∧ 1 < run.length then none
  else if value < bound then some (value, text.drop run.length)
  else none

/-- Expects a character. -/
def readChar (c : Char) : List Char → Option (List Char)
  | d :: rest => if d = c then some rest else none
  | [] => none

/-- Reads an octet. -/
def readOctet (text : List Char) : Option (Nat × List Char) :=
  readNumber 10 (some 3) false 256 text

/-- **Reads an address of version 4**: four octets with points between them. -/
def readV4 (text : List Char) : Option (List Nat × List Char) := do
  let (a, rest) ← readOctet text
  let rest ← readChar '.' rest
  let (b, rest) ← readOctet rest
  let rest ← readChar '.' rest
  let (c, rest) ← readOctet rest
  let rest ← readChar '.' rest
  let (d, rest) ← readOctet rest
  some ([a, b, c, d], rest)

/-- **Reads up to `limit` groups**, each but the very first behind a colon. An address of version 4
stands for the last two. The third component tells whether it came to that. -/
def readGroups : Nat → Bool → List Char → List Nat × List Char × Bool
  | 0, _, text => ([], text, false)
  | limit + 1, first, text =>
    match if first then some text else readChar ':' text with
    | none => ([], text, false)
    | some behind =>
      match if 0 < limit then readV4 behind else none with
      | some ([a, b, c, d], rest) => ([a * 256 + b, c * 256 + d], rest, true)
      | _ =>
        match readNumber 16 (some 4) true 65536 behind with
        | none => ([], text, false)
        | some (group, rest) =>
          let (groups, rest, dotted) := readGroups limit false rest
          (group :: groups, rest, dotted)

/-- **Reads an address of version 6**: eight groups, or fewer with two colons in place of the
zeros. -/
def readV6 (text : List Char) : Option (List Nat × List Char) := do
  let (head, rest, dotted) := readGroups 8 true text
  if head.length = 8 then some (head, rest)
  else if dotted then none
  else
    let rest ← readChar ':' rest
    let rest ← readChar ':' rest
    let (tail, rest, _) := readGroups (7 - head.length) true rest
    some (head ++ List.replicate (8 - head.length - tail.length) 0 ++ tail, rest)

/-- **The address a text denotes.** -/
def parse? (text : String) : Option Ip :=
  match readV4 text.toList with
  | some (octets, []) => some (.v4 octets)
  | _ =>
    match readV6 text.toList with
    | some (groups, []) => some (.v6 groups)
    | _ => none

/-- The shape of an address. -/
def schema : Json.Schema Ip :=
  .atom (.parsed "IP address"
    (fun s => match parse? s with
      | some ip => .ok ip
      | none => .error "invalid IP address syntax") Ip.text)

end Ip

/-- **An internet address with a port.** The scope belongs to addresses of version 6. -/
structure SocketAddress where
  /-- The address. -/
  ip : Ip
  /-- The port. -/
  port : Nat
  /-- The scope of the address. -/
  scope : Nat := 0
  deriving DecidableEq, Repr, Inhabited

namespace SocketAddress

/-- **The text of an address with a port.** -/
def text (address : SocketAddress) : String :=
  let port := ":" ++ Decimal.text address.port
  match address.ip with
  | .v4 _ => address.ip.text ++ port
  | .v6 _ =>
    let scope := if address.scope = 0 then "" else "%" ++ Decimal.text address.scope
    "[" ++ address.ip.text ++ scope ++ "]" ++ port

/-- Reads a port behind its colon. -/
def readPort (text : List Char) : Option (Nat × List Char) := do
  let rest ← Ip.readChar ':' text
  Ip.readNumber 10 none true 65536 rest

/-- Reads an address of version 4 with its port. -/
def readV4 (text : List Char) : Option (SocketAddress × List Char) := do
  let (octets, rest) ← Ip.readV4 text
  let (port, rest) ← readPort rest
  some (⟨.v4 octets, port, 0⟩, rest)

/-- Reads a scope behind its percent sign, if there is one. -/
def readScope (text : List Char) : Nat × List Char :=
  match text with
  | '%' :: rest => (Ip.readNumber 10 none true 4294967296 rest).getD (0, text)
  | _ => (0, text)

/-- Reads an address of version 6 in brackets with its port. -/
def readV6 (text : List Char) : Option (SocketAddress × List Char) := do
  let rest ← Ip.readChar '[' text
  let (groups, rest) ← Ip.readV6 rest
  let (scope, rest) := readScope rest
  let rest ← Ip.readChar ']' rest
  let (port, rest) ← readPort rest
  some (⟨.v6 groups, port, scope⟩, rest)

/-- **The address with a port that a text denotes.** -/
def parse? (text : String) : Option SocketAddress :=
  match readV4 text.toList with
  | some (address, []) => some address
  | _ =>
    match readV6 text.toList with
    | some (address, []) => some address
    | _ => none

end SocketAddress

end TaskDaemon
