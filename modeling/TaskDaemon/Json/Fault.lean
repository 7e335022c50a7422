import TaskDaemon.Text.Utf8
import TaskDaemon.Text.Quoted
import TaskDaemon.Json.Basic

/-!
# What can be wrong with a JSON text

* `TaskDaemon.Json.Complaint`: the reasons for refusing a text, and their wording;
* `TaskDaemon.Json.Fault`: a complaint with the place it is about: a byte offset, and the way from
  the root of the document to the value;
* `TaskDaemon.Json.Position`: a byte offset as line and column.

A complaint is a *mismatch* when the text is JSON but not of the wanted shape, and a matter of
syntax otherwise (`TaskDaemon.Json.Complaint.isMismatch`).
-/

namespace TaskDaemon

namespace Json

/-- **Why a text is refused.** -/
inductive Complaint where
  /-- The text ends where a value should be. -/
  | endInValue
  /-- The text ends inside an array. -/
  | endInArray
  /-- The text ends inside an object. -/
  | endInObject
  /-- The text ends inside a string. -/
  | endInString
  /-- No colon behind a key. -/
  | expectedColon
  /-- Neither a comma nor the end of the array behind an item. -/
  | expectedCommaOrBracket
  /-- Neither a comma nor the end of the object behind a member. -/
  | expectedCommaOrBrace
  /-- A word that starts like `null`, `true` or `false` and is none. -/
  | expectedWord
  /-- Something that starts no value. -/
  | expectedValue
  /-- An escape that does not exist. -/
  | invalidEscape
  /-- A numeral that breaks off or has a zero in front. -/
  | invalidNumber
  /-- A numeral beyond the doubles. -/
  | numberOutOfRange
  /-- A string that is not text. -/
  | invalidCodePoint
  /-- A control character in a string. -/
  | controlCharacter
  /-- A key that is no string. -/
  | keyMustBeString
  /-- Half of a surrogate pair. -/
  | loneSurrogate
  /-- A comma before the end of an array or object. -/
  | trailingComma
  /-- Something behind the value. -/
  | trailingCharacters
  /-- A first half of a surrogate pair without an escape behind it. -/
  | endOfHexEscape
  /-- Containers nested too deep. -/
  | tooDeep
  /-- JSON of another shape than wanted. -/
  | mismatch (message : String)
  deriving DecidableEq, Repr

namespace Complaint

/-- **The wording of a complaint.** -/
def message : Complaint → String
  | endInValue => "EOF while parsing a value"
  | endInArray => "EOF while parsing a list"
  | endInObject => "EOF while parsing an object"
  | endInString => "EOF while parsing a string"
  | expectedColon => "expected `:`"
  | expectedCommaOrBracket => "expected `,` or `]`"
  | expectedCommaOrBrace => "expected `,` or `\x7d`"
  | expectedWord => "expected ident"
  | expectedValue => "expected value"
  | invalidEscape => "invalid escape"
  | invalidNumber => "invalid number"
  | numberOutOfRange => "number out of range"
  | invalidCodePoint => "invalid unicode code point"
  | controlCharacter => "control character (\\u0000-\\u001F) found while parsing a string"
  | keyMustBeString => "key must be a string"
  | loneSurrogate => "lone leading surrogate in hex escape"
  | trailingComma => "trailing comma"
  | trailingCharacters => "trailing characters"
  | endOfHexEscape => "unexpected end of hex escape"
  | tooDeep => "recursion limit exceeded"
  | mismatch message => message

/-- **Whether the text is JSON**, only of another shape than wanted. -/
def isMismatch : Complaint → Bool
  | mismatch _ => true
  | _ => false

end Complaint

/-- **How a message names a value** it refuses. -/
def described : Json → String
  | .null => "null"
  | .bool true => "boolean `true`"
  | .bool false => "boolean `false`"
  | .number (.int n) => "integer `" ++ Decimal.intText n ++ "`"
  | .number (.float bits) => "floating point `" ++ String.ofList (Number.floatChars bits) ++ "`"
  | .string s => "string " ++ Quoted.text s
  | .array _ => "sequence"
  | .object _ => "map"

/-- **The message for a value of the wrong kind.** -/
def wrongKind (value : Json) (expected : String) : String :=
  "invalid type: " ++ described value ++ ", expected " ++ expected

/-- **One step from a value to a value inside it.** -/
inductive Step where
  /-- To the member of an object under this key. -/
  | key (name : String)
  /-- To the item of an array at this index. -/
  | index (i : Nat)
  deriving DecidableEq, Repr

/-- **A complaint and its place.** -/
structure Fault where
  /-- What is wrong. -/
  complaint : Complaint
  /-- The number of bytes before the place. -/
  offset : Nat
  /-- The way from the root to the value that was being read. -/
  path : List Step
  deriving DecidableEq, Repr

/-- **A place in a text** as a reader counts it: lines from one, columns in bytes from zero. -/
structure Position where
  /-- The line. -/
  line : Nat
  /-- The bytes of the line before the place. -/
  column : Nat
  deriving DecidableEq, Repr

namespace Position

/-- The place `offset` bytes behind the place `(line, column)`, in the text `rest` that follows
it. -/
def advance (line column : Nat) : Nat → List Glyph → Position
  | _, [] => ⟨line, column⟩
  | offset, glyph :: rest =>
    if offset < glyph.size then ⟨line, column + offset⟩
    else if glyph = .char '\n' then advance (line + 1) 0 (offset - 1) rest
    else advance line (column + glyph.size) (offset - glyph.size) rest

/-- **The place of a byte offset** in a text; offsets beyond the text are its end. -/
def ofOffset (text : List Glyph) (offset : Nat) : Position :=
  advance 1 0 offset text

end Position

namespace Step

/-- A way through a document: keys behind points, indices in brackets. -/
def pathText : List Step → String
  | [] => ""
  | [.key name] => name
  | .key name :: .key next :: rest => name ++ "." ++ pathText (.key next :: rest)
  | .key name :: rest => name ++ pathText rest
  | [.index i] => "[" ++ toString i ++ "]"
  | .index i :: .key next :: rest => "[" ++ toString i ++ "]." ++ pathText (.key next :: rest)
  | .index i :: rest => "[" ++ toString i ++ "]" ++ pathText rest

end Step

namespace Fault

/-- **A fault found inside the value that `step` leads to.** -/
def under (step : Step) (fault : Fault) : Fault :=
  { fault with path := step :: fault.path }

/-- **The message of a fault**, with its place in the text. -/
def message (fault : Fault) (text : List Glyph) : String :=
  let place := Position.ofOffset text fault.offset
  fault.complaint.message ++ " at line " ++ toString place.line ++ " column "
    ++ toString place.column

/-- **The message of a fault behind the way to its value**, if that is not the root. -/
def messageWithPath (fault : Fault) (text : List Glyph) : String :=
  if fault.path.isEmpty then fault.message text
  else Step.pathText fault.path ++ ": " ++ fault.message text

end Fault

end Json

end TaskDaemon
