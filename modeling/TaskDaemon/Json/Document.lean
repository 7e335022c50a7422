import TaskDaemon.Json.Cursor

/-!
# Reading whole JSON values

* `TaskDaemon.Json.Cursor.readItems`, `TaskDaemon.Json.Cursor.readMembers`: the loops over an array
  and over an object, for any way of reading one item or one member;
* `TaskDaemon.Json.Cursor.readValue`: any value, with a bound on how deep containers may nest;
* `TaskDaemon.Json.Cursor.skipValue`: a value nobody asked for, however deep it nests;
* `TaskDaemon.Json.parse`: a text that is one JSON value.

A loop has the number of glyphs left as its bound, since every round reads one at least.
-/

namespace TaskDaemon

namespace Json

/-- **The number of containers that may stand open at once.** -/
def depthLimit : Nat := 127

namespace Cursor

/-- A bound for the rounds of a loop from here. -/
def rounds (c : Cursor) : Nat :=
  c.rest.length + 1

/-- **Reads the items of an array** with the reader `one`, up to its bracket. `done` holds the items
so far, last one first. -/
def readItems {α : Type} (one : Cursor → Read α) :
    Nat → List α → Cursor → Except Fault (List α × Cursor)
  | 0, _, c => .error (c.here .endInArray)
  | fuel + 1, done, c => do
    let step (fault : Fault) : Fault := Fault.under (.index done.length) fault
    let (more, c) ← (hasNextItem done.isEmpty c).mapError step
    if more then
      let (item, c) ← (one c).mapError step
      readItems one fuel (item :: done) c
    else
      .ok (done.reverse, c)

/-- **Reads the members of an object** up to its brace. The reader `member` takes in one of them: it
gets the key, what was taken in before, and the cursor in front of the colon. -/
def readMembers {σ : Type} (member : String → σ → Cursor → Read σ) :
    Nat → Bool → σ → Cursor → Except Fault (σ × Cursor)
  | 0, _, _, c => .error (c.here .endInObject)
  | fuel + 1, first, taken, c => do
    let (more, c) ← hasNextMember first c
    if more then
      let (key, c) ← readString c.advance
      let (taken, c) ← member key taken c
      readMembers member fuel false taken c
    else
      .ok (taken, c)

/-- **Takes in a member as it is**: key and value are put in front of the members before. -/
def keepMember (one : Cursor → Read Json) (key : String) (taken : List (String × Json))
    (c : Cursor) : Except Fault (List (String × Json) × Cursor) := do
  let c ← readColon c
  let (value, c) ← one c
  .ok ((key, value) :: taken, c)

/-- **Reads a value** whose parts are read by `inner`; without it no container may be opened. -/
def readValueWith (inner : Option (Cursor → Read Json)) (c : Cursor) :
    Except Fault (Json × Cursor) :=
  let c := c.skipBlank
  if c.peek? = some '[' then
    match inner with
    | none => .error (c.ahead .tooDeep)
    | some one => do
      let c := c.advance
      let (items, c) ← readItems one c.rounds [] c
      .ok (.array items, c.advance)
  else if c.peek? = some '\x7b' then
    match inner with
    | none => .error (c.ahead .tooDeep)
    | some one => do
      let c := c.advance
      let (members, c) ← readMembers (keepMember one) c.rounds true [] c
      .ok (.object members.reverse, c.advance)
  else readScalar c

/-- **Reads a value** in which at most `depth` containers stand open at once. -/
def readValue : Nat → Cursor → Except Fault (Json × Cursor)
  | 0, c => readValueWith none c
  | depth + 1, c => readValueWith (some (readValue depth)) c

/-! ### Values nobody asked for -/

/-- The two kinds of container. -/
inductive Container where
  /-- An array. -/
  | array
  /-- An object. -/
  | object
  deriving DecidableEq, Repr

namespace Container

/-- The container that a character opens. -/
def opened? : Option Char → Option Container
  | some '[' => some .array
  | some '\x7b' => some .object
  | _ => none

/-- The character that closes a container. -/
def closing : Container → Char
  | .array => ']'
  | .object => '\x7d'

/-- The complaint about a text that ends inside a container. -/
def atEnd : Container → Complaint
  | .array => .endInArray
  | .object => .endInObject

/-- The complaint about a container that neither goes on nor ends. -/
def atOther : Container → Complaint
  | .array => .expectedCommaOrBracket
  | .object => .expectedCommaOrBrace

end Container

/-- Skips a value that is neither array nor object. -/
def skipScalar (c : Cursor) : Except Fault Cursor :=
  match c.rest with
  | [] => .error (c.here .endInValue)
  | .char 'n' :: _ => readWord ['u', 'l', 'l'] c.advance
  | .char 't' :: _ => readWord ['r', 'u', 'e'] c.advance
  | .char 'f' :: _ => readWord ['a', 'l', 's', 'e'] c.advance
  | .char '"' :: _ => skipString c.advance
  | .char '-' :: _ => skipNumber c.advance
  | glyph :: _ =>
    if (glyphDigit? glyph).isSome then skipNumber c else .error (c.ahead .expectedValue)

/-- Skips a key and its colon. -/
def skipKey (c : Cursor) : Except Fault Cursor := do
  let c := c.skipBlank
  if c.peek? = some '"' then
    let c ← skipString c.advance
    readColon c
  else .error (c.ahead (if c.rest.isEmpty then .endInObject else .keyMustBeString))

/-- Goes to the next value of a container, which is behind a key in an object. -/
def skipToValue (container : Container) (c : Cursor) : Except Fault Cursor :=
  match container with
  | .array => .ok c
  | .object => skipKey c

/-- **What follows a skipped value** inside the containers of the stack: as many of them end as can,
and the innermost of the others goes on. An empty stack is returned when all have ended. -/
def skipEnds : List Container → Cursor → Except Fault (List Container × Cursor)
  | [], c => .ok ([], c)
  | container :: outer, c =>
    let c := c.skipBlank
    if c.rest.isEmpty then .error (c.ahead container.atEnd)
    else if c.peek? = some ',' then
      (skipToValue container c.advance).map fun c => (container :: outer, c)
    else if c.peek? = some container.closing then skipEnds outer c.advance
    else .error (c.ahead container.atOther)

/-- The loop of `skipValue`, one round for each value that starts; the stack holds the open
containers, the innermost first. -/
def skipValueFrom : Nat → List Container → Cursor → Except Fault Cursor
  | 0, _, c => .error (c.here .endInValue)
  | fuel + 1, stack, c => do
    let c := c.skipBlank
    match Container.opened? c.peek? with
    | some container =>
      let c := c.advance.skipBlank
      if c.rest.isEmpty then .error (c.ahead container.atEnd)
      else if c.peek? = some container.closing then
        let (stack, c) ← skipEnds stack c.advance
        if stack.isEmpty then .ok c else skipValueFrom fuel stack c
      else
        let c ← skipToValue container c
        skipValueFrom fuel (container :: stack) c
    | none =>
      let c ← skipScalar c
      let (stack, c) ← skipEnds stack c
      if stack.isEmpty then .ok c else skipValueFrom fuel stack c

/-- **Skips a value**, of any depth. -/
def skipValue (c : Cursor) : Except Fault Cursor :=
  skipValueFrom c.rounds [] c

end Cursor

/-- **The value of a JSON text**, with nothing but blanks around it. Objects keep their members as
they stand. -/
def parse (text : List Glyph) : Except Fault Json := do
  let (value, c) ← (Cursor.start text).readValue depthLimit
  c.endText
  .ok value

end Json

end TaskDaemon
