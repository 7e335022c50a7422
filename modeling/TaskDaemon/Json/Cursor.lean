import TaskDaemon.Json.Fault

/-!
# Reading the words of JSON

A text is read from left to right with a cursor: the glyphs that are left, and the number of bytes
already read. This file reads what lies between the brackets: blanks, words, strings and numerals,
and the punctuation of arrays and objects.

* `TaskDaemon.Json.Cursor`: the state of a reader;
* `TaskDaemon.Json.Cursor.readString`, `TaskDaemon.Json.Cursor.readNumber`,
  `TaskDaemon.Json.Cursor.readScalar`: values without parts;
* `TaskDaemon.Json.Cursor.hasNextItem`, `TaskDaemon.Json.Cursor.hasNextMember`: whether an array or
  object goes on;
* `TaskDaemon.Json.Cursor.endItems`, `TaskDaemon.Json.Cursor.pastMembers`: its end.

A fault stands either at the cursor (`TaskDaemon.Json.Cursor.here`) or behind the first byte of the
glyph in front of it (`TaskDaemon.Json.Cursor.ahead`), which is where a reader points at that glyph.
-/

namespace TaskDaemon

namespace Json

/-- **The state of a reader.** -/
structure Cursor where
  /-- The glyphs not yet read. -/
  rest : List Glyph
  /-- The number of bytes read. -/
  offset : Nat
  deriving DecidableEq, Repr

/-- **The outcome of reading something**: a value and the cursor behind it, or a fault. -/
abbrev Read (α : Type) := Except Fault (α × Cursor)

namespace Cursor

/-- **The start of a text.** -/
def start (text : List Glyph) : Cursor :=
  ⟨text, 0⟩

/-- A fault at the cursor. -/
def here (c : Cursor) (complaint : Complaint) : Fault :=
  ⟨complaint, c.offset, []⟩

/-- **A fault about the glyph in front of the cursor**, at the end of the text if there is none. -/
def ahead (c : Cursor) (complaint : Complaint) : Fault :=
  ⟨complaint, if c.rest.isEmpty then c.offset else c.offset + 1, []⟩

/-- The cursor behind a one-byte glyph. -/
def advance (c : Cursor) : Cursor :=
  ⟨c.rest.tail, c.offset + 1⟩

/-- The character in front of the cursor, if there is one. -/
def peek? (c : Cursor) : Option Char :=
  match c.rest with
  | .char ch :: _ => some ch
  | _ => none

/-- A blank between the words of JSON. -/
def isSeparator : Glyph → Bool
  | .char c => c = ' ' || c = '\n' || c = '\t' || c = '\r'
  | .stray _ => false

/-- The loop of `skipBlank`. -/
def skipBlankFrom : List Glyph → Nat → Cursor
  | [], offset => ⟨[], offset⟩
  | glyph :: rest, offset =>
    if isSeparator glyph then skipBlankFrom rest (offset + 1) else ⟨glyph :: rest, offset⟩

/-- **The cursor behind the blanks in front of it.** -/
def skipBlank (c : Cursor) : Cursor :=
  skipBlankFrom c.rest c.offset

/-! ### Words -/

/-- **Reads the rest of a word** whose first letter told which it is. -/
def readWord : List Char → Cursor → Except Fault Cursor
  | [], c => .ok c
  | letter :: letters, c =>
    match c.rest with
    | [] => .error (c.here .endInValue)
    | glyph :: _ =>
      if glyph = .char letter then readWord letters c.advance
      else .error (c.ahead .expectedWord)

/-! ### Strings -/

/-- The value of a hexadecimal digit of either case. -/
def hexDigit? : Glyph → Option Nat
  | .stray _ => none
  | .char c =>
    if '0' ≤ c ∧ c ≤ '9' then some (c.toNat - '0'.toNat)
    else if 'a' ≤ c ∧ c ≤ 'f' then some (c.toNat - 'a'.toNat + 10)
    else if 'A' ≤ c ∧ c ≤ 'F' then some (c.toNat - 'A'.toNat + 10)
    else none

/-- The bytes of a run of glyphs. -/
def bytesOf (glyphs : List Glyph) : Nat :=
  glyphs.foldl (fun count glyph => count + glyph.size) 0

/-- **Four hexadecimal digits** in front of the cursor. -/
def hexQuad (c : Cursor) : Except Fault Nat :=
  let ahead := bytesOf (c.rest.take 4)
  if ahead < 4 then .error ⟨.endInString, c.offset + ahead, []⟩
  else
    match (c.rest.take 4).mapM hexDigit? with
    | some [h₁, h₂, h₃, h₄] => .ok (((h₁ * 16 + h₂) * 16 + h₃) * 16 + h₄)
    | _ => .error ⟨.invalidEscape, c.offset + 4, []⟩

/-- The character an escape letter stands for. -/
def escapedBy : Char → Option Char
  | '"' => some '"'
  | '\\' => some '\\'
  | '/' => some '/'
  | 'b' => some '\x08'
  | 'f' => some '\x0c'
  | 'n' => some '\n'
  | 'r' => some '\r'
  | 't' => some '\t'
  | _ => none

/-- The first half of a surrogate pair. -/
def isHighSurrogate (n : Nat) : Bool :=
  0xD800 ≤ n && n ≤ 0xDBFF

/-- The second half of a surrogate pair. -/
def isLowSurrogate (n : Nat) : Bool :=
  0xDC00 ≤ n && n ≤ 0xDFFF

/-- **Expects the glyph `ch`** where a second escape has to follow the first half of a surrogate
pair. -/
def pairGlyph (ch : Char) (c : Cursor) : Except Fault Cursor :=
  match c.rest with
  | [] => .error (c.here .endInString)
  | glyph :: _ =>
    if glyph = .char ch then .ok c.advance else .error (c.ahead .endOfHexEscape)

/-- **The character of an escape**, the cursor standing behind its backslash, and the number of
glyphs it takes from there. -/
def readEscape (c : Cursor) : Except Fault (Char × Nat) :=
  match c.rest with
  | [] => .error (c.here .endInString)
  | .char 'u' :: _ => do
    let c := c.advance
    let n ← hexQuad c
    let c : Cursor := ⟨c.rest.drop 4, c.offset + 4⟩
    if isLowSurrogate n then .error (c.here .loneSurrogate)
    else if isHighSurrogate n then
      let c ← pairGlyph '\\' c
      let c ← pairGlyph 'u' c
      let low ← hexQuad c
      let c : Cursor := ⟨c.rest.drop 4, c.offset + 4⟩
      if isLowSurrogate low then
        .ok (Char.ofNat ((n - 0xD800) * 0x400 + (low - 0xDC00) + 0x10000), 11)
      else .error (c.here .loneSurrogate)
    else .ok (Char.ofNat n, 5)
  | .char letter :: _ =>
    match escapedBy letter with
    | some ch => .ok (ch, 1)
    | none => .error (c.ahead .invalidEscape)
  | .stray _ :: _ => .error (c.ahead .invalidEscape)

/-- The loop of `readString`: `done` holds the characters so far, last one first, `unfit` the number
of bytes of the string from the first one on that is no text, and `skip` glyphs belong to the escape
read last. A string that is not text is refused at its end, and the place told is as far before the
end as the string's bytes reach from the one that is no text; an escape counts for what it stands
for. -/
def readStringFrom (done : List Char) (unfit : Option Nat) :
    Nat → List Glyph → Nat → Read (List Char)
  | _, [], offset => .error ⟨.endInString, offset, []⟩
  | skip + 1, _ :: rest, offset => readStringFrom done unfit skip rest (offset + 1)
  | 0, .stray _ :: rest, offset =>
    readStringFrom done (some (unfit.getD 0 + 1)) 0 rest (offset + 1)
  | 0, .char ch :: rest, offset =>
    if ch = '"' then
      match unfit with
      | some count => .error ⟨.invalidCodePoint, offset + 1 - count, []⟩
      | none => .ok (done.reverse, ⟨rest, offset + 1⟩)
    else if ch = '\\' then
      match readEscape ⟨rest, offset + 1⟩ with
      | .ok (escaped, count) =>
        readStringFrom (escaped :: done) (unfit.map (· + escaped.utf8Size)) count rest (offset + 1)
      | .error fault => .error fault
    else if ch.toNat < 0x20 then .error ⟨.controlCharacter, offset + 1, []⟩
    else
      readStringFrom (ch :: done) (unfit.map (· + ch.utf8Size)) 0 rest (offset + ch.utf8Size)

/-- **Reads a string**, the cursor standing behind its opening quote. -/
def readString (c : Cursor) : Read String :=
  (readStringFrom [] none 0 c.rest c.offset).map fun r => (String.ofList r.1, r.2)

/-- The number of glyphs of an escape that is only skipped: surrogates need no partner. -/
def skipEscape (c : Cursor) : Except Fault Nat :=
  match c.rest with
  | [] => .error (c.here .endInString)
  | .char 'u' :: _ => (hexQuad c.advance).map fun _ => 5
  | .char letter :: _ =>
    match escapedBy letter with
    | some _ => .ok 1
    | none => .error (c.ahead .invalidEscape)
  | .stray _ :: _ => .error (c.ahead .invalidEscape)

/-- The loop of `skipString`. -/
def skipStringFrom : Nat → List Glyph → Nat → Except Fault Cursor
  | _, [], offset => .error ⟨.endInString, offset, []⟩
  | skip + 1, _ :: rest, offset => skipStringFrom skip rest (offset + 1)
  | 0, .stray _ :: rest, offset => skipStringFrom 0 rest (offset + 1)
  | 0, .char ch :: rest, offset =>
    if ch = '"' then .ok ⟨rest, offset + 1⟩
    else if ch = '\\' then
      match skipEscape ⟨rest, offset + 1⟩ with
      | .ok count => skipStringFrom count rest (offset + 1)
      | .error fault => .error fault
    else if ch.toNat < 0x20 then .error ⟨.controlCharacter, offset, []⟩
    else skipStringFrom 0 rest (offset + ch.utf8Size)

/-- **Skips a string** nobody asked for, behind its opening quote. It need not be text. -/
def skipString (c : Cursor) : Except Fault Cursor :=
  skipStringFrom 0 c.rest c.offset

/-! ### Numerals -/

/-- The digit a glyph is, if it is one. -/
def glyphDigit? : Glyph → Option Nat
  | .char c => Decimal.digit? c
  | .stray _ => none

/-- **The digits in front of the cursor**, and the cursor behind them. -/
def takeDigits (c : Cursor) : List Nat × Cursor :=
  let ds := (c.rest.takeWhile fun g => (glyphDigit? g).isSome).filterMap glyphDigit?
  (ds, ⟨c.rest.drop ds.length, c.offset + ds.length⟩)

/-- The digits before the point: one zero, or a run without a zero in front. -/
def readWhole (c : Cursor) : Read (List Nat) :=
  match c.rest with
  | [] => .error (c.here .endInValue)
  | glyph :: _ =>
    match glyphDigit? glyph with
    | none => .error (c.ahead .invalidNumber)
    | some 0 =>
      let c := c.advance
      if (takeDigits c).1.isEmpty then .ok ([0], c) else .error (c.ahead .invalidNumber)
    | some _ => .ok (takeDigits c)

/-- The digits behind the point, if there is one. -/
def readFraction (c : Cursor) : Read (Option (List Nat)) :=
  if c.peek? = some '.' then
    let (ds, c) := takeDigits c.advance
    if ds.isEmpty then
      .error (c.ahead (if c.rest.isEmpty then .endInValue else .invalidNumber))
    else .ok (some ds, c)
  else .ok (none, c)

/-- The exponent, if there is one. -/
def readExponent (c : Cursor) : Read (Option (Bool × List Nat)) :=
  if c.peek? = some 'e' ∨ c.peek? = some 'E' then
    let c := c.advance
    let (down, c) :=
      if c.peek? = some '+' then (false, c.advance)
      else if c.peek? = some '-' then (true, c.advance)
      else (false, c)
    let (ds, behind) := takeDigits c
    if ds.isEmpty then
      .error (c.ahead (if c.rest.isEmpty then .endInValue else .invalidNumber))
    else .ok (some (down, ds), behind)
  else .ok (none, c)

/-- **Reads a number**, the cursor standing behind its minus sign if it has one. -/
def readNumber (negative : Bool) (c : Cursor) : Except Fault (Number × Cursor) := do
  let (whole, c) ← readWhole c
  let (fraction, c) ← readFraction c
  let (exponent, behind) ← readExponent c
  let numeral : Numeral := ⟨negative, whole, fraction, exponent⟩
  match numeral.toNumber with
  | some n => .ok (n, behind)
  | none =>
    if numeral.exponentOverflows then
      -- refused at the digit that lifts the exponent out of range
      let ds := (exponent.map Prod.snd).getD []
      .error ⟨.numberOutOfRange, behind.offset - (ds.length - Numeral.digitsToOverflow ds), []⟩
    else .error (behind.here .numberOutOfRange)

/-- Skips the digits before the point. -/
def skipWhole (c : Cursor) : Except Fault Cursor :=
  match c.peek?.bind Decimal.digit? with
  | none => .error (c.ahead .invalidNumber)
  | some 0 =>
    let c := c.advance
    if (takeDigits c).1.isEmpty then .ok c else .error (c.ahead .invalidNumber)
  | some _ => .ok (takeDigits c).2

/-- Skips the digits behind the point, if there is one. -/
def skipFraction (c : Cursor) : Except Fault Cursor :=
  if c.peek? = some '.' then
    let (ds, behind) := takeDigits c.advance
    if ds.isEmpty then .error (behind.ahead .invalidNumber) else .ok behind
  else .ok c

/-- Skips the exponent, if there is one. -/
def skipExponent (c : Cursor) : Except Fault Cursor :=
  if c.peek? = some 'e' ∨ c.peek? = some 'E' then
    let c := c.advance
    let c := if c.peek? = some '+' ∨ c.peek? = some '-' then c.advance else c
    let (ds, behind) := takeDigits c
    if ds.isEmpty then .error (c.ahead .invalidNumber) else .ok behind
  else .ok c

/-- **Skips a number** nobody asked for; only its shape is looked at. -/
def skipNumber (c : Cursor) : Except Fault Cursor := do
  let c ← skipWhole c
  let c ← skipFraction c
  skipExponent c

/-! ### Values without parts -/

/-- **Reads a value that is neither array nor object.** -/
def readScalar (c : Cursor) : Read Json :=
  match c.rest with
  | [] => .error (c.here .endInValue)
  | .char 'n' :: _ => (readWord ['u', 'l', 'l'] c.advance).map fun c => (.null, c)
  | .char 't' :: _ => (readWord ['r', 'u', 'e'] c.advance).map fun c => (.bool true, c)
  | .char 'f' :: _ => (readWord ['a', 'l', 's', 'e'] c.advance).map fun c => (.bool false, c)
  | .char '"' :: _ => (readString c.advance).map fun r => (.string r.1, r.2)
  | .char '-' :: _ => (readNumber true c.advance).map fun r => (.number r.1, r.2)
  | glyph :: _ =>
    if (glyphDigit? glyph).isSome then (readNumber false c).map fun r => (.number r.1, r.2)
    else .error (c.ahead .expectedValue)

/-! ### Punctuation -/

/-- **Whether an array goes on**, and the cursor at its next item or at its bracket. -/
def hasNextItem (first : Bool) (c : Cursor) : Read Bool :=
  let c := c.skipBlank
  if c.rest.isEmpty then .error (c.ahead .endInArray)
  else if c.peek? = some ']' then .ok (false, c)
  else if first then .ok (true, c)
  else if c.peek? = some ',' then
    let c := c.advance.skipBlank
    if c.rest.isEmpty then .error (c.ahead .endInValue)
    else if c.peek? = some ']' then .error (c.ahead .trailingComma)
    else .ok (true, c)
  else .error (c.ahead .expectedCommaOrBracket)

/-- **Whether an object goes on**, and the cursor at the quote of its next key or at its brace. -/
def hasNextMember (first : Bool) (c : Cursor) : Read Bool :=
  let c := c.skipBlank
  if c.rest.isEmpty then .error (c.ahead .endInObject)
  else if c.peek? = some '\x7d' then .ok (false, c)
  else if first then
    if c.peek? = some '"' then .ok (true, c) else .error (c.ahead .keyMustBeString)
  else if c.peek? = some ',' then
    let c := c.advance.skipBlank
    if c.rest.isEmpty then .error (c.ahead .endInValue)
    else if c.peek? = some '"' then .ok (true, c)
    else if c.peek? = some '\x7d' then .error (c.ahead .trailingComma)
    else .error (c.ahead .keyMustBeString)
  else .error (c.ahead .expectedCommaOrBrace)

/-- **Reads the colon** behind a key. -/
def readColon (c : Cursor) : Except Fault Cursor :=
  let c := c.skipBlank
  if c.peek? = some ':' then .ok c.advance
  else .error (c.ahead (if c.rest.isEmpty then .endInObject else .expectedColon))

/-- **Reads the end of an array** whose reader wants no more items. -/
def endItems (c : Cursor) : Except Fault Cursor :=
  let c := c.skipBlank
  if c.rest.isEmpty then .error (c.ahead .endInArray)
  else if c.peek? = some ']' then .ok c.advance
  else if c.peek? = some ',' then
    let c := c.advance.skipBlank
    .error (c.ahead (if c.peek? = some ']' then .trailingComma else .trailingCharacters))
  else .error (c.ahead .trailingCharacters)

/-- **The cursor behind the end of an object**, or at what stands there instead. -/
def pastMembers (c : Cursor) : Cursor :=
  let c := c.skipBlank
  if c.peek? = some '\x7d' then c.advance else c

/-- **Nothing may follow** but blanks. -/
def endText (c : Cursor) : Except Fault Unit :=
  let c := c.skipBlank
  if c.rest.isEmpty then .ok () else .error (c.ahead .trailingCharacters)

end Cursor

end Json

end TaskDaemon
