/-!
# UTF-8 and text that may not be text

Byte strings arrive from sockets, files and command lines before anyone knows whether they are
text. This file reads them.

* `TaskDaemon.Utf8.encode`: the bytes of a list of characters;
* `TaskDaemon.Utf8.next`: what a byte string starts with: a character, a run of bytes that begins
  no character, or a character that is cut off;
* `TaskDaemon.Glyph` and `TaskDaemon.Glyph.ofBytes`: a byte string as characters where it has
  them and stray bytes where it does not, which loses nothing;
* `TaskDaemon.Utf8.decode`: the characters, or where and how the text breaks;
* `TaskDaemon.Utf8.lossy`: a byte string as text for the eye.

The readers above this file work on glyphs, so that they see characters and still refuse a stray
byte exactly where it stands.
-/

namespace TaskDaemon

/-- **A byte string**, as it is read from a file or a connection. -/
abbrev Bytes := List UInt8

namespace Utf8

/-- **The bytes of a list of characters.** -/
def encode (text : List Char) : Bytes :=
  text.flatMap String.utf8EncodeChar

/-- **The bytes of a string.** -/
def ofString (text : String) : Bytes :=
  encode text.toList

/-- **What a byte string starts with.** -/
inductive Head where
  /-- The character `c`, written in `size` bytes. -/
  | char (c : Char) (size : Nat)
  /-- The first `size` bytes begin no character. -/
  | invalid (size : Nat)
  /-- The bytes end inside a character. -/
  | truncated
  deriving DecidableEq, Repr

/-- **The second bytes a lead byte admits**, as an inclusive range. The narrower ranges keep out
overlong forms, surrogates and numbers above the last code point. -/
def secondRange (lead : Nat) : Nat × Nat :=
  if lead = 0xE0 then (0xA0, 0xBF)
  else if lead = 0xED then (0x80, 0x9F)
  else if lead = 0xF0 then (0x90, 0xBF)
  else if lead = 0xF4 then (0x80, 0x8F)
  else (0x80, 0xBF)

/-- A continuation byte. -/
def isTail (byte : Nat) : Bool :=
  0x80 ≤ byte && byte ≤ 0xBF

/-- A byte that may stand second behind `lead`. -/
def isSecond (lead byte : Nat) : Bool :=
  (secondRange lead).1 ≤ byte && byte ≤ (secondRange lead).2

/-- **The head of a byte string** that starts with `lead` and goes on with `rest`. A sequence that
goes wrong is refused up to the byte that rules it out, which is not part of it. -/
def next (lead : UInt8) (rest : Bytes) : Head :=
  let a := lead.toNat
  if a < 0x80 then .char (Char.ofNat a) 1
  else if a < 0xC2 then .invalid 1
  else if a < 0xE0 then
    match rest with
    | [] => .truncated
    | b :: _ =>
      if isTail b.toNat then .char (Char.ofNat (a % 32 * 64 + b.toNat % 64)) 2 else .invalid 1
  else if a < 0xF0 then
    match rest with
    | [] => .truncated
    | [b] => if isSecond a b.toNat then .truncated else .invalid 1
    | b :: c :: _ =>
      if isSecond a b.toNat then
        if isTail c.toNat then
          .char (Char.ofNat (a % 16 * 4096 + b.toNat % 64 * 64 + c.toNat % 64)) 3
        else .invalid 2
      else .invalid 1
  else if a < 0xF5 then
    match rest with
    | [] => .truncated
    | [b] => if isSecond a b.toNat then .truncated else .invalid 1
    | [b, c] =>
      if isSecond a b.toNat then if isTail c.toNat then .truncated else .invalid 2
      else .invalid 1
    | b :: c :: d :: _ =>
      if isSecond a b.toNat then
        if isTail c.toNat then
          if isTail d.toNat then
            .char (Char.ofNat (a % 8 * 262144 + b.toNat % 64 * 4096 + c.toNat % 64 * 64
              + d.toNat % 64)) 4
          else .invalid 3
        else .invalid 2
      else .invalid 1
  else .invalid 1

end Utf8

/-- **One unit of text of unknown validity**: a character, or a byte that is part of none. -/
inductive Glyph where
  /-- A character. -/
  | char (c : Char)
  /-- A byte outside every character. -/
  | stray (byte : UInt8)
  deriving DecidableEq, Repr

namespace Glyph

/-- **The number of bytes** a glyph takes. -/
def size : Glyph → Nat
  | .char c => c.utf8Size
  | .stray _ => 1

/-- **The bytes of a glyph.** -/
def bytes : Glyph → Bytes
  | .char c => String.utf8EncodeChar c
  | .stray byte => [byte]

/-- The loop of `ofBytes`: `skip` bytes belong to the character read last, and `done` holds the
glyphs so far, last one first. -/
def ofBytesFrom (done : List Glyph) : Nat → Bytes → List Glyph
  | _, [] => done.reverse
  | skip + 1, _ :: rest => ofBytesFrom done skip rest
  | 0, byte :: rest =>
    match Utf8.next byte rest with
    | .char c size => ofBytesFrom (.char c :: done) (size - 1) rest
    | _ => ofBytesFrom (.stray byte :: done) 0 rest

/-- **A byte string as glyphs.** -/
def ofBytes (bytes : Bytes) : List Glyph :=
  ofBytesFrom [] 0 bytes

/-- **A string as glyphs**, all of them characters. -/
def ofString (text : String) : List Glyph :=
  text.toList.map .char

end Glyph

namespace Utf8

/-- **Where a byte string stops being text**: the bytes before that point, and the length of the
refused run, which is unknown when the text is merely cut off. -/
structure Fault where
  /-- The number of bytes that are text. -/
  validUpTo : Nat
  /-- The number of bytes refused there, `none` when the input ends inside a character. -/
  refused : Option Nat
  deriving DecidableEq, Repr

namespace Fault

/-- **The text of a fault.** -/
def message (fault : Fault) : String :=
  match fault.refused with
  | some size =>
    "invalid utf-8 sequence of " ++ toString size ++ " bytes from index "
      ++ toString fault.validUpTo
  | none => "incomplete utf-8 byte sequence from index " ++ toString fault.validUpTo

end Fault

/-- The loop of `decode`: `done` holds the characters so far, last one first, and `offset` counts
their bytes. -/
def decodeFrom (done : List Char) (offset : Nat) : Nat → Bytes → Except Fault (List Char)
  | _, [] => .ok done.reverse
  | skip + 1, _ :: rest => decodeFrom done offset skip rest
  | 0, byte :: rest =>
    match next byte rest with
    | .char c size => decodeFrom (c :: done) (offset + size) (size - 1) rest
    | .invalid size => .error ⟨offset, some size⟩
    | .truncated => .error ⟨offset, none⟩

/-- **The characters of a byte string**, or where it stops being text. -/
def decode (bytes : Bytes) : Except Fault (List Char) :=
  decodeFrom [] 0 0 bytes

/-- The loop of `lossy`: `done` holds the characters so far, last one first. -/
def lossyFrom (done : List Char) : Nat → Bytes → List Char
  | _, [] => done.reverse
  | skip + 1, _ :: rest => lossyFrom done skip rest
  | 0, byte :: rest =>
    match next byte rest with
    | .char c size => lossyFrom (c :: done) (size - 1) rest
    | .invalid size => lossyFrom ('\uFFFD' :: done) (size - 1) rest
    | .truncated => ('\uFFFD' :: done).reverse

/-- **A byte string as text for the eye**: every run of bytes that is refused shows as one
replacement character. -/
def lossy (bytes : Bytes) : String :=
  String.ofList (lossyFrom [] 0 bytes)

/-- **The string a byte string is**, if it is text. -/
def toString? (bytes : Bytes) : Option String :=
  match decode bytes with
  | .ok chars => some (String.ofList chars)
  | .error _ => none

end Utf8

end TaskDaemon
