import TaskDaemon.Text.Decimal

/-!
# Media types

* `TaskDaemon.MediaType`: type, subtype and suffix of a content type;
* `TaskDaemon.MediaType.parse?`: the media type a text denotes, its parameters only looked over;
* `TaskDaemon.MediaType.isJson`: whether a body of this type is JSON.
-/

namespace TaskDaemon

/-- **A media type**, in lower case and without its parameters. -/
structure MediaType where
  /-- What stands before the slash. -/
  type : List Char
  /-- What stands between the slash and the last plus sign, or the end. -/
  subtype : List Char
  /-- What stands behind the last plus sign, if there is one. -/
  suffix : Option (List Char)
  deriving DecidableEq, Repr

namespace MediaType

/-- A character that may stand in a word of a header. -/
def isToken (c : Char) : Bool :=
  c.isAlphanum || "!#$%&'*+-.^_`|~".toList.contains c

/-- A character that may stand in quotes. -/
def isQuotable (c : Char) : Bool :=
  0x20 ≤ c.toNat && c.toNat < 0x7F

/-- The rest of a text behind a quoted value and its closing quote, or `none` if there is no such
value. The text starts behind the opening quote. A quoted value is not empty, so that a quote right
there is its first character. -/
def skipQuoted : List Char → Option (List Char)
  | [] => none
  | first :: more =>
    if isQuotable first then
      match more.dropWhile fun c => isQuotable c && c ≠ '"' with
      | '"' :: rest => some rest
      | _ => none
    else none

/-- The parameter's value at the front of a text: the rest behind it and behind its semicolon, or
`none` if it is no value. The text starts behind the equals sign. -/
def skipValue (text : List Char) : Option (List Char) :=
  match text with
  | '"' :: quoted =>
    match (skipQuoted quoted).map fun rest => rest.dropWhile (· = ' ') with
    | some [] => some []
    | some (';' :: rest) => some rest
    | _ => none
  | _ =>
    match text.dropWhile isToken with
    | [] => some []
    | ';' :: rest => if (text.takeWhile isToken).isEmpty then none else some rest
    | _ => none

/-- **Whether a text is a list of parameters**: names with values, separated by semicolons and
blanks. The first argument bounds the number of parameters. -/
def areParams : Nat → List Char → Bool
  | 0, _ => false
  | fuel + 1, text =>
    let text := text.dropWhile (· = ' ')
    if text.isEmpty then true
    else
      let isName := fun c => isToken c && c ≠ '='
      match text.dropWhile isName with
      | '=' :: rest =>
        if (text.takeWhile isName).isEmpty then false
        else
          match skipValue rest with
          | some rest => areParams fuel rest
          | none => false
      | _ => false

/-- The subtype and the suffix of what stands behind the slash. -/
def splitSuffix (text : List Char) : List Char × Option (List Char) :=
  let reversed := text.reverse
  let after := reversed.takeWhile (· ≠ '+')
  let before := reversed.drop (after.length + 1)
  -- a plus sign at the very front starts no suffix
  if before.isEmpty then (text, none) else (before.reverse, some after.reverse)

/-- **The media type a text denotes.** -/
def parse? (text : List Char) : Option MediaType :=
  let lowered := text.map Char.toLower
  let type := lowered.takeWhile isToken
  match lowered.dropWhile isToken with
  | '/' :: behind =>
    let word := behind.takeWhile isToken
    let params := behind.drop word.length
    let (subtype, suffix) := splitSuffix word
    if type.isEmpty then none
    else
      match params with
      | [] => some ⟨type, subtype, suffix⟩
      | ';' :: rest =>
        if word.isEmpty then none
        else if areParams (rest.length + 1) rest then some ⟨type, subtype, suffix⟩
        else none
      | _ => none
  | _ => none

/-- **Whether a body of this type is JSON**: an application type whose subtype or suffix says so. -/
def isJson (media : MediaType) : Bool :=
  media.type = "application".toList &&
    (media.subtype = "json".toList || media.suffix = some "json".toList)

/-- Whether a content type, which is absent or a text, announces JSON. -/
def announcesJson (contentType : Option String) : Bool :=
  match contentType.bind fun text => parse? text.toList with
  | some media => media.isJson
  | none => false

end MediaType

end TaskDaemon
