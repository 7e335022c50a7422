import TaskDaemon.Json.Document

/-!
# Shapes of JSON values

A schema says which JSON values stand for the values of a type, and which value of the type each of
them stands for. One schema serves four purposes: it writes values
(`TaskDaemon.Json.Schema.toJson`), takes them from a JSON value that was read before
(`TaskDaemon.Json.Schema.ofJson`), and reads them straight from a text, as a whole
(`TaskDaemon.Json.Schema.parse`) or in front of anything else
(`TaskDaemon.Json.Schema.parseFront`). Reading straight from a text stops at the first value that
does not fit, so that faults point at it.

* `TaskDaemon.Json.Atom`: values without parts, such as strings and numbers;
* `TaskDaemon.Json.Schema`: atoms, values that may be null, lists and records;
* `TaskDaemon.Json.Fields`: the fields of a record, and what it means that one is absent.

A record is written as an object and read from an object or from an array of its fields in order.
Keys it does not know are skipped, and a key it knows may stand only once.
-/

namespace TaskDaemon

namespace Json

/-- **Why an atom refuses a value.** -/
inductive Refusal where
  /-- It is of another kind. -/
  | kind
  /-- It is of the right kind, and this is wrong with it. -/
  | because (message : String)
  deriving DecidableEq, Repr

/-- **A value without parts**, which is no container. -/
def isScalar : Json → Bool
  | .array _ => false
  | .object _ => false
  | _ => true

/-- **A value without parts**: what it is called, how it is read and how it is written. -/
structure Atom (α : Type) where
  /-- The name of what is wanted, for messages. -/
  expected : String
  /-- The value that a scalar stands for. -/
  accept : Json → Except Refusal α
  /-- The scalar that stands for a value. -/
  toJson : α → Json
  /-- No container is accepted. -/
  isScalar_of_accept : ∀ {value : Json} {a : α}, accept value = .ok a → value.isScalar = true := by
    intro value a h
    cases value <;> first | rfl | cases h

namespace Atom

/-- Any string. -/
def string : Atom String where
  expected := "a string"
  accept
    | .string s => .ok s
    | _ => .error .kind
  toJson := .string

/-- A string that names a file. -/
def path : Atom String where
  expected := "path string"
  accept
    | .string s => .ok s
    | _ => .error .kind
  toJson := .string

/-- A truth value. -/
def bool : Atom Bool where
  expected := "a boolean"
  accept
    | .bool b => .ok b
    | _ => .error .kind
  toJson := .bool

/-- The message for an integer that is out of range. -/
def outOfRange (n : Int) (expected : String) : String :=
  "invalid value: integer `" ++ Decimal.intText n ++ "`, expected " ++ expected

/-- **An integer within bounds**, both included. -/
def int (expected : String) (least greatest : Int) : Atom Int where
  expected := expected
  accept
    | .number (.int n) =>
      if least ≤ n ∧ n ≤ greatest then .ok n else .error (.because (outOfRange n expected))
    | _ => .error .kind
  toJson := Json.int

/-- **A natural number below a bound.** -/
def nat (expected : String) (bound : Nat) : Atom Nat where
  expected := expected
  accept
    | .number (.int n) =>
      if 0 ≤ n ∧ n < bound then .ok n.toNat else .error (.because (outOfRange n expected))
    | _ => .error .kind
  toJson n := Json.int n

/-- **A string with a grammar of its own.** -/
def parsed {α : Type} (expected : String) (read : String → Except String α)
    (write : α → String) : Atom α where
  expected := expected
  accept
    | .string s => (read s).mapError .because
    | _ => .error .kind
  toJson a := .string (write a)

/-- **What is wrong with a value** that the atom refuses. -/
def complaint {α : Type} (atom : Atom α) (value : Json) : Refusal → String
  | .kind => wrongKind value atom.expected
  | .because message => message

end Atom

/-- **What it means that a field is absent**, from an object or from the end of an array. -/
inductive Absence (α : Type) where
  /-- It must be there. -/
  | refused
  /-- An object without it stands for this value; an array must have it. -/
  | inObject (value : α)
  /-- It stands for this value. -/
  | anywhere (value : α)

namespace Absence

/-- The value of a field absent from an object. -/
def ofObject? {α : Type} : Absence α → Option α
  | .refused => none
  | .inObject value => some value
  | .anywhere value => some value

/-- The value of a field absent from the end of an array. -/
def ofArray? {α : Type} : Absence α → Option α
  | .anywhere value => some value
  | _ => none

end Absence

mutual

/-- **The shape of the JSON values that stand for the values of a type.** -/
inductive Schema : Type → Type 1 where
  /-- Any value, its objects in key order. -/
  | any : Schema Json
  /-- A value without parts. -/
  | atom {α : Type} (a : Atom α) : Schema α
  /-- A value or null. -/
  | option {α : Type} (s : Schema α) : Schema (Option α)
  /-- An array of values. -/
  | list {α : Type} (s : Schema α) : Schema (List α)
  /-- A record of this name. -/
  | record {σ ρ : Type} (name : String) (fields : Fields σ ρ) : Schema ρ
  /-- A record whose unknown members make up a second record; it is read from objects only. -/
  | merged {σ ρ τ υ : Type} (name : String) (own : Fields σ ρ) (others : Fields τ υ) :
    Schema (ρ × υ)
  /-- The values of another type, converted. -/
  | convert {α β : Type} (forth : α → β) (back : β → α) (s : Schema α) : Schema β

/-- **The fields of a record.** The first type holds what has been read of a record so far, the
second the record. -/
inductive Fields : Type → Type → Type 1 where
  /-- No more fields. -/
  | done : Fields Unit Unit
  /-- A field under a key, and the others. It is left out of an object where `omits` says so. -/
  | field {α σ ρ : Type} (key : String) (s : Schema α) (absent : Absence α) (omits : α → Bool)
    (others : Fields σ ρ) : Fields (Option α × σ) (α × ρ)

end

namespace Fields

/-- A field that must be there. -/
def need {α σ ρ : Type} (key : String) (s : Schema α) (others : Fields σ ρ) :
    Fields (Option α × σ) (α × ρ) :=
  .field key s .refused (fun _ => false) others

/-- A field with a value to stand for its absence, which is always written. -/
def default {α σ ρ : Type} (key : String) (s : Schema α) (value : α) (others : Fields σ ρ) :
    Fields (Option α × σ) (α × ρ) :=
  .field key s (.anywhere value) (fun _ => false) others

/-- A field that is left out where it has no value. -/
def maybe {α σ ρ : Type} (key : String) (s : Schema α) (others : Fields σ ρ) :
    Fields (Option (Option α) × σ) (Option α × ρ) :=
  .field key (.option s) (.anywhere none) Option.isNone others

/-- The number of fields. -/
def size : {σ ρ : Type} → Fields σ ρ → Nat
  | _, _, .done => 0
  | _, _, .field _ _ _ _ others => others.size + 1

/-- The keys of the fields. -/
def keys : {σ ρ : Type} → Fields σ ρ → List String
  | _, _, .done => []
  | _, _, .field key _ _ _ others => key :: others.keys

/-- **Nothing read yet.** -/
def blank : {σ ρ : Type} → Fields σ ρ → σ
  | _, _, .done => ()
  | _, _, .field _ _ _ _ others => (none, others.blank)

/-- **The record of what was read** from an object, if no field is missing. -/
def finish : {σ ρ : Type} → Fields σ ρ → σ → Except String ρ
  | _, _, .done, _ => .ok ()
  | _, _, .field key _ absent _ others, (slot, slots) => do
    let value ←
      match slot.orElse fun _ => absent.ofObject? with
      | some value => .ok value
      | none => .error ("missing field `" ++ key ++ "`")
    let rest ← others.finish slots
    .ok (value, rest)

end Fields

/-- The message for a repeated key. -/
def duplicateField (key : String) : String :=
  "duplicate field `" ++ key ++ "`"

/-- The name of a record for messages. -/
def recordNamed (name : String) : String :=
  "struct " ++ name

/-- How many elements a record takes as an array. -/
def elements (count : Nat) : String :=
  toString count ++ if count = 1 then " element" else " elements"

/-- The message for an array that ends before all fields are there. -/
def tooShort (name : String) (found wanted : Nat) : String :=
  "invalid length " ++ toString found ++ ", expected " ++ recordNamed name ++ " with "
    ++ elements wanted

/-- **How an array with too many items is refused**, where the value was read before. -/
inductive Surplus where
  /-- It has too many for its place. -/
  | fewerWanted
  /-- The number of items wanted is told. -/
  | countWanted
  deriving DecidableEq, Repr

namespace Surplus

/-- The message for `found` items where `wanted` are taken. -/
def message (surplus : Surplus) (found wanted : Nat) : String :=
  "invalid length " ++ toString found ++ ", expected " ++
    match surplus with
    | .fewerWanted => "fewer elements in array"
    | .countWanted => elements wanted ++ " in sequence"

end Surplus

/-! ### Writing -/

mutual

/-- **The JSON value that stands for a value.** -/
def Schema.toJson : {α : Type} → Schema α → α → Json
  | _, .any, value => value
  | _, .atom a, value => a.toJson value
  | _, .option _, none => .null
  | _, .option s, some value => s.toJson value
  | _, .list s, values => .array (values.map s.toJson)
  | _, .record _ fields, value => .object (fields.toMembers value)
  | _, .merged _ own others, (value, rest) =>
    .object (own.toMembers value ++ others.toMembers rest)
  | _, .convert _ back s, value => s.toJson (back value)

/-- The members that stand for a record, in the order of its fields. -/
def Fields.toMembers : {σ ρ : Type} → Fields σ ρ → ρ → List (String × Json)
  | _, _, .done, _ => []
  | _, _, .field key s _ omits others, (value, rest) =>
    if omits value then others.toMembers rest
    else (key, s.toJson value) :: others.toMembers rest

end

/-! ### Taking values from JSON values -/

mutual

/-- **The value that a JSON value stands for**, or what is wrong with it. -/
def Schema.ofJson : {α : Type} → Schema α → Surplus → Json → Except String α
  | _, .any, _, value => .ok value.canonical
  | _, .atom a, _, value => (a.accept value).mapError (a.complaint value)
  | _, .option s, surplus, value =>
    match value with
    | .null => .ok none
    | value => (s.ofJson surplus value).map some
  | _, .list s, surplus, value =>
    match value with
    | .array items => items.mapM (s.ofJson surplus)
    | value => .error (wrongKind value "a sequence")
  | _, .record name fields, surplus, value =>
    match value with
    | .array items => do
      let (record, left) ← fields.ofItems name surplus fields.size 0 items
      if left.isEmpty then .ok record
      else .error (surplus.message items.length (items.length - left.length))
    | .object members => do
      let slots ← members.foldlM (fun slots m => fields.put surplus m.1 m.2 slots) fields.blank
      fields.finish slots
    | value => .error (wrongKind value (recordNamed name))
  | _, .merged name own others, surplus, value =>
    match value with
    | .object members => do
      let slots ← members.foldlM (fun slots m => own.put surplus m.1 m.2 slots) own.blank
      let value ← own.finish slots
      let slots ← members.foldlM (fun slots m => others.put surplus m.1 m.2 slots) others.blank
      let rest ← others.finish slots
      .ok (value, rest)
    | value => .error (wrongKind value (recordNamed name))
  | _, .convert forth _ s, surplus, value => (s.ofJson surplus value).map forth

/-- **Puts a member where it belongs**; an unknown one belongs nowhere. -/
def Fields.put : {σ ρ : Type} → Fields σ ρ → Surplus → String → Json → σ → Except String σ
  | _, _, .done, _, _, _, slots => .ok slots
  | _, _, .field key s _ _ others, surplus, name, value, (slot, slots) =>
    if name = key then
      match slot with
      | some _ => .error (duplicateField key)
      | none => (s.ofJson surplus value).map fun value => (some value, slots)
    else (others.put surplus name value slots).map fun slots => (slot, slots)

/-- **The record of an array**, and the items left over; `done` of `total` fields have been taken
before. -/
def Fields.ofItems : {σ ρ : Type} → Fields σ ρ → String → Surplus → Nat → Nat → List Json →
    Except String (ρ × List Json)
  | _, _, .done, _, _, _, _, items => .ok ((), items)
  | _, _, .field _ s absent _ others, name, surplus, total, done, items => do
    let (value, items) ←
      match items with
      | item :: items => (s.ofJson surplus item).map fun value => (value, items)
      | [] =>
        match absent.ofArray? with
        | some value => .ok (value, [])
        | none => .error (tooShort name done total)
    let (rest, items) ← others.ofItems name surplus total (done + 1) items
    .ok ((value, rest), items)

end

/-! ### Reading from a text -/

/-- A fault about a value whose shape is wrong, found with the cursor behind it. -/
def Cursor.misfit (c : Cursor) (message : String) : Fault :=
  c.here (.mismatch message)

/-- **Refuses what stands in front of the cursor** where something else was expected. A container is
refused before it is read, anything else behind its end. -/
def Cursor.refuse {α : Type} (expected : String) (c : Cursor) : Except Fault α :=
  if c.peek? = some '[' then .error (c.misfit (wrongKind (.array []) expected))
  else if c.peek? = some '\x7b' then .error (c.misfit (wrongKind (.object []) expected))
  else
    match c.readScalar with
    | .ok (value, c) => .error (c.misfit (wrongKind value expected))
    | .error fault => .error fault

/-- **Reads an atom.** -/
def Atom.read {α : Type} (atom : Atom α) (c : Cursor) : Except Fault (α × Cursor) :=
  let c := c.skipBlank
  if c.peek? = some '[' ∨ c.peek? = some '\x7b' then c.refuse atom.expected
  else
    match c.readScalar with
    | .error fault => .error fault
    | .ok (value, c) =>
      match atom.accept value with
      | .ok a => .ok (a, c)
      | .error refusal => .error (c.misfit (atom.complaint value refusal))

/-- **Opens a container**: reads its parts with `parts`, for which one level less of nesting is
left. -/
def Cursor.descend {α : Type} (depth : Nat) (parts : Nat → Cursor → Except Fault (α × Cursor))
    (c : Cursor) : Except Fault (α × Cursor) :=
  match depth with
  | 0 => .error (c.ahead .tooDeep)
  | depth + 1 => parts depth c.advance

/-- **Gives the end of an object to a reader's verdict**: a verdict against the members stands
behind the object's end. -/
def Cursor.settleMembers {α : Type} (verdict : Except String α) (c : Cursor) :
    Except Fault (α × Cursor) :=
  match verdict with
  | .ok value => .ok (value, c.advance)
  | .error message => .error (c.pastMembers.misfit message)

mutual

/-- **Reads a value of a schema** in front of the cursor, where `depth` more containers may be
opened. -/
def Schema.read : {α : Type} → Schema α → Nat → Cursor → Except Fault (α × Cursor)
  | _, .any, depth, c => (c.readValue depth).map fun r => (r.1.canonical, r.2)
  | _, .atom a, _, c => a.read c
  | _, .option s, depth, c =>
    let c := c.skipBlank
    if c.peek? = some 'n' then
      (Cursor.readWord ['u', 'l', 'l'] c.advance).map fun c => (none, c)
    else (s.read depth c).map fun r => (some r.1, r.2)
  | _, .list s, depth, c =>
    let c := c.skipBlank
    if c.peek? = some '[' then
      c.descend depth fun depth c => do
        let (items, c) ← Cursor.readItems (s.read depth) c.rounds [] c
        .ok (items, c.advance)
    else c.refuse "a sequence"
  | _, .record name fields, depth, c =>
    let c := c.skipBlank
    if c.peek? = some '[' then
      c.descend depth fun depth c => do
        let (record, c) ← fields.readItems name depth fields.size 0 c
        let c ← c.endItems
        .ok (record, c)
    else if c.peek? = some '\x7b' then
      c.descend depth fun depth c => do
        let (slots, c) ←
          Cursor.readMembers (fun key slots c =>
            match fields.readMember depth key slots c with
            | some read => read
            | none => (do
                let c ← c.readColon
                let c ← c.skipValue
                .ok (slots, c) : Except Fault _).mapError (Fault.under (.key key)))
            c.rounds true fields.blank c
        c.settleMembers (fields.finish slots)
    else c.refuse (recordNamed name)
  | _, .merged name own others, depth, c =>
    let c := c.skipBlank
    if c.peek? = some '\x7b' then
      c.descend depth fun depth c => do
        let ((slots, kept), c) ←
          Cursor.readMembers (fun key taken c =>
            match own.readMember depth key taken.1 c with
            | some read => read.map fun r => ((r.1, taken.2), r.2)
            | none =>
              (Cursor.keepMember (Cursor.readValue depth) key taken.2 c).map fun r =>
                ((taken.1, r.1), r.2))
            c.rounds true (own.blank, []) c
        c.settleMembers (do
          let value ← own.finish slots
          let slots ← kept.reverse.foldlM (fun slots m => others.put .countWanted m.1 m.2 slots)
            others.blank
          let rest ← others.finish slots
          .ok (value, rest))
    else c.refuse (recordNamed name)
  | _, .convert forth _ s, depth, c => (s.read depth c).map fun r => (forth r.1, r.2)

/-- **Reads the value of a known key**, the cursor standing in front of the colon; `none` for an
unknown key. -/
def Fields.readMember : {σ ρ : Type} → Fields σ ρ → Nat → String → σ → Cursor →
    Option (Except Fault (σ × Cursor))
  | _, _, .done, _, _, _, _ => none
  | _, _, .field key s _ _ others, depth, name, (slot, slots), c =>
    if name = key then
      match slot with
      | some _ => some (.error (c.pastMembers.misfit (duplicateField key)))
      | none =>
        some ((do
          let c ← c.readColon
          let (value, c) ← s.read depth c
          .ok ((some value, slots), c) : Except Fault _).mapError (Fault.under (.key key)))
    else
      (others.readMember depth name slots c).map fun read =>
        read.map fun r => ((slot, r.1), r.2)

/-- **Reads a record from the items of an array**; `done` of `total` fields have been read before,
and the end of the array is left to the caller. -/
def Fields.readItems : {σ ρ : Type} → Fields σ ρ → String → Nat → Nat → Nat → Cursor →
    Except Fault (ρ × Cursor)
  | _, _, .done, _, _, _, _, c => .ok ((), c)
  | _, _, .field _ s absent _ others, name, depth, total, done, c => do
    let step := Fault.under (.index done)
    let (more, c) ← (c.hasNextItem (done == 0)).mapError step
    let (value, c) ←
      if more then (s.read depth c).mapError step
      else
        match absent.ofArray? with
        | some value => .ok (value, c)
        | none => .error (c.advance.misfit (tooShort name done total))
    let (rest, c) ← others.readItems name depth total (done + 1) c
    .ok ((value, rest), c)

end

namespace Schema

/-- **The text that stands for a value.** -/
def render {α : Type} (s : Schema α) (value : α) : String :=
  (s.toJson value).render

/-- **Reads a value at the front of a text**, and does not look at what follows it. -/
def parseFront {α : Type} (s : Schema α) (text : List Glyph) : Except Fault α :=
  (s.read depthLimit (Cursor.start text)).map Prod.fst

/-- **Reads a text that is one value**, with nothing but blanks around it. -/
def parse {α : Type} (s : Schema α) (text : List Glyph) : Except Fault α := do
  let (value, c) ← s.read depthLimit (Cursor.start text)
  c.endText
  .ok value

/-- **The value that a JSON value stands for**, or what is wrong with it. -/
def decode {α : Type} (s : Schema α) (value : Json) : Except String α :=
  s.ofJson .fewerWanted value

end Schema

end Json

end TaskDaemon
