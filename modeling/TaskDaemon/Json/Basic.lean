import TaskDaemon.Json.Number

/-!
# JSON values and their text

* `TaskDaemon.Json`: a JSON value. The members of an object keep their order, and a key may stand
  more than once; what a repeated key means is for the reader of the object to say.
* `TaskDaemon.Json.chars`, `TaskDaemon.Json.render`: the compact text of a value;
* `TaskDaemon.Json.escape`: how one character stands inside a string;
* `TaskDaemon.Json.canonical`: a value whose objects have their keys in order, the last member
  winning over earlier ones of its key. Values that are passed on without being understood travel
  in this form.

No text of a value holds a control character (`TaskDaemon.Json.escape_no_control`).
-/

namespace TaskDaemon

/-- **A JSON value.** -/
inductive Json where
  /-- The value `null`. -/
  | null
  /-- A truth value. -/
  | bool (b : Bool)
  /-- A number. -/
  | number (n : Json.Number)
  /-- A string. -/
  | string (s : String)
  /-- An array. -/
  | array (items : List Json)
  /-- An object, its members in order. -/
  | object (members : List (String × Json))
  deriving Repr

namespace Json

instance : Inhabited Json := ⟨.null⟩

/-- An integer as a value. -/
def int (n : Int) : Json :=
  .number (.int n)

/-! ### Text -/

/-- The hexadecimal digit of a number below sixteen, in lower case. -/
def hexChar (d : Nat) : Char :=
  if d < 10 then Char.ofNat ('0'.toNat + d) else Char.ofNat ('a'.toNat + (d - 10))

/-- **One character inside a string.** Quotes, backslashes and control characters are escaped, the
latter by a letter where there is one; everything else stands for itself. -/
def escape (c : Char) : List Char :=
  if c = '"' then ['\\', '"']
  else if c = '\\' then ['\\', '\\']
  else if c.toNat = 0x08 then ['\\', 'b']
  else if c.toNat = 0x0C then ['\\', 'f']
  else if c = '\n' then ['\\', 'n']
  else if c = '\r' then ['\\', 'r']
  else if c = '\t' then ['\\', 't']
  else if c.toNat < 0x20 then
    ['\\', 'u', '0', '0', hexChar (c.toNat / 16), hexChar (c.toNat % 16)]
  else [c]

/-- A string in quotes. -/
def quotedChars (s : List Char) : List Char :=
  '"' :: s.flatMap escape ++ ['"']

mutual

/-- **The compact text of a value**, as characters. -/
def chars : Json → List Char
  | .null => ['n', 'u', 'l', 'l']
  | .bool true => ['t', 'r', 'u', 'e']
  | .bool false => ['f', 'a', 'l', 's', 'e']
  | .number n => n.chars
  | .string s => quotedChars s.toList
  | .array items => '[' :: itemsChars items ++ [']']
  | .object members => '\x7b' :: membersChars members ++ ['\x7d']

/-- The items of an array, separated by commas. -/
def itemsChars : List Json → List Char
  | [] => []
  | [item] => chars item
  | item :: rest => chars item ++ ',' :: itemsChars rest

/-- The members of an object, separated by commas. -/
def membersChars : List (String × Json) → List Char
  | [] => []
  | [(key, value)] => quotedChars key.toList ++ ':' :: chars value
  | (key, value) :: rest => quotedChars key.toList ++ ':' :: chars value ++ ',' :: membersChars rest

end

/-- **The compact text of a value.** -/
def render (value : Json) : String :=
  String.ofList (chars value)

theorem all_escape_of_lt :
    ∀ n < 0x20, (escape (Char.ofNat n)).all (fun d => decide (0x20 ≤ d.toNat)) = true := by
  decide

/-- **No escaped character holds a control character.** -/
theorem escape_no_control (c : Char) : ∀ d ∈ escape c, 0x20 ≤ d.toNat := by
  intro d hd
  by_cases h : c.toNat < 0x20
  · have hc : Char.ofNat c.toNat = c := Char.ofNat_toNat c
    rw [← hc] at hd
    exact of_decide_eq_true (List.all_eq_true.mp (all_escape_of_lt c.toNat h) d hd)
  · unfold escape at hd
    split at hd
    · simp only [List.mem_cons, List.not_mem_nil, or_false] at hd
      rcases hd with rfl | rfl <;> decide
    split at hd
    · simp only [List.mem_cons, List.not_mem_nil, or_false] at hd
      rcases hd with rfl | rfl <;> decide
    split at hd
    · omega
    split at hd
    · omega
    split at hd
    · simp only [List.mem_cons, List.not_mem_nil, or_false] at hd
      rcases hd with rfl | rfl <;> decide
    split at hd
    · simp only [List.mem_cons, List.not_mem_nil, or_false] at hd
      rcases hd with rfl | rfl <;> decide
    split at hd
    · simp only [List.mem_cons, List.not_mem_nil, or_false] at hd
      rcases hd with rfl | rfl <;> decide
    · have hdc : d = c := by simpa using hd
      rw [hdc]
      omega

/-! ### Canonical form -/

/-- **A member put among members whose keys are in order**, in place of one with its key. -/
def insertMember (key : String) (value : Json) : List (String × Json) → List (String × Json)
  | [] => [(key, value)]
  | (k, v) :: rest =>
    if key < k then (key, value) :: (k, v) :: rest
    else if key = k then (key, value) :: rest
    else (k, v) :: insertMember key value rest

mutual

/-- **A value with all its objects in key order**, the last member of a key winning. -/
def canonical : Json → Json
  | .array items => .array (canonicalItems items)
  | .object members => .object (canonicalMembers members [])
  | value => value

/-- The items of an array in canonical form. -/
def canonicalItems : List Json → List Json
  | [] => []
  | item :: rest => canonical item :: canonicalItems rest

/-- The members of an object put one by one among the ordered members `done`. -/
def canonicalMembers : List (String × Json) → List (String × Json) → List (String × Json)
  | [], done => done
  | (key, value) :: rest, done => canonicalMembers rest (insertMember key (canonical value) done)

end

/-- **The value under a key** of an object: the last one. Other values have no members. -/
def member? (key : String) : Json → Option Json
  | .object members => (members.reverse.find? fun m => m.1 == key).map Prod.snd
  | _ => none

end Json

end TaskDaemon
