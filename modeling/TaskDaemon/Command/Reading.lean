import TaskDaemon.Command.Grammar

/-!
# Reading command lines

The arguments of a command are read one after the other. An option or operand takes effect only
when the next one comes or the arguments end, and then its value is looked at; so a name that is not
known is found before a value that does not fit.

* `TaskDaemon.Grammar.Argument`: the shape of one argument;
* `TaskDaemon.Grammar.Halt`: why a command line says nothing to do, and
  `TaskDaemon.Grammar.Misuse`: the ways to get it wrong;
* `TaskDaemon.Grammar.Reading`: the state between two arguments;
* `TaskDaemon.Grammar.read`: the commands that a command line names, each with what is given for it.
-/

namespace TaskDaemon

namespace Grammar

/-- **The shape of one argument.** -/
inductive Argument where
  /-- Two dashes: what follows are operands. -/
  | separator
  /-- An option by its name, with a value if one is attached. -/
  | long (name : Bytes) (value : Option Bytes)
  /-- A dash and letters, of which the first one counts. -/
  | short (letter : UInt8)
  /-- Anything else. -/
  | plain
  deriving DecidableEq, Repr

/-- The dash as a byte. -/
def dash : UInt8 := 45

/-- The equals sign as a byte. -/
def equalsSign : UInt8 := 61

/-- **The shape of an argument.** -/
def Argument.ofBytes : Bytes → Argument
  | first :: second :: rest =>
    if first ≠ dash then .plain
    else if second ≠ dash then .short second
    else if rest = [] then .separator
    else
      let name := rest.takeWhile (· ≠ equalsSign)
      .long name (if name.length < rest.length then some (rest.drop (name.length + 1)) else none)
  | _ => .plain

/-- **Ways to get a command line wrong.** -/
inductive Misuse where
  /-- A command that is to be followed by another stands alone. -/
  | nothingGiven
  /-- Options are given, but the command that is to follow is not. -/
  | noCommand
  /-- There is no command of this name. -/
  | unknownCommand
  /-- There is no such option, or no such operand. -/
  | unknownArgument
  /-- A value is missing or does not fit. -/
  | badValue
  /-- A switch is given a value. -/
  | unwantedValue
  /-- An option is given twice. -/
  | repeated
  /-- An operand is missing. -/
  | missingOperand
  /-- A value is no text. -/
  | notText
  deriving DecidableEq, Repr

/-- **Why a command line says nothing to do.** -/
inductive Halt where
  /-- It asks for this page. -/
  | help (page : String)
  /-- It asks for this version. -/
  | version (text : String)
  /-- It is wrong. -/
  | misuse (misuse : Misuse)
  deriving DecidableEq, Repr

namespace Halt

/-- **What is printed** for a command line that says nothing to do. -/
def output : Halt → String
  | help page => page
  | version text => text
  | misuse _ => ""

/-- **The exit code** of a command line that says nothing to do. -/
def exitCode : Halt → Nat
  | help _ => 0
  | version _ => 0
  | misuse _ => 2

end Halt

/-- **What is given for a command**: values of options and operands, by name. -/
abbrev Given := List (String × List Value)

namespace Given

/-- All values of a name. -/
def all (given : Given) (name : String) : List Value :=
  (given.lookup name).getD []

/-- Whether a name is given. -/
def has (given : Given) (name : String) : Bool :=
  (given.lookup name).isSome

/-- The path that is given for a name. -/
def path? (given : Given) (name : String) : Option Path :=
  match given.all name with
  | .path path :: _ => some path
  | _ => none

/-- The texts that are given for a name. -/
def texts (given : Given) (name : String) : List String :=
  (given.all name).filterMap fun
    | .text text => some text
    | .path _ => none

/-- What is given with more values for a name. -/
def add (given : Given) (name : String) (values : List Value) : Given :=
  (name, given.all name ++ values) :: given.filter (·.1 ≠ name)

end Given

/-- **A value of a kind.** -/
def Kind.value (kind : Kind) (word : Bytes) : Except Misuse Value :=
  match kind with
  | .path => if word = [] then .error .badValue else .ok (.path ⟨word⟩)
  | .text =>
    match Utf8.toString? word with
    | some decoded => .ok (.text decoded)
    | none => .error .notText
  | .choice words =>
    match words.find? fun candidate => Utf8.ofString candidate = word with
    | some candidate => .ok (.text candidate)
    | none => .error .badValue

/-- **What has been read but has not taken effect.** -/
inductive Pending where
  /-- An option, which has its value or still waits for it. -/
  | choice (name : String) (kind : Kind) (word : Option Bytes)
  /-- Words of the operand. -/
  | operand (name : String) (words : List Bytes)
  deriving DecidableEq, Repr

/-- **The state between two arguments** of a command. -/
structure Reading where
  /-- What has taken effect. -/
  given : Given := []
  /-- What has been read but has not taken effect. -/
  pending : Option Pending := none
  /-- Whether two dashes have been read. -/
  separated : Bool := false
  /-- Whether the operand takes no more words. -/
  full : Bool := false
  deriving DecidableEq, Repr

namespace Reading

/-- Whether an option waits for its value. -/
def waits (reading : Reading) : Bool :=
  match reading.pending with
  | some (.choice _ _ none) => true
  | _ => false

/-- What is given after an option took effect, which it may do only once. -/
def record (given : Given) (name : String) (value : Except Misuse (List Value)) :
    Except Halt Given :=
  if given.has name then .error (.misuse .repeated)
  else
    match value with
    | .ok values => .ok (given.add name values)
    | .error misuse => .error (.misuse misuse)

/-- **What is given once the pending part takes effect.** -/
def settled (reading : Reading) : Except Halt Given :=
  match reading.pending with
  | none => .ok reading.given
  | some (.choice _ _ none) => .error (.misuse .badValue)
  | some (.choice name kind (some word)) =>
    record reading.given name ((kind.value word).map fun value => [value])
  | some (.operand name words) =>
    match words.mapM Kind.text.value with
    | .ok values => .ok (reading.given.add name values)
    | .error misuse => .error (.misuse misuse)

/-- The state with the pending part in effect. -/
def settle (reading : Reading) : Except Halt Reading := do
  return { reading with given := ← reading.settled, pending := none }

/-- **Reads a word that is no option.** -/
def takeWord (grammar : Grammar) (reading : Reading) (word : Bytes) : Except Halt Reading :=
  match grammar.operand with
  | some operand =>
    if operand.many then
      match reading.pending with
      | some (.operand name words) =>
        .ok { reading with pending := some (.operand name (words ++ [word])) }
      | _ => do
        return { ← reading.settle with pending := some (.operand operand.name [word]) }
    else if reading.full then .error (.misuse .unknownArgument)
    else do
      return { ← reading.settle with
        pending := some (.operand operand.name [word])
        full := true }
  | none =>
    if grammar.subcommands.isEmpty then .error (.misuse .unknownArgument)
    else if reading.separated && ((grammar.subcommand? word).isSome || grammar.isHelp word) then
      .error (.misuse .unknownArgument)
    else .error (.misuse .unknownCommand)

/-- Asks for the page of a command. -/
def askHelp (grammar : Grammar) (trail : List String) (reading : Reading) :
    Except Halt Reading := do
  let _ ← reading.settle
  .error (.help (grammar.page trail))

/-- Asks for the version. -/
def askVersion (text : String) (reading : Reading) : Except Halt Reading := do
  let _ ← reading.settle
  .error (.version text)

/-- **Reads an option by its name.** -/
def takeLong (grammar : Grammar) (trail : List String) (reading : Reading) (name : Bytes)
    (value : Option Bytes) : Except Halt Reading :=
  match grammar.choice? name with
  | some choice =>
    match choice.value, value with
    | none, some _ => .error (.misuse .unwantedValue)
    | none, none => do
      let reading ← reading.settle
      return { reading with given := ← record reading.given choice.name (.ok []) }
    | some (_, kind), some word => do
      let reading ← reading.settle
      return { reading with
        given := ← record reading.given choice.name ((kind.value word).map fun value => [value]) }
    | some (_, kind), none => do
      return { ← reading.settle with pending := some (.choice choice.name kind none) }
  | none =>
    if name = Utf8.ofString helpName then
      if value.isSome then .error (.misuse .unwantedValue) else reading.askHelp grammar trail
    else
      match grammar.version with
      | some text =>
        if name = Utf8.ofString versionName then
          if value.isSome then .error (.misuse .unwantedValue) else reading.askVersion text
        else .error (.misuse .unknownArgument)
      | none => .error (.misuse .unknownArgument)

/-- **Reads a dash and a letter.** -/
def takeShort (grammar : Grammar) (trail : List String) (reading : Reading) (letter : UInt8) :
    Except Halt Reading :=
  if letter = 'h'.toUInt8 then reading.askHelp grammar trail
  else
    match grammar.version with
    | some text =>
      if letter = 'V'.toUInt8 then reading.askVersion text else .error (.misuse .unknownArgument)
    | none => .error (.misuse .unknownArgument)

/-- **Reads an argument** that names no command. -/
def take (grammar : Grammar) (trail : List String) (reading : Reading) (word : Bytes) :
    Except Halt Reading :=
  if reading.separated then reading.takeWord grammar word
  else
    match Argument.ofBytes word with
    | .separator => .ok { reading with separated := true }
    | .long name value => reading.takeLong grammar trail name value
    | .short letter => reading.takeShort grammar trail letter
    | .plain =>
      match reading.pending with
      | some (.choice name kind none) =>
        .ok { reading with pending := some (.choice name kind (some word)) }
      | _ => reading.takeWord grammar word

end Reading

/-- **The page that names ask for**: each of them must be that of a command below the one before. -/
def tell (grammar : Grammar) (trail : List String) : List Bytes → Halt
  | [] => .help (grammar.page trail)
  | word :: rest =>
    match grammar.subcommand? word with
    | some sub => tell sub (trail ++ [sub.name]) rest
    | none =>
      if grammar.isHelp word && rest.isEmpty then .help (helpPage trail)
      else .misuse .unknownCommand

/-- **Whether all is given that a command needs**, where no command below it is named. -/
def complete (grammar : Grammar) (given : Given) : Except Halt Unit :=
  if ¬ grammar.subcommands.isEmpty then
    .error (.misuse (if given.isEmpty then .nothingGiven else .noCommand))
  else
    match grammar.operand with
    | some operand => if given.has operand.name then .ok () else .error (.misuse .missingOperand)
    | none => .ok ()

/-- **The loop of `read`**: the commands that the arguments name from here on. What a command below
has to complain about comes before what is pending here. -/
def readFrom (grammar : Grammar) (trail : List String) (reading : Reading) :
    List Bytes → Except Halt (List (String × Given))
  | [] => do
    let given ← reading.settled
    grammar.complete given
    return [(grammar.name, given)]
  | word :: rest =>
    if reading.separated || reading.waits then do
      readFrom grammar trail (← reading.take grammar trail word) rest
    else
      match grammar.subcommand? word with
      | some sub => do
        let deeper ← readFrom sub (trail ++ [sub.name]) {} rest
        return (grammar.name, ← reading.settled) :: deeper
      | none =>
        if grammar.isHelp word then .error (grammar.tell trail rest)
        else do
          readFrom grammar trail (← reading.take grammar trail word) rest

/-- **The commands that a command line names**, from the outermost to the innermost, each with what
is given for it. -/
def read (grammar : Grammar) (arguments : List Bytes) : Except Halt (List (String × Given)) :=
  readFrom grammar [grammar.name] {} arguments

end Grammar

end TaskDaemon
