import TaskDaemon.Host.Path

/-!
# Grammars of command lines

A command has options, which may stand anywhere behind its name, and either an operand or commands
below it.

* `TaskDaemon.Grammar`: a command and all below it;
* `TaskDaemon.Grammar.Value`: what is given for an option or operand;
* `TaskDaemon.Grammar.page`: what a command says when it is asked for help.

Every command answers `--help` and `-h`; one that has commands below it has one more among them,
`help`, which is followed by the names of the command in question.
-/

namespace TaskDaemon

namespace Grammar

/-- **What a value may be.** -/
inductive Kind where
  /-- A path, which is not empty. -/
  | path
  /-- Any text. -/
  | text
  /-- One of these words. -/
  | choice (words : List String)
  deriving DecidableEq, Repr

/-- **What is given for an option or operand.** -/
inductive Value where
  /-- A path. -/
  | path (path : Path)
  /-- A text. -/
  | text (text : String)
  deriving DecidableEq, Repr

/-- **An option**, which is given as `--name`. -/
structure Choice where
  /-- The name. -/
  name : String
  /-- What its value is called, and what it may be; a switch has no value. -/
  value : Option (String × Kind) := none
  /-- The value where the option is not given, for the page. -/
  fallback : Option String := none
  /-- What it is for. -/
  summary : String
  deriving DecidableEq, Repr

/-- **An operand**: words that are no options. -/
structure Operand where
  /-- What it is called. -/
  name : String
  /-- Whether there may be more than one. -/
  many : Bool := false
  /-- What it is. -/
  summary : String
  deriving DecidableEq, Repr

end Grammar

/-- **A command and all below it.** -/
inductive Grammar where
  /-- A command with its names, of which the first is its own and the others are short for it, its
  options, its operand and the commands below it. -/
  | command (name : String) (aliases : List String) (summary : String)
    (version : Option String) (choices : List Grammar.Choice) (operand : Option Grammar.Operand)
    (subcommands : List Grammar)

namespace Grammar

/-- The name of a command. -/
def name : Grammar → String
  | command name .. => name

/-- The names that are short for a command. -/
def aliases : Grammar → List String
  | command _ aliases .. => aliases

/-- What a command is for. -/
def summary : Grammar → String
  | command _ _ summary .. => summary

/-- The version that a command tells, if it tells one. -/
def version : Grammar → Option String
  | command _ _ _ version .. => version

/-- The options of a command. -/
def choices : Grammar → List Choice
  | command _ _ _ _ choices .. => choices

/-- The operand of a command. -/
def operand : Grammar → Option Operand
  | command _ _ _ _ _ operand _ => operand

/-- The commands below a command. -/
def subcommands : Grammar → List Grammar
  | command _ _ _ _ _ _ subcommands => subcommands

/-- The name of the command that tells about others. -/
def helpName : String := "help"

/-- The name of the option that asks for the version. -/
def versionName : String := "version"

/-- Whether a word is a name of a command. -/
def answersTo (grammar : Grammar) (word : Bytes) : Bool :=
  (grammar.name :: grammar.aliases).any fun name => Utf8.ofString name = word

/-- The command below that a word names. -/
def subcommand? (grammar : Grammar) (word : Bytes) : Option Grammar :=
  grammar.subcommands.find? fun sub => sub.answersTo word

/-- Whether a word is the name of the command that tells about others. -/
def isHelp (grammar : Grammar) (word : Bytes) : Bool :=
  !grammar.subcommands.isEmpty && word = Utf8.ofString helpName

/-- The option of a name. -/
def choice? (grammar : Grammar) (name : Bytes) : Option Choice :=
  grammar.choices.find? fun choice => Utf8.ofString choice.name = name

/-! ### Pages -/

/-- A text with blanks behind it, so that it is `width` characters wide. -/
def fill (width : Nat) (text : String) : String :=
  text ++ String.ofList (List.replicate (width - text.length) ' ')

/-- **Two columns** under a heading, or nothing if they are empty. -/
def table (heading : String) (rows : List (String × String)) : String :=
  if rows.isEmpty then ""
  else
    let width := (rows.map fun row => row.1.length).foldl max 0
    "\n" ++ heading ++ ":\n" ++
      String.join (rows.map fun row => "  " ++ fill width row.1 ++ "  " ++ row.2 ++ "\n")

/-- The row of an option. -/
def Choice.row (choice : Choice) : String × String :=
  let placeholder := match choice.value with
    | some (name, _) => " <" ++ name ++ ">"
    | none => ""
  let fallback := match choice.fallback with
    | some value => " [default: " ++ value ++ "]"
    | none => ""
  let words := match choice.value with
    | some (_, .choice words) => " [possible values: " ++ String.intercalate ", " words ++ "]"
    | _ => ""
  ("    --" ++ choice.name ++ placeholder, choice.summary ++ fallback ++ words)

/-- An operand as it stands in a command line. -/
def Operand.shape (operand : Operand) : String :=
  "<" ++ operand.name ++ ">" ++ if operand.many then "..." else ""

/-- The row of a command. -/
def row (grammar : Grammar) : String × String :=
  let aliases := match grammar.aliases with
    | [] => ""
    | [only] => " [alias: " ++ only ++ "]"
    | several => " [aliases: " ++ String.intercalate ", " several ++ "]"
  (grammar.name, grammar.summary ++ aliases)

/-- What the command is for that tells about others. -/
def helpSummary : String :=
  "Print this message or the help of the given subcommand(s)"

/-- **The page of a command**, given the names that lead to it. -/
def page (trail : List String) (grammar : Grammar) : String :=
  let options := if grammar.choices.isEmpty then "" else " [OPTIONS]"
  let operand := match grammar.operand with
    | some operand => " " ++ operand.shape
    | none => ""
  let below := if grammar.subcommands.isEmpty then "" else " <COMMAND>"
  let commands :=
    if grammar.subcommands.isEmpty then []
    else grammar.subcommands.map row ++ [(helpName, helpSummary)]
  let version := if grammar.version.isSome then [("-V, --version", "Print version")] else []
  grammar.summary ++ "\n\nUsage: " ++ String.intercalate " " trail ++ options ++ operand ++ below
    ++ "\n" ++ table "Commands" commands
    ++ table "Arguments" (grammar.operand.toList.map fun operand =>
      (operand.shape, operand.summary))
    ++ table "Options" (grammar.choices.map Choice.row ++ [("-h, --help", "Print help")] ++ version)

/-- **The page of the command that tells about others**, given the names that lead to the command
that it belongs to. -/
def helpPage (trail : List String) : String :=
  helpSummary ++ "\n\nUsage: " ++ String.intercalate " " (trail ++ [helpName]) ++ " [COMMAND]...\n"
    ++ table "Arguments" [("[COMMAND]...", "Print help for the subcommand(s)")]

end Grammar

end TaskDaemon
