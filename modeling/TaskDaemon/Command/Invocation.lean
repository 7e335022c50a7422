import TaskDaemon.Command.Listing
import TaskDaemon.Command.Reading

/-!
# What the program is asked to do

* `TaskDaemon.Command` and `TaskDaemon.TaskCommand`: the commands;
* `TaskDaemon.Invocation`: a command, and the socket that it is to use if one is named;
* `TaskDaemon.Invocation.grammar`: the grammar of the program's command line;
* `TaskDaemon.Invocation.read`: the invocation that arguments spell.

The socket may be named at every level; the innermost counts.
-/

namespace TaskDaemon

/-- **What can be done with the tasks.** -/
inductive TaskCommand where
  /-- Make a task of these words. -/
  | add (words : List String)
  /-- Nothing but show them. -/
  | list
  /-- Complete the task of this id. -/
  | done (id : String)
  /-- Remove the task of this id. -/
  | remove (id : String)
  deriving DecidableEq, Repr

/-- **What the program can do.** -/
inductive Command where
  /-- Run the daemon, with this lock file and this file of settings, and with the demo tasks if
  asked for. -/
  | run (lock config : Option Path) (seedDemoTasks : Bool)
  /-- Show the status of the daemon. -/
  | status (format : StatusFormat)
  /-- Change and show the tasks. -/
  | tasks (command : TaskCommand)
  deriving DecidableEq, Repr

/-- **What the program is asked to do**, and the socket that it is to use if one is named. -/
structure Invocation where
  /-- The socket. -/
  sock : Option Path := none
  /-- The command. -/
  command : Command
  deriving DecidableEq, Repr

namespace Invocation

open Grammar

/-- The version of the program. -/
def versionText : String := "todo-daemon 0.3.0\n"

/-- A value that is a path. -/
def pathValue : Option (String × Kind) := some ("PATH", .path)

/-- The socket, which can be named for every command. -/
def sockChoice : Choice :=
  { name := "sock", value := pathValue, summary := "Path to the RPC socket file" }

/-- The words of the formats. -/
def formats : List (String × StatusFormat) :=
  [("json", .json), ("text", .lines)]

/-- Run the daemon. -/
def runGrammar : Grammar :=
  .command "run" [] "Run the to-do daemon in the foreground" none
    [{ name := "lock", value := pathValue
       summary := "Path to the lock file guarding against a second daemon" },
      sockChoice,
      { name := "config", value := pathValue, summary := "Path to a JSON configuration file" },
      { name := "seed-demo-tasks"
        summary := "Start with a few demo tasks instead of an empty list" }]
    none []

/-- Show the status. -/
def statusGrammar : Grammar :=
  .command "status" [] "Print the status of the running daemon" none
    [{ name := "format", value := some ("FORMAT", .choice (formats.map Prod.fst))
       fallback := some "json", summary := "Output format" },
      sockChoice]
    none []

/-- Make a task. -/
def addGrammar : Grammar :=
  .command "add" [] "Add a new task to the to-do list" none [sockChoice]
    (some { name := "SUMMARY", many := true, summary := "Summary of the new task" }) []

/-- Show the tasks. -/
def listGrammar : Grammar :=
  .command "list" ["ls"] "List all tasks in the to-do list" none [sockChoice] none []

/-- The operand that names a task. -/
def idOperand : Operand :=
  { name := "ID", summary := "ID of the task" }

/-- Complete a task. -/
def doneGrammar : Grammar :=
  .command "done" [] "Mark a task as done" none [sockChoice] (some idOperand) []

/-- Remove a task. -/
def removeGrammar : Grammar :=
  .command "remove" ["rm"] "Remove a task from the to-do list" none [sockChoice] (some idOperand) []

/-- Change and show the tasks. -/
def tasksGrammar : Grammar :=
  .command "tasks" ["t"] "Manage the tasks of the to-do list" none [sockChoice] none
    [addGrammar, listGrammar, doneGrammar, removeGrammar]

/-- **The grammar of the program's command line.** -/
def grammar : Grammar :=
  .command "todo-daemon" [] "A daemon for managing a to-do list" (some versionText) [sockChoice]
    none [runGrammar, statusGrammar, tasksGrammar]

/-- **The command below `tasks`** that a name and what is given for it stand for. -/
def taskCommand? (name : String) (given : Given) : Option TaskCommand :=
  let id := (given.texts idOperand.name).head?
  if name = addGrammar.name then some (.add (given.texts "SUMMARY"))
  else if name = listGrammar.name then some .list
  else if name = doneGrammar.name then id.map .done
  else if name = removeGrammar.name then id.map .remove
  else none

/-- **The command** that the names of a command line stand for, the outermost left out. -/
def command? : List (String × Given) → Option Command
  | (name, given) :: deeper =>
    if name = runGrammar.name then
      some (.run (given.path? "lock") (given.path? "config") (given.has "seed-demo-tasks"))
    else if name = statusGrammar.name then
      let format := (given.texts "format").head?.bind fun word => formats.lookup word
      some (.status (format.getD .json))
    else
      match deeper with
      | (name, given) :: _ => (taskCommand? name given).map .tasks
      | [] => none
  | [] => none

/-- **The invocation that arguments spell**, or why they spell none. -/
def read (arguments : List Bytes) : Except Halt Invocation :=
  match grammar.read arguments with
  | .error halt => .error halt
  | .ok levels =>
    match command? levels.tail with
    | some command =>
      .ok { sock := levels.reverse.findSome? fun level => level.2.path? sockChoice.name
            command := command }
    | none => .error (.misuse .noCommand)

end Invocation

end TaskDaemon
