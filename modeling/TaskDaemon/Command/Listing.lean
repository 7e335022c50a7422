import TaskDaemon.Task.Basic
import TaskDaemon.Daemon.Status

/-!
# What commands print

* `TaskDaemon.Listing.line`: a task as a line;
* `TaskDaemon.Listing.text`: a list of tasks, a line for each;
* `TaskDaemon.StatusFormat` and `TaskDaemon.ServerStatus.shown`: the status of a daemon, as JSON or
  as lines.
-/

namespace TaskDaemon

namespace Listing

/-- **Whether a task is done** at a time: its time of completion has come. -/
def isDone (task : Task) (now : Instant) : Bool :=
  match task.completedAt with
  | some time => time ≤ now
  | none => false

/-- **A task as a line**: its id, a mark if it is done, and its summary. -/
def line (task : Task) (now : Instant) : String :=
  "#" ++ task.id ++ " [" ++ (if isDone task now then "✓" else " ") ++ "] " ++ task.summary

/-- **A list of tasks**, a line for each. -/
def text (tasks : List Task) (now : Instant) : String :=
  String.join (tasks.map fun task => line task now ++ "\n")

end Listing

/-- **How a status is shown.** -/
inductive StatusFormat where
  /-- As JSON. -/
  | json
  /-- As lines. -/
  | lines
  deriving DecidableEq, Repr

/-- **The status of a daemon as it is shown.** -/
def ServerStatus.shown (status : ServerStatus) : StatusFormat → String
  | .json => ServerStatus.schema.render status
  | .lines => "pid: " ++ Decimal.text status.pid ++ "\napi_base_url: " ++ status.apiBaseUrl

end TaskDaemon
