import TaskDaemon.Text.Blank
import TaskDaemon.Time.Timestamp
import TaskDaemon.Error.Basic
import TaskDaemon.Json.Schema

/-!
# Tasks

* `TaskDaemon.Task`: a task of the list;
* `TaskDaemon.TaskDraft`: what a caller gives to have a task made;
* `TaskDaemon.TaskPatch`: values for the fields of a task that may be changed;
* `TaskDaemon.checkSummary`: a summary must show something.

The JSON shapes of the three stand beside them.
-/

namespace TaskDaemon

/-- **A task.** -/
structure Task where
  /-- The name by which callers refer to the task. -/
  id : String
  /-- What is to be done. -/
  summary : String
  /-- When the task was made. -/
  createdAt : Instant
  /-- When a field was last changed, if one was. -/
  updatedAt : Option Instant := none
  /-- When the task was or will be completed, if it is. -/
  completedAt : Option Instant := none
  deriving DecidableEq, Repr

/-- **What a task is made from.** -/
structure TaskDraft where
  /-- What is to be done. -/
  summary : String
  deriving DecidableEq, Repr

/-- **Values for the fields of a task that may be changed.** -/
structure TaskPatch where
  /-- A new summary. -/
  summary : Option String := none
  /-- A new time of completion. -/
  completedAt : Option Instant := none
  deriving DecidableEq, Repr

/-- **A summary must hold a character that is not blank.** -/
def checkSummary (summary : String) : Outcome Unit :=
  if IsBlankText summary.toList then .error (.invalidArgument "task summary cannot be empty")
  else .ok ()

/-- A draft is fit to become a task. -/
def TaskDraft.check (draft : TaskDraft) : Outcome Unit :=
  checkSummary draft.summary

/-- **A task as it is made.** -/
def Task.new (id summary : String) (now : Instant) : Task :=
  { id := id, summary := summary, createdAt := now }

/-! ### JSON -/

namespace Instant

/-- **An instant as a string.** -/
def atom : Json.Atom Instant :=
  .parsed "an RFC 3339 formatted date and time string"
    (fun s => (Instant.parse s).mapError Timestamp.Fault.message) Instant.text

/-- The shape of an instant. -/
def schema : Json.Schema Instant :=
  .atom atom

end Instant

/-- The shape of any text. -/
def textSchema : Json.Schema String :=
  .atom .string

/-- **The shape of a task.** -/
def Task.schema : Json.Schema Task :=
  .convert
    (fun r => ⟨r.1, r.2.1, r.2.2.1, r.2.2.2.1, r.2.2.2.2.1⟩)
    (fun t => (t.id, t.summary, t.createdAt, t.updatedAt, t.completedAt, ()))
    (.record "Task" (.need "id" textSchema (.need "summary" textSchema
      (.need "created_at" Instant.schema (.maybe "updated_at" Instant.schema
        (.maybe "completed_at" Instant.schema .done))))))

/-- **The shape of a draft.** -/
def TaskDraft.schema : Json.Schema TaskDraft :=
  .convert (fun r => ⟨r.1⟩) (fun d => (d.summary, ()))
    (.record "TaskCreate" (.need "summary" textSchema .done))

/-- **The shape of a patch.** -/
def TaskPatch.schema : Json.Schema TaskPatch :=
  .convert (fun r => ⟨r.1, r.2.1⟩) (fun p => (p.summary, p.completedAt, ()))
    (.record "TaskPatch" (.maybe "summary" textSchema (.maybe "completed_at" Instant.schema .done)))

end TaskDaemon
