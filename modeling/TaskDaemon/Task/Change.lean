import TaskDaemon.Task.Basic

/-!
# Changing tasks

A caller gives a patch and names the fields that the patch is to change.

* `TaskDaemon.TaskField`: the fields that may be changed;
* `TaskDaemon.FieldMask`: a set of them, kept in order;
* `TaskDaemon.TaskUpdate`: a patch read through a mask, which tells for every field whether it is
  kept, set or cleared;
* `TaskDaemon.Task.apply`: a task after an update;
* `TaskDaemon.Task.amend`: the same where the task is kept, step by step.
-/

namespace TaskDaemon

/-- **The fields of a task that may be changed.** -/
inductive TaskField where
  /-- What is to be done. -/
  | summary
  /-- The time of completion. -/
  | completedAt
  deriving DecidableEq, Repr

namespace TaskField

/-- The name of a field. -/
def name : TaskField → String
  | summary => "summary"
  | completedAt => "completed_at"

/-- All fields, in order. -/
def all : List TaskField := [summary, completedAt]

/-- **The field of a name**, letter for letter. -/
def ofName? (name : String) : Option TaskField :=
  all.find? fun field => field.name == name

end TaskField

/-- **A set of fields.** -/
structure FieldMask where
  /-- Whether the summary is in it. -/
  summary : Bool := false
  /-- Whether the time of completion is in it. -/
  completedAt : Bool := false
  deriving DecidableEq, Repr

namespace FieldMask

/-- Whether a field is in the set. -/
def contains (mask : FieldMask) : TaskField → Bool
  | .summary => mask.summary
  | .completedAt => mask.completedAt

/-- The set without fields. -/
def empty : FieldMask := {}

/-- The set of all fields. -/
def all : FieldMask := ⟨true, true⟩

/-- Whether no field is in the set. -/
def isEmpty (mask : FieldMask) : Bool :=
  mask = empty

/-- **The set of the fields in a list.** -/
def ofFields (fields : List TaskField) : FieldMask :=
  ⟨fields.contains .summary, fields.contains .completedAt⟩

/-- **The set of the fields that the names name**; other names are passed over. -/
def ofNames (names : List String) : FieldMask :=
  ofFields (names.filterMap TaskField.ofName?)

/-- The fields of a set, in order. -/
def fields (mask : FieldMask) : List TaskField :=
  TaskField.all.filter mask.contains

/-- **The names of the fields of a set**, in order. -/
def names (mask : FieldMask) : List String :=
  mask.fields.map TaskField.name

/-- **The shape of a set of fields**: the list of its names. -/
def schema : Json.Schema FieldMask :=
  .convert ofNames names (.list textSchema)

/-- **Reading undoes writing.** -/
theorem ofNames_names (mask : FieldMask) : ofNames mask.names = mask := by
  rcases mask with ⟨_ | _, _ | _⟩ <;> decide

end FieldMask

/-- **What happens to a field of a task.** -/
inductive Change (α : Type) where
  /-- It stays as it is. -/
  | keep
  /-- It is cleared. -/
  | clear
  /-- It gets this value. -/
  | set (value : α)
  deriving DecidableEq, Repr

/-- **A change to a task**, field by field. A summary is never cleared. -/
structure TaskUpdate where
  /-- The new summary, if there is one. -/
  summary : Option String
  /-- What happens to the time of completion. -/
  completedAt : Change Instant
  deriving DecidableEq, Repr

/-- **A patch read through a mask.** A masked summary that the patch does not give stays; a masked
time of completion that it does not give is cleared. -/
def TaskPatch.through (patch : TaskPatch) (mask : FieldMask) : TaskUpdate where
  summary := if mask.summary then patch.summary else none
  completedAt :=
    if mask.completedAt then
      match patch.completedAt with
      | some time => .set time
      | none => .clear
    else .keep

namespace Task

/-- A task with another summary. -/
def withSummary (task : Task) (summary : Option String) (now : Instant) : Task :=
  match summary with
  | none => task
  | some text => { task with summary := text, updatedAt := some now }

/-- A task with its time of completion changed. -/
def withCompletion (task : Task) (change : Change Instant) (now : Instant) : Task :=
  match change with
  | .keep => task
  | .clear => { task with completedAt := none, updatedAt := some now }
  | .set time => { task with completedAt := some time, updatedAt := some now }

/-- **A task after an update** at the time `now`; a blank summary changes nothing and is refused. -/
def apply (task : Task) (update : TaskUpdate) (now : Instant) : Outcome Task := do
  if let some summary := update.summary then checkSummary summary
  .ok ((task.withSummary update.summary now).withCompletion update.completedAt now)

/-- **An update of a task where it is kept**, at the time `now`: the summary is checked, and then
the fields that the update carries are written one after the other. A step that fails ends it, and
nothing that was written before is taken back. -/
def amend (update : TaskUpdate) (now : Instant) : ExceptT Error (StateM Task) Unit := do
  if let some summary := update.summary then checkSummary summary
  modify fun task => task.withSummary update.summary now
  modify fun task => task.withCompletion update.completedAt now

/-- **What comes of an update of a task where it is kept**, and the task that is there then. -/
def amended (task : Task) (update : TaskUpdate) (now : Instant) : Outcome Unit × Task :=
  (amend update now).run.run task

end Task

end TaskDaemon
