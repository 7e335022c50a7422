import TaskDaemon.Task.Change

/-!
# Bodies of REST requests and responses

* `TaskDaemon.Rest.PatchBody`: the body of a change to a task. The keys that are present are the
  fields to be changed;
* `TaskDaemon.Rest.PatchBody.patch` and `TaskDaemon.Rest.PatchBody.mask`: the change that a body
  asks for;
* `TaskDaemon.Rest.errorSchema`: the body of an answer that tells an error.
-/

namespace TaskDaemon

namespace Rest

/-- **The body of a change to a task.** A null time of completion is something else than none. -/
structure PatchBody where
  /-- A new summary. -/
  summary : Option String := none
  /-- What is given for the time of completion, if anything is. -/
  completedAt : Option (Option Instant) := none
  deriving DecidableEq, Repr

namespace PatchBody

/-- The values that a body gives. -/
def patch (body : PatchBody) : TaskPatch where
  summary := body.summary
  completedAt := body.completedAt.join

/-- **The fields that a body changes**: those whose keys are present, but for a null summary. -/
def mask (body : PatchBody) : FieldMask where
  summary := body.summary.isSome
  completedAt := body.completedAt.isSome

/-- **The shape of the body of a change.** -/
def schema : Json.Schema PatchBody :=
  .convert (fun r => ⟨r.1, r.2.1⟩) (fun b => (b.summary, b.completedAt, ()))
    (.record "PatchTaskBody"
      (.maybe "summary" textSchema
        (.field "completed_at" (.convert some Option.join (.option Instant.schema))
          (.anywhere none) Option.isNone .done)))

end PatchBody

/-- **The shape of the body of an error**: its message. -/
def errorSchema : Json.Schema String :=
  .convert (fun r => r.1) (fun message => (message, ()))
    (.record "ErrorBody" (.need "message" textSchema .done))

end Rest

end TaskDaemon
