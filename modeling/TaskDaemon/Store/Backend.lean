import TaskDaemon.Store.Basic

/-!
# What requests are served from

Requests reach the store through a backend, which may be out of order: then every change fails with
the same error and the store stays as it is.

* `TaskDaemon.Backend`: a store, and the error that changes fail with if there is one;
* `TaskDaemon.Backend.create`, `TaskDaemon.Backend.update`, `TaskDaemon.Backend.delete`,
  `TaskDaemon.Backend.list`: the operations of the store.
-/

namespace TaskDaemon

/-- **A store that may be out of order.** -/
structure Backend where
  /-- The store. -/
  store : Store := .empty
  /-- The error that every change fails with, if the backend is out of order. -/
  failure : Option Error := none

namespace Backend

/-- **Runs a change**, unless the backend is out of order. -/
def change {α : Type} (backend : Backend) (operation : Store → Outcome α × Store) :
    Outcome α × Backend :=
  match backend.failure with
  | some error => (.error error, backend)
  | none =>
    let (outcome, store) := operation backend.store
    (outcome, { backend with store := store })

/-- All tasks, the oldest first. -/
def list (backend : Backend) : List Task :=
  backend.store.list

/-- Makes a task. -/
def create (backend : Backend) (draft : TaskDraft) (now : Instant) : Outcome Task × Backend :=
  backend.change fun store => store.create draft now

/-- Changes a task. -/
def update (backend : Backend) (id : String) (patch : TaskPatch) (mask : FieldMask)
    (now : Instant) : Outcome Task × Backend :=
  backend.change fun store => store.update id patch mask now

/-- Removes a task. -/
def delete (backend : Backend) (id : String) : Outcome Unit × Backend :=
  backend.change fun store => store.delete id

end Backend

end TaskDaemon
