import TaskDaemon.Task.Change

/-!
# The store

All tasks of a daemon, under their ids, and the counter that ids come from.

* `TaskDaemon.Store`: the state, `TaskDaemon.Store.empty` and `TaskDaemon.Store.demo`;
* `TaskDaemon.Store.create`, `TaskDaemon.Store.update`, `TaskDaemon.Store.delete`: the operations
  that change it; each gives its outcome and the store afterwards;
* `TaskDaemon.Store.list`: the tasks in the order of their creation times.

The entries are a map: nothing depends on their order, and no key stands twice. Ids are the numerals
of the counter and are never given again.
-/

namespace TaskDaemon

/-- **A stored task**, with its place in the order of creation. -/
structure StoredTask where
  /-- The number of the task's creation. -/
  sequence : Nat
  /-- The task. -/
  task : Task
  deriving DecidableEq, Repr

/-- **All tasks of a daemon.** -/
structure Store where
  /-- The tasks under their ids. -/
  entries : List (String × StoredTask)
  /-- The number of tasks ever made. It is kept in a word of 64 bits, and no run that asks for fewer
  than `2 ^ 64` tasks leads beyond that. -/
  counter : Nat
  deriving DecidableEq, Repr

namespace Store

/-- The store without tasks. -/
def empty : Store := ⟨[], 0⟩

/-- The number of tasks. -/
def size (store : Store) : Nat :=
  store.entries.length

/-- The task of an id, if there is one. -/
def get? (store : Store) (id : String) : Option StoredTask :=
  store.entries.lookup id

/-- The entries without those of an id. -/
def without (entries : List (String × StoredTask)) (id : String) : List (String × StoredTask) :=
  entries.filter fun entry => entry.1 ≠ id

/-- **The store with an entry under an id**, in place of any that was there. -/
def put (store : Store) (id : String) (stored : StoredTask) : Store :=
  { store with entries := (id, stored) :: without store.entries id }

/-- Not created later than: by time, and at the same time by the order of creation. -/
def createdBefore (a b : StoredTask) : Bool :=
  match a.task.createdAt.compare b.task.createdAt with
  | .lt => true
  | .gt => false
  | .eq => a.sequence ≤ b.sequence

/-- **All tasks**, the oldest first. -/
def list (store : Store) : List Task :=
  ((store.entries.map Prod.snd).mergeSort createdBefore).map StoredTask.task

/-- **Makes a task**, without a look at its summary. -/
def insert (store : Store) (summary : String) (now : Instant) : Task × Store :=
  let number := store.counter + 1
  let id := Decimal.text number
  let task := Task.new id summary now
  (task, { store.put id ⟨number, task⟩ with counter := number })

/-- **Makes a task** from a draft, unless its summary is blank. -/
def create (store : Store) (draft : TaskDraft) (now : Instant) : Outcome Task × Store :=
  match draft.check with
  | .error error => (.error error, store)
  | .ok () =>
    let (task, store) := store.insert draft.summary now
    (.ok task, store)

/-- **Changes the task of an id**: the fields of the mask, to what the patch gives. -/
def update (store : Store) (id : String) (patch : TaskPatch) (mask : FieldMask) (now : Instant) :
    Outcome Task × Store :=
  match store.get? id with
  | none => (.error (.taskNotFound id), store)
  | some stored =>
    match stored.task.apply (patch.through mask) now with
    | .error error => (.error error, store)
    | .ok task => (.ok task, store.put id { stored with task := task })

/-- **Removes the task of an id.** -/
def delete (store : Store) (id : String) : Outcome Unit × Store :=
  match store.get? id with
  | none => (.error (.taskNotFound id), store)
  | some _ => (.ok (), { store with entries := without store.entries id })

/-- The summaries of the demo tasks. -/
def demoSummaries : List String :=
  ["Get some milk 🥛", "Walk the dog 🐕", "Take over the world! 🌍"]

/-- **The store with the demo tasks**, each made at the time that the clock shows for it. -/
def demo (clock : Nat → Instant) : Store :=
  demoSummaries.zipIdx.foldl (fun store seed => (store.insert seed.1 (clock seed.2)).2) empty

end Store

end TaskDaemon
