import Mathlib.Data.List.Basic
import TaskDaemon.Proofs.Task.Change
import TaskDaemon.Store.Basic

/-!
# Runs of a store

What can be asked of a store, one thing after the other, each at its time. The clock is part of the
run and not of the store: nothing is assumed about its readings, not even that they grow.

* `TaskDaemon.Operation` and `TaskDaemon.Answer`: what is asked, and what comes of it;
* `TaskDaemon.Store.perform`: one operation, which changes nothing where it ends with an error
  (`TaskDaemon.Store.perform_of_error`);
* `TaskDaemon.runOn`: operations one after the other, on any state that can perform them;
* `TaskDaemon.Store.run`: a run of a store.

Two lemmas carry everything that is said about runs: a relation that every operation keeps holds
along a run (`TaskDaemon.runOn_related`), and so does a property that every operation keeps
(`TaskDaemon.runOn_keeps`).

The counter of a store is a natural number, where a daemon has a word of 64 bits. It moves by the
tasks that are made, so a word holds it as long as fewer tasks are asked for
(`TaskDaemon.Store.counter_run_le`).
-/

namespace TaskDaemon

/-! ### Operations -/

/-- **What can be asked of a store.** -/
inductive Operation where
  /-- Make a task. -/
  | create (draft : TaskDraft)
  /-- Change the task of an id. -/
  | update (id : String) (patch : TaskPatch) (mask : FieldMask)
  /-- Remove the task of an id. -/
  | delete (id : String)
  /-- All tasks. -/
  | list
  deriving DecidableEq, Repr

/-- Whether an operation asks for a new task. -/
def Operation.creates : Operation → Bool
  | create _ => true
  | _ => false

/-- **What comes of an operation.** -/
inductive Answer where
  /-- The task that was made. -/
  | created (outcome : Outcome Task)
  /-- The task as it is after a change. -/
  | updated (outcome : Outcome Task)
  /-- A task was removed. -/
  | deleted (outcome : Outcome Unit)
  /-- All tasks. -/
  | listed (tasks : List Task)

namespace Answer

/-- The error an operation ended with, if it did. -/
def error? : Answer → Option Error
  | created (.error error) => some error
  | updated (.error error) => some error
  | deleted (.error error) => some error
  | _ => none

/-- The task that was made, if one was. -/
def made? : Answer → Option Task
  | created (.ok task) => some task
  | _ => none

end Answer

namespace Store

/-- **One operation** at the time `now`. -/
def perform (store : Store) (operation : Operation) (now : Instant) : Answer × Store :=
  match operation with
  | .create draft =>
    let (outcome, store) := store.create draft now
    (.created outcome, store)
  | .update id patch mask =>
    let (outcome, store) := store.update id patch mask now
    (.updated outcome, store)
  | .delete id =>
    let (outcome, store) := store.delete id
    (.deleted outcome, store)
  | .list => (.listed store.list, store)

/-! ### What the operations do -/

/-- **Making a task** is refused for a blank summary only. -/
theorem create_eq (store : Store) (draft : TaskDraft) (now : Instant) :
    store.create draft now =
      if IsBlankText draft.summary.toList then (.error blankSummary, store)
      else (.ok (store.insert draft.summary now).1, (store.insert draft.summary now).2) := by
  unfold create TaskDraft.check
  rw [checkSummary_eq]
  by_cases hblank : IsBlankText draft.summary.toList
  · rw [if_pos hblank, if_pos hblank]
  · rw [if_neg hblank, if_neg hblank]

theorem update_of_none {store : Store} {id : String} (h : store.get? id = none) (patch : TaskPatch)
    (mask : FieldMask) (now : Instant) :
    store.update id patch mask now = (.error (.taskNotFound id), store) := by
  unfold update
  rw [h]

/-- **Changing a task that is there** is refused for a blank summary only. -/
theorem update_of_some {store : Store} {id : String} {row : StoredTask}
    (h : store.get? id = some row) (patch : TaskPatch) (mask : FieldMask) (now : Instant) :
    store.update id patch mask now =
      if patch.blanks mask then (.error blankSummary, store)
      else
        (.ok (row.task.revised patch mask now),
          store.put id { row with task := row.task.revised patch mask now }) := by
  unfold update
  rw [h]
  dsimp only
  rw [Task.apply_through]
  cases patch.blanks mask <;> rfl

theorem delete_of_none {store : Store} {id : String} (h : store.get? id = none) :
    store.delete id = (.error (.taskNotFound id), store) := by
  unfold delete
  rw [h]

theorem delete_of_some {store : Store} {id : String} {row : StoredTask}
    (h : store.get? id = some row) :
    store.delete id = (.ok (), { store with entries := without store.entries id }) := by
  unfold delete
  rw [h]

/-- **An id is told to be unknown exactly where nothing stands under it.** -/
theorem update_eq_notFound_iff (store : Store) (id : String) (patch : TaskPatch) (mask : FieldMask)
    (now : Instant) :
    (store.update id patch mask now).1 = .error (.taskNotFound id) ↔ store.get? id = none := by
  cases h : store.get? id with
  | none => simp [update_of_none h]
  | some row =>
    rw [update_of_some h]
    cases patch.blanks mask <;> simp [blankSummary]

theorem delete_eq_notFound_iff (store : Store) (id : String) :
    (store.delete id).1 = .error (.taskNotFound id) ↔ store.get? id = none := by
  cases h : store.get? id with
  | none => simp [delete_of_none h]
  | some row => simp [delete_of_some h]

/-- **An operation that ends with an error leaves the store as it is**, the counter included. -/
theorem perform_of_error {store : Store} {operation : Operation} {now : Instant} {error : Error}
    (h : (store.perform operation now).1.error? = some error) :
    (store.perform operation now).2 = store := by
  cases operation with
  | create draft =>
    simp only [perform, create_eq] at h ⊢
    by_cases hblank : IsBlankText draft.summary.toList
    · rw [if_pos hblank]
    · rw [if_neg hblank] at h
      cases h
  | update id patch mask =>
    simp only [perform] at h ⊢
    cases hfound : store.get? id with
    | none => rw [update_of_none hfound]
    | some row =>
      rw [update_of_some hfound] at h ⊢
      cases hfit : patch.blanks mask with
      | true => rfl
      | false =>
        rw [hfit] at h
        cases h
  | delete id =>
    simp only [perform] at h ⊢
    cases hfound : store.get? id with
    | none => rw [delete_of_none hfound]
    | some row =>
      rw [delete_of_some hfound] at h
      cases h
  | list => rfl

end Store

/-! ### Runs -/

/-- **The tasks that were made**, in order. -/
def made (answers : List Answer) : List Task :=
  answers.filterMap Answer.made?

/-- **Operations one after the other**, each at its time. -/
def runOn {σ : Type} (perform : σ → Operation → Instant → Answer × σ) (state : σ) :
    List (Operation × Instant) → List Answer × σ
  | [] => ([], state)
  | (operation, now) :: later =>
    let (answer, state) := perform state operation now
    let (answers, state) := runOn perform state later
    (answer :: answers, state)

/-- **A run of a store**: the answers in order, and the store afterwards. -/
def Store.run (store : Store) (steps : List (Operation × Instant)) : List Answer × Store :=
  runOn perform store steps

section Runs

variable {σ τ : Type} {perform : σ → Operation → Instant → Answer × σ}

theorem runOn_cons (state : σ) (step : Operation × Instant) (later : List (Operation × Instant)) :
    runOn perform state (step :: later) =
      ((perform state step.1 step.2).1 :: (runOn perform (perform state step.1 step.2).2 later).1,
        (runOn perform (perform state step.1 step.2).2 later).2) :=
  rfl

/-- **What every operation keeps, every run keeps.** -/
theorem runOn_keeps {Kept : σ → Prop}
    (hstep : ∀ state operation now, Kept state → Kept (perform state operation now).2)
    {state : σ} (h : Kept state) (steps : List (Operation × Instant)) :
    Kept (runOn perform state steps).2 := by
  induction steps generalizing state with
  | nil => exact h
  | cons step steps ih => exact ih (hstep state step.1 step.2 h)

/-- **Two systems whose operations answer alike run alike**: if related states give equal answers
and related states again, then so do runs from related states. -/
theorem runOn_related {perform' : τ → Operation → Instant → Answer × τ} {Related : σ → τ → Prop}
    (hstep : ∀ state state' operation now, Related state state' →
      (perform state operation now).1 = (perform' state' operation now).1 ∧
        Related (perform state operation now).2 (perform' state' operation now).2)
    {state : σ} {state' : τ} (h : Related state state') (steps : List (Operation × Instant)) :
    (runOn perform state steps).1 = (runOn perform' state' steps).1 ∧
      Related (runOn perform state steps).2 (runOn perform' state' steps).2 := by
  induction steps generalizing state state' with
  | nil => exact ⟨rfl, h⟩
  | cons step steps ih =>
    obtain ⟨hanswer, hafter⟩ := hstep state state' step.1 step.2 h
    obtain ⟨hanswers, hlast⟩ := ih hafter
    refine ⟨?_, hlast⟩
    rw [runOn_cons, runOn_cons]
    exact congrArg₂ List.cons hanswer hanswers

end Runs

/-! ### The counter -/

namespace Store

/-- **An operation makes one task at most**, and that one has the next number for an id. -/
theorem perform_made (store : Store) (operation : Operation) (now : Instant) :
    (((store.perform operation now).1.made? = none ∧
        (store.perform operation now).2.counter = store.counter) ∨
      ∃ task, (store.perform operation now).1.made? = some task ∧
        task.id = Decimal.text (store.counter + 1) ∧ operation.creates = true ∧
        (store.perform operation now).2.counter = store.counter + 1) := by
  cases operation with
  | create draft =>
    simp only [perform, create_eq]
    by_cases hblank : IsBlankText draft.summary.toList
    · rw [if_pos hblank]
      exact Or.inl ⟨rfl, rfl⟩
    · rw [if_neg hblank]
      exact Or.inr ⟨_, rfl, rfl, rfl, rfl⟩
  | update id patch mask =>
    simp only [perform]
    cases hfound : store.get? id with
    | none =>
      rw [update_of_none hfound]
      exact Or.inl ⟨rfl, rfl⟩
    | some row =>
      rw [update_of_some hfound]
      cases patch.blanks mask <;> exact Or.inl ⟨rfl, rfl⟩
  | delete id =>
    simp only [perform]
    cases hfound : store.get? id with
    | none =>
      rw [delete_of_none hfound]
      exact Or.inl ⟨rfl, rfl⟩
    | some row =>
      rw [delete_of_some hfound]
      exact Or.inl ⟨rfl, rfl⟩
  | list => exact Or.inl ⟨rfl, rfl⟩

/-- **The counter moves by the tasks that were asked for**, at most. -/
theorem counter_run_le (store : Store) (steps : List (Operation × Instant)) :
    (store.run steps).2.counter ≤ store.counter + steps.countP fun step => step.1.creates := by
  induction steps generalizing store with
  | nil => exact Nat.le_refl _
  | cons step steps ih =>
    have hlater := ih (store.perform step.1 step.2).2
    rw [List.countP_cons]
    rcases store.perform_made step.1 step.2 with ⟨-, hsame⟩ | ⟨-, -, -, hcreates, hnext⟩
    · rw [hsame] at hlater
      exact Nat.le_trans hlater (by omega)
    · rw [hnext] at hlater
      rw [if_pos hcreates]
      exact Nat.le_trans hlater (by omega)

end Store

end TaskDaemon
