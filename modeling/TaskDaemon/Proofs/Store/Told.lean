import TaskDaemon.Proofs.Store.Rows
import TaskDaemon.Proofs.Store.Run
import TaskDaemon.Proofs.Time.Timestamp

/-!
# Times that a text can tell

A store whose times can all be told by a text (`TaskDaemon.Store.IsTold`) is left so by every
operation that is given such times, and gives out only tasks that are so
(`TaskDaemon.Store.IsTold.create`, `TaskDaemon.Store.IsTold.update`,
`TaskDaemon.Store.IsTold.delete`, `TaskDaemon.Store.IsTold.list`).
-/

namespace TaskDaemon

/-- **A task that a text can tell**: its times are such instants. -/
structure Task.IsTold (task : Task) : Prop where
  createdAt : task.createdAt.IsTold
  updatedAt : ∀ time ∈ task.updatedAt, time.IsTold
  completedAt : ∀ time ∈ task.completedAt, time.IsTold

/-- **A patch that a text can tell**: if it gives a time, it is such an instant. -/
def TaskPatch.IsTold (patch : TaskPatch) : Prop :=
  ∀ time ∈ patch.completedAt, time.IsTold

/-- **A store that a text can tell**: all its tasks are such tasks. -/
def Store.IsTold (store : Store) : Prop :=
  ∀ entry ∈ store.entries, entry.2.task.IsTold

/-- A task changed at a time that can be told. -/
theorem Task.IsTold.revised {task : Task} (h : task.IsTold) {patch : TaskPatch}
    (hpatch : patch.IsTold) (mask : FieldMask) {now : Instant} (hnow : now.IsTold) :
    (task.revised patch mask now).IsTold := by
  refine ⟨h.createdAt, ?_, ?_⟩
  · intro time htime
    unfold Task.revised at htime
    dsimp only at htime
    split at htime
    · obtain rfl := Option.some.inj htime
      exact hnow
    · exact h.updatedAt time htime
  · intro time htime
    unfold Task.revised at htime
    dsimp only at htime
    split at htime
    · exact hpatch time htime
    · exact h.completedAt time htime

namespace Store

variable {store : Store} {now : Instant}

theorem IsTold.put (h : store.IsTold) (stored : StoredTask) (hstored : stored.task.IsTold)
    (id : String) : (store.put id stored).IsTold := by
  intro entry hentry
  rcases mem_put.mp hentry with rfl | ⟨hmem, -⟩
  · exact hstored
  · exact h entry hmem

/-- What stands under an id can be told. -/
theorem IsTold.of_get? (h : store.IsTold) {id : String} {row : StoredTask}
    (hrow : store.get? id = some row) : row.task.IsTold := by
  obtain ⟨before, after, hentries, -⟩ := List.lookup_eq_some_iff.mp hrow
  refine h (id, row) ?_
  rw [hentries]
  exact List.mem_append_right before List.mem_cons_self

/-- **Making a task.** -/
theorem IsTold.create (h : store.IsTold) (hnow : now.IsTold) (draft : TaskDraft) :
    (store.create draft now).2.IsTold ∧
      ∀ task, (store.create draft now).1 = .ok task → task.IsTold := by
  have hnew : ∀ id, (Task.new id draft.summary now).IsTold := fun _ => ⟨hnow, nofun, nofun⟩
  rw [create_eq]
  split
  · exact ⟨h, nofun⟩
  · refine ⟨fun entry hentry => ?_, fun task htask => ?_⟩
    · exact (h.put ⟨store.counter + 1, _⟩ (hnew _) _) entry hentry
    · obtain rfl := Except.ok.inj htask
      exact hnew _

/-- **Changing a task.** -/
theorem IsTold.update (h : store.IsTold) (hnow : now.IsTold) (id : String) {patch : TaskPatch}
    (hpatch : patch.IsTold) (mask : FieldMask) :
    (store.update id patch mask now).2.IsTold ∧
      ∀ task, (store.update id patch mask now).1 = .ok task → task.IsTold := by
  cases hfound : store.get? id with
  | none =>
    rw [update_of_none hfound]
    exact ⟨h, nofun⟩
  | some row =>
    have hrevised := (h.of_get? hfound).revised hpatch mask hnow
    rw [update_of_some hfound]
    split
    · exact ⟨h, nofun⟩
    · refine ⟨h.put ⟨row.sequence, _⟩ hrevised id, fun task htask => ?_⟩
      obtain rfl := Except.ok.inj htask
      exact hrevised

/-- **Removing a task.** -/
theorem IsTold.delete (h : store.IsTold) (id : String) : (store.delete id).2.IsTold := by
  cases hfound : store.get? id with
  | none =>
    rw [delete_of_none hfound]
    exact h
  | some row =>
    rw [delete_of_some hfound]
    exact fun entry hentry => h entry (mem_without.mp hentry).1

/-- **The tasks that are listed.** -/
theorem IsTold.list (h : store.IsTold) : ∀ task ∈ store.list, task.IsTold := by
  intro task htask
  obtain ⟨row, hrow, rfl⟩ := List.mem_map.mp htask
  obtain ⟨entry, hentry, rfl⟩ := List.mem_map.mp (List.mem_mergeSort.mp hrow)
  exact h entry hentry

end Store

end TaskDaemon
