import TaskDaemon.Proofs.Store.Identity

/-!
# Times under a clock that does not go back

Nothing was assumed of the clock so far. If its readings never decrease, what a store tells of its
tasks is in order as well: they are listed by their ids, no task was changed before it was made, and
no time of a change is ever taken back.

Only some operations read the clock (`TaskDaemon.Store.reading`): those that make a task or find one
to change. What a store holds was read from it at some time, be it when the store was opened
(`TaskDaemon.Store.Opens`) or by an operation, so the readings that were made so far tell how late
anything in it can be. This is the invariant `TaskDaemon.Store.Timely`:

* every operation keeps it (`TaskDaemon.Store.Timely.perform`), and of every task that was there
  before it leaves one that is at least as old (`TaskDaemon.Store.Follows`);
* so does every run (`TaskDaemon.Store.Timely.run`).

The main result is `TaskDaemon.Store.times_in_order`. Its first part needs no clock: a listing does
not depend on the order in which the entries are come upon.
-/

namespace TaskDaemon

/-- Instants are ordered, so what is earlier than an earlier one is earlier. -/
theorem Instant.le_trans {a b c : Instant} (hab : a ≤ b) (hbc : b ≤ c) : a ≤ c :=
  le_trans' hab hbc

theorem Instant.le_refl (a : Instant) : a ≤ a :=
  (le_iff a a).mpr (Or.inr ⟨rfl, Nat.le_refl _⟩)

/-- **One task is another at a later time**: it was made at the same time, and if it was changed by
then it was changed last then or later. -/
structure Task.Ages (before after : Task) : Prop where
  /-- The time of creation stays. -/
  created : after.createdAt = before.createdAt
  /-- The time of the last change does not go back. -/
  updated : ∀ time ∈ before.updatedAt, ∃ time' ∈ after.updatedAt, time ≤ time'

theorem Task.Ages.refl (task : Task) : task.Ages task :=
  ⟨rfl, fun time htime => ⟨time, htime, time.le_refl⟩⟩

theorem Task.Ages.trans {task task' task'' : Task} (h : task.Ages task') (h' : task'.Ages task'') :
    task.Ages task'' := by
  refine ⟨h'.created.trans h.created, fun time htime => ?_⟩
  obtain ⟨time', htime', hle⟩ := h.updated time htime
  obtain ⟨time'', htime'', hle'⟩ := h'.updated time' htime'
  exact ⟨time'', htime'', Instant.le_trans hle hle'⟩

/-- A task that is changed now gets no older time than it has. -/
theorem Task.ages_revised {task : Task} {now : Instant}
    (h : ∀ time ∈ task.updatedAt, time ≤ now) (patch : TaskPatch) (mask : FieldMask) :
    task.Ages (task.revised patch mask now) := by
  refine ⟨rfl, fun time htime => ?_⟩
  by_cases hcarried : ((mask.summary && patch.summary.isSome) || mask.completedAt) = true
  · exact ⟨now, if_pos hcarried, h time htime⟩
  · exact ⟨time, (if_neg hcarried).trans htime, time.le_refl⟩

namespace Store

/-! ### Readings of the clock -/

/-- **The reading that an operation takes**, if it takes one: for a task that it makes, or for one
that it finds and is to change. -/
def reading (store : Store) (operation : Operation) (now : Instant) : List Instant :=
  match operation with
  | .create draft => if IsBlankText draft.summary.toList then [] else [now]
  | .update id _ _ => if (store.get? id).isSome then [now] else []
  | .delete _ => []
  | .list => []

/-- **The readings of a run**, in order. -/
def readings (store : Store) : List (Operation × Instant) → List Instant
  | [] => []
  | (operation, now) :: later =>
    store.reading operation now ++ (store.perform operation now).2.readings later

/-- **A store is opened** with these readings: none for the empty one, and one for each of the demo
tasks. -/
inductive Opens : List Instant → Store → Prop
  /-- Without tasks. -/
  | empty : Opens [] empty
  /-- With the demo tasks. -/
  | demo (clock : Nat → Instant) : Opens [clock 0, clock 1, clock 2] (demo clock)

/-! ### The invariant -/

/-- **The rows of a store whose times were read in order.** -/
structure Timely (store : Store) (past : List Instant) (rows : List StoredTask) : Prop
    extends store.Rows rows where
  /-- Times of creation were read. -/
  created_mem : ∀ row ∈ rows, row.task.createdAt ∈ past
  /-- Times of changes were read. -/
  updated_mem : ∀ row ∈ rows, ∀ time ∈ row.task.updatedAt, time ∈ past
  /-- What was made later was not made at an earlier time. -/
  sorted : rows.Pairwise fun a b => a.task.createdAt ≤ b.task.createdAt
  /-- Nothing was changed before it was made. -/
  created_le : ∀ row ∈ rows, ∀ time ∈ row.task.updatedAt, row.task.createdAt ≤ time

/-- **Rows follow on others** if each of them that has an old number was there before and has
aged. -/
def Follows (counter : Nat) (rows rows' : List StoredTask) : Prop :=
  ∀ row' ∈ rows', row'.sequence ≤ counter →
    ∃ row ∈ rows, row.sequence = row'.sequence ∧ row.task.Ages row'.task

theorem Follows.refl (counter : Nat) (rows : List StoredTask) : Follows counter rows rows :=
  fun row hrow _ => ⟨row, hrow, rfl, .refl _⟩

theorem Follows.trans {counter counter' : Nat} {rows rows' rows'' : List StoredTask}
    (hle : counter ≤ counter') (h : Follows counter rows rows')
    (h' : Follows counter' rows' rows'') : Follows counter rows rows'' := by
  intro row'' hrow'' hold
  obtain ⟨row', hrow', hnumber', hages'⟩ := h' row'' hrow'' (Nat.le_trans hold hle)
  obtain ⟨row, hrow, hnumber, hages⟩ := h row' hrow' (hnumber' ▸ hold)
  exact ⟨row, hrow, hnumber.trans hnumber', hages.trans hages'⟩

namespace Timely

variable {store : Store} {past : List Instant} {rows : List StoredTask} {now : Instant}

/-- **Listing gives the rows**, since they are sorted. -/
theorem list_eq (h : store.Timely past rows) : store.list = rows.map StoredTask.task := by
  rw [h.toRows.list_eq]
  exact List.mergeSort_of_pairwise (List.pairwise_map.mpr h.sorted)

/-- More readings do no harm. -/
theorem mono (h : store.Timely past rows) (more : List Instant) :
    store.Timely (past ++ more) rows where
  toRows := h.toRows
  created_mem row hrow := List.mem_append_left _ (h.created_mem row hrow)
  updated_mem row hrow time htime := List.mem_append_left _ (h.updated_mem row hrow time htime)
  sorted := h.sorted
  created_le := h.created_le

/-- **A task that is made now comes last.** -/
theorem insert (h : store.Timely past rows) (hpast : ∀ time ∈ past, time ≤ now) (summary : String)
    (hsummary : ¬IsBlankText summary.toList) :
    (store.insert summary now).2.Timely (past ++ [now])
      (rows ++ [⟨store.counter + 1, (store.insert summary now).1⟩]) where
  toRows := h.toRows.insert summary hsummary now
  created_mem := by
    intro row hrow
    rcases List.mem_append.mp hrow with hold | hnew
    · exact List.mem_append_left _ (h.created_mem row hold)
    · rw [List.mem_singleton.mp hnew]
      exact List.mem_append_right _ (List.mem_singleton.mpr rfl)
  updated_mem := by
    intro row hrow time htime
    rcases List.mem_append.mp hrow with hold | hnew
    · exact List.mem_append_left _ (h.updated_mem row hold time htime)
    · rw [List.mem_singleton.mp hnew] at htime
      cases htime
  sorted := by
    refine List.pairwise_append.mpr ⟨h.sorted, List.pairwise_singleton _ _, ?_⟩
    rintro row hrow other hother
    rw [List.mem_singleton.mp hother]
    exact hpast _ (h.created_mem row hrow)
  created_le := by
    intro row hrow time htime
    rcases List.mem_append.mp hrow with hold | hnew
    · exact h.created_le row hold time htime
    · rw [List.mem_singleton.mp hnew] at htime
      cases htime

/-- **A task that is changed now gets the time of now or keeps what it has.** -/
theorem put (h : store.Timely past rows) (hpast : ∀ time ∈ past, time ≤ now) {row : StoredTask}
    (hrow : row ∈ rows) {patch : TaskPatch} {mask : FieldMask} (hfit : patch.blanks mask = false) :
    (store.put row.task.id { row with task := row.task.revised patch mask now }).Timely
      (past ++ [now]) (rows.map (changeAt row.task.id (Task.revised · patch mask now))) := by
  -- A row behind the change was there before, and its new time, if it has one, is now.
  have hcreated : ∀ other : StoredTask,
      (changeAt row.task.id (Task.revised · patch mask now) other).task.createdAt =
        other.task.createdAt := by
    intro other
    unfold changeAt
    split <;> rfl
  have hupdated : ∀ (other : StoredTask) (time : Instant),
      time ∈ (changeAt row.task.id (Task.revised · patch mask now) other).task.updatedAt →
        time = now ∨ time ∈ other.task.updatedAt := by
    intro other time htime
    unfold changeAt at htime
    split at htime
    · change time ∈ (if _ then some now else other.task.updatedAt) at htime
      split at htime
      · exact Or.inl (Option.some.inj htime).symm
      · exact Or.inr htime
    · exact Or.inr htime
  refine
    { toRows := h.toRows.put hrow (Task.revised · patch mask now) (fun _ => rfl)
        (Task.not_blank_revised (h.not_blank row hrow) hfit now)
      created_mem := ?_
      updated_mem := ?_
      sorted := ?_
      created_le := ?_ }
  · rintro _ hmem
    obtain ⟨other, hother, rfl⟩ := List.mem_map.mp hmem
    rw [hcreated]
    exact List.mem_append_left _ (h.created_mem other hother)
  · rintro _ hmem time htime
    obtain ⟨other, hother, rfl⟩ := List.mem_map.mp hmem
    rcases hupdated other time htime with rfl | hold
    · exact List.mem_append_right _ (List.mem_singleton.mpr rfl)
    · exact List.mem_append_left _ (h.updated_mem other hother time hold)
  · refine List.pairwise_map.mpr (h.sorted.imp fun hle => ?_)
    rwa [hcreated, hcreated]
  · rintro _ hmem time htime
    obtain ⟨other, hother, rfl⟩ := List.mem_map.mp hmem
    rw [hcreated]
    rcases hupdated other time htime with rfl | hold
    · exact hpast _ (h.created_mem other hother)
    · exact h.created_le other hother time hold

/-- **A task that is removed leaves all others as they are.** -/
theorem without (h : store.Timely past rows) (id : String) :
    Timely { store with entries := Store.without store.entries id } past
      (rows.filter fun row => row.task.id ≠ id) where
  toRows := h.toRows.without id
  created_mem row hrow := h.created_mem row (List.mem_of_mem_filter hrow)
  updated_mem row hrow := h.updated_mem row (List.mem_of_mem_filter hrow)
  sorted := h.sorted.filter _
  created_le row hrow := h.created_le row (List.mem_of_mem_filter hrow)

/-- **Every operation keeps the times in order**, if its reading is not before those that were made
so far. -/
theorem perform (h : store.Timely past rows) (operation : Operation) (now : Instant)
    (hclock : ∀ time ∈ past, ∀ time' ∈ store.reading operation now, time ≤ time') :
    ∃ rows', (store.perform operation now).2.Timely (past ++ store.reading operation now) rows' ∧
      Follows store.counter rows rows' ∧
      store.counter ≤ (store.perform operation now).2.counter := by
  cases operation with
  | create draft =>
    simp only [Store.perform, reading, create_eq] at hclock ⊢
    by_cases hblank : IsBlankText draft.summary.toList
    · simp only [if_pos hblank]
      exact ⟨rows, h.mono [], .refl _ _, Nat.le_refl _⟩
    · simp only [if_neg hblank] at hclock ⊢
      have hpast : ∀ time ∈ past, time ≤ now := fun time htime => hclock time htime now (by simp)
      refine ⟨_, h.insert hpast draft.summary hblank, ?_, Nat.le_succ _⟩
      intro row' hrow' hold
      rcases List.mem_append.mp hrow' with hmem | hnew
      · exact ⟨row', hmem, rfl, .refl _⟩
      · rw [List.mem_singleton.mp hnew] at hold
        exact absurd hold (Nat.not_succ_le_self _)
  | update id patch mask =>
    simp only [Store.perform, reading] at hclock ⊢
    rcases hfound : store.get? id with _ | row
    · rw [update_of_none hfound]
      exact ⟨rows, h.mono [], .refl _ _, Nat.le_refl _⟩
    · rw [hfound] at hclock
      rw [update_of_some hfound]
      have hpast : ∀ time ∈ past, time ≤ now := fun time htime => hclock time htime now (by simp)
      obtain ⟨hrow, rfl⟩ := h.toRows.get?_eq_some_iff.mp hfound
      rcases hfit : patch.blanks mask with _ | _
      · refine ⟨_, h.put hpast hrow hfit, ?_, Nat.le_refl _⟩
        intro _ hmem _
        obtain ⟨other, hother, rfl⟩ := List.mem_map.mp hmem
        refine ⟨other, hother, (sequence_changeAt ..).symm, ?_⟩
        unfold changeAt
        split
        · exact Task.ages_revised
            (fun time htime => hpast time (h.updated_mem other hother time htime)) patch mask
        · exact .refl _
      · exact ⟨rows, h.mono [now], .refl _ _, Nat.le_refl _⟩
  | delete id =>
    simp only [Store.perform, reading, List.append_nil]
    rcases hfound : store.get? id with _ | row
    · rw [delete_of_none hfound]
      exact ⟨rows, h, .refl _ _, Nat.le_refl _⟩
    · rw [delete_of_some hfound]
      refine ⟨_, h.without id, fun row' hrow' _ => ?_, Nat.le_refl _⟩
      exact ⟨row', List.mem_of_mem_filter hrow', rfl, .refl _⟩
  | list => exact ⟨rows, h.mono [], .refl _ _, Nat.le_refl _⟩

/-- **Every run keeps the times in order**, if its readings never decrease. -/
theorem run (h : store.Timely past rows) (steps : List (Operation × Instant))
    (hclock : (past ++ store.readings steps).Pairwise (· ≤ ·)) :
    ∃ rows', (store.run steps).2.Timely (past ++ store.readings steps) rows' ∧
      Follows store.counter rows rows' ∧ store.counter ≤ (store.run steps).2.counter := by
  induction steps generalizing store past rows with
  | nil => exact ⟨rows, h.mono [], .refl _ _, Nat.le_refl _⟩
  | cons step steps ih =>
    obtain ⟨operation, now⟩ := step
    rw [readings, ← List.append_assoc] at hclock ⊢
    have hstep := (List.pairwise_append.mp (List.pairwise_append.mp hclock).1).2.2
    obtain ⟨rows', h', hfollows, hle⟩ := h.perform operation now hstep
    obtain ⟨rows'', h'', hfollows', hle'⟩ := ih h' hclock
    exact ⟨rows'', h'', hfollows.trans hle hfollows', Nat.le_trans hle hle'⟩

end Timely

/-- A store without tasks has no times. -/
theorem timely_empty : empty.Timely [] [] where
  toRows := rows_empty
  created_mem := by simp
  updated_mem := by simp
  sorted := .nil
  created_le := by simp

/-- **A store is opened with its times in order**, if its readings are. -/
theorem Opens.exists_timely {store : Store} {past : List Instant} (h : Opens past store)
    (hclock : past.Pairwise (· ≤ ·)) : ∃ rows, store.Timely past rows := by
  cases h with
  | empty => exact ⟨[], timely_empty⟩
  | demo clock =>
    obtain ⟨⟨h01, h02⟩, h12⟩ : (clock 0 ≤ clock 1 ∧ clock 0 ≤ clock 2) ∧ clock 1 ≤ clock 2 := by
      simpa using hclock
    have h₁ : Timely _ [clock 0] _ :=
      timely_empty.insert (by simp) "Get some milk 🥛" (by decide)
    have h₂ : Timely _ [clock 0, clock 1] _ :=
      h₁.insert (by simpa using h01) "Walk the dog 🐕" (by decide)
    have h₃ : Timely _ [clock 0, clock 1, clock 2] _ :=
      h₂.insert (by simpa using ⟨h02, h12⟩) "Take over the world! 🌍" (by decide)
    exact ⟨_, h₃⟩

/-- What is opened is as a daemon starts with it. -/
theorem Opens.fresh {store : Store} {past : List Instant} (h : Opens past store) : store.Fresh := by
  cases h with
  | empty => exact .empty
  | demo clock => exact .demo clock

/-- **Times are in order.** After any run of a store that was opened, a listing lists the tasks of
the entries, the same in whatever order these are come upon, and the counter has moved by no more
than the tasks that were asked for. If moreover the readings of the clock never decrease, in the run
and however it goes on, then tasks are listed with growing numbers for ids; none was changed before
it was made; and a task that is listed before and after was made at the same time, and if it was
changed by then, it was changed last then or later. -/
theorem times_in_order {past : List Instant} {start : Store} (hstart : Opens past start)
    (steps : List (Operation × Instant)) :
    let store := (start.run steps).2
    (∀ entries : List (String × StoredTask), entries.Perm store.entries →
      { store with entries := entries }.list = store.list) ∧
    (∀ task, task ∈ store.list ↔ ∃ entry ∈ store.entries, entry.2.task = task) ∧
    (store.counter ≤ start.counter + steps.countP fun step => step.1.creates) ∧
    ∀ later : List (Operation × Instant),
      (past ++ start.readings steps ++ store.readings later).Pairwise (· ≤ ·) →
      (store.list.Pairwise fun a b =>
        ∃ m n, m < n ∧ a.id = Decimal.text m ∧ b.id = Decimal.text n) ∧
      (∀ task ∈ store.list, ∀ time ∈ task.updatedAt, task.createdAt ≤ time) ∧
      ∀ before ∈ store.list, ∀ after ∈ (store.run later).2.list, after.id = before.id →
        after.createdAt = before.createdAt ∧
        ∀ time ∈ before.updatedAt, ∃ time' ∈ after.updatedAt, time ≤ time' := by
  intro store
  refine ⟨fun entries hperm => ?_, fun task => ?_, start.counter_run_le steps,
    fun later hclock => ?_⟩
  · obtain ⟨rows₀, hrows₀, -⟩ := hstart.fresh.exists_rows
    obtain ⟨rows, hrows⟩ := hrows₀.run steps
    have hnodup : ((entries.map Prod.snd).map StoredTask.sequence).Nodup :=
      (((hperm.map _).trans hrows.perm).map _).nodup_iff.mpr hrows.nodup_sequence
    show ((entries.map Prod.snd).mergeSort createdBefore).map _ = store.list
    rw [mergeSort_createdBefore_perm (hperm.map Prod.snd) hnodup]
    rfl
  · simp only [list, List.mem_map, List.mem_mergeSort, exists_exists_and_eq_and]
  · have hfirst := (List.pairwise_append.mp hclock).1
    obtain ⟨rows₀, h₀⟩ := hstart.exists_timely (List.pairwise_append.mp hfirst).1
    obtain ⟨rows, h, -, -⟩ := h₀.run steps hfirst
    obtain ⟨rows', h', hfollows, -⟩ := h.run later hclock
    rw [h.list_eq, h'.list_eq]
    refine ⟨List.pairwise_map.mpr ?_, ?_, ?_⟩
    · refine h.increasing.imp_of_mem fun {a b} ha hb hlt => ?_
      exact ⟨a.sequence, b.sequence, hlt, h.id_eq a ha, h.id_eq b hb⟩
    · rintro _ htask
      obtain ⟨row, hrow, rfl⟩ := List.mem_map.mp htask
      exact h.created_le row hrow
    · rintro _ hbefore _ hafter hid
      obtain ⟨row, hrow, rfl⟩ := List.mem_map.mp hbefore
      obtain ⟨row', hrow', rfl⟩ := List.mem_map.mp hafter
      -- The ids are the same, so the numbers are, and this one was given before.
      have hnumber : row'.sequence = row.sequence := by
        rw [h.id_eq row hrow, h'.id_eq row' hrow'] at hid
        exact Decimal.text_injective hid
      obtain ⟨old, hold, hsame, hages⟩ :=
        hfollows row' hrow' (hnumber ▸ h.le_counter row hrow)
      obtain rfl : old = row :=
        List.inj_on_of_nodup_map h.nodup_sequence hold hrow (hsame.trans hnumber)
      exact ⟨hages.created, hages.updated⟩

/-- Two tasks that are made at the same time, one of which is changed a nanosecond later. -/
theorem times_in_order_tied :
    let store := (empty.run [(.create ⟨"tea"⟩, ⟨5, 0⟩), (.create ⟨"milk"⟩, ⟨5, 0⟩)]).2
    let later : List (Operation × Instant) :=
      [(.update "1" ⟨some "green tea", none⟩ ⟨true, false⟩, ⟨5, 1⟩)]
    Opens [] empty ∧
      (empty.readings [(.create ⟨"tea"⟩, ⟨5, 0⟩), (.create ⟨"milk"⟩, ⟨5, 0⟩)] ++
        store.readings later).Pairwise (· ≤ ·) ∧
      { store with entries := store.entries.reverse }.list = store.list ∧
      (store.list.Pairwise fun a b =>
        ∃ m n, m < n ∧ a.id = Decimal.text m ∧ b.id = Decimal.text n) ∧
      ∀ before ∈ store.list, ∀ after ∈ (store.run later).2.list, after.id = before.id →
        after.createdAt = before.createdAt := by
  intro store later
  have hclock : (empty.readings [(.create ⟨"tea"⟩, ⟨5, 0⟩), (.create ⟨"milk"⟩, ⟨5, 0⟩)] ++
      store.readings later).Pairwise (· ≤ ·) := by
    show ([⟨5, 0⟩, ⟨5, 0⟩] ++ ((if (store.get? "1").isSome then [⟨5, 1⟩] else []) ++ []) :
      List Instant).Pairwise (· ≤ ·)
    split <;> decide
  obtain ⟨hperm, -, -, htimes⟩ :=
    times_in_order .empty [(.create ⟨"tea"⟩, ⟨5, 0⟩), (.create ⟨"milk"⟩, ⟨5, 0⟩)]
  obtain ⟨hids, -, hages⟩ := htimes later hclock
  exact ⟨.empty, hclock, hperm _ (List.reverse_perm _), hids,
    fun before hbefore after hafter hid => (hages before hbefore after hafter hid).1⟩

end Store

end TaskDaemon
