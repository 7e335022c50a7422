import Mathlib.Data.List.Nodup
import TaskDaemon.Proofs.Store.Order
import TaskDaemon.Proofs.Task.Change

/-!
# The rows of a store

The entries of a store are a map, and a map has no order. What a store holds is told by a list of
stored tasks in the order of their creation, its *rows* (`TaskDaemon.Store.Rows`): every row stands
under its id and nothing else stands anywhere, numbers grow along the rows and stay within the
counter, ids are the numerals of the numbers, and no summary is blank.

Each operation does to the rows what one expects:

| operation | rows afterwards | theorem |
|---|---|---|
| making a task | one more, at the end | `TaskDaemon.Store.Rows.insert` |
| changing a task | its row changed in place | `TaskDaemon.Store.Rows.put` |
| removing a task | its row left out | `TaskDaemon.Store.Rows.without` |
| listing | sorted by time, ties as they stand | `TaskDaemon.Store.Rows.list_eq` |
-/

namespace TaskDaemon

namespace Store

/-! ### Looking up in entries -/

/-- **Where no key stands twice, looking up a key finds what stands under it.** -/
theorem lookup_eq_some_iff_mem {entries : List (String × StoredTask)}
    (hnodup : (entries.map Prod.fst).Nodup) {id : String} {stored : StoredTask} :
    entries.lookup id = some stored ↔ (id, stored) ∈ entries := by
  induction entries with
  | nil => simp
  | cons entry entries ih =>
    obtain ⟨key, other⟩ := entry
    rw [List.map_cons, List.nodup_cons] at hnodup
    rw [List.lookup_cons, List.mem_cons]
    by_cases hkey : id = key
    · subst hkey
      have habsent : (id, stored) ∉ entries := fun hmem =>
        hnodup.1 (List.mem_map.mpr ⟨(id, stored), hmem, rfl⟩)
      simp [habsent, eq_comm]
    · rw [beq_eq_false_iff_ne.mpr hkey, ih hnodup.2]
      simp [hkey]

theorem mem_without {entries : List (String × StoredTask)} {id : String}
    {entry : String × StoredTask} :
    entry ∈ without entries id ↔ entry ∈ entries ∧ entry.1 ≠ id := by
  simp [without]

theorem nodup_without {entries : List (String × StoredTask)}
    (hnodup : (entries.map Prod.fst).Nodup) (id : String) :
    ((without entries id).map Prod.fst).Nodup :=
  hnodup.sublist (List.filter_sublist.map Prod.fst)

theorem nodup_put {store : Store} (hnodup : (store.entries.map Prod.fst).Nodup) (id : String)
    (stored : StoredTask) : ((store.put id stored).entries.map Prod.fst).Nodup := by
  unfold put
  rw [List.map_cons, List.nodup_cons]
  refine ⟨?_, nodup_without hnodup id⟩
  intro hmem
  obtain ⟨entry, hentry, hid⟩ := List.mem_map.mp hmem
  exact (mem_without.mp hentry).2 hid

theorem mem_put {store : Store} {id : String} {stored : StoredTask}
    {entry : String × StoredTask} :
    entry ∈ (store.put id stored).entries ↔
      entry = (id, stored) ∨ entry ∈ store.entries ∧ entry.1 ≠ id := by
  rw [put, List.mem_cons, mem_without]

/-! ### A row changed in place -/

/-- **A row with its task changed**, if it is the row of the id. -/
def changeAt (id : String) (change : Task → Task) (row : StoredTask) : StoredTask :=
  if row.task.id = id then { row with task := change row.task } else row

theorem changeAt_of_eq {id : String} {change : Task → Task} {row : StoredTask}
    (h : row.task.id = id) : changeAt id change row = { row with task := change row.task } :=
  if_pos h

theorem changeAt_of_ne {id : String} {change : Task → Task} {row : StoredTask}
    (h : row.task.id ≠ id) : changeAt id change row = row :=
  if_neg h

@[simp] theorem sequence_changeAt (id : String) (change : Task → Task) (row : StoredTask) :
    (changeAt id change row).sequence = row.sequence := by
  unfold changeAt
  split <;> rfl

/-! ### Rows -/

/-- **The stored tasks of a store, in the order of their creation.** -/
structure Rows (store : Store) (rows : List StoredTask) : Prop where
  /-- No key stands twice. -/
  nodup_keys : (store.entries.map Prod.fst).Nodup
  /-- Every row stands under its id, and nothing else stands anywhere. -/
  mem_entries : ∀ key stored,
    (key, stored) ∈ store.entries ↔ stored ∈ rows ∧ stored.task.id = key
  /-- Numbers grow along the rows. -/
  increasing : rows.Pairwise fun a b => a.sequence < b.sequence
  /-- Numbers stay within the counter. -/
  le_counter : ∀ row ∈ rows, row.sequence ≤ store.counter
  /-- Ids are the numerals of the numbers. -/
  id_eq : ∀ row ∈ rows, row.task.id = Decimal.text row.sequence
  /-- No summary is blank. -/
  not_blank : ∀ row ∈ rows, ¬IsBlankText row.task.summary.toList

/-- The store without tasks has no rows. -/
theorem rows_empty : Rows empty [] where
  nodup_keys := List.nodup_nil
  mem_entries := by simp [empty]
  increasing := .nil
  le_counter := by simp
  id_eq := by simp
  not_blank := by simp

namespace Rows

variable {store : Store} {rows : List StoredTask}

theorem nodup_sequence (h : Rows store rows) : (rows.map StoredTask.sequence).Nodup :=
  List.pairwise_map.mpr (h.increasing.imp Nat.ne_of_lt)

/-- **An id has one row.** -/
theorem eq_of_id (h : Rows store rows) {a b : StoredTask} (ha : a ∈ rows) (hb : b ∈ rows)
    (hid : a.task.id = b.task.id) : a = b := by
  rw [h.id_eq a ha, h.id_eq b hb] at hid
  exact List.inj_on_of_nodup_map h.nodup_sequence ha hb (Decimal.text_injective hid)

/-- No row has the id that comes next. -/
theorem id_ne_next (h : Rows store rows) {row : StoredTask} (hrow : row ∈ rows) {number : Nat}
    (hnumber : store.counter < number) : row.task.id ≠ Decimal.text number := by
  rw [h.id_eq row hrow]
  intro hid
  have := h.le_counter row hrow
  have := Decimal.text_injective hid
  omega

/-- **Looking up an id** finds its row. -/
theorem get?_eq_some_iff (h : Rows store rows) {id : String} {stored : StoredTask} :
    store.get? id = some stored ↔ stored ∈ rows ∧ stored.task.id = id :=
  (lookup_eq_some_iff_mem h.nodup_keys).trans (h.mem_entries id stored)

theorem get?_eq_none_iff (h : Rows store rows) {id : String} :
    store.get? id = none ↔ ∀ row ∈ rows, row.task.id ≠ id := by
  rw [Option.eq_none_iff_forall_ne_some]
  constructor
  · intro hnone row hrow hid
    exact hnone row (h.get?_eq_some_iff.mpr ⟨hrow, hid⟩)
  · intro hall stored hstored
    obtain ⟨hrow, hid⟩ := h.get?_eq_some_iff.mp hstored
    exact hall stored hrow hid

/-- **Making a task adds a row at the end.** -/
theorem insert (h : Rows store rows) (summary : String) (hsummary : ¬IsBlankText summary.toList)
    (now : Instant) :
    Rows (store.insert summary now).2
      (rows ++ [⟨store.counter + 1, (store.insert summary now).1⟩]) := by
  set made : StoredTask := ⟨store.counter + 1, (store.insert summary now).1⟩ with hmade
  have hid : made.task.id = Decimal.text (store.counter + 1) := rfl
  have hrow : ∀ row ∈ rows ++ [made], row ∈ rows ∨ row = made := by
    intro row hrow
    simpa using hrow
  refine
    { nodup_keys := nodup_put h.nodup_keys _ _
      mem_entries := fun key stored => ?_
      increasing := ?_
      le_counter := fun row hmem => ?_
      id_eq := fun row hmem => ?_
      not_blank := fun row hmem => ?_ }
  · refine mem_put.trans ?_
    rw [Prod.mk.injEq, h.mem_entries, List.mem_append, List.mem_singleton]
    constructor
    · rintro (⟨rfl, rfl⟩ | ⟨⟨hstored, hkey⟩, -⟩)
      · exact ⟨Or.inr rfl, hid⟩
      · exact ⟨Or.inl hstored, hkey⟩
    · rintro ⟨hstored | hstored, hkey⟩
      · refine Or.inr ⟨⟨hstored, hkey⟩, ?_⟩
        exact hkey ▸ h.id_ne_next hstored (Nat.lt_succ_self _)
      · exact Or.inl ⟨by rw [← hkey, hstored, hid], hstored⟩
  · refine List.pairwise_append.mpr ⟨h.increasing, List.pairwise_singleton _ _, ?_⟩
    intro row hrow other hother
    rw [List.mem_singleton.mp hother]
    exact Nat.lt_succ_of_le (h.le_counter row hrow)
  · rcases hrow row hmem with hold | rfl
    · exact Nat.le_succ_of_le (h.le_counter row hold)
    · exact Nat.le_refl _
  · rcases hrow row hmem with hold | rfl
    · exact h.id_eq row hold
    · exact hid
  · rcases hrow row hmem with hold | rfl
    · exact h.not_blank row hold
    · exact hsummary

/-- **Changing a task changes its row in place.** -/
theorem put (h : Rows store rows) {row : StoredTask} (hrow : row ∈ rows) (change : Task → Task)
    (hid : ∀ task, (change task).id = task.id)
    (hsummary : ¬IsBlankText (change row.task).summary.toList) :
    Rows (store.put row.task.id { row with task := change row.task })
      (rows.map (changeAt row.task.id change)) := by
  have hself : changeAt row.task.id change row = { row with task := change row.task } :=
    changeAt_of_eq rfl
  -- A row behind the change is the one that was asked for, or one that stayed.
  have hcases : ∀ stored ∈ rows.map (changeAt row.task.id change),
      stored = { row with task := change row.task } ∨
        stored ∈ rows ∧ stored.task.id ≠ row.task.id := by
    intro stored hstored
    obtain ⟨other, hother, rfl⟩ := List.mem_map.mp hstored
    by_cases hsame : other.task.id = row.task.id
    · rw [h.eq_of_id hother hrow hsame, hself]
      exact Or.inl rfl
    · rw [changeAt_of_ne hsame]
      exact Or.inr ⟨hother, hsame⟩
  refine
    { nodup_keys := nodup_put h.nodup_keys _ _
      mem_entries := fun key stored => ?_
      increasing := ?_
      le_counter := fun stored hmem => ?_
      id_eq := fun stored hmem => ?_
      not_blank := fun stored hmem => ?_ }
  · refine mem_put.trans ?_
    rw [Prod.mk.injEq, h.mem_entries]
    constructor
    · rintro (⟨rfl, rfl⟩ | ⟨⟨hstored, hkey⟩, hne⟩)
      · exact ⟨List.mem_map.mpr ⟨row, hrow, hself⟩, hid row.task⟩
      · exact ⟨List.mem_map.mpr ⟨stored, hstored, changeAt_of_ne (hkey ▸ hne)⟩, hkey⟩
    · rintro ⟨hstored, rfl⟩
      rcases hcases stored hstored with rfl | ⟨hold, hne⟩
      · exact Or.inl ⟨hid row.task, rfl⟩
      · exact Or.inr ⟨⟨hold, rfl⟩, hne⟩
  · refine List.pairwise_map.mpr (h.increasing.imp fun hlt => ?_)
    rwa [sequence_changeAt, sequence_changeAt]
  · rcases hcases stored hmem with rfl | ⟨hold, -⟩
    · exact h.le_counter row hrow
    · exact h.le_counter stored hold
  · rcases hcases stored hmem with rfl | ⟨hold, -⟩
    · exact (hid row.task).trans (h.id_eq row hrow)
    · exact h.id_eq stored hold
  · rcases hcases stored hmem with rfl | ⟨hold, -⟩
    · exact hsummary
    · exact h.not_blank stored hold

/-- **Removing a task leaves its row out.** -/
theorem without (h : Rows store rows) (id : String) :
    Rows { store with entries := Store.without store.entries id }
      (rows.filter fun row => row.task.id ≠ id) := by
  have hold : ∀ {row}, (row ∈ rows.filter fun row => row.task.id ≠ id) → row ∈ rows :=
    List.mem_of_mem_filter
  refine
    { nodup_keys := nodup_without h.nodup_keys id
      mem_entries := fun key stored => ?_
      increasing := h.increasing.filter _
      le_counter := fun row hmem => h.le_counter row (hold hmem)
      id_eq := fun row hmem => h.id_eq row (hold hmem)
      not_blank := fun row hmem => h.not_blank row (hold hmem) }
  refine mem_without.trans ?_
  rw [h.mem_entries, List.mem_filter, decide_eq_true_eq]
  constructor
  · rintro ⟨⟨hstored, rfl⟩, hne⟩
    exact ⟨⟨hstored, hne⟩, rfl⟩
  · rintro ⟨⟨hstored, hne⟩, rfl⟩
    exact ⟨⟨hstored, rfl⟩, hne⟩

/-- The entries hold the rows, in some order. -/
theorem perm (h : Rows store rows) : (store.entries.map Prod.snd).Perm rows := by
  have hentries : store.entries.Perm (rows.map fun row => (row.task.id, row)) := by
    have hnodup : (rows.map fun row => (row.task.id, row)).Nodup :=
      (List.Nodup.of_map _ h.nodup_sequence).map fun a b hab => congrArg Prod.snd hab
    refine (List.perm_ext_iff_of_nodup (List.Nodup.of_map _ h.nodup_keys) hnodup).mpr ?_
    intro ⟨key, stored⟩
    rw [h.mem_entries, List.mem_map]
    constructor
    · rintro ⟨hstored, rfl⟩
      exact ⟨stored, hstored, rfl⟩
    · rintro ⟨row, hrow, heq⟩
      obtain ⟨rfl, rfl⟩ := Prod.mk.inj heq
      exact ⟨hrow, rfl⟩
  have hmap := hentries.map Prod.snd
  rwa [List.map_map, show Prod.snd ∘ (fun row : StoredTask => (row.task.id, row)) = id from rfl,
    List.map_id] at hmap

/-- **Listing sorts the rows by time**, and leaves ties as they stand. -/
theorem list_eq (h : Rows store rows) :
    store.list = (rows.map StoredTask.task).mergeSort fun a b => a.createdAt.le b.createdAt := by
  unfold list
  have hnodup : ((store.entries.map Prod.snd).map StoredTask.sequence).Nodup :=
    (h.perm.map StoredTask.sequence).nodup_iff.mpr h.nodup_sequence
  rw [mergeSort_createdBefore_perm h.perm hnodup, mergeSort_createdBefore_eq h.increasing]
  exact List.map_mergeSort fun a _ b _ => rfl

/-- What is listed is what the rows hold. -/
theorem mem_list_iff (h : Rows store rows) {task : Task} :
    task ∈ store.list ↔ ∃ row ∈ rows, row.task = task := by
  rw [h.list_eq, List.mem_mergeSort, List.mem_map]

end Rows

end Store

end TaskDaemon
