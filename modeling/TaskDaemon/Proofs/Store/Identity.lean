import TaskDaemon.Proofs.Store.Ledger

/-!
# Ids are given once

The ids of a store are the numerals of a counter that only grows, so an id names one task for all
time. This file follows that through runs, from a store as a daemon starts with it
(`TaskDaemon.Store.Fresh`): nothing or the demo tasks.

* The tasks made in a run have the numerals that come next, one after the other, whatever was
  refused or removed in between (`TaskDaemon.Store.map_id_made_run`).
* An id that was given and stands nowhere is spent (`TaskDaemon.Store.Spent`), and no operation ever
  brings it back (`TaskDaemon.Store.perform_spent`).

The main result is `TaskDaemon.Store.ids_given_once`, with the rows of
`TaskDaemon.Store.Rows` as the invariant behind it.
-/

namespace TaskDaemon

namespace Store

/-! ### Ids that are given -/

/-- **The tasks made in a run have the numerals that come next**, and the counter ends behind the
last of them. -/
theorem map_id_made_run (store : Store) (steps : List (Operation × Instant)) :
    (made (store.run steps).1).map Task.id =
        (List.range' (store.counter + 1) (made (store.run steps).1).length).map Decimal.text ∧
      (store.run steps).2.counter = store.counter + (made (store.run steps).1).length := by
  induction steps generalizing store with
  | nil => exact ⟨rfl, rfl⟩
  | cons step steps ih =>
    obtain ⟨hids, hcounter⟩ := ih (store.perform step.1 step.2).2
    unfold run at hids hcounter ⊢
    rw [runOn_cons]
    rcases store.perform_made step.1 step.2 with ⟨hnone, hsame⟩ | ⟨task, hsome, hid, -, hnext⟩
    · rw [hsame] at hids hcounter
      have hmade : ∀ answers, made ((store.perform step.1 step.2).1 :: answers) = made answers :=
        fun answers => List.filterMap_cons_none hnone
      rw [hmade]
      exact ⟨hids, hcounter⟩
    · rw [hnext] at hids hcounter
      have hmade : ∀ answers,
          made ((store.perform step.1 step.2).1 :: answers) = task :: made answers :=
        fun answers => List.filterMap_cons_some hsome
      rw [hmade, List.map_cons, List.length_cons, List.range'_succ, List.map_cons, hids, hid]
      exact ⟨rfl, by rw [hcounter]; omega⟩

/-! ### Spent ids -/

theorem lookup_without (entries : List (String × StoredTask)) (id other : String) :
    (without entries other).lookup id = if id = other then none else entries.lookup id := by
  induction entries with
  | nil => simp [without]
  | cons entry entries ih =>
    obtain ⟨key, stored⟩ := entry
    by_cases hother : key = other
    · have hskip : without ((key, stored) :: entries) other = without entries other :=
        List.filter_cons_of_neg (by simp [hother])
      rw [hskip, ih, List.lookup_cons]
      by_cases hid : id = other
      · rw [if_pos hid, if_pos hid]
      · rw [if_neg hid, if_neg hid, beq_eq_false_iff_ne.mpr (hother ▸ hid)]
    · have hkeep : without ((key, stored) :: entries) other =
          (key, stored) :: without entries other :=
        List.filter_cons_of_pos (by simp [hother])
      rw [hkeep, List.lookup_cons, List.lookup_cons, ih]
      by_cases hid : id = key
      · subst hid
        simp [hother]
      · rw [beq_eq_false_iff_ne.mpr hid]

/-- **What stands under an id** once something was put under another or the same. -/
theorem get?_put (store : Store) (id other : String) (stored : StoredTask) :
    (store.put other stored).get? id = if id = other then some stored else store.get? id := by
  unfold get? put
  rw [List.lookup_cons, lookup_without]
  by_cases hid : id = other
  · simp [hid]
  · rw [beq_eq_false_iff_ne.mpr hid, if_neg hid, if_neg hid]

/-- **A spent id**: nothing stands under it, and the numbers that come next are not it. -/
def Spent (store : Store) (id : String) : Prop :=
  store.get? id = none ∧ ∀ number, store.counter < number → Decimal.text number ≠ id

/-- **The id of a removed task is spent.** -/
theorem Rows.spent_delete {store : Store} {rows : List StoredTask} (h : store.Rows rows)
    {id : String} (hdeleted : (store.delete id).1 = .ok ()) : (store.delete id).2.Spent id := by
  cases hfound : store.get? id with
  | none =>
    rw [delete_of_none hfound] at hdeleted
    cases hdeleted
  | some row =>
    rw [delete_of_some hfound]
    obtain ⟨hrow, rfl⟩ := h.get?_eq_some_iff.mp hfound
    refine ⟨?_, fun number hnumber => (h.id_ne_next hrow hnumber).symm⟩
    exact (lookup_without _ _ _).trans (if_pos rfl)

/-- **No operation brings a spent id back.** -/
theorem perform_spent {id : String} (store : Store) (operation : Operation) (now : Instant)
    (h : store.Spent id) : (store.perform operation now).2.Spent id := by
  obtain ⟨hnone, hnext⟩ := h
  cases operation with
  | create draft =>
    simp only [perform, create_eq]
    by_cases hblank : IsBlankText draft.summary.toList
    · rw [if_pos hblank]
      exact ⟨hnone, hnext⟩
    · rw [if_neg hblank]
      refine ⟨?_, fun number hnumber => hnext number (Nat.lt_of_succ_lt hnumber)⟩
      refine (get?_put store id _ _).trans ((if_neg ?_).trans hnone)
      exact (hnext (store.counter + 1) (Nat.lt_succ_self _)).symm
  | update other patch mask =>
    simp only [perform]
    cases hfound : store.get? other with
    | none =>
      rw [update_of_none hfound]
      exact ⟨hnone, hnext⟩
    | some row =>
      rw [update_of_some hfound]
      cases patch.blanks mask with
      | true => exact ⟨hnone, hnext⟩
      | false =>
        refine ⟨(get?_put store id other _).trans ((if_neg ?_).trans hnone), hnext⟩
        rintro rfl
        rw [hnone] at hfound
        cases hfound
  | delete other =>
    simp only [perform]
    cases hfound : store.get? other with
    | none =>
      rw [delete_of_none hfound]
      exact ⟨hnone, hnext⟩
    | some row =>
      rw [delete_of_some hfound]
      refine ⟨(lookup_without store.entries id other).trans ?_, hnext⟩
      split
      · rfl
      · exact hnone
  | list => exact ⟨hnone, hnext⟩

/-! ### Runs from the start of a daemon -/

/-- **A store as a daemon starts with it.** -/
inductive Fresh : Store → Prop
  /-- Without tasks. -/
  | empty : Fresh empty
  /-- With the demo tasks, whatever the clock shows meanwhile. -/
  | demo (clock : Nat → Instant) : Fresh (demo clock)

/-- **A fresh store has rows**, and they are numbered from one to its counter. -/
theorem Fresh.exists_rows {store : Store} (h : store.Fresh) :
    ∃ rows, store.Rows rows ∧ rows.map StoredTask.sequence = List.range' 1 store.counter := by
  cases h with
  | empty => exact ⟨[], rows_empty, rfl⟩
  | demo clock =>
    have h₁ := rows_empty.insert "Get some milk 🥛" (by decide) (clock 0)
    have h₂ := h₁.insert "Walk the dog 🐕" (by decide) (clock 1)
    have h₃ := h₂.insert "Take over the world! 🌍" (by decide) (clock 2)
    exact ⟨_, h₃, rfl⟩

/-- **Rows last**: what has rows has rows after every run. -/
theorem Rows.run {store : Store} {rows : List StoredTask} (h : store.Rows rows)
    (steps : List (Operation × Instant)) : ∃ rows', (store.run steps).2.Rows rows' := by
  have hreflects : store.Reflects ⟨rows.map StoredTask.task, store.counter⟩ :=
    ⟨rfl, rows, h, rfl⟩
  obtain ⟨-, -, rows', hrows', -⟩ := runOn_related perform_reflects hreflects steps
  exact ⟨rows', hrows'⟩

/-- **Ids are given once.** After any run from a fresh store, as long as 64 bits can count the tasks
that were asked for: what is stored stands under its own id, which is the numeral of its number; the
n-th task that was ever made has the numeral of n, so no two have the same id; and the id of a
removed task stays unknown and unlisted however the run goes on. -/
theorem ids_given_once {start : Store} (hstart : start.Fresh) (steps : List (Operation × Instant))
    (hfew : (start.counter + steps.countP fun step => step.1.creates) < Nat.pow 2 64) :
    ((start.run steps).2.counter < Nat.pow 2 64 ∧
      ((start.run steps).2.entries.map Prod.fst).Nodup ∧
      ∀ key stored, (key, stored) ∈ (start.run steps).2.entries →
        stored.task.id = key ∧ stored.task.id = Decimal.text stored.sequence ∧
          stored.sequence ≤ (start.run steps).2.counter ∧
          ¬IsBlankText stored.task.summary.toList) ∧
      ((∀ number, 1 ≤ number → number ≤ start.counter →
          ∃ stored, start.get? (Decimal.text number) = some stored ∧ stored.sequence = number) ∧
        (∀ n task, (made (start.run steps).1)[n]? = some task →
          task.id = Decimal.text (start.counter + n + 1)) ∧
        ((made (start.run steps).1).map Task.id).Nodup) ∧
      ∀ id, ((start.run steps).2.delete id).1 = .ok () → ∀ later,
        (∀ patch mask now,
          ((((start.run steps).2.delete id).2.run later).2.update id patch mask now).1 =
            .error (.taskNotFound id)) ∧
          ((((start.run steps).2.delete id).2.run later).2.delete id).1 =
            .error (.taskNotFound id) ∧
          ∀ task ∈ (((start.run steps).2.delete id).2.run later).2.list, task.id ≠ id := by
  obtain ⟨rows₀, hrows₀, hnumbers⟩ := hstart.exists_rows
  obtain ⟨rows, hrows⟩ := hrows₀.run steps
  obtain ⟨hids, -⟩ := start.map_id_made_run steps
  refine ⟨⟨?_, hrows.nodup_keys, fun key stored hmem => ?_⟩, ⟨fun number hone hle => ?_,
    fun n task htask => ?_, ?_⟩, fun id hdeleted later => ?_⟩
  · exact Nat.lt_of_le_of_lt (start.counter_run_le steps) hfew
  · obtain ⟨hrow, hkey⟩ := (hrows.mem_entries key stored).mp hmem
    exact ⟨hkey, hrows.id_eq stored hrow, hrows.le_counter stored hrow,
      hrows.not_blank stored hrow⟩
  · have hmem : number ∈ rows₀.map StoredTask.sequence := by
      rw [hnumbers, List.mem_range'_1]
      omega
    obtain ⟨row, hrow, rfl⟩ := List.mem_map.mp hmem
    exact ⟨row, hrows₀.get?_eq_some_iff.mpr ⟨hrow, hrows₀.id_eq row hrow⟩, rfl⟩
  · have hget := congrArg (·[n]?) hids
    have hlt : n < (made (start.run steps).1).length := (List.getElem?_eq_some_iff.mp htask).1
    simp only [List.getElem?_map, htask, Option.map_some] at hget
    rw [List.getElem?_range' hlt] at hget
    have hid : task.id = Decimal.text (start.counter + 1 + 1 * n) := by simpa using hget
    rw [hid]
    congr 1
    omega
  · rw [hids]
    exact List.Nodup.map (fun _ _ => Decimal.text_injective) List.nodup_range'
  · obtain ⟨rows', hrows'⟩ : ∃ rows', ((start.run steps).2.delete id).2.Rows rows' :=
      hrows.run [(.delete id, ⟨0, 0⟩)]
    obtain ⟨rows'', hrows''⟩ := hrows'.run later
    have hspent : (((start.run steps).2.delete id).2.run later).2.Spent id :=
      runOn_keeps perform_spent (hrows.spent_delete hdeleted) later
    refine ⟨fun patch mask now => (update_eq_notFound_iff _ id patch mask now).mpr hspent.1,
      (delete_eq_notFound_iff _ id).mpr hspent.1, fun task htask => ?_⟩
    obtain ⟨row, hrow, rfl⟩ := hrows''.mem_list_iff.mp htask
    exact hrows''.get?_eq_none_iff.mp hspent.1 row hrow

/-- A demo task that was removed stays unknown when tasks are made after it. -/
theorem ids_given_once_demo :
    (demo fun _ => ⟨0, 0⟩).Fresh ∧
      (((demo fun _ => ⟨0, 0⟩).run [(.create ⟨" "⟩, ⟨5, 0⟩)]).2.delete "2").1 = .ok () ∧
      (((((demo fun _ => ⟨0, 0⟩).run [(.create ⟨" "⟩, ⟨5, 0⟩)]).2.delete "2").2.run
        [(.create ⟨"tea"⟩, ⟨4, 0⟩)]).2.delete "2").1 = .error (.taskNotFound "2") := by
  have hsame : ((demo fun _ => ⟨0, 0⟩).run [(.create ⟨" "⟩, ⟨5, 0⟩)]).2 = demo fun _ => ⟨0, 0⟩ :=
    rfl
  have hdeleted : (((demo fun _ => ⟨0, 0⟩).run [(.create ⟨" "⟩, ⟨5, 0⟩)]).2.delete "2").1 =
      .ok () := by
    have hnumbers := (ids_given_once (.demo fun _ => ⟨0, 0⟩) [] (by decide)).2.1.1
    obtain ⟨stored, hget, -⟩ := hnumbers 2 (by decide) (by decide)
    have htwo : Decimal.text 2 = "2" := by
      rw [Decimal.text, Decimal.chars, Decimal.digits]
      rfl
    rw [htwo] at hget
    rw [hsame, delete_of_some hget]
  refine ⟨.demo _, hdeleted, ?_⟩
  exact ((ids_given_once (.demo fun _ => ⟨0, 0⟩) [(.create ⟨" "⟩, ⟨5, 0⟩)]
    (by decide)).2.2 "2" hdeleted [(.create ⟨"tea"⟩, ⟨4, 0⟩)]).2.1

end Store

end TaskDaemon
