import TaskDaemon.Proofs.Store.Rows
import TaskDaemon.Proofs.Store.Run

/-!
# A store is a ledger

A ledger is the plainest thing that could keep tasks: a list of those that live, in the order in
which they were made, and how many were made in all. Nothing in it is a map, nothing is numbered and
nothing is sorted until it is asked for.

* `TaskDaemon.Ledger`: the list and the count, with its own operations;
* `TaskDaemon.Ledger.Lists`: what a listing of a ledger is: the live tasks, the oldest first, ties
  in the order of creation;
* `TaskDaemon.Store.Reflects`: a store holds what a ledger holds;
* `TaskDaemon.Store.perform_reflects`: every operation answers alike on the two and keeps them so.

The main result is `TaskDaemon.Store.run_empty_reflects`: a store that starts empty cannot be told
from a ledger that does, whatever is asked of them and whatever the clock shows. Where an operation
ends with an error the store stays as it is, the counter included.
-/

namespace TaskDaemon

/-- **The live tasks in the order of creation**, and the number of tasks ever made. -/
structure Ledger where
  /-- The live tasks, in the order in which they were made. -/
  live : List Task
  /-- The number of tasks ever made. -/
  count : Nat
  deriving DecidableEq, Repr

namespace Ledger

/-- The ledger of nothing. -/
def blank : Ledger := ⟨[], 0⟩

/-- **A new task**, unless its summary is blank. -/
def create (ledger : Ledger) (draft : TaskDraft) (now : Instant) : Outcome Task × Ledger :=
  if IsBlankText draft.summary.toList then (.error blankSummary, ledger)
  else
    let task : Task :=
      { id := Decimal.text (ledger.count + 1), summary := draft.summary, createdAt := now }
    (.ok task, ⟨ledger.live ++ [task], ledger.count + 1⟩)

/-- **A change to the live task of an id.** -/
def update (ledger : Ledger) (id : String) (patch : TaskPatch) (mask : FieldMask) (now : Instant) :
    Outcome Task × Ledger :=
  match ledger.live.find? fun task => task.id = id with
  | none => (.error (.taskNotFound id), ledger)
  | some task =>
    if patch.blanks mask then (.error blankSummary, ledger)
    else
      (.ok (task.revised patch mask now),
        { ledger with live := ledger.live.map fun task =>
            if task.id = id then task.revised patch mask now else task })

/-- **The live task of an id lives no more.** -/
def delete (ledger : Ledger) (id : String) : Outcome Unit × Ledger :=
  if ∃ task ∈ ledger.live, task.id = id then
    (.ok (), { ledger with live := ledger.live.filter fun task => task.id ≠ id })
  else (.error (.taskNotFound id), ledger)

/-- **The live tasks, sorted by time.** -/
def list (ledger : Ledger) : List Task :=
  ledger.live.mergeSort fun a b => a.createdAt.le b.createdAt

/-- **One operation** at the time `now`. -/
def perform (ledger : Ledger) (operation : Operation) (now : Instant) : Answer × Ledger :=
  match operation with
  | .create draft =>
    let (outcome, ledger) := ledger.create draft now
    (.created outcome, ledger)
  | .update id patch mask =>
    let (outcome, ledger) := ledger.update id patch mask now
    (.updated outcome, ledger)
  | .delete id =>
    let (outcome, ledger) := ledger.delete id
    (.deleted outcome, ledger)
  | .list => (.listed ledger.list, ledger)

/-- **A run of a ledger.** -/
def run (ledger : Ledger) (steps : List (Operation × Instant)) : List Answer × Ledger :=
  runOn perform ledger steps

/-- **What a listing of a ledger is**: the live tasks and no others, the oldest first, and those of
the same time in the order in which they were made. -/
structure Lists (ledger : Ledger) (tasks : List Task) : Prop where
  /-- The live tasks and no others. -/
  perm : tasks.Perm ledger.live
  /-- The oldest first. -/
  sorted : tasks.Pairwise fun a b => a.createdAt ≤ b.createdAt
  /-- Those of the same time in the order in which they were made. -/
  ties : ∀ time, (tasks.filter fun task => task.createdAt = time) =
    ledger.live.filter fun task => task.createdAt = time

/-- **Sorting by time gives a listing.** -/
theorem lists_list (ledger : Ledger) : ledger.Lists ledger.list := by
  have htrans : ∀ a b c : Task, a.createdAt.le b.createdAt = true →
      b.createdAt.le c.createdAt = true → a.createdAt.le c.createdAt = true :=
    fun _ _ _ => Instant.le_trans'
  have htotal : ∀ a b : Task, (a.createdAt.le b.createdAt || b.createdAt.le a.createdAt) = true :=
    fun _ _ => Instant.le_total' _ _
  have hperm : ledger.list.Perm ledger.live := ledger.live.mergeSort_perm _
  refine ⟨hperm, List.pairwise_mergeSort htrans htotal ledger.live, fun time => ?_⟩
  -- Tasks of one time are sorted as they stand, so the sort keeps them in that order.
  have htied : (ledger.live.filter fun task => task.createdAt = time).Pairwise fun a b =>
      a.createdAt.le b.createdAt = true := by
    refine List.pairwise_of_forall_mem_list fun a ha b hb => ?_
    have ha' : a.createdAt = time := by simpa using (List.mem_filter.mp ha).2
    have hb' : b.createdAt = time := by simpa using (List.mem_filter.mp hb).2
    rw [ha', hb', Instant.le_iff]
    omega
  have hsub : (ledger.live.filter fun task => task.createdAt = time).Sublist ledger.list :=
    List.sublist_mergeSort htrans htotal htied List.filter_sublist
  have hsub' := hsub.filter fun task => decide (task.createdAt = time)
  rw [List.filter_filter] at hsub'
  simp only [Bool.and_self] at hsub'
  exact (hsub'.eq_of_length (hperm.filter _).length_eq.symm).symm

end Ledger

namespace Store

/-! ### A store that holds what a ledger holds -/

/-- **A store holds what a ledger holds.** -/
def Reflects (store : Store) (ledger : Ledger) : Prop :=
  ledger.count = store.counter ∧ ∃ rows, store.Rows rows ∧ ledger.live = rows.map StoredTask.task

theorem reflects_empty : empty.Reflects .blank :=
  ⟨rfl, [], rows_empty, rfl⟩

/-- A store that reflects a ledger finds an id exactly where a live task has it. -/
theorem Reflects.get?_eq_none_iff {store : Store} {ledger : Ledger} (h : store.Reflects ledger)
    (id : String) : store.get? id = none ↔ ∀ task ∈ ledger.live, task.id ≠ id := by
  obtain ⟨-, rows, hrows, hlive⟩ := h
  rw [hrows.get?_eq_none_iff, hlive]
  simp

theorem create_reflects {store : Store} {ledger : Ledger} (h : store.Reflects ledger)
    (draft : TaskDraft) (now : Instant) :
    (store.create draft now).1 = (ledger.create draft now).1 ∧
      (store.create draft now).2.Reflects (ledger.create draft now).2 := by
  obtain ⟨hcount, rows, hrows, hlive⟩ := h
  rw [create_eq]
  unfold Ledger.create
  by_cases hblank : IsBlankText draft.summary.toList
  · rw [if_pos hblank, if_pos hblank]
    exact ⟨rfl, hcount, rows, hrows, hlive⟩
  · rw [if_neg hblank, if_neg hblank, hcount, hlive]
    refine ⟨rfl, rfl, _, hrows.insert draft.summary hblank now, ?_⟩
    rw [List.map_append]
    rfl

theorem update_reflects {store : Store} {ledger : Ledger} (h : store.Reflects ledger) (id : String)
    (patch : TaskPatch) (mask : FieldMask) (now : Instant) :
    (store.update id patch mask now).1 = (ledger.update id patch mask now).1 ∧
      (store.update id patch mask now).2.Reflects (ledger.update id patch mask now).2 := by
  have hnone := h.get?_eq_none_iff id
  obtain ⟨hcount, rows, hrows, hlive⟩ := h
  unfold Ledger.update
  cases hfound : store.get? id with
  | none =>
    have hmissing : (ledger.live.find? fun task => task.id = id) = none := by
      simpa using hnone.mp hfound
    rw [update_of_none hfound, hmissing]
    exact ⟨rfl, hcount, rows, hrows, hlive⟩
  | some row =>
    obtain ⟨hrow, hid⟩ := hrows.get?_eq_some_iff.mp hfound
    have hpresent : (ledger.live.find? fun task => task.id = id) = some row.task := by
      obtain ⟨task, htask⟩ : ∃ task, (ledger.live.find? fun task => task.id = id) = some task := by
        refine Option.isSome_iff_exists.mp (List.find?_isSome.mpr ⟨row.task, ?_, by simpa⟩)
        exact hlive ▸ List.mem_map_of_mem hrow
      have hmem := List.mem_of_find?_eq_some htask
      rw [hlive] at hmem
      obtain ⟨other, hother, rfl⟩ := List.mem_map.mp hmem
      have hid' : other.task.id = id := by simpa using List.find?_some htask
      rw [htask, hrows.eq_of_id hother hrow (hid'.trans hid.symm)]
    rw [update_of_some hfound, hpresent]
    cases hfit : patch.blanks mask with
    | true => exact ⟨rfl, hcount, rows, hrows, hlive⟩
    | false =>
      have hsummary := Task.not_blank_revised (hrows.not_blank row hrow) hfit now
      subst hid
      have hrows' := hrows.put hrow (Task.revised · patch mask now) (fun _ => rfl) hsummary
      refine ⟨rfl, hcount, _, hrows', ?_⟩
      simp only [Bool.false_eq_true, if_false]
      rw [hlive, List.map_map, List.map_map]
      refine List.map_congr_left fun other _ => ?_
      simp only [Function.comp_apply, changeAt]
      split <;> rfl

theorem delete_reflects {store : Store} {ledger : Ledger} (h : store.Reflects ledger)
    (id : String) :
    (store.delete id).1 = (ledger.delete id).1 ∧
      (store.delete id).2.Reflects (ledger.delete id).2 := by
  have hnone := h.get?_eq_none_iff id
  obtain ⟨hcount, rows, hrows, hlive⟩ := h
  unfold Ledger.delete
  cases hfound : store.get? id with
  | none =>
    have hdead : ¬∃ task ∈ ledger.live, task.id = id := by
      rintro ⟨task, htask, hid⟩
      exact hnone.mp hfound task htask hid
    rw [delete_of_none hfound, if_neg hdead]
    exact ⟨rfl, hcount, rows, hrows, hlive⟩
  | some row =>
    obtain ⟨hrow, hid⟩ := hrows.get?_eq_some_iff.mp hfound
    have halive : ∃ task ∈ ledger.live, task.id = id :=
      ⟨row.task, hlive ▸ List.mem_map_of_mem hrow, hid⟩
    rw [delete_of_some hfound, if_pos halive]
    refine ⟨rfl, hcount, _, hrows.without id, ?_⟩
    rw [hlive, List.filter_map]
    rfl

/-- **Every operation answers alike on a store and the ledger it reflects**, and the store reflects
the ledger afterwards. -/
theorem perform_reflects (store : Store) (ledger : Ledger) (operation : Operation) (now : Instant)
    (h : store.Reflects ledger) :
    (store.perform operation now).1 = (ledger.perform operation now).1 ∧
      (store.perform operation now).2.Reflects (ledger.perform operation now).2 := by
  cases operation with
  | create draft =>
    obtain ⟨houtcome, hafter⟩ := create_reflects h draft now
    exact ⟨congrArg Answer.created houtcome, hafter⟩
  | update id patch mask =>
    obtain ⟨houtcome, hafter⟩ := update_reflects h id patch mask now
    exact ⟨congrArg Answer.updated houtcome, hafter⟩
  | delete id =>
    obtain ⟨houtcome, hafter⟩ := delete_reflects h id
    exact ⟨congrArg Answer.deleted houtcome, hafter⟩
  | list =>
    refine ⟨congrArg Answer.listed ?_, h⟩
    obtain ⟨-, rows, hrows, hlive⟩ := h
    rw [hrows.list_eq, Ledger.list, hlive]

/-! ### Runs -/

/-- **A store that starts empty is a ledger**, for every run and every clock: all answers are those
of the ledger, and after the run the counter is the ledger's count, which is no larger than the
number of tasks that were asked for, a listing lists the live tasks, exactly the ids of live tasks
are known, and what ends with an error changes nothing. -/
theorem run_empty_reflects (steps : List (Operation × Instant)) :
    (empty.run steps).1 = (Ledger.blank.run steps).1 ∧
      ((empty.run steps).2.counter = (Ledger.blank.run steps).2.count ∧
        (empty.run steps).2.counter ≤ steps.countP fun step => step.1.creates) ∧
      (Ledger.blank.run steps).2.Lists (empty.run steps).2.list ∧
      (∀ id, (∀ task ∈ (Ledger.blank.run steps).2.live, task.id ≠ id) ↔
        ((empty.run steps).2.delete id).1 = .error (.taskNotFound id)) ∧
      (∀ id patch mask now, (∀ task ∈ (Ledger.blank.run steps).2.live, task.id ≠ id) ↔
        ((empty.run steps).2.update id patch mask now).1 = .error (.taskNotFound id)) ∧
      ∀ operation now error, ((empty.run steps).2.perform operation now).1.error? = some error →
        ((empty.run steps).2.perform operation now).2 = (empty.run steps).2 := by
  obtain ⟨hanswers, hafter⟩ := runOn_related perform_reflects reflects_empty steps
  have hcount := empty.counter_run_le steps
  rw [show empty.counter = 0 from rfl, Nat.zero_add] at hcount
  refine ⟨hanswers, ⟨hafter.1.symm, hcount⟩, ?_, fun id => ?_, fun id patch mask now => ?_,
    fun _ _ _ => perform_of_error⟩
  · have hlisted := (perform_reflects _ _ .list ⟨0, 0⟩ hafter).1
    have hlist : (empty.run steps).2.list = (Ledger.blank.run steps).2.list :=
      Answer.listed.inj hlisted
    rw [hlist]
    exact Ledger.lists_list _
  · exact (hafter.get?_eq_none_iff id).symm.trans (delete_eq_notFound_iff _ id).symm
  · exact (hafter.get?_eq_none_iff id).symm.trans (update_eq_notFound_iff _ id patch mask now).symm

end Store

end TaskDaemon
