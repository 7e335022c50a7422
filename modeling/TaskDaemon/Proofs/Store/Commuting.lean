import TaskDaemon.Proofs.Store.Identity
import TaskDaemon.Proofs.Task.Masked

/-!
# Requests that may come in either order

Requests reach a store from several connections at once, and which of two comes first is left to
chance. This file says when it does not matter.

An operation *concerns* the ids of the tasks that it makes, changes, removes or lists
(`TaskDaemon.Store.Concerns`), and two operations are *apart* if no id concerns both
(`TaskDaemon.Store.Apart`). That they commute is seen on the ledger that the store reflects, where
to change or to remove a task is to *visit* its id (`TaskDaemon.Ledger.Visit`): the answer is told
by the live task of that id, and no task but this one is touched. So

* visits to different ids commute (`TaskDaemon.Ledger.Visit.commutes`);
* a task that is made is put behind all others, where a visit to another id does not come
  (`TaskDaemon.Ledger.Visit.commutes_create`).

Two changes of one task are not apart. If they name no field in common they write different fields
(`TaskDaemon.Task.undated_amended_comm`), and only the time of the last change tells which of them
came last (`TaskDaemon.Task.updatedAt_amended`).

The main result is `TaskDaemon.Store.commute_of_apart`.
-/

namespace TaskDaemon

/-- **Two steps commute** from a state: each gives the same answer first and last, and the state is
the same after both. -/
structure Commutes {σ α : Type} (state : σ) (act act' : σ → α × σ) : Prop where
  /-- The one gives the same answer behind the other. -/
  answer : (act (act' state).2).1 = (act state).1
  /-- The other gives the same answer behind the one. -/
  answer' : (act' (act state).2).1 = (act' state).1
  /-- The state is the same in the end. -/
  after : (act' (act state).2).2 = (act (act' state).2).2

theorem Commutes.symm {σ α : Type} {state : σ} {act act' : σ → α × σ}
    (h : Commutes state act act') : Commutes state act' act :=
  ⟨h.answer', h.answer, h.after.symm⟩

namespace Ledger

/-! ### Making tasks -/

/-- The task that a draft becomes. -/
def next (ledger : Ledger) (draft : TaskDraft) (now : Instant) : Task where
  id := Decimal.text (ledger.count + 1)
  summary := draft.summary
  createdAt := now

/-- **Making a task puts it behind all others**, or changes nothing. -/
theorem perform_create (ledger : Ledger) (draft : TaskDraft) (now : Instant) :
    ledger.perform (.create draft) now =
      if IsBlankText draft.summary.toList then (.created (.error blankSummary), ledger)
      else (.created (.ok (ledger.next draft now)),
        ⟨ledger.live ++ [ledger.next draft now], ledger.count + 1⟩) := by
  rw [perform, create]
  by_cases hblank : IsBlankText draft.summary.toList
  · rw [if_pos hblank, if_pos hblank]
  · rw [if_neg hblank, if_neg hblank]
    rfl

/-- **A refused draft commutes with everything**: nothing is changed, and nothing is looked at. -/
theorem commutes_of_blank (ledger : Ledger) {draft : TaskDraft}
    (hblank : IsBlankText draft.summary.toList) (now : Instant) (act : Ledger → Answer × Ledger) :
    Commutes ledger (fun ledger => ledger.perform (.create draft) now) act := by
  simp only [perform_create, if_pos hblank]
  exact ⟨rfl, rfl, rfl⟩

/-! ### Visits -/

/-- The live task of an id. -/
def find? (ledger : Ledger) (id : String) : Option Task :=
  ledger.live.find? fun task => task.id = id

/-- **What is done to the task of an id.** -/
structure Visit (id : String) where
  /-- The answer, by the task that is found. -/
  answer : Option Task → Answer
  /-- What becomes of the task: it is another, or it is no more. -/
  effect : Task → Option Task
  /-- A task keeps its id. -/
  id_effect : ∀ task after, effect task = some after → after.id = task.id

namespace Visit

variable {id id' : String}

/-- **What becomes of any task**: all but that of the id stay. -/
def apply (visit : Visit id) (task : Task) : Option Task :=
  if task.id = id then visit.effect task else some task

/-- **A visit to a ledger.** -/
def perform (visit : Visit id) (ledger : Ledger) : Answer × Ledger :=
  (visit.answer (ledger.find? id), { ledger with live := ledger.live.filterMap visit.apply })

theorem apply_of_ne (visit : Visit id) {task : Task} (h : task.id ≠ id) :
    visit.apply task = some task :=
  if_neg h

theorem id_apply (visit : Visit id) {task after : Task} (h : visit.apply task = some after) :
    after.id = task.id := by
  by_cases hid : task.id = id
  · rw [apply, if_pos hid] at h
    exact visit.id_effect task after h
  · rw [visit.apply_of_ne hid] at h
    rw [Option.some.inj h]

/-- **A visit to one id finds another as before.** -/
theorem find?_perform (visit : Visit id) (ledger : Ledger) (hne : id' ≠ id) :
    (visit.perform ledger).2.find? id' = ledger.find? id' := by
  have hsame : ∀ task : Task, (visit.apply task).any (fun after => decide (after.id = id')) =
      decide (task.id = id') := by
    intro task
    rw [Bool.eq_iff_iff, Option.any_eq_true, decide_eq_true_eq]
    constructor
    · rintro ⟨after, hafter, hid⟩
      rw [← visit.id_apply hafter]
      simpa using hid
    · rintro rfl
      exact ⟨task, visit.apply_of_ne hne, by simp⟩
  show (ledger.live.filterMap visit.apply).find? _ = ledger.live.find? _
  rw [List.find?_filterMap, funext hsame]
  show (ledger.find? id').bind visit.apply = ledger.find? id'
  rcases hfound : ledger.find? id' with _ | task
  · rfl
  · have hid : task.id = id' := by simpa using List.find?_some hfound
    exact visit.apply_of_ne (hid ▸ hne)

/-- No task is touched by visits to different ids. -/
theorem bind_apply_comm (visit : Visit id) (visit' : Visit id') (hne : id ≠ id') (task : Task) :
    (visit.apply task).bind visit'.apply = (visit'.apply task).bind visit.apply := by
  -- What one of them makes of a task has an id that the other leaves alone.
  have hstays {id id' : String} (visit : Visit id) (visit' : Visit id') (hid : task.id ≠ id') :
      (visit.apply task).bind visit'.apply = visit.apply task := by
    rcases hafter : visit.apply task with _ | after
    · rfl
    · exact visit'.apply_of_ne (visit.id_apply hafter ▸ hid)
  by_cases hid : task.id = id
  · have hid' : task.id ≠ id' := hid ▸ hne
    rw [hstays visit visit' hid', visit'.apply_of_ne hid']
    rfl
  · rw [hstays visit' visit hid, visit.apply_of_ne hid]
    rfl

/-- **Visits to different ids commute.** -/
theorem commutes (visit : Visit id) (visit' : Visit id') (hne : id ≠ id') (ledger : Ledger) :
    Commutes ledger visit.perform visit'.perform where
  answer := congrArg visit.answer (visit'.find?_perform ledger hne)
  answer' := congrArg visit'.answer (visit.find?_perform ledger hne.symm)
  after := by
    show Ledger.mk ((ledger.live.filterMap visit.apply).filterMap visit'.apply) ledger.count =
      Ledger.mk ((ledger.live.filterMap visit'.apply).filterMap visit.apply) ledger.count
    rw [List.filterMap_filterMap, List.filterMap_filterMap,
      funext (visit.bind_apply_comm visit' hne)]

/-- **A visit commutes with the making of a task** that gets another id. -/
theorem commutes_create (visit : Visit id) (ledger : Ledger) (draft : TaskDraft) (now : Instant)
    (hblank : ¬IsBlankText draft.summary.toList) (hid : Decimal.text (ledger.count + 1) ≠ id) :
    Commutes ledger (fun ledger => ledger.perform (.create draft) now) visit.perform := by
  simp only [perform_create, if_neg hblank]
  have hnext : (ledger.next draft now).id ≠ id := hid
  refine ⟨rfl, congrArg visit.answer ?_, ?_⟩
  · show (ledger.live ++ [_]).find? _ = ledger.live.find? _
    rw [List.find?_append, List.find?_cons_of_neg (by simpa using hnext), List.find?_nil,
      Option.or_none]
  · show Ledger.mk ((ledger.live ++ [_]).filterMap visit.apply) _ = Ledger.mk (_ ++ [_]) _
    rw [List.filterMap_append, List.filterMap_cons_some (visit.apply_of_ne hnext),
      List.filterMap_nil]
    rfl

/-- **Changing a task is a visit.** -/
def update (id : String) (patch : TaskPatch) (mask : FieldMask) (now : Instant) : Visit id where
  answer
    | none => .updated (.error (.taskNotFound id))
    | some task => .updated (task.apply (patch.through mask) now)
  effect task := some (task.amended (patch.through mask) now).2
  id_effect := by
    rintro task after h
    rw [← Option.some.inj h, Task.amended_through]
    split <;> rfl

/-- **Removing a task is a visit.** -/
def delete (id : String) : Visit id where
  answer
    | none => .deleted (.error (.taskNotFound id))
    | some _ => .deleted (.ok ())
  effect _ := none
  id_effect := by
    rintro _ _ ⟨⟩

/-- A visit that finds nothing changes nothing. -/
theorem filterMap_apply_of_none (visit : Visit id) {live : List Task}
    (h : ∀ task ∈ live, task.id ≠ id) : live.filterMap visit.apply = live := by
  rw [List.filterMap_congr fun task htask => visit.apply_of_ne (h task htask),
    List.filterMap_some]

theorem perform_update (ledger : Ledger) (id : String) (patch : TaskPatch) (mask : FieldMask)
    (now : Instant) :
    ledger.perform (.update id patch mask) now = (update id patch mask now).perform ledger := by
  rw [Ledger.perform, Ledger.update, perform]
  rcases hfound : ledger.find? id with _ | task
  · have habsent : ∀ task ∈ ledger.live, task.id ≠ id := by
      simpa [find?] using hfound
    rw [show (ledger.live.find? fun task => task.id = id) = none from hfound,
      filterMap_apply_of_none _ habsent]
    rfl
  · rw [show (ledger.live.find? fun task => task.id = id) = some task from hfound]
    by_cases hblanks : patch.blanks mask = true
    · have hstays : (update id patch mask now).apply = some := by
        funext task
        show (if task.id = id then some (task.amended _ now).2 else some task) = some task
        rw [Task.amended_through, if_pos hblanks, ite_self]
      rw [hstays, List.filterMap_some]
      simp only [update, Task.apply_through, if_pos hblanks]
    · have hrevised : (update id patch mask now).apply =
          fun task => some (if task.id = id then task.revised patch mask now else task) := by
        funext task
        show (if task.id = id then some (task.amended _ now).2 else some task) = _
        rw [Task.amended_through, if_neg hblanks, apply_ite some]
      rw [hrevised, List.filterMap_eq_map']
      simp only [update, Task.apply_through, if_neg hblanks]

theorem perform_delete (ledger : Ledger) (id : String) (now : Instant) :
    ledger.perform (.delete id) now = (delete id).perform ledger := by
  rw [Ledger.perform, Ledger.delete, perform]
  rcases hfound : ledger.find? id with _ | task
  · have habsent : ∀ task ∈ ledger.live, task.id ≠ id := by
      simpa [find?] using hfound
    rw [if_neg (by simpa using habsent), filterMap_apply_of_none _ habsent]
    rfl
  · have hpresent : ∃ task ∈ ledger.live, task.id = id :=
      ⟨task, List.mem_of_find?_eq_some hfound, by simpa using List.find?_some hfound⟩
    have hfilter : (delete id).apply = Option.guard fun task => decide (task.id ≠ id) := by
      funext task
      show (if task.id = id then none else some task) = _
      by_cases hid : task.id = id <;> simp [Option.guard, hid]
    rw [if_pos hpresent, hfilter, List.filterMap_eq_filter]
    rfl

end Visit

end Ledger

/-! ### Operations that are apart -/

namespace Store

/-- **An operation concerns an id** if it makes, changes, removes or lists the task of that id. -/
inductive Concerns (store : Store) : Operation → String → Prop
  /-- Making a task concerns the id that it gets. -/
  | create {draft : TaskDraft} {now : Instant} {task : Task}
      (h : (store.create draft now).1 = .ok task) : Concerns store (.create draft) task.id
  /-- Changing a task concerns its id, be there such a task or not. -/
  | update {id : String} {patch : TaskPatch} {mask : FieldMask} :
      Concerns store (.update id patch mask) id
  /-- Removing a task concerns its id. -/
  | delete {id : String} : Concerns store (.delete id) id
  /-- A listing concerns all. -/
  | list {id : String} : Concerns store .list id

theorem concerns_update_iff {store : Store} {id other : String} {patch : TaskPatch}
    {mask : FieldMask} : store.Concerns (.update id patch mask) other ↔ other = id := by
  constructor
  · rintro ⟨⟩
    rfl
  · rintro rfl
    exact .update

/-- **Two operations are apart** if no id concerns both. -/
def Apart (store : Store) (first second : Operation) : Prop :=
  ∀ id, store.Concerns first id → ¬store.Concerns second id

theorem Apart.symm {store : Store} {first second : Operation} (h : store.Apart first second) :
    store.Apart second first :=
  fun id hsecond hfirst => h id hfirst hsecond

/-- **An operation lists, makes a task, or visits an id** that it concerns. -/
theorem visits (store : Store) (operation : Operation) (now : Instant) :
    operation = .list ∨ (∃ draft, operation = .create draft) ∨
      ∃ (id : String) (visit : Ledger.Visit id), store.Concerns operation id ∧
        ∀ ledger : Ledger, ledger.perform operation now = visit.perform ledger := by
  cases operation with
  | create draft => exact Or.inr (Or.inl ⟨draft, rfl⟩)
  | update id patch mask =>
    exact Or.inr (Or.inr ⟨id, _, .update, fun ledger =>
      Ledger.Visit.perform_update ledger id patch mask now⟩)
  | delete id =>
    exact Or.inr (Or.inr ⟨id, _, .delete, fun ledger => Ledger.Visit.perform_delete ledger id now⟩)
  | list => exact Or.inl rfl

variable {store : Store} {ledger : Ledger}

/-- **Making a task commutes with what is apart from it.** -/
theorem Reflects.commutes_create (h : store.Reflects ledger) {draft : TaskDraft}
    {other : Operation} (hapart : store.Apart (.create draft) other) (now now' : Instant) :
    Commutes ledger (fun ledger => ledger.perform (.create draft) now)
      fun ledger => ledger.perform other now' := by
  by_cases hblank : IsBlankText draft.summary.toList
  · exact ledger.commutes_of_blank hblank now _
  have hgets : ∀ {draft : TaskDraft}, ¬IsBlankText draft.summary.toList →
      store.Concerns (.create draft) (Decimal.text (store.counter + 1)) := by
    intro draft hblank
    have hmade : (store.create draft now).1 = .ok (store.insert draft.summary now).1 := by
      rw [create_eq, if_neg hblank]
    exact Concerns.create hmade
  rcases store.visits other now' with rfl | ⟨draft', rfl⟩ | ⟨id, visit, hconcerns, hvisit⟩
  · exact absurd .list (hapart _ (hgets hblank))
  · by_cases hblank' : IsBlankText draft'.summary.toList
    · exact (ledger.commutes_of_blank hblank' now' _).symm
    · exact absurd (hgets hblank') (hapart _ (hgets hblank))
  · simp only [hvisit]
    refine visit.commutes_create ledger draft now hblank ?_
    rintro rfl
    exact hapart _ (hgets hblank) (h.1 ▸ hconcerns)

/-- **What is apart commutes** on a ledger. -/
theorem Reflects.commutes (h : store.Reflects ledger) {first second : Operation}
    (hapart : store.Apart first second) (now now' : Instant) :
    Commutes ledger (fun ledger => ledger.perform first now)
      fun ledger => ledger.perform second now' := by
  rcases store.visits first now with rfl | ⟨draft, rfl⟩ | ⟨id, visit, hconcerns, hvisit⟩
  · -- A listing is apart from refused drafts only.
    rcases store.visits second now' with rfl | ⟨draft, rfl⟩ | ⟨id, -, hconcerns, -⟩
    · exact absurd .list (hapart "" .list)
    · exact (h.commutes_create hapart.symm now' now).symm
    · exact absurd hconcerns (hapart id .list)
  · exact h.commutes_create hapart now now'
  · rcases store.visits second now' with rfl | ⟨draft, rfl⟩ | ⟨id', visit', hconcerns', hvisit'⟩
    · exact absurd .list (hapart id hconcerns)
    · exact (h.commutes_create hapart.symm now' now).symm
    · simp only [hvisit, hvisit']
      refine visit.commutes visit' ?_ ledger
      rintro rfl
      exact hapart id hconcerns hconcerns'

/-- **What commutes on a ledger commutes on the store that reflects it**, as far as can be told:
whatever is asked later, it is answered alike. -/
theorem Reflects.of_commutes (h : store.Reflects ledger) {first second : Operation}
    {now now' : Instant}
    (hcommutes : Commutes ledger (fun ledger => ledger.perform first now)
      fun ledger => ledger.perform second now') :
    ((store.perform second now').2.perform first now).1 = (store.perform first now).1 ∧
      ((store.perform first now).2.perform second now').1 = (store.perform second now').1 ∧
      ∀ later, (((store.perform first now).2.perform second now').2.run later).1 =
        (((store.perform second now').2.perform first now).2.run later).1 := by
  obtain ⟨hfirst, hafter⟩ := perform_reflects store ledger first now h
  obtain ⟨hsecond, hafter'⟩ := perform_reflects store ledger second now' h
  obtain ⟨hthen, hlast⟩ := perform_reflects _ _ second now' hafter
  obtain ⟨hthen', hlast'⟩ := perform_reflects _ _ first now hafter'
  refine ⟨(hthen'.trans hcommutes.answer).trans hfirst.symm,
    (hthen.trans hcommutes.answer').trans hsecond.symm, fun later => ?_⟩
  have hlater := (runOn_related perform_reflects hlast later).1
  have hlater' := (runOn_related perform_reflects hlast' later).1
  rw [hcommutes.after] at hlater
  exact hlater.trans hlater'.symm

end Store

/-! ### Changes of one task -/

/-- **Two sets of fields have none in common.** -/
def FieldMask.Disjoint (mask mask' : FieldMask) : Prop :=
  ∀ field, mask.contains field = true → mask'.contains field = false

/-- **A patch brings a field to a task**: a summary that it gives, or a time of completion, be it
that there is none. -/
def TaskPatch.carries (patch : TaskPatch) (mask : FieldMask) : Bool :=
  (mask.summary && patch.summary.isSome) || mask.completedAt

/-- **The time that a change leaves on a task**: that of the change, if it is not refused and
carries a field. -/
def TaskPatch.stamp (patch : TaskPatch) (mask : FieldMask) (now : Instant) : Option Instant :=
  if patch.blanks mask then none else if patch.carries mask then some now else none

namespace Task

/-- A task but for the time of its last change. -/
def undated (task : Task) : Task :=
  { task with updatedAt := none }

/-- **A change leaves its time**, or the time that it finds. -/
theorem updatedAt_amended (task : Task) (patch : TaskPatch) (mask : FieldMask) (now : Instant) :
    (task.amended (patch.through mask) now).2.updatedAt =
      (patch.stamp mask now).or task.updatedAt := by
  rw [amended_through, TaskPatch.stamp]
  by_cases hblanks : patch.blanks mask = true
  · rw [if_pos hblanks, if_pos hblanks, Option.none_or]
  · rw [if_neg hblanks, if_neg hblanks]
    show (if patch.carries mask = true then some now else task.updatedAt) = _
    split <;> rfl

/-- Two changes that carry different fields write different fields. -/
theorem undated_revised_comm (task : Task) {mask mask' : FieldMask} (h : mask.Disjoint mask')
    (patch patch' : TaskPatch) (now now' : Instant) :
    ((task.revised patch mask now).revised patch' mask' now').undated =
      ((task.revised patch' mask' now').revised patch mask now).undated := by
  have hsummary : mask.summary = true → mask'.summary = false := h .summary
  have hcompletedAt : mask.completedAt = true → mask'.completedAt = false := h .completedAt
  simp only [undated, revised, mk.injEq, true_and]
  constructor
  · by_cases hmask : mask.summary = true
    · rw [hmask, hsummary hmask]
      rfl
    · rw [Bool.not_eq_true] at hmask
      rw [hmask]
      rfl
  · by_cases hmask : mask.completedAt = true
    · rw [hmask, hcompletedAt hmask]
      rfl
    · rw [Bool.not_eq_true] at hmask
      rw [hmask]
      rfl

/-- **Changes that name no field in common commute** but for the time that they leave. -/
theorem undated_amended_comm (task : Task) {mask mask' : FieldMask} (h : mask.Disjoint mask')
    (patch patch' : TaskPatch) (now now' : Instant) :
    ((task.amended (patch.through mask) now).2.amended (patch'.through mask') now').2.undated =
      ((task.amended (patch'.through mask') now').2.amended
        (patch.through mask) now).2.undated := by
  simp only [amended_through]
  by_cases hblanks : patch.blanks mask = true
  · simp only [if_pos hblanks]
  · by_cases hblanks' : patch'.blanks mask' = true
    · simp only [if_pos hblanks']
    · simp only [if_neg hblanks, if_neg hblanks']
      exact task.undated_revised_comm h patch patch' now now'

end Task

namespace Store

/-- **How a change ends** does not depend on the task. -/
theorem outcome_update (store : Store) (id : String) (patch : TaskPatch) (mask : FieldMask)
    (now : Instant) :
    (store.update id patch mask now).1.map (fun _ => ()) =
      if (store.get? id).isNone then .error (.taskNotFound id)
      else if patch.blanks mask then .error blankSummary else .ok () := by
  rcases hfound : store.get? id with _ | row
  · rw [update_of_none hfound]
    rfl
  · rw [update_of_some hfound]
    split <;> rfl

/-- **A change amends the task of its id.** -/
theorem get?_update_self (store : Store) (id : String) (patch : TaskPatch) (mask : FieldMask)
    (now : Instant) :
    (store.update id patch mask now).2.get? id = (store.get? id).map fun row =>
      { row with task := (row.task.amended (patch.through mask) now).2 } := by
  rcases hfound : store.get? id with _ | row
  · rw [update_of_none hfound]
    exact hfound
  · rw [update_of_some hfound, Option.map_some, Task.amended_through]
    by_cases hblanks : patch.blanks mask = true
    · rw [if_pos hblanks, if_pos hblanks]
      exact hfound
    · rw [if_neg hblanks, if_neg hblanks]
      exact (store.get?_put id id _).trans (if_pos rfl)

/-- A change leaves all other tasks. -/
theorem get?_update_of_ne (store : Store) {id other : String} (h : other ≠ id) (patch : TaskPatch)
    (mask : FieldMask) (now : Instant) :
    (store.update id patch mask now).2.get? other = store.get? other := by
  rcases hfound : store.get? id with _ | row
  · rw [update_of_none hfound]
  · rw [update_of_some hfound]
    split
    · rfl
    · exact (store.get?_put other id _).trans (if_neg h)

/-- **What may come in either order.** In a store that was reached from the start of a daemon, two
operations that are apart give the same answers in either order; the listings agree afterwards, and
so does everything that is answered later. Two changes of one task that name no field in common end
alike in either order and leave the same task, but for the time of the last change: that is the
reading of the later one of those that carried a field. -/
theorem commute_of_apart {start : Store} (hstart : start.Fresh)
    (steps : List (Operation × Instant)) :
    let store := (start.run steps).2
    (∀ (first second : Operation) (now now' : Instant), store.Apart first second →
      let both := (store.perform first now).2.perform second now'
      let both' := (store.perform second now').2.perform first now
      both'.1 = (store.perform first now).1 ∧ both.1 = (store.perform second now').1 ∧
      both.2.list = both'.2.list ∧ ∀ later, (both.2.run later).1 = (both'.2.run later).1) ∧
    ∀ (id : String) (patch patch' : TaskPatch) (mask mask' : FieldMask) (now now' : Instant),
      mask.Disjoint mask' →
      let both := (store.update id patch mask now).2.update id patch' mask' now'
      let both' := (store.update id patch' mask' now').2.update id patch mask now
      both'.1.map (fun _ => ()) = (store.update id patch mask now).1.map (fun _ => ()) ∧
      both.1.map (fun _ => ()) = (store.update id patch' mask' now').1.map (fun _ => ()) ∧
      ((both.2.get? id).map fun row => row.task.undated) =
        ((both'.2.get? id).map fun row => row.task.undated) ∧
      ((both.2.get? id).map fun row => row.task.updatedAt) =
        ((store.get? id).map fun row =>
          (patch'.stamp mask' now').or ((patch.stamp mask now).or row.task.updatedAt)) ∧
      ((both'.2.get? id).map fun row => row.task.updatedAt) =
        ((store.get? id).map fun row =>
          (patch.stamp mask now).or ((patch'.stamp mask' now').or row.task.updatedAt)) ∧
      ∀ other, other ≠ id → both.2.get? other = both'.2.get? other := by
  obtain ⟨rows₀, hrows₀, -⟩ := hstart.exists_rows
  obtain ⟨rows, hrows⟩ := hrows₀.run steps
  have hreflects : (start.run steps).2.Reflects
      ⟨rows.map StoredTask.task, (start.run steps).2.counter⟩ := ⟨rfl, rows, hrows, rfl⟩
  intro store
  refine ⟨fun first second now now' hapart => ?_,
    fun id patch patch' mask mask' now now' hdisjoint => ?_⟩
  · obtain ⟨hfirst, hsecond, hlater⟩ := hreflects.of_commutes (hreflects.commutes hapart now now')
    refine ⟨hfirst, hsecond, ?_, hlater⟩
    exact Answer.listed.inj (List.cons.inj (hlater [(.list, now)])).1
  · intro both both'
    have hget : both.2.get? id = _ := (get?_update_self _ id patch' mask' now').trans <|
      congrArg (Option.map _) (get?_update_self store id patch mask now)
    have hget' : both'.2.get? id = _ := (get?_update_self _ id patch mask now).trans <|
      congrArg (Option.map _) (get?_update_self store id patch' mask' now')
    refine ⟨?_, ?_, ?_, ?_, ?_, fun other hother => ?_⟩
    · rw [outcome_update, outcome_update, get?_update_self, Option.isNone_map]
    · rw [outcome_update, outcome_update, get?_update_self, Option.isNone_map]
    · rw [hget, hget']
      simp only [Option.map_map]
      congr 1
      funext row
      exact row.task.undated_amended_comm hdisjoint patch patch' now now'
    · rw [hget]
      simp only [Option.map_map]
      congr 1
      funext row
      exact (Task.updatedAt_amended ..).trans (congrArg _ (Task.updatedAt_amended ..))
    · rw [hget']
      simp only [Option.map_map]
      congr 1
      funext row
      exact (Task.updatedAt_amended ..).trans (congrArg _ (Task.updatedAt_amended ..))
    · rw [get?_update_of_ne _ hother, get?_update_of_ne _ hother, get?_update_of_ne _ hother,
        get?_update_of_ne _ hother]

/-- Of two tasks, one is changed and the other removed; or one is renamed and marked as done, in
either order. -/
theorem commute_of_apart_two :
    let store := (empty.run [(.create ⟨"tea"⟩, ⟨1, 0⟩), (.create ⟨"milk"⟩, ⟨2, 0⟩)]).2
    let rename : Operation := .update "1" ⟨some "green tea", none⟩ ⟨true, false⟩
    empty.Fresh ∧ store.Apart rename (.delete "2") ∧
      FieldMask.Disjoint ⟨true, false⟩ ⟨false, true⟩ ∧
      ((store.perform rename ⟨3, 0⟩).2.perform (.delete "2") ⟨4, 0⟩).2.list =
        ((store.perform (.delete "2") ⟨4, 0⟩).2.perform rename ⟨3, 0⟩).2.list ∧
      ((((store.update "1" ⟨some "green tea", none⟩ ⟨true, false⟩ ⟨3, 0⟩).2.update "1"
        ⟨none, some ⟨0, 0⟩⟩ ⟨false, true⟩ ⟨4, 0⟩).2.get? "1").map fun row => row.task.updatedAt) =
          (store.get? "1").map fun _ => some ⟨4, 0⟩ := by
  intro store rename
  have hapart : store.Apart rename (.delete "2") := by
    rintro _ hfirst ⟨⟩
    exact absurd (concerns_update_iff.mp hfirst) (by decide)
  have hdisjoint : FieldMask.Disjoint ⟨true, false⟩ ⟨false, true⟩ := by
    rintro (_ | _) <;> decide
  obtain ⟨hcommute, hchanges⟩ :=
    commute_of_apart .empty [(.create ⟨"tea"⟩, ⟨1, 0⟩), (.create ⟨"milk"⟩, ⟨2, 0⟩)]
  refine ⟨.empty, hapart, hdisjoint, (hcommute _ _ ⟨3, 0⟩ ⟨4, 0⟩ hapart).2.2.1, ?_⟩
  exact (hchanges "1" _ _ _ _ ⟨3, 0⟩ ⟨4, 0⟩ hdisjoint).2.2.2.1

end Store

end TaskDaemon
