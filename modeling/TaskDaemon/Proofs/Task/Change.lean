import TaskDaemon.Task.Change

/-!
# What a change does to a task

A patch and a mask, read field by field: `TaskDaemon.Task.revised` says what every field is
afterwards, and `TaskDaemon.TaskPatch.blanks` when the change is refused instead. Reading the patch
through the mask first and applying the update then comes to the same
(`TaskDaemon.Task.apply_through`).
-/

namespace TaskDaemon

/-- **A blank summary that the mask lets through.** -/
def TaskPatch.blanks (patch : TaskPatch) (mask : FieldMask) : Bool :=
  mask.summary && patch.summary.any fun summary => IsBlankText summary.toList

/-- **A task with the fields of a mask taken from a patch**: a summary if there is one, a time of
completion in any case; and the time of the change, if a field was carried. -/
def Task.revised (task : Task) (patch : TaskPatch) (mask : FieldMask) (now : Instant) : Task where
  id := task.id
  summary := if mask.summary then patch.summary.getD task.summary else task.summary
  createdAt := task.createdAt
  updatedAt :=
    if (mask.summary && patch.summary.isSome) || mask.completedAt then some now else task.updatedAt
  completedAt := if mask.completedAt then patch.completedAt else task.completedAt

/-- The error of a blank summary. -/
def blankSummary : Error :=
  .invalidArgument "task summary cannot be empty"

theorem checkSummary_eq (summary : String) :
    checkSummary summary = if IsBlankText summary.toList then .error blankSummary else .ok () :=
  rfl

namespace Task

/-- A change that passes the check changes the fields that it carries. -/
theorem withCompletion_withSummary (task : Task) (patch : TaskPatch) (mask : FieldMask)
    (now : Instant) :
    (task.withSummary (patch.through mask).summary now).withCompletion
        (patch.through mask).completedAt now = task.revised patch mask now := by
  obtain ⟨summary, completedAt⟩ := patch
  obtain ⟨maskSummary, maskCompletedAt⟩ := mask
  cases maskSummary <;> cases maskCompletedAt <;> cases summary <;> cases completedAt <;> rfl

/-- **What a change does to a task**: a blank summary is refused, else the fields of the mask are
taken from the patch. -/
theorem apply_through (task : Task) (patch : TaskPatch) (mask : FieldMask) (now : Instant) :
    task.apply (patch.through mask) now =
      if patch.blanks mask then .error blankSummary else .ok (task.revised patch mask now) := by
  rw [← withCompletion_withSummary]
  unfold apply
  cases hsummary : (patch.through mask).summary with
  | none =>
    have hfit : patch.blanks mask = false := by
      unfold TaskPatch.through at hsummary
      unfold TaskPatch.blanks
      cases hmask : mask.summary with
      | false => rfl
      | true => simp_all
    rw [hfit]
    rfl
  | some summary =>
    have hblanks : patch.blanks mask = decide (IsBlankText summary.toList) := by
      unfold TaskPatch.through at hsummary
      unfold TaskPatch.blanks
      cases hmask : mask.summary with
      | false => simp_all
      | true => simp_all
    rw [hblanks]
    by_cases hblank : IsBlankText summary.toList
    · simp only [checkSummary_eq, hblank, decide_true, if_true]
      rfl
    · simp only [checkSummary_eq, hblank, decide_false, if_false, Bool.false_eq_true]
      rfl

/-- **A change that passes the check leaves no blank summary.** -/
theorem not_blank_revised {task : Task} (h : ¬IsBlankText task.summary.toList) {patch : TaskPatch}
    {mask : FieldMask} (hfit : patch.blanks mask = false) (now : Instant) :
    ¬IsBlankText (task.revised patch mask now).summary.toList := by
  unfold TaskPatch.blanks at hfit
  unfold revised
  cases hmask : mask.summary with
  | false => simpa using h
  | true =>
    cases hsummary : patch.summary with
    | none => simpa using h
    | some summary => simpa [hmask, hsummary] using hfit

end Task

end TaskDaemon
