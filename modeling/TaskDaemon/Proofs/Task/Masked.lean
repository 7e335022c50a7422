import TaskDaemon.Proofs.Task.Change

/-!
# Only what is named is changed

A caller names the fields that a patch is to change. The names come as a list, in which they may
stand in any order and more than once, beside others that name nothing; and the patch may give
fields that nobody has named.

* `TaskDaemon.TaskField.Named`: a field is called by its name in such a list, which is all that the
  set of fields knows of the list (`TaskDaemon.FieldMask.contains_ofNames`);
* `TaskDaemon.TaskPatch.AgreesOn`: two patches give the same for all fields of a set.

A task that is changed where it is kept could be left half changed, since its fields are written one
after the other. It is not, because what may fail comes first: `TaskDaemon.Task.amended_eq` says
that it is then the changed task or the old one. The main result is
`TaskDaemon.Task.changes_what_is_named`.
-/

namespace TaskDaemon

/-! ### Names and fields -/

namespace TaskField

theorem ofName?_eq_some_iff {name : String} {field : TaskField} :
    ofName? name = some field ↔ field.name = name := by
  constructor
  · intro h
    simpa using List.find?_some h
  · rintro rfl
    cases field <;> decide

/-- **A field is named** in a list of names. -/
def Named (names : List String) (field : TaskField) : Prop :=
  field.name ∈ names

instance (names : List String) (field : TaskField) : Decidable (field.Named names) :=
  inferInstanceAs (Decidable (field.name ∈ names))

end TaskField

namespace FieldMask

theorem contains_ofFields (fields : List TaskField) (field : TaskField) :
    (ofFields fields).contains field = true ↔ field ∈ fields := by
  cases field <;> exact List.contains_iff_mem

/-- **The set of the named fields** holds exactly these. -/
theorem contains_ofNames (names : List String) (field : TaskField) :
    (ofNames names).contains field = true ↔ field.Named names := by
  rw [ofNames, contains_ofFields, List.mem_filterMap]
  simp only [TaskField.ofName?_eq_some_iff]
  constructor
  · rintro ⟨name, hmem, rfl⟩
    exact hmem
  · exact fun hmem => ⟨field.name, hmem, rfl⟩

/-- **Sets with the same fields are the same.** -/
theorem ext_contains {mask mask' : FieldMask}
    (h : ∀ field, mask.contains field = true ↔ mask'.contains field = true) : mask = mask' := by
  obtain ⟨summary, completedAt⟩ := mask
  obtain ⟨summary', completedAt'⟩ := mask'
  have hsummary : summary = summary' := Bool.eq_iff_iff.mpr (h .summary)
  have hcompletedAt : completedAt = completedAt' := Bool.eq_iff_iff.mpr (h .completedAt)
  rw [hsummary, hcompletedAt]

/-- **Lists that name the same fields** come to the same set. -/
theorem ofNames_congr {names names' : List String}
    (h : ∀ field : TaskField, field.Named names ↔ field.Named names') :
    ofNames names = ofNames names' :=
  ext_contains fun field =>
    (contains_ofNames names field).trans ((h field).trans (contains_ofNames names' field).symm)

end FieldMask

/-! ### Patches seen through a mask -/

namespace TaskPatch

/-- **Two patches give the same** for all fields of a set. -/
structure AgreesOn (mask : FieldMask) (patch patch' : TaskPatch) : Prop where
  summary : mask.summary = true → patch.summary = patch'.summary
  completedAt : mask.completedAt = true → patch.completedAt = patch'.completedAt

/-- **What is not in the mask is not seen.** -/
theorem AgreesOn.through_eq {mask : FieldMask} {patch patch' : TaskPatch}
    (h : AgreesOn mask patch patch') : patch.through mask = patch'.through mask := by
  unfold through
  congr 1
  · by_cases hmask : mask.summary = true
    · rw [if_pos hmask, if_pos hmask, h.summary hmask]
    · rw [if_neg hmask, if_neg hmask]
  · by_cases hmask : mask.completedAt = true
    · rw [if_pos hmask, if_pos hmask, h.completedAt hmask]
    · rw [if_neg hmask, if_neg hmask]

/-- **A patch is refused** if the summary is named and it gives a blank one. -/
theorem blanks_ofNames (patch : TaskPatch) (names : List String) :
    patch.blanks (.ofNames names) = true ↔ TaskField.summary.Named names ∧
      ∃ summary, patch.summary = some summary ∧ IsBlankText summary.toList := by
  rw [blanks, Bool.and_eq_true, Option.any_eq_true]
  simp only [decide_eq_true_eq]
  exact and_congr_left' (FieldMask.contains_ofNames names .summary)

end TaskPatch

/-! ### Changing a task where it is kept -/

namespace Task

/-- **A task is changed as a whole or not at all**, since nothing fails once a field is written. -/
theorem amended_eq (task : Task) (update : TaskUpdate) (now : Instant) :
    task.amended update now =
      match task.apply update now with
      | .ok after => (.ok (), after)
      | .error error => (.error error, task) := by
  unfold amended amend apply
  cases update.summary with
  | none => rfl
  | some summary =>
    dsimp only
    cases checkSummary summary with
    | error error => rfl
    | ok _ => rfl

/-- A patch that is read through a mask. -/
theorem amended_through (task : Task) (patch : TaskPatch) (mask : FieldMask) (now : Instant) :
    task.amended (patch.through mask) now =
      if patch.blanks mask then (.error blankSummary, task)
      else (.ok (), task.revised patch mask now) := by
  rw [amended_eq, apply_through]
  cases patch.blanks mask <;> rfl

/-- **What is not named is not seen**, neither in the list nor in the patch. -/
theorem amended_congr (task : Task) {patch patch' : TaskPatch} {names names' : List String}
    (hnames : ∀ field : TaskField, field.Named names ↔ field.Named names')
    (hsummary : TaskField.summary.Named names → patch.summary = patch'.summary)
    (hcompletedAt : TaskField.completedAt.Named names → patch.completedAt = patch'.completedAt)
    (now : Instant) :
    task.amended (patch'.through (.ofNames names')) now =
      task.amended (patch.through (.ofNames names)) now := by
  have hagrees : TaskPatch.AgreesOn (.ofNames names) patch patch' :=
    { summary := fun h => hsummary ((FieldMask.contains_ofNames names .summary).mp h)
      completedAt := fun h => hcompletedAt ((FieldMask.contains_ofNames names .completedAt).mp h) }
  rw [← FieldMask.ofNames_congr hnames, hagrees.through_eq]

/-- **What is named is changed, and nothing else.** A change of a task fails exactly if the summary
is named and the patch gives a blank one; the task is as before then. Otherwise the summary is that
of the patch if it is named and given, the time of completion is what the patch gives or does not
give if it is named, and the time of the change is put down if one of these two was carried; all
else stays. Lists that name the same fields, and patches that give the same for these, do the
same. -/
theorem changes_what_is_named (task : Task) (patch : TaskPatch) (names : List String)
    (now : Instant) :
    let change (patch : TaskPatch) (names : List String) : Outcome Unit × Task :=
      task.amended (patch.through (.ofNames names)) now
    let outcome := (change patch names).1
    let after := (change patch names).2
    task.apply (patch.through (.ofNames names)) now = outcome.map (fun _ => after) ∧
    ((∃ error, outcome = .error error) ↔
      TaskField.summary.Named names ∧
        ∃ summary, patch.summary = some summary ∧ IsBlankText summary.toList) ∧
    (∀ error, outcome = .error error → error.kind = .invalidArgument ∧ after = task) ∧
    (outcome = .ok () →
      after.id = task.id ∧ after.createdAt = task.createdAt ∧
      after.summary = (if TaskField.summary.Named names then patch.summary.getD task.summary
        else task.summary) ∧
      after.completedAt = (if TaskField.completedAt.Named names then patch.completedAt
        else task.completedAt) ∧
      after.updatedAt = (if (TaskField.summary.Named names ∧ patch.summary.isSome = true) ∨
        TaskField.completedAt.Named names then some now else task.updatedAt)) ∧
    ∀ (patch' : TaskPatch) (names' : List String),
      (∀ field : TaskField, field.Named names ↔ field.Named names') →
      (TaskField.summary.Named names → patch.summary = patch'.summary) →
      (TaskField.completedAt.Named names → patch.completedAt = patch'.completedAt) →
      change patch' names' = change patch names := by
  have hblanks := patch.blanks_ofNames names
  have hsame : ∀ (patch' : TaskPatch) (names' : List String),
      (∀ field : TaskField, field.Named names ↔ field.Named names') →
      (TaskField.summary.Named names → patch.summary = patch'.summary) →
      (TaskField.completedAt.Named names → patch.completedAt = patch'.completedAt) →
      task.amended (patch'.through (.ofNames names')) now =
        task.amended (patch.through (.ofNames names)) now :=
    fun _ _ hnames hsummary hcompletedAt => task.amended_congr hnames hsummary hcompletedAt now
  intro change outcome after
  by_cases hfit : patch.blanks (.ofNames names) = true
  · have hchange : change patch names = (.error blankSummary, task) := by
      rw [show change patch names = _ from task.amended_through patch _ now, if_pos hfit]
    have houtcome : outcome = .error blankSummary := congrArg Prod.fst hchange
    have hafter : after = task := congrArg Prod.snd hchange
    refine ⟨?_, iff_of_true ⟨_, houtcome⟩ (hblanks.mp hfit), ?_, ?_, hsame⟩
    · rw [apply_through, if_pos hfit, houtcome]
      rfl
    · intro error herror
      obtain rfl := Except.error.inj (houtcome.symm.trans herror)
      exact ⟨rfl, hafter⟩
    · intro hok
      cases houtcome.symm.trans hok
  · have hchange : change patch names = (.ok (), task.revised patch (.ofNames names) now) := by
      rw [show change patch names = _ from task.amended_through patch _ now, if_neg hfit]
    have houtcome : outcome = .ok () := congrArg Prod.fst hchange
    have hafter : after = task.revised patch (.ofNames names) now := congrArg Prod.snd hchange
    refine ⟨?_, iff_of_false ?_ (mt hblanks.mpr hfit), ?_, fun _ => ?_, hsame⟩
    · rw [apply_through, if_neg hfit, houtcome, hafter]
      rfl
    · rintro ⟨error, herror⟩
      cases houtcome.symm.trans herror
    · intro error herror
      cases houtcome.symm.trans herror
    · have hsummary : (FieldMask.ofNames names).summary = true ↔ TaskField.summary.Named names :=
        FieldMask.contains_ofNames names .summary
      have hcompletedAt : (FieldMask.ofNames names).completedAt = true ↔
          TaskField.completedAt.Named names := FieldMask.contains_ofNames names .completedAt
      rw [hafter]
      simp only [revised, Bool.or_eq_true, Bool.and_eq_true, hsummary, hcompletedAt]
      exact ⟨trivial, trivial, trivial, trivial, trivial⟩

end Task

end TaskDaemon
