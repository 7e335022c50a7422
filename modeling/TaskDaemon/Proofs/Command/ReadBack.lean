import TaskDaemon.Command.Listing
import TaskDaemon.Proofs.Store.Identity
import TaskDaemon.Proofs.Text.Decimal

/-!
# What a printed list tells

A task is printed as a line, and a list of tasks as a line for each. Whoever reads the text has the
lines (`TaskDaemon.Listing.lines`) and from each of them an id, a mark and a summary
(`TaskDaemon.Listing.Item.read?`): the id is a numeral, so it ends at the first space, and the
summary is all that stands behind the mark.

Nothing is escaped, though, and a summary may be anything that is not blank. **A line break in a
summary** ends the line of its task, and what follows may look like the line of another:

| tasks | text |
|---|---|
| `tea`, `milk` | `#1 [ ] tea⏎#2 [ ] milk⏎` |
| `tea⏎#2 [ ] milk` | `#1 [ ] tea⏎#2 [ ] milk⏎` |

* `TaskDaemon.Listing.length_lines_eq_iff`: there is a line for each task exactly if no task has a
  line break in it;
* `TaskDaemon.Listing.Item.read?_line`: a line is read back;
* `TaskDaemon.Listing.told_apart_iff`: the main result, on the lists of any two runs;
* `TaskDaemon.Listing.line_break_not_told`: the lists above.
-/

namespace TaskDaemon

/-- **No blank stands in a numeral.** -/
theorem Decimal.not_blank_of_mem_text {n : Nat} {c : Char} (h : c ∈ (Decimal.text n).toList) :
    isBlank c = false := by
  rw [Decimal.text, String.toList_ofList] at h
  obtain ⟨d, hd, rfl⟩ := List.mem_map.mp h
  exact (Decimal.isDigit_digitChar d (Decimal.digits_lt_ten n d hd)).2.1

/-- **Ids of tasks are numerals**, whatever was asked of a store. -/
theorem Store.Fresh.id_eq_of_mem_list {start : Store} (hstart : start.Fresh)
    (steps : List (Operation × Instant)) {task : Task} (htask : task ∈ (start.run steps).2.list) :
    ∃ number, task.id = Decimal.text number := by
  obtain ⟨rows, hrows, -⟩ := hstart.exists_rows
  obtain ⟨rows', hrows'⟩ := hrows.run steps
  obtain ⟨row, hrow, rfl⟩ := hrows'.mem_list_iff.mp htask
  exact ⟨row.sequence, hrows'.id_eq row hrow⟩

namespace Listing

/-! ### Lines -/

/-- **The lines of some characters**, each without the newline that ends it. What stands behind the
last newline is a line too, if anything does. -/
def cut : List Char → List (List Char)
  | [] => []
  | c :: rest =>
    if c = '\n' then [] :: cut rest
    else
      match cut rest with
      | [] => [[c]]
      | first :: more => (c :: first) :: more

/-- **The lines of a text.** -/
def lines (text : String) : List String :=
  (cut text.toList).map String.ofList

theorem cut_append {front : List Char} (hfront : '\n' ∉ front) (rest : List Char) :
    cut (front ++ '\n' :: rest) = front :: cut rest := by
  induction front with
  | nil => rfl
  | cons c front ih =>
    have hc : c ≠ '\n' := (List.ne_of_not_mem_cons hfront).symm
    rw [List.cons_append, cut, if_neg hc, ih (List.not_mem_of_not_mem_cons hfront)]

/-- **Each newline ends a line**, also one that stands inside of what was to be a line. -/
theorem length_cut_append (front rest : List Char) :
    (cut (front ++ '\n' :: rest)).length = front.count '\n' + 1 + (cut rest).length := by
  induction front with
  | nil => simp [cut, Nat.add_comm]
  | cons c front ih =>
    rw [List.cons_append, cut, List.count_cons]
    by_cases hc : c = '\n'
    · rw [if_pos hc, List.length_cons, ih, if_pos (beq_iff_eq.mpr hc)]
      omega
    · rw [if_neg hc, if_neg (mt beq_iff_eq.mp hc)]
      -- There is a line that the character belongs to, since a newline follows.
      cases hcut : cut (front ++ '\n' :: rest) with
      | nil =>
        rw [hcut, List.length_nil] at ih
        omega
      | cons first more =>
        rw [hcut] at ih
        exact ih

variable {tasks : List Task} {now : Instant}

theorem toList_text_cons (task : Task) (tasks : List Task) (now : Instant) :
    (text (task :: tasks) now).toList =
      (line task now).toList ++ '\n' :: (text tasks now).toList := by
  simp [text, String.toList_append]

/-- **The lines of a printed list** are those of its tasks if no task has a line break in it. -/
theorem lines_text (h : ∀ task ∈ tasks, '\n' ∉ (line task now).toList) :
    lines (text tasks now) = tasks.map (line · now) := by
  induction tasks with
  | nil => rfl
  | cons task tasks ih =>
    obtain ⟨htask, htasks⟩ := List.forall_mem_cons.mp h
    have hmore := ih htasks
    rw [lines] at hmore ⊢
    rw [toList_text_cons, cut_append htask, List.map_cons, List.map_cons, String.ofList_toList,
      hmore]

theorem length_le_length_lines (tasks : List Task) (now : Instant) :
    tasks.length ≤ (lines (text tasks now)).length := by
  induction tasks with
  | nil => exact Nat.zero_le _
  | cons task tasks ih =>
    rw [lines, List.length_map] at ih ⊢
    rw [toList_text_cons, length_cut_append, List.length_cons]
    omega

/-- **There is a line for each task** exactly if no task has a line break in it. -/
theorem length_lines_eq_iff :
    (lines (text tasks now)).length = tasks.length ↔
      ∀ task ∈ tasks, '\n' ∉ (line task now).toList := by
  refine ⟨fun h => ?_, fun h => by rw [lines_text h, List.length_map]⟩
  induction tasks with
  | nil => exact List.forall_mem_nil _
  | cons task tasks ih =>
    have hle := length_le_length_lines tasks now
    rw [lines, List.length_map] at h hle
    rw [toList_text_cons, length_cut_append, List.length_cons] at h
    -- Every task behind has its line, so none is left for a line break in this one.
    have hnone : (line task now).toList.count '\n' = 0 := by omega
    have hmore : (lines (text tasks now)).length = tasks.length := by
      rw [lines, List.length_map]
      omega
    exact List.forall_mem_cons.mpr ⟨List.count_eq_zero.mp hnone, ih hmore⟩

/-! ### Items -/

/-- **What a line tells of a task.** -/
structure Item where
  /-- The id. -/
  id : String
  /-- Whether the task is marked as done. -/
  done : Bool
  /-- The summary. -/
  summary : String
  deriving DecidableEq, Repr

/-- **What is told of a task** at a time. -/
def item (task : Task) (now : Instant) : Item :=
  ⟨task.id, isDone task now, task.summary⟩

/-- **Reads a line**: an id up to the first space, a mark, and all the rest as the summary. -/
def Item.read? (line : String) : Option Item :=
  match line.toList with
  | '#' :: rest =>
    match rest.dropWhile (· ≠ ' ') with
    | ' ' :: '[' :: mark :: ']' :: ' ' :: summary =>
      some ⟨String.ofList (rest.takeWhile (· ≠ ' ')), mark = '✓', String.ofList summary⟩
    | _ => none
  | _ => none

/-- **Reads a printed list.** -/
def read? (text : String) : Option (List Item) :=
  (lines text).mapM Item.read?

theorem toList_line (task : Task) (now : Instant) :
    (line task now).toList = '#' :: (task.id.toList ++ ' ' :: '[' ::
      (if isDone task now then '✓' else ' ') :: ']' :: ' ' :: task.summary.toList) := by
  unfold line
  split <;> simp [String.toList_append]

/-- **A line is read back**, if no space stands in the id. -/
theorem Item.read?_line {task : Task} (hid : ' ' ∉ task.id.toList) (now : Instant) :
    Item.read? (line task now) = some (item task now) := by
  have hall : ∀ c ∈ task.id.toList, decide (c ≠ ' ') = true := by
    intro c hc
    exact decide_eq_true fun heq => hid (heq ▸ hc)
  unfold Item.read?
  rw [toList_line]
  simp only
  rw [List.dropWhile_append_of_pos hall, List.takeWhile_append_of_pos hall]
  cases hdone : isDone task now with
  | true => simp [item, hdone]
  | false => simp [item, hdone]

/-! ### What a printed list tells -/

/-- **A printed list tells of its tasks**: there is one line for each, in order, and it is read back
as what it is to tell. -/
structure Tells (tasks : List Task) (now : Instant) : Prop where
  /-- The lines are those of the tasks. -/
  lines_eq : lines (text tasks now) = tasks.map (line · now)
  /-- The tasks are read back. -/
  read?_eq : read? (text tasks now) = some (tasks.map (item · now))

theorem read?_text (hlines : ∀ task ∈ tasks, '\n' ∉ (line task now).toList)
    (hids : ∀ task ∈ tasks, ' ' ∉ task.id.toList) :
    read? (text tasks now) = some (tasks.map (item · now)) := by
  rw [read?, lines_text hlines]
  clear hlines
  induction tasks with
  | nil => rfl
  | cons task tasks ih =>
    obtain ⟨htask, htasks⟩ := List.forall_mem_cons.mp hids
    rw [List.map_cons, List.mapM_cons, Item.read?_line htask, ih htasks]
    rfl

/-- A line break in a line stands in the summary, where ids are numerals. -/
theorem newline_mem_line_iff {task : Task} {number : Nat} (hid : task.id = Decimal.text number)
    (now : Instant) : '\n' ∈ (line task now).toList ↔ '\n' ∈ task.summary.toList := by
  have hnone : '\n' ∉ task.id.toList := by
    intro h
    rw [hid] at h
    exact absurd (Decimal.not_blank_of_mem_text h) (by decide)
  have hmark : '\n' ≠ if isDone task now then '✓' else ' ' := by
    split <;> decide
  simp [toList_line, hnone, hmark]

variable {start start' : Store}

/-- **A list of a run tells of its tasks** exactly if no summary has a line break in it. -/
theorem tells_iff (hstart : start.Fresh) (steps : List (Operation × Instant)) (now : Instant) :
    Tells (start.run steps).2.list now ↔
      ∀ task ∈ (start.run steps).2.list, '\n' ∉ task.summary.toList := by
  have hid : ∀ task ∈ (start.run steps).2.list, ∃ number, task.id = Decimal.text number :=
    fun task htask => hstart.id_eq_of_mem_list steps htask
  have hspace : ∀ task ∈ (start.run steps).2.list, ' ' ∉ task.id.toList := by
    intro task htask hmem
    obtain ⟨number, hnumber⟩ := hid task htask
    rw [hnumber] at hmem
    exact absurd (Decimal.not_blank_of_mem_text hmem) (by decide)
  have hbreak : (∀ task ∈ (start.run steps).2.list, '\n' ∉ (line task now).toList) ↔
      ∀ task ∈ (start.run steps).2.list, '\n' ∉ task.summary.toList := by
    refine forall₂_congr fun task htask => not_congr ?_
    obtain ⟨number, hnumber⟩ := hid task htask
    exact newline_mem_line_iff hnumber now
  rw [← hbreak]
  constructor
  · intro h
    exact length_lines_eq_iff.mp (by rw [h.lines_eq, List.length_map])
  · intro h
    exact ⟨lines_text h, read?_text h hspace⟩

/-- **When printed lists tell their tasks apart.** Two lists are printed that two stores hold after
any runs, each at its time. It is so exactly if no summary in them has a line break in it that each
text has one line for each task, in order, that the id, the mark and the summary of every task are
read back from it, and that lists with another id, mark or summary are other texts. -/
theorem told_apart_iff (hstart : start.Fresh) (hstart' : start'.Fresh)
    (steps steps' : List (Operation × Instant)) (now now' : Instant) :
    (Tells (start.run steps).2.list now ∧ Tells (start'.run steps').2.list now' ∧
      ((start.run steps).2.list.map (item · now) ≠ (start'.run steps').2.list.map (item · now') →
        text (start.run steps).2.list now ≠ text (start'.run steps').2.list now')) ↔
      ∀ task ∈ (start.run steps).2.list ++ (start'.run steps').2.list,
        '\n' ∉ task.summary.toList := by
  rw [List.forall_mem_append, ← tells_iff hstart steps now, ← tells_iff hstart' steps' now']
  constructor
  · rintro ⟨h, h', -⟩
    exact ⟨h, h'⟩
  · rintro ⟨h, h'⟩
    refine ⟨h, h', fun hne htext => hne ?_⟩
    have hread := h.read?_eq
    rw [htext, h'.read?_eq] at hread
    exact (Option.some.inj hread).symm

/-- One of the demo tasks is done, and the lists of before and after are told apart by its mark. -/
theorem told_apart_done :
    let time : Instant := ⟨1714564800, 0⟩
    let start := Store.demo fun _ => time
    let steps : List (Operation × Instant) :=
      [(.update "2" { completedAt := some time } { completedAt := true }, time)]
    start.Fresh ∧ (start.run []).2.list.length = 3 ∧
      Tells (start.run steps).2.list time ∧
      text (start.run steps).2.list time ≠ text (start.run []).2.list time := by
  intro time start steps
  have hfresh : start.Fresh := .demo fun _ => time
  let before : List Task := [.new "1" "Get some milk 🥛" time, .new "2" "Walk the dog 🐕" time,
    .new "3" "Take over the world! 🌍" time]
  let after : List Task := [.new "1" "Get some milk 🥛" time,
    ⟨"2", "Walk the dog 🐕", time, some time, some time⟩, .new "3" "Take over the world! 🌍" time]
  have hbefore : (start.run []).2.list = before := by
    have hstore : (start.run []).2 = ⟨[("3", ⟨3, .new "3" "Take over the world! 🌍" time⟩),
        ("2", ⟨2, .new "2" "Walk the dog 🐕" time⟩),
        ("1", ⟨1, .new "1" "Get some milk 🥛" time⟩)], 3⟩ := by decide +kernel
    rw [hstore]
    simp [Store.list, before, List.mergeSort, List.MergeSort.Internal.splitInTwo,
      Store.createdBefore, Task.new, Instant.compare]
  have hafter : (start.run steps).2.list = after := by
    have hstore : (start.run steps).2 =
        ⟨[("2", ⟨2, ⟨"2", "Walk the dog 🐕", time, some time, some time⟩⟩),
          ("3", ⟨3, .new "3" "Take over the world! 🌍" time⟩),
          ("1", ⟨1, .new "1" "Get some milk 🥛" time⟩)], 3⟩ := by decide +kernel
    rw [hstore]
    simp [Store.list, after, List.mergeSort, List.MergeSort.Internal.splitInTwo,
      Store.createdBefore, Task.new, Instant.compare]
  obtain ⟨htells, -, happart⟩ := (told_apart_iff hfresh hfresh steps [] time time).mpr (by
    rw [hbefore, hafter]
    decide +kernel)
  refine ⟨hfresh, by rw [hbefore]; rfl, htells, happart ?_⟩
  rw [hbefore, hafter]
  decide +kernel

/-- **A line break is not told.** A task with one in its summary is printed on two lines, as two
tasks are. -/
theorem line_break_not_told :
    let time : Instant := ⟨1714564800, 0⟩
    let one := (Store.empty.run [(.create ⟨"tea\n#2 [ ] milk"⟩, time)]).2.list
    let two := (Store.empty.run [(.create ⟨"tea"⟩, time), (.create ⟨"milk"⟩, time)]).2.list
    text one time = text two time ∧ one.map (item · time) ≠ two.map (item · time) ∧
      one.length = 1 ∧ (lines (text one time)).length = 2 := by
  intro time one two
  have hone : one = [.new "1" "tea\n#2 [ ] milk" time] := by
    have hstore : (Store.empty.run [(.create ⟨"tea\n#2 [ ] milk"⟩, time)]).2 =
        ⟨[("1", ⟨1, .new "1" "tea\n#2 [ ] milk" time⟩)], 1⟩ := by decide +kernel
    simp [one, hstore, Store.list]
  have htwo : two = [.new "1" "tea" time, .new "2" "milk" time] := by
    have hstore : (Store.empty.run [(.create ⟨"tea"⟩, time), (.create ⟨"milk"⟩, time)]).2 =
        ⟨[("2", ⟨2, .new "2" "milk" time⟩), ("1", ⟨1, .new "1" "tea" time⟩)], 2⟩ := by
      decide +kernel
    simp [two, hstore, Store.list, List.mergeSort, List.MergeSort.Internal.splitInTwo,
      Store.createdBefore, Task.new, Instant.compare]
  rw [hone, htwo]
  decide +kernel

end Listing

end TaskDaemon
