import Mathlib.Data.List.Induction
import Mathlib.Logic.Relation
import TaskDaemon.Daemon.Signal

/-!
# Signals and their clones

Signals are made and cloned, and asked to drain or to abort, in any order. What was asked of one is
seen at all its clones and at the signal that it is a clone of, whether the clone was there when it
was asked or came later, and nowhere else.

A run is a list of actions, before which there were no signals (`TaskDaemon.SignalBoard.after`).
Signals are numbered in the order of their birth, so whatever is added when there are so many has
that number. All that a run says is then which actions were done when
(`TaskDaemon.SignalBoard.Done`), and three things are read off it, none of which looks at the cells:

| in a run | what was done | where |
|---|---|---|
| a request was made | a drain or an abort | `TaskDaemon.SignalBoard.Asked` |
| a signal was made by itself | a `make` | `TaskDaemon.SignalBoard.Made` |
| two signals are joined | clones, from one to the other | `TaskDaemon.SignalBoard.Joined` |

The signals of a cell are those that are joined with the one that was made with the cell
(`TaskDaemon.SignalBoard.Grouped`), which every action keeps. The main result is
`TaskDaemon.SignalBoard.stops_reach_clones`.
-/

namespace TaskDaemon

open Relation

namespace SignalBoard

/-! ### Runs, and what was done in them -/

/-- **The signals after some actions**, before which there were none. -/
def after (actions : List Action) : SignalBoard :=
  actions.foldl act ⟨[], []⟩

theorem after_concat (actions : List Action) (action : Action) :
    after (actions ++ [action]) = (after actions).act action := by
  rw [after, List.foldl_append]
  rfl

/-- **An action can be done** among so many signals: the signal that it names is one of them. -/
def Action.IsPossible (count : Nat) : Action → Prop
  | .drain index | .abort index | .clone index => index < count
  | .make => True

/-- How many signals an action adds to so many. -/
def Action.adds (count : Nat) : Action → Nat
  | .drain _ | .abort _ => 0
  | .clone index => if index < count then 1 else 0
  | .make => 1

/-- **How many signals there are** after some actions. -/
def count (actions : List Action) : Nat :=
  actions.foldl (fun count action => count + action.adds count) 0

theorem count_concat (actions : List Action) (action : Action) :
    count (actions ++ [action]) = count actions + action.adds (count actions) := by
  rw [count, List.foldl_append]
  rfl

/-- **An action was done** in a run when there were so many signals. If it added one, that has this
number. -/
def Done (actions : List Action) (number : Nat) (action : Action) : Prop :=
  ∃ before, before ++ [action] <+: actions ∧ count before = number ∧ action.IsPossible number

/-- **A request was made** in a run. -/
def Asked (actions : List Action) (request : Action) : Prop :=
  ∃ number, Done actions number request

/-- **A signal was made by itself**, and not as a clone. -/
def Made (actions : List Action) (index : Nat) : Prop :=
  Done actions index .make

/-- A signal was made as a clone of another. -/
def Cloned (actions : List Action) (source index : Nat) : Prop :=
  Done actions index (.clone source)

/-- **Two signals are joined** by clones: through any chain of them, in either direction. -/
def Joined (actions : List Action) : Nat → Nat → Prop :=
  EqvGen (Cloned actions)

section Done

variable {actions : List Action} {number index other : Nat} {action last : Action}

theorem not_done_nil : ¬Done [] number action := by
  rintro ⟨before, hprefix, -⟩
  simp at hprefix

theorem Done.append (h : Done actions number action) (later : List Action) :
    Done (actions ++ later) number action := by
  obtain ⟨before, hprefix, hdone⟩ := h
  exact ⟨before, hprefix.trans (List.prefix_append _ _), hdone⟩

/-- **What was done in a run with one action more.** -/
theorem done_concat_iff :
    Done (actions ++ [last]) number action ↔
      Done actions number action ∨
        action = last ∧ number = count actions ∧ last.IsPossible number := by
  constructor
  · rintro ⟨before, hprefix, hcount, hpossible⟩
    rcases List.prefix_concat_iff.mp hprefix with heq | hprefix
    · obtain ⟨rfl, hlast⟩ := List.append_inj' heq rfl
      cases hlast
      exact Or.inr ⟨rfl, hcount.symm, hpossible⟩
    · exact Or.inl ⟨before, hprefix, hcount, hpossible⟩
  · rintro (hdone | ⟨rfl, rfl, hpossible⟩)
    · exact hdone.append _
    · exact ⟨actions, List.prefix_rfl, rfl, hpossible⟩

theorem Asked.append (h : Asked actions action) (later : List Action) :
    Asked (actions ++ later) action := by
  obtain ⟨number, hdone⟩ := h
  exact ⟨number, hdone.append later⟩

/-- What an action has added is there at the end of the run. -/
theorem Done.add_le_count (h : Done actions number action) :
    number + action.adds number ≤ count actions := by
  induction actions using List.reverseRecOn with
  | nil => exact absurd h not_done_nil
  | append_singleton actions last ih =>
    rw [count_concat]
    rcases done_concat_iff.mp h with hdone | ⟨rfl, rfl, -⟩
    · have := ih hdone
      omega
    · exact Nat.le_refl _

theorem Made.lt_count (h : Made actions index) : index < count actions :=
  Done.add_le_count h

/-- **Signals that are joined stay joined.** -/
theorem Joined.append (h : Joined actions index other) (later : List Action) :
    Joined (actions ++ later) index other :=
  EqvGen.mono (fun _ _ hcloned => Done.append hcloned later) _ _ h

end Done

/-! ### One action -/

/-- A request at a signal, and what it does to the flags. -/
inductive Requests (index : Nat) : Action → (StopFlags → StopFlags) → Prop where
  /-- Running work may finish. -/
  | drain : Requests index (.drain index) StopFlags.drain
  /-- Running work is given up. -/
  | abort : Requests index (.abort index) StopFlags.abort

/-- **What an action does to signals.** -/
inductive Move (board : SignalBoard) : Action → SignalBoard → Prop where
  /-- The signal that it names is not there, and nothing changes. -/
  | rest {action : Action} (absent : ¬action.IsPossible board.handles.length) :
    Move board action board
  /-- Something is asked of the cell of a signal. -/
  | ask {index cell : Nat} {action : Action} {change : StopFlags → StopFlags}
    (found : board.handles[index]? = some cell) (requests : Requests index action change) :
    Move board action { board with cells := board.cells.modify cell change }
  /-- A signal is added on the cell of another. -/
  | clone {index cell : Nat} (found : board.handles[index]? = some cell) :
    Move board (.clone index) { board with handles := board.handles ++ [cell] }
  /-- A signal is added on a cell of its own. -/
  | make :
    Move board .make
      ⟨board.handles ++ [board.cells.length], board.cells ++ [({} : StopFlags)]⟩

/-- **Every action is a move.** -/
theorem move_act (board : SignalBoard) (action : Action) :
    Move board action (board.act action) := by
  have hask : ∀ {index : Nat} {action : Action} {change : StopFlags → StopFlags},
      (board.handles.length ≤ index → ¬action.IsPossible board.handles.length) →
      Requests index action change → Move board action (board.touch index change) := by
    intro index action change habsent hrequests
    rw [touch]
    split
    · next hnone => exact .rest (habsent (List.getElem?_eq_none_iff.mp hnone))
    · next hfound => exact .ask hfound hrequests
  cases action with
  | drain index => exact hask Nat.not_lt.mpr .drain
  | abort index => exact hask Nat.not_lt.mpr .abort
  | clone index =>
    rw [act]
    split
    · next hnone => exact .rest (Nat.not_lt.mpr (List.getElem?_eq_none_iff.mp hnone))
    · next hfound => exact .clone hfound
  | make => exact .make

/-! ### Cells and those who share them

A cell comes with the signal that is made on it, and every later signal of the cell is a clone of
one that is there already. So the signals of a cell are what is joined with the first. -/

/-- **The signal that a cell was made for**, with which all others of the cell are joined. -/
structure Founds (actions : List Action) (board : SignalBoard) (origin cell : Nat) : Prop where
  made : Made actions origin
  found : board.handles[origin]? = some cell
  /-- The signals of the cell are joined with it. -/
  joined : ∀ {index : Nat}, board.handles[index]? = some cell → Joined actions index origin
  /-- No other signal of the cell was made by itself. -/
  only : ∀ {index : Nat}, board.handles[index]? = some cell → Made actions index → index = origin

/-- **What holds of the signals after some actions.** -/
structure Grouped (actions : List Action) (board : SignalBoard) : Prop where
  /-- All signals are there. -/
  length : board.handles.length = count actions
  /-- A signal has a cell. -/
  lt_cells : ∀ {index cell : Nat}, board.handles[index]? = some cell → cell < board.cells.length
  /-- A clone is on the cell of what it is a clone of. -/
  cloned : ∀ {source index : Nat}, Cloned actions source index →
    ∃ cell, board.handles[source]? = some cell ∧ board.handles[index]? = some cell
  /-- A cell was made for a signal. -/
  founder : ∀ {cell : Nat}, cell < board.cells.length → ∃ origin, Founds actions board origin cell

section Grouped

variable {actions : List Action} {board next : SignalBoard} {action : Action}
  {index other origin cell : Nat}

theorem getElem?_concat_eq_some_iff {handles : List Nat} {last : Nat} :
    (handles ++ [last])[index]? = some cell ↔
      handles[index]? = some cell ∨ index = handles.length ∧ cell = last := by
  grind

/-- Signals of one cell are joined. -/
theorem Grouped.joined (h : Grouped actions board) (hindex : board.handles[index]? = some cell)
    (hother : board.handles[other]? = some cell) : Joined actions index other := by
  obtain ⟨origin, hfounds⟩ := h.founder (h.lt_cells hindex)
  exact (hfounds.joined hindex).trans _ _ _ ((hfounds.joined hother).symm _ _)

/-- Signals that are joined are on one cell. -/
theorem Grouped.handles_eq (h : Grouped actions board) (hjoined : Joined actions index other) :
    board.handles[index]? = board.handles[other]? := by
  induction hjoined with
  | rel source clone hcloned =>
    obtain ⟨cell, hsource, hclone⟩ := h.cloned hcloned
    rw [hsource, hclone]
  | refl index => rfl
  | symm index other _ ih => exact ih.symm
  | trans index middle other _ _ ih ih' => exact ih.trans ih'

/-- **The signals of a cell are those joined with one of them.** -/
theorem Grouped.joined_iff (h : Grouped actions board)
    (hindex : board.handles[index]? = some cell) :
    Joined actions index other ↔ board.handles[other]? = some cell :=
  ⟨fun hjoined => h.handles_eq hjoined ▸ hindex, h.joined hindex⟩

/-- **No signals** are in groups. -/
theorem grouped_nil : Grouped [] ⟨[], []⟩ where
  length := rfl
  lt_cells h := by simp at h
  cloned h := absurd h not_done_nil
  founder h := by simp at h

theorem Move.length_handles (h : Move board action next) :
    next.handles.length = board.handles.length + action.adds board.handles.length := by
  cases h with
  | @rest action absent => cases action <;> grind [Action.IsPossible, Action.adds]
  | ask _ requests => cases requests <;> rfl
  | clone found =>
    have := (List.getElem?_eq_some_iff.mp found).1
    simp [Action.adds, this]
  | make => simp [Action.adds]

/-- Signals keep their cells. -/
theorem Move.handles_prefix (h : Move board action next) : board.handles <+: next.handles := by
  cases h with
  | rest | ask => exact List.prefix_rfl
  | clone | make => exact List.prefix_append _ _

theorem Move.length_cells_le (h : Move board action next) :
    board.cells.length ≤ next.cells.length := by
  cases h with
  | rest | clone => exact Nat.le_refl _
  | ask => simp
  | make => simp

theorem Move.found (h : Move board action next) (hindex : board.handles[index]? = some cell) :
    next.handles[index]? = some cell := by
  obtain ⟨added, hadded⟩ := h.handles_prefix
  rw [← hadded, List.getElem?_append_left (List.getElem?_eq_some_iff.mp hindex).1, hindex]

/-- **Who is on a cell after an action** was on it before, or has just been added: as a clone of one
that was on it, or by itself, on a new cell. -/
theorem Move.found_cases (h : Move board action next)
    (hindex : next.handles[index]? = some cell) :
    board.handles[index]? = some cell ∨ index = board.handles.length ∧
      ((∃ source, action = .clone source ∧ board.handles[source]? = some cell) ∨
        action = .make ∧ cell = board.cells.length) := by
  cases h with
  | rest | ask => exact Or.inl hindex
  | clone found =>
    rcases getElem?_concat_eq_some_iff.mp hindex with hold | ⟨rfl, rfl⟩
    · exact Or.inl hold
    · exact Or.inr ⟨rfl, Or.inl ⟨_, rfl, found⟩⟩
  | make =>
    rcases getElem?_concat_eq_some_iff.mp hindex with hold | ⟨rfl, rfl⟩
    · exact Or.inl hold
    · exact Or.inr ⟨rfl, Or.inr ⟨rfl, rfl⟩⟩

/-- The signal that a cell was made for stays so. -/
theorem Founds.move (h : Founds actions board origin cell) (hgrouped : Grouped actions board)
    (hmove : Move board action next) : Founds (actions ++ [action]) next origin cell where
  made := h.made.append _
  found := hmove.found h.found
  joined := by
    intro index hindex
    rcases hmove.found_cases hindex with hold | ⟨hnew, ⟨source, rfl, hsource⟩ | ⟨-, hcell⟩⟩
    · exact (h.joined hold).append _
    · -- A clone is joined with its source, which was on the cell before.
      have hpossible := (List.getElem?_eq_some_iff.mp hsource).1
      have hcloned : Cloned (actions ++ [.clone source]) source index :=
        done_concat_iff.mpr (Or.inr ⟨rfl, hnew.trans hgrouped.length, hnew ▸ hpossible⟩)
      exact .trans _ _ _ (.symm _ _ (.rel _ _ hcloned)) ((h.joined hsource).append _)
    · exact absurd (hgrouped.lt_cells h.found) (by omega)
  only := by
    intro index hindex hmade
    rcases hmove.found_cases hindex with hold | ⟨hnew, hadded⟩
    · rcases done_concat_iff.mp hmade with hmade | ⟨-, hcount, -⟩
      · exact h.only hold hmade
      · have := (List.getElem?_eq_some_iff.mp hold).1
        exact absurd hgrouped.length (by omega)
    · rcases hadded with ⟨source, rfl, -⟩ | ⟨-, hcell⟩
      · rcases done_concat_iff.mp hmade with hmade | ⟨hclone, -⟩
        · have := Made.lt_count hmade
          exact absurd hgrouped.length (by omega)
        · cases hclone
      · exact absurd (hgrouped.lt_cells h.found) (by omega)

/-- A signal that is made founds its cell, on which nobody else is. -/
theorem Grouped.founds_make (h : Grouped actions board) :
    Founds (actions ++ [.make]) (board.act .make) board.handles.length board.cells.length := by
  have halone : ∀ {index : Nat}, (board.act .make).handles[index]? = some board.cells.length →
      index = board.handles.length := by
    intro index hindex
    rcases (move_act board .make).found_cases hindex with hold | ⟨hnew, -⟩
    · exact absurd (h.lt_cells hold) (Nat.lt_irrefl _)
    · exact hnew
  refine ⟨done_concat_iff.mpr (Or.inr ⟨rfl, h.length, trivial⟩), ?_, ?_, ?_⟩
  · exact getElem?_concat_eq_some_iff.mpr (Or.inr ⟨rfl, rfl⟩)
  · intro index hindex
    rw [halone hindex]
    exact .refl _
  · exact fun hindex _ => halone hindex

/-- **Every action keeps signals in groups.** -/
theorem Grouped.move (h : Grouped actions board) (hmove : Move board action next) :
    Grouped (actions ++ [action]) next where
  length := by rw [hmove.length_handles, h.length, count_concat]
  lt_cells := by
    intro index cell hindex
    have hle := hmove.length_cells_le
    rcases hmove.found_cases hindex with hold | ⟨-, ⟨source, -, hsource⟩ | ⟨rfl, rfl⟩⟩
    · exact Nat.lt_of_lt_of_le (h.lt_cells hold) hle
    · exact Nat.lt_of_lt_of_le (h.lt_cells hsource) hle
    · cases hmove with
      | rest absent => exact absurd trivial absent
      | ask _ requests => cases requests
      | make => simp
  cloned := by
    intro source index hcloned
    rcases done_concat_iff.mp hcloned with hcloned | ⟨rfl, rfl, hpossible⟩
    · obtain ⟨cell, hsource, hclone⟩ := h.cloned hcloned
      exact ⟨cell, hmove.found hsource, hmove.found hclone⟩
    · rw [← h.length] at hpossible ⊢
      cases hmove with
      | rest absent => exact absurd hpossible absent
      | ask _ requests => cases requests
      | clone found =>
        exact ⟨_, getElem?_concat_eq_some_iff.mpr (Or.inl found),
          getElem?_concat_eq_some_iff.mpr (Or.inr ⟨rfl, rfl⟩)⟩
  founder := by
    intro cell hcell
    by_cases hold : cell < board.cells.length
    · obtain ⟨origin, hfounds⟩ := h.founder hold
      exact ⟨origin, hfounds.move h hmove⟩
    · cases hmove with
      | rest | clone => exact absurd hcell hold
      | ask => exact absurd (by simpa using hcell) hold
      | make =>
        obtain rfl : cell = board.cells.length := by simp at hcell; omega
        exact ⟨_, h.founds_make⟩

/-- **Signals are in groups after any actions.** -/
theorem grouped_after (actions : List Action) : Grouped actions (after actions) := by
  induction actions using List.reverseRecOn with
  | nil => exact grouped_nil
  | append_singleton actions action ih =>
    rw [after_concat]
    exact ih.move (move_act _ action)

/-- **Every signal goes back to one that was made by itself**, and to one only. -/
theorem existsUnique_origin (h : index < count actions) :
    ∃! origin, Made actions origin ∧ Joined actions index origin := by
  have hgrouped := grouped_after actions
  have hindex := List.getElem?_eq_getElem (hgrouped.length ▸ h)
  obtain ⟨origin, hfounds⟩ := hgrouped.founder (hgrouped.lt_cells hindex)
  refine ⟨origin, ⟨hfounds.made, hfounds.joined hindex⟩, ?_⟩
  rintro other ⟨hmade, hjoined⟩
  exact hfounds.only ((hgrouped.joined_iff hindex).mp hjoined) hmade

end Grouped

/-! ### What the flags tell

A cell has a flag up exactly if a request that raises it was made of a signal of the cell. The two
flags differ in one thing only: a drain raises one of them. -/

/-- **A flag that requests raise**: which ones, at which signal. -/
structure RaisedBy (flag : StopFlags → Bool) (raises : Nat → Action → Prop) : Prop where
  /-- At first the flag is down. -/
  new : flag {} = false
  /-- A request raises the flag, or leaves it as it is. -/
  request : ∀ {index : Nat} {action : Action} {change : StopFlags → StopFlags},
    Requests index action change →
      ∀ flags, flag (change flags) = true ↔ raises index action ∨ flag flags = true
  /-- Nothing but requests at the signal raises it. -/
  only : ∀ {index : Nat} {action : Action}, raises index action →
    action = .drain index ∨ action = .abort index

theorem raisedBy_draining : RaisedBy StopFlags.draining
    fun index action => action = .drain index ∨ action = .abort index where
  new := rfl
  request h flags := by cases h <;> simp [StopFlags.drain, StopFlags.abort]
  only h := h

theorem raisedBy_aborted : RaisedBy StopFlags.aborted
    fun index action => action = .abort index where
  new := rfl
  request h flags := by cases h <;> simp [StopFlags.drain, StopFlags.abort]
  only h := Or.inr h

section Flags

variable {flag : StopFlags → Bool} {raises : Nat → Action → Prop} {actions : List Action}
  {board next : SignalBoard} {action : Action} {index cell : Nat} {flags : StopFlags}

/-- A request that raises a flag was made of a signal. -/
def Raised (raises : Nat → Action → Prop) (actions : List Action) (index : Nat) : Prop :=
  ∃ request, raises index request ∧ Asked actions request

theorem raised_concat_iff (hflag : RaisedBy flag raises) :
    Raised raises (actions ++ [action]) index ↔
      Raised raises actions index ∨ raises index action ∧ index < count actions := by
  constructor
  · rintro ⟨request, hraises, number, hdone⟩
    rcases done_concat_iff.mp hdone with hdone | ⟨rfl, rfl, hpossible⟩
    · exact Or.inl ⟨request, hraises, number, hdone⟩
    · refine Or.inr ⟨hraises, ?_⟩
      rcases hflag.only hraises with rfl | rfl <;> exact hpossible
  · rintro (⟨request, hraises, hasked⟩ | ⟨hraises, hlt⟩)
    · exact ⟨request, hraises, hasked.append _⟩
    · refine ⟨action, hraises, count actions, done_concat_iff.mpr (Or.inr ⟨rfl, rfl, ?_⟩)⟩
      rcases hflag.only hraises with rfl | rfl <;> exact hlt

/-- **The flag of each cell is up if it was raised at a signal of the cell.** -/
def Tells (flag : StopFlags → Bool) (raises : Nat → Action → Prop) (actions : List Action)
    (board : SignalBoard) : Prop :=
  ∀ {cell : Nat} {flags : StopFlags}, board.cells[cell]? = some flags →
    (flag flags = true ↔ ∃ index, board.handles[index]? = some cell ∧ Raised raises actions index)

/-- Only a signal that is there can have a flag raised. -/
theorem Raised.lt_count (hflag : RaisedBy flag raises) (h : Raised raises actions index) :
    index < count actions := by
  obtain ⟨request, hraises, number, hdone⟩ := h
  have hle := hdone.add_le_count
  obtain ⟨-, -, -, hpossible⟩ := hdone
  rcases hflag.only hraises with rfl | rfl <;> exact Nat.lt_of_lt_of_le hpossible (by omega)

/-- What asks nothing of a signal that is there raises no flag. -/
theorem raised_concat_iff_of_idle (hflag : RaisedBy flag raises)
    (h : ∀ index, action = .drain index ∨ action = .abort index → ¬index < count actions) :
    Raised raises (actions ++ [action]) index ↔ Raised raises actions index := by
  rw [raised_concat_iff hflag, or_iff_left]
  rintro ⟨hraises, hlt⟩
  exact h index (hflag.only hraises) hlt

/-- Nothing has been asked of a signal that has just been added. -/
theorem exists_raised_added_iff {last : Nat} (hflag : RaisedBy flag raises)
    (hgrouped : Grouped actions board)
    (h : ∀ index, ¬(action = .drain index ∨ action = .abort index)) :
    (∃ index, (board.handles ++ [last])[index]? = some cell ∧
        Raised raises (actions ++ [action]) index) ↔
      ∃ index, board.handles[index]? = some cell ∧ Raised raises actions index := by
  simp only [raised_concat_iff_of_idle hflag fun index hasks => absurd hasks (h index)]
  refine exists_congr fun index => and_congr_left fun hraised => ?_
  rw [List.getElem?_append_left (hgrouped.length ▸ hraised.lt_count hflag)]

/-- A request at a signal raises flags there and nowhere else. -/
theorem Requests.index_eq {other : Nat} {change : StopFlags → StopFlags}
    (h : Requests index action change) (hflag : RaisedBy flag raises)
    (hraises : raises other action) : other = index := by
  rcases hflag.only hraises with rfl | rfl <;> cases h <;> rfl

/-- What is asked of a signal that is there is raised at that signal. -/
theorem raised_concat_iff_of_requests {other : Nat} {change : StopFlags → StopFlags}
    (hflag : RaisedBy flag raises) (h : Requests index action change)
    (hlt : index < count actions) :
    Raised raises (actions ++ [action]) other ↔
      Raised raises actions other ∨ other = index ∧ raises index action := by
  rw [raised_concat_iff hflag]
  refine or_congr_right ⟨?_, ?_⟩
  · rintro ⟨hraises, -⟩
    obtain rfl := h.index_eq hflag hraises
    exact ⟨rfl, hraises⟩
  · rintro ⟨rfl, hraises⟩
    exact ⟨hraises, hlt⟩

/-- **Every action keeps what the flags tell.** -/
theorem Tells.move (h : Tells flag raises actions board) (hflag : RaisedBy flag raises)
    (hgrouped : Grouped actions board) (hmove : Move board action next) :
    Tells flag raises (actions ++ [action]) next := by
  intro cell flags hcell
  cases hmove with
  | rest absent =>
    have hidle : ∀ index, action = .drain index ∨ action = .abort index →
        ¬index < count actions := by
      rw [← hgrouped.length]
      rintro index (rfl | rfl) <;> exact absent
    simp only [raised_concat_iff_of_idle hflag hidle]
    exact h hcell
  | @ask index there _ change found requests =>
    have hlt : index < count actions := hgrouped.length ▸ (List.getElem?_eq_some_iff.mp found).1
    simp only [raised_concat_iff_of_requests hflag requests hlt]
    rw [List.getElem?_modify] at hcell
    obtain ⟨old, hold, rfl⟩ := Option.map_eq_some_iff.mp hcell
    by_cases hsame : there = cell
    · subst hsame
      rw [if_pos rfl, hflag.request requests, h hold]
      grind
    · -- The signal that was asked is on another cell.
      rw [if_neg hsame, h hold]
      grind
  | clone found =>
    rw [exists_raised_added_iff hflag hgrouped fun index => by simp]
    exact h hcell
  | make =>
    rw [exists_raised_added_iff hflag hgrouped fun index => by simp]
    by_cases hold : cell < board.cells.length
    · rw [List.getElem?_append_left hold] at hcell
      exact h hcell
    · -- The cell is new: its flags are down, and no signal that was there is on it.
      have hnew : flags = {} := by grind
      rw [hnew, hflag.new]
      refine iff_of_false (by simp) ?_
      rintro ⟨other, hother, -⟩
      exact hold (hgrouped.lt_cells hother)

/-- **What the flags tell after any actions.** -/
theorem tells_after (hflag : RaisedBy flag raises) (actions : List Action) :
    Tells flag raises actions (after actions) := by
  induction actions using List.reverseRecOn with
  | nil =>
    intro cell flags hcell
    simp [after] at hcell
  | append_singleton actions action ih =>
    rw [after_concat]
    exact ih.move hflag (grouped_after actions) (move_act _ action)

/-- **A flag of a signal is up if it was raised at a signal that is joined with it.** -/
theorem flag_flags_iff (hflag : RaisedBy flag raises) (actions : List Action) (index : Nat) :
    flag ((after actions).flags index) = true ↔
      ∃ other, Joined actions index other ∧ Raised raises actions other := by
  have hgrouped := grouped_after actions
  cases hindex : (after actions).handles[index]? with
  | none =>
    have hflags : (after actions).flags index = {} := by rw [SignalBoard.flags, hindex]; rfl
    rw [hflags, hflag.new]
    refine iff_of_false (by simp) ?_
    rintro ⟨other, hjoined, hraised⟩
    have hlt := hraised.lt_count hflag
    rw [hgrouped.handles_eq hjoined, List.getElem?_eq_none_iff, hgrouped.length] at hindex
    omega
  | some cell =>
    obtain ⟨flags, hcell⟩ : ∃ flags, (after actions).cells[cell]? = some flags :=
      ⟨_, List.getElem?_eq_getElem (hgrouped.lt_cells hindex)⟩
    have hflags : (after actions).flags index = flags := by
      rw [SignalBoard.flags, hindex, Option.bind_some, hcell, Option.getD_some]
    rw [hflags, tells_after hflag actions hcell]
    simp only [hgrouped.joined_iff hindex]

end Flags

/-! ### Signals that have nothing to do with one another -/

section Apart

variable {actions : List Action} {keeps : Action → Bool} {index number : Nat} {action : Action}

/-- **A choice of actions that has all that matters to a signal**: how signals come about, and what
is asked of those that are joined with it. -/
structure Covers (keeps : Action → Bool) (actions : List Action) (index : Nat) : Prop where
  make : keeps .make = true
  clone : ∀ source : Nat, keeps (.clone source) = true
  drain : ∀ {other : Nat}, Joined actions index other → keeps (.drain other) = true
  abort : ∀ {other : Nat}, Joined actions index other → keeps (.abort other) = true

/-- What is left out adds no signal. -/
theorem Covers.adds_eq_zero (h : Covers keeps actions index) (hleft : keeps action = false) :
    action.adds number = 0 := by
  cases action with
  | drain | abort => rfl
  | clone source => rw [h.clone source] at hleft; cases hleft
  | make => rw [h.make] at hleft; cases hleft

theorem count_filter (hleft : ∀ action number, keeps action = false → action.adds number = 0)
    (actions : List Action) : count (actions.filter keeps) = count actions := by
  induction actions using List.reverseRecOn with
  | nil => rfl
  | append_singleton actions last ih =>
    rw [List.filter_append, count_concat]
    cases hlast : keeps last with
    | true => rw [List.filter_cons_of_pos hlast, List.filter_nil, count_concat, ih]
    | false =>
      rw [List.filter_cons_of_neg (by simp [hlast]), List.filter_nil, List.append_nil, ih,
        hleft last _ hlast, Nat.add_zero]

/-- **What is kept is done as it was**, if what is left out adds no signal. -/
theorem done_filter_iff (hleft : ∀ action number, keeps action = false → action.adds number = 0)
    (hkept : keeps action = true) :
    Done (actions.filter keeps) number action ↔ Done actions number action := by
  induction actions using List.reverseRecOn with
  | nil => rfl
  | append_singleton actions last ih =>
    rw [List.filter_append, done_concat_iff]
    cases hlast : keeps last with
    | true =>
      rw [List.filter_cons_of_pos hlast, List.filter_nil, done_concat_iff, ih,
        count_filter hleft]
    | false =>
      rw [List.filter_cons_of_neg (by simp [hlast]), List.filter_nil, List.append_nil, ih,
        or_iff_left]
      rintro ⟨rfl, -⟩
      rw [hkept] at hlast
      cases hlast

/-- **What matters to a signal decides on its flags.** -/
theorem Covers.flags_filter (h : Covers keeps actions index) :
    (after (actions.filter keeps)).flags index = (after actions).flags index := by
  have hleft : ∀ action number, keeps action = false → action.adds number = 0 :=
    fun _ _ => h.adds_eq_zero
  have hcloned : Cloned (actions.filter keeps) = Cloned actions := by
    funext source clone
    exact propext (done_filter_iff hleft (h.clone source))
  have hraised : ∀ {flag : StopFlags → Bool} {raises : Nat → Action → Prop},
      RaisedBy flag raises → ∀ {other : Nat}, Joined actions index other →
        (Raised raises (actions.filter keeps) other ↔ Raised raises actions other) := by
    intro flag raises hflag other hjoined
    refine exists_congr fun request => and_congr_right fun hraises => exists_congr fun number => ?_
    refine done_filter_iff hleft ?_
    rcases hflag.only hraises with rfl | rfl
    · exact h.drain hjoined
    · exact h.abort hjoined
  have hsame : ∀ {flag : StopFlags → Bool} {raises : Nat → Action → Prop}, RaisedBy flag raises →
      flag ((after (actions.filter keeps)).flags index) = flag ((after actions).flags index) := by
    intro flag raises hflag
    rw [Bool.eq_iff_iff, flag_flags_iff hflag, flag_flags_iff hflag, Joined, hcloned]
    exact exists_congr fun other => and_congr_right fun hjoined => hraised hflag hjoined
  exact congrArg₂ StopFlags.mk (hsame raisedBy_draining) (hsame raisedBy_aborted)

end Apart

/-- **What is asked of a signal is seen at all that are joined with it by clones**, and nowhere
else. -/
theorem stops_reach_clones (actions : List Action) :
    -- A signal drains if it was asked to drain or to abort, or another was that is joined with it,
    -- and is aborted if it was asked to abort, or another was.
    (∀ index : Nat, ((after actions).flags index).draining = true ↔
      ∃ other, Joined actions index other ∧
        (Asked actions (.drain other) ∨ Asked actions (.abort other))) ∧
    (∀ index : Nat, ((after actions).flags index).aborted = true ↔
      ∃ other, Joined actions index other ∧ Asked actions (.abort other)) ∧
    -- One that is aborted drains too.
    (∀ index : Nat, ((after actions).flags index).aborted = true →
      ((after actions).flags index).draining = true) ∧
    -- Whatever is done later, no flag goes down.
    (∀ (later : List Action) (index : Nat), ((after actions).flags index).draining = true →
      ((after (actions ++ later)).flags index).draining = true) ∧
    (∀ (later : List Action) (index : Nat), ((after actions).flags index).aborted = true →
      ((after (actions ++ later)).flags index).aborted = true) ∧
    -- Each signal is joined with one that was made by itself, and two of these are never joined.
    (∀ index < count actions, ∃ origin, Made actions origin ∧ Joined actions index origin) ∧
    (∀ index other : Nat, Made actions index → Made actions other → index ≠ other →
      ¬Joined actions index other) ∧
    -- Whatever is asked of signals that are not joined with one may as well be left out for it.
    (∀ (index : Nat) (keeps : Action → Bool), Covers keeps actions index →
      (after (actions.filter keeps)).flags index = (after actions).flags index) := by
  have hdraining : ∀ (actions : List Action) (index : Nat),
      ((after actions).flags index).draining = true ↔ ∃ other, Joined actions index other ∧
        (Asked actions (.drain other) ∨ Asked actions (.abort other)) := by
    intro actions index
    rw [flag_flags_iff raisedBy_draining]
    simp [Raised, or_and_right, exists_or]
  have haborted : ∀ (actions : List Action) (index : Nat),
      ((after actions).flags index).aborted = true ↔
        ∃ other, Joined actions index other ∧ Asked actions (.abort other) := by
    intro actions index
    rw [flag_flags_iff raisedBy_aborted]
    simp [Raised]
  refine ⟨hdraining actions, haborted actions, ?_, ?_, ?_, ?_, ?_,
    fun index keeps => Covers.flags_filter⟩
  · intro index h
    obtain ⟨other, hjoined, hasked⟩ := (haborted actions index).mp h
    exact (hdraining actions index).mpr ⟨other, hjoined, Or.inr hasked⟩
  · intro later index h
    obtain ⟨other, hjoined, hasked⟩ := (hdraining actions index).mp h
    exact (hdraining (actions ++ later) index).mpr
      ⟨other, hjoined.append later, hasked.imp (·.append later) (·.append later)⟩
  · intro later index h
    obtain ⟨other, hjoined, hasked⟩ := (haborted actions index).mp h
    exact (haborted (actions ++ later) index).mpr
      ⟨other, hjoined.append later, hasked.append later⟩
  · exact fun index hlt => (existsUnique_origin hlt).exists
  · intro index other hindex hother hne hjoined
    exact hne ((existsUnique_origin hindex.lt_count).unique ⟨hindex, .refl _⟩ ⟨hother, hjoined⟩)

/-- Of two signals that are made, one is asked to abort. -/
theorem stops_reach_clones_two :
    ((after [.make, .make, .abort 0]).flags 0).draining = true ∧
    ¬Joined [.make, .make, .abort 0] 0 1 ∧
    (after ([Action.make, .make, .abort 0].filter (· != .abort 0))).flags 1 =
      (after [.make, .make, .abort 0]).flags 1 := by
  obtain ⟨-, -, hdraining, -, -, -, hapart, hcovers⟩ :=
    stops_reach_clones [.make, .make, .abort 0]
  have hfirst : Made [.make, .make, .abort 0] 0 := ⟨[], by decide, rfl, trivial⟩
  have hsecond : Made [.make, .make, .abort 0] 1 := ⟨[.make], by decide, rfl, trivial⟩
  refine ⟨hdraining 0 rfl, hapart 0 1 hfirst hsecond (by decide), hcovers 1 _ ⟨rfl, ?_, ?_, ?_⟩⟩
  · exact fun source => rfl
  · exact fun _ => rfl
  · intro other hjoined
    have hcell := ((grouped_after _).joined_iff rfl).mp hjoined
    cases other with
    | zero => cases hcell
    | succ other => rfl

/-- A clone of a clone that came before the abort, one that came after it, and a signal apart. -/
example : (after [.make, .clone 0, .make, .clone 1, .abort 3, .drain 2, .clone 0]).allFlags =
    [⟨true, true⟩, ⟨true, true⟩, ⟨true, false⟩, ⟨true, true⟩, ⟨true, true⟩] := by
  decide

end SignalBoard

end TaskDaemon
