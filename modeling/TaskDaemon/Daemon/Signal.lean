/-!
# Requests to stop

A daemon is asked to stop in two ways: to *drain*, which lets running work finish, and to *abort*,
which gives it up. Whoever holds the signal, or a clone of it, can ask and can see what was asked.

* `TaskDaemon.StopFlags`: what was asked of one signal;
* `TaskDaemon.SignalBoard`: signals and their clones, which share what was asked;
* `TaskDaemon.SignalBoard.Action` and `TaskDaemon.SignalBoard.act`: what can be done with them.
-/

namespace TaskDaemon

/-- **What was asked of a signal.** -/
structure StopFlags where
  /-- New work is not taken in any more. -/
  draining : Bool := false
  /-- Running work is given up. -/
  aborted : Bool := false
  deriving DecidableEq, Repr

namespace StopFlags

/-- Asks to let running work finish. -/
def drain (flags : StopFlags) : StopFlags :=
  { flags with draining := true }

/-- **Asks to give up running work**, which is to take in no new work either. -/
def abort (_ : StopFlags) : StopFlags :=
  ⟨true, true⟩

end StopFlags

/-- **Signals and their clones.** A signal is a handle on a cell of flags, and clones are handles on
one cell. -/
structure SignalBoard where
  /-- The cell of each signal. -/
  handles : List Nat
  /-- What was asked of each cell. -/
  cells : List StopFlags
  deriving DecidableEq, Repr

namespace SignalBoard

/-- What can be done with signals. -/
inductive Action where
  /-- Ask the signal at this index to drain. -/
  | drain (index : Nat)
  /-- Ask the signal at this index to abort. -/
  | abort (index : Nat)
  /-- Clone the signal at this index. -/
  | clone (index : Nat)
  /-- Make a signal of its own. -/
  | make
  deriving DecidableEq, Repr

/-- Changes the cell of a signal. -/
def touch (board : SignalBoard) (index : Nat) (change : StopFlags → StopFlags) : SignalBoard :=
  match board.handles[index]? with
  | none => board
  | some cell => { board with cells := board.cells.modify cell change }

/-- **The signals after an action.** -/
def act (board : SignalBoard) : Action → SignalBoard
  | .drain index => board.touch index StopFlags.drain
  | .abort index => board.touch index StopFlags.abort
  | .clone index =>
    match board.handles[index]? with
    | none => board
    | some cell => { board with handles := board.handles ++ [cell] }
  | .make =>
    ⟨board.handles ++ [board.cells.length], board.cells ++ [{}]⟩

/-- **What was asked of a signal.** -/
def flags (board : SignalBoard) (index : Nat) : StopFlags :=
  ((board.handles[index]?).bind fun cell => board.cells[cell]?).getD {}

/-- What was asked of all signals, in order. -/
def allFlags (board : SignalBoard) : List StopFlags :=
  (List.range board.handles.length).map board.flags

end SignalBoard

end TaskDaemon
