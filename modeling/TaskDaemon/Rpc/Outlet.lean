/-!
# The outlet of a connection

A peer that keeps up with its replies takes in any number of them. One that has stopped reading
takes in what fits into the memory set aside for the connection, and that is charged by the piece: a
text is cut into pieces, each piece is stored whole, and it may begin to be stored while the memory
charged so far is below the limit. So many short replies fill the memory sooner than one long reply
does.

* `TaskDaemon.Rpc.Piece.charge`: the memory that a piece takes;
* `TaskDaemon.Rpc.Outlet`: how much memory a connection has taken, if its peer has stopped reading;
* `TaskDaemon.Rpc.Outlet.take`: the outlet behind a text, if the text goes through.
-/

namespace TaskDaemon

namespace Rpc

/-! ### The memory of a piece -/

namespace Piece

/-- The size of a page of memory. -/
def page : Nat := 4096

/-- **The memory of whole pages** for so many bytes. -/
def pages (size : Nat) : Nat :=
  (size + page - 1) / page * page

/-- What a block keeps for itself: the rest of it holds text. -/
def blockEnd : Nat := 320

/-- What is kept about a piece beside its block. -/
def descriptor : Nat := 256

/-- **The block for the first bytes of a piece**: the smallest that holds them and its own end. -/
def block (size : Nat) : Nat :=
  ([512, 1024, 2048].find? (size + blockEnd ≤ ·)).getD page

/-- **The bytes of a piece that lie on pages**: those for which no block is large enough, up to
whole pages. -/
def paged (size : Nat) : Nat :=
  min size (pages (size - (page - blockEnd)))

/-- **The memory that a piece of so many bytes takes.** -/
def charge (size : Nat) : Nat :=
  descriptor + block (size - paged size) + pages (paged size)

/-- **The longest piece**: a full block and eight pages. -/
def limit : Nat := page - blockEnd + 8 * page

end Piece

/-! ### The outlet -/

/-- **The peer's side of a connection**: the memory taken by what the peer has not read, or nothing
if the peer keeps up with the replies. -/
abbrev Outlet := Option Nat

namespace Outlet

/-- The memory of a connection: at this much, no other piece begins to be stored. -/
def memory : Nat := 212992

/-- **The memory taken behind so many bytes more**, if they all find room. -/
def fill (taken size : Nat) : Option Nat :=
  if _ : size = 0 then some taken
  else if memory ≤ taken then none
  else fill (taken + Piece.charge (min size Piece.limit)) (size - Piece.limit)
termination_by size
decreasing_by
  have : 0 < Piece.limit := by decide
  omega

/-- **The outlet behind so many bytes more**, if they go through in time. -/
def take (outlet : Outlet) (size : Nat) : Option Outlet :=
  match outlet with
  | none => some none
  | some taken => (fill taken size).map some

/-- A peer that keeps up takes in everything. -/
theorem take_none (size : Nat) : take none size = some none := rfl

end Outlet

end Rpc

end TaskDaemon
