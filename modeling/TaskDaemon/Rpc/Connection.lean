import TaskDaemon.Text.Blank
import TaskDaemon.Rpc.Outlet
import TaskDaemon.Rpc.Service

/-!
# Connections to the RPC interface

Requests stand on lines of their own. A line is read through a window of one byte more than a line
may have, which is enough to tell a line that is too long; what is left of such a line is never
looked at, since the connection ends there.

* `TaskDaemon.Rpc.windowSize`, `TaskDaemon.Rpc.window`: the bytes of one reading;
* `TaskDaemon.Rpc.Reading` and `TaskDaemon.Rpc.classify`: what a window holds;
* `TaskDaemon.Rpc.serveStream`: the replies to all that a peer sends on one connection, and the
  backend afterwards.
-/

namespace TaskDaemon

namespace Rpc

/-- The longest line that a peer may send, in bytes, unless told otherwise. -/
def defaultLineLimit : Nat := 1024 * 1024

/-- The newline as a byte. -/
def newline : UInt8 := 10

/-- **The loop of `window`**: `size` more bytes may be read, and `done` holds those that were, last
one first. -/
def windowFrom (done : Bytes) : Nat → Bytes → Bytes × Bytes
  | 0, stream => (done.reverse, stream)
  | _ + 1, [] => (done.reverse, [])
  | size + 1, byte :: stream =>
    if byte = newline then ((byte :: done).reverse, stream)
    else windowFrom (byte :: done) size stream

/-- The number of sizes that can be counted. -/
def sizes : Nat := Nat.pow 2 64

/-- **The size of a window**: one byte more than `limit`, unless that is too much to be counted;
then the window is empty. -/
def windowSize (limit : Nat) : Nat :=
  (limit + 1) % sizes

/-- **The bytes of one reading and those behind them**: up to a newline, which is included, and the
size of a window at most. -/
def window (limit : Nat) (stream : Bytes) : Bytes × Bytes :=
  windowFrom [] (windowSize limit) stream

/-- **A window and what is behind it** are the stream. -/
theorem windowFrom_append (done : Bytes) (size : Nat) (stream : Bytes) :
    (windowFrom done size stream).1 ++ (windowFrom done size stream).2 =
      done.reverse ++ stream := by
  induction size generalizing done stream with
  | zero => simp [windowFrom]
  | succ size ih =>
    cases stream with
    | nil => simp [windowFrom]
    | cons byte stream =>
      unfold windowFrom
      split
      · simp
      · rw [ih]
        simp

/-- **A window and what is behind it** are the stream. -/
theorem window_append (limit : Nat) (stream : Bytes) :
    (window limit stream).1 ++ (window limit stream).2 = stream := by
  simpa [window] using windowFrom_append [] (windowSize limit) stream

/-- **Whether a window is all there is to read for now**: it neither ends its line nor is full. -/
def isPartial (limit : Nat) (line : Bytes) : Bool :=
  line.length ≤ limit && line.getLast? ≠ some newline

/-- Text without the line ends that it ends with. -/
def withoutLineEnd (text : List Char) : List Char :=
  (text.reverse.dropWhile fun c => c = '\r' || c = '\n').reverse

/-- **What a window holds.** -/
inductive Reading where
  /-- Something that is no text. -/
  | notText
  /-- The front of a line that is too long. -/
  | tooLong
  /-- Blanks only. -/
  | blank
  /-- A request. -/
  | request (text : String)
  deriving DecidableEq, Repr

/-- **What a window holds**, for a limit on the length of lines. Blanks around a request do not
belong to it. -/
def classify (limit : Nat) (line : Bytes) : Reading :=
  match Utf8.decode line with
  | .error _ => .notText
  | .ok text =>
    if limit < (Utf8.encode (withoutLineEnd text)).length then .tooLong
    else
      let request := trim text
      if request.isEmpty then .blank else .request (String.ofList request)

/-- The bytes of a reply with its newline. -/
def Reply.size (reply : Reply) : Nat :=
  (Utf8.ofString reply.render).length + 1

/-- **What a connection looks at besides its bytes.** -/
structure Terms where
  /-- The longest line that may be sent, in bytes. -/
  limit : Nat := defaultLineLimit
  /-- What status calls tell. -/
  snapshot : ProcessSnapshot
  /-- The time of each request, by its number on the connection. -/
  clock : Nat → Instant
  /-- Whether the peer ends the stream, so that a last line needs no newline. -/
  ended : Bool := true

theorem drop_window_lt {limit : Nat} {stream : Bytes} (h : (window limit stream).1 ≠ []) :
    (window limit stream).2.length < stream.length := by
  have hlength := congrArg List.length (window_append limit stream)
  rw [List.length_append] at hlength
  have hpos := List.length_pos_iff.mpr h
  omega

/-- **The loop of `serveStream`**: `done` holds the replies so far, last one first. -/
def serveFrom (terms : Terms) (done : List Reply) (outlet : Outlet) (backend : Backend)
    (stream : Bytes) : List Reply × Backend :=
  if _ : (window terms.limit stream).1 = [] then (done.reverse, backend)
  else
    let line := (window terms.limit stream).1
    if ¬ terms.ended ∧ isPartial terms.limit line then (done.reverse, backend)
    else
      match classify terms.limit line with
      | .notText => (done.reverse, backend)
      | .tooLong =>
        let reply := oversized terms.limit
        match outlet.take reply.size with
        | some _ => ((reply :: done).reverse, backend)
        | none => (done.reverse, backend)
      | .blank => serveFrom terms done outlet backend (window terms.limit stream).2
      | .request text =>
        let (reply, backend) := handle terms.snapshot backend (terms.clock done.length) text
        match outlet.take reply.size with
        | some outlet =>
          serveFrom terms (reply :: done) outlet backend (window terms.limit stream).2
        | none => (done.reverse, backend)
termination_by stream.length
decreasing_by
  all_goals exact drop_window_lt (by assumption)

/-- **The replies to all that a peer sends on one connection**, and the backend afterwards. A
connection ends at its end, at something that is no text, at a line that is too long, and at a reply
that does not get through. -/
def serveStream (terms : Terms) (outlet : Outlet) (backend : Backend) (stream : Bytes) :
    List Reply × Backend :=
  serveFrom terms [] outlet backend stream

/-- **The text of replies**, each on its line. -/
def Reply.lines (replies : List Reply) : String :=
  String.join (replies.map fun reply => reply.render ++ "\n")

end Rpc

end TaskDaemon
