import TaskDaemon.Daemon.Traffic
import TaskDaemon.Proofs.Rpc.Hearing

/-!
# A connection that is left alone

`TaskDaemon.Link` serves a connection step by step, so that stops and other connections can come in
between; `TaskDaemon.Rpc.serveStream` serves it in one go. Where nothing comes in between, the two
are the same (`TaskDaemon.Link.comesToRest`): round by round the connection hears what
`TaskDaemon.Rpc.hear` says, and it is closed unless it is still waiting.
-/

namespace TaskDaemon

namespace Link

/-- **A round of a connection for lines**, with the work that the backend lets through at the time
`now`, while nobody asks the server to stop. -/
def round (service : Service) (state : Link × Backend) (now : Instant) : Link × Backend :=
  finish service now state.2 (((state.1.turn {}).read service.limit).look {})

/-- **Nothing happens any more.** -/
def Rests (service : Service) (state : Link × Backend) : Prop :=
  ∀ now, round service state now = state

variable {service : Service} {link : Link}

/-- **Who is not working** has nothing that the backend could let through. -/
theorem finish_of_not_ready (hready : link.ready = none) (service : Service) (now : Instant)
    (backend : Backend) : link.finish service now backend = (link, backend) := by
  rw [finish, hready]

/-- A connection that works on nothing does nothing when it is looked after and let through. -/
theorem finish_look_idle (hidle : link.stage = .idle) (service : Service) (flags : StopFlags)
    (now : Instant) (backend : Backend) :
    finish service now backend (link.look flags) = (link, backend) := by
  have hlook : link.look flags = link := by rw [look, hidle]
  rw [hlook]
  exact finish_of_not_ready (by rw [ready, hidle]) service now backend

/-- A round of an idle connection is a line read, with its work. -/
theorem round_idle (service : Service) (hidle : link.stage = .idle)
    (hprotocol : link.protocol = .rpc) (backend : Backend) (now : Instant) :
    round service (link, backend) now =
      finish service now backend
        (({ link with stage := .reading }.readLine service.limit).look {}) := by
  unfold round turn
  simp [hidle, hprotocol, read]

/-- A closed connection rests. -/
theorem rests_of_closed (link : Link) (hclosed : link.stage = .closed) (backend : Backend) :
    Rests service (link, backend) := by
  intro now
  simp [round, turn, read, look, finish, ready, hclosed]

/-- **A connection comes to rest** when so many replies are sent and it is closed or left open. -/
def ComesToRest (service : Service) (link : Link) (backend : Backend) (replies : List Rpc.Reply)
    (closed : Bool) (after : Backend) : Prop :=
  ∃ (times : List Instant) (unread : Bytes) (final : Link),
    final = { link with
      unread := unread
      sent := link.sent ++ replies.map .line
      stage := if closed then .closed else .idle } ∧
      times.foldl (round service) (link, backend) = (final, after) ∧ Rests service (final, after)

/-- A connection that waits is at rest. -/
theorem comesToRest_of_waiting (hidle : link.stage = .idle) (hprotocol : link.protocol = .rpc)
    (backend : Backend)
    (hread : { link with stage := .reading }.readLine service.limit = link) :
    ComesToRest service link backend [] false backend := by
  refine ⟨[], link.unread, link, ?_, rfl, fun now => ?_⟩
  · rw [List.map_nil, List.append_nil, if_neg Bool.false_ne_true, ← hidle]
  · rw [round_idle service hidle hprotocol, hread, finish_look_idle hidle]

/-- A connection that closes when it reads is at rest in the next round. -/
theorem comesToRest_of_closed (hidle : link.stage = .idle) (hprotocol : link.protocol = .rpc)
    (backend : Backend) (replies : List Rpc.Reply)
    (hread : { link with stage := .reading }.readLine service.limit =
      { link with sent := link.sent ++ replies.map .line, stage := .closed }) :
    ComesToRest service link backend replies true backend := by
  refine ⟨[⟨0, 0⟩], link.unread, _, rfl, ?_, rests_of_closed _ rfl _⟩
  rw [List.foldl_cons, round_idle service hidle hprotocol, hread]
  rfl

/-- A round that leaves a connection open is followed by others. -/
theorem comesToRest_of_round {link' : Link} {backend backend' after : Backend} {now : Instant}
    (first : List Rpc.Reply) {later : List Rpc.Reply} {closed : Bool} {unread : Bytes}
    (hround : round service (link, backend) now = (link', backend'))
    (hlink : link' = { link with unread := unread, sent := link.sent ++ first.map .line })
    (hlater : ComesToRest service link' backend' later closed after) :
    ComesToRest service link backend (first ++ later) closed after := by
  obtain ⟨times, unread', final, hfinal, htimes, hrests⟩ := hlater
  refine ⟨now :: times, unread', final, ?_, ?_, hrests⟩
  · rw [hfinal, hlink, List.map_append, List.append_assoc]
  · rw [List.foldl_cons, hround, htimes]

/-- **A connection that is left alone** hears what there is to hear, handles it, sends the replies
and is closed, unless it is waiting for more; and then nothing happens any more. -/
theorem comesToRest (clock : Nat → Instant) (number : Nat) (link : Link) (backend : Backend)
    (hidle : link.stage = .idle) (hprotocol : link.protocol = .rpc) (hpeer : link.lost = false) :
    let heard := Rpc.hear service.limit link.ended link.unread
    let handled := Rpc.handleAll service.snapshot clock number backend heard.requests
    ComesToRest service link backend (handled.1 ++ heard.ending.parting service.limit)
      (decide (heard.ending ≠ .waiting)) handled.2 := by
  have hround := round_idle service hidle hprotocol backend
  rw [Rpc.hear]
  by_cases hempty : (Rpc.window service.limit link.unread).1 = []
  · rw [dif_pos hempty]
    by_cases hover : link.ended = true ∨ Rpc.windowSize service.limit = 0
    · rw [if_pos hover]
      refine comesToRest_of_closed hidle hprotocol backend [] ?_
      simp [readLine, hempty, hover, close]
    · rw [if_neg hover]
      refine comesToRest_of_waiting hidle hprotocol backend ?_
      simp only [readLine, hempty, if_neg hover, ← hidle]
      rfl
  rw [dif_neg hempty]
  by_cases hwaits : ¬link.ended = true ∧
      Rpc.isPartial service.limit (Rpc.window service.limit link.unread).1 = true
  · rw [if_pos hwaits]
    refine comesToRest_of_waiting hidle hprotocol backend ?_
    simp only [readLine, if_neg hempty, if_pos hwaits, ← hidle]
  rw [if_neg hwaits]
  -- A piece is read, and what it is taken for decides what the round does.
  cases hclass : Rpc.classify service.limit (Rpc.window service.limit link.unread).1 with
  | notText =>
    have hread : { link with stage := .reading }.readLine service.limit = link.close := by
      simp only [readLine, if_neg hempty, if_neg hwaits, hclass]
      rfl
    refine comesToRest_of_closed hidle hprotocol backend [] ?_
    rw [hread, List.map_nil, List.append_nil]
    rfl
  | tooLong =>
    refine comesToRest_of_closed hidle hprotocol backend [_] ?_
    simp only [readLine, if_neg hempty, if_neg hwaits, hclass, reply, hpeer]
    rfl
  | blank =>
    have hread : { link with stage := .reading }.readLine service.limit =
        { link with unread := (Rpc.window service.limit link.unread).2 } := by
      simp only [readLine, if_neg hempty, if_neg hwaits, hclass, ← hidle]
    have hlater := comesToRest clock number
      { link with unread := (Rpc.window service.limit link.unread).2 } backend hidle hprotocol hpeer
    refine comesToRest_of_round [] ((hround ⟨0, 0⟩).trans ?_) (by simp; rfl) hlater
    rw [hread]
    exact finish_look_idle (by exact hidle) _ _ _ _
  | request text =>
    have hread : { link with stage := .reading }.readLine service.limit =
        { link with
          unread := (Rpc.window service.limit link.unread).2
          stage := .waiting (.line text) } := by
      simp only [readLine, if_neg hempty, if_neg hwaits, hclass]
    let handled := Rpc.handle service.snapshot backend (clock number) text
    have hlater := comesToRest clock (number + 1)
      { link with
        unread := (Rpc.window service.limit link.unread).2
        sent := link.sent ++ [.line handled.1] } handled.2 hidle hprotocol hpeer
    refine comesToRest_of_round [handled.1] ((hround (clock number)).trans ?_) rfl hlater
    rw [hread]
    simp [look, finish, ready, Work.isWhole, Work.answer, reply, hpeer, hidle, handled]
termination_by link.unread.length
decreasing_by
  all_goals exact Rpc.drop_window_lt hempty

end Link

end TaskDaemon
