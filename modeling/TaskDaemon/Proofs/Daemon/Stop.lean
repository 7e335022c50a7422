import Mathlib.Tactic.SplitIfs
import TaskDaemon.Proofs.Daemon.Deeds

/-!
# Stops, and the work that is running

A server is asked to stop in two ways, in any order with everything else that happens to it. A drain
lets running work finish and takes in no more of it; an immediate stop gives running work up. But
whoever has looked for a stop and found none takes one more step before the next look, and the stop
may come in between:

| stop | looked for before | the step that may still be taken |
|---|---|---|
| drain | a line is read | the next line is read, and then worked on |
| immediate stop | work goes on | the backend lets the work through |

That is said here of whole runs, whatever the other events are and however long the backend holds a
piece of work.

* `TaskDaemon.Link.Quiet`: a connection for lines that does nothing, and will not when the server
  drains (`TaskDaemon.Link.Quiet.step`);
* `TaskDaemon.Server.Drains`: the state of a server that drains, kept by every event but an
  immediate stop (`TaskDaemon.Server.Drains.step`);
* `TaskDaemon.Server.Drains.quiet`, `TaskDaemon.Server.Drains.working` and
  `TaskDaemon.Server.Drains.reading`: what becomes of a connection in a run of such a server;
* `TaskDaemon.Server.deedsFor_of_aborted`: what is still done after an immediate stop.

The main result is `TaskDaemon.Server.stops_respect_work`; `TaskDaemon.Server.stops_overtaken` shows
the steps of the table being taken.
-/

namespace TaskDaemon

/-! ### One connection -/

namespace Link

variable {link : Link} {flags : StopFlags}

/-- **Nothing was read and nothing was sent** between two states of a connection. More bytes
may have come. -/
structure Keeps (link after : Link) : Prop where
  /-- It is the same connection. -/
  protocol_eq : after.protocol = link.protocol
  /-- What was there to be read still is. -/
  unread : link.unread <+: after.unread
  /-- The peer got nothing. -/
  sent_eq : after.sent = link.sent

theorem Keeps.refl (link : Link) : link.Keeps link :=
  ⟨rfl, List.prefix_rfl, rfl⟩

theorem Keeps.trans {middle after : Link} (h : link.Keeps middle) (h' : middle.Keeps after) :
    link.Keeps after :=
  ⟨h'.protocol_eq.trans h.protocol_eq, h.unread.trans h'.unread, h'.sent_eq.trans h.sent_eq⟩

/-- What has come over a connection for lines is still there when the peer is lost. -/
theorem lose_of_rpc (hprotocol : link.protocol = .rpc) :
    link.lose = { link with lost := true, ended := true } := by
  unfold lose
  split
  · rfl
  · rename_i hrest
    rw [hprotocol] at hrest
    cases hrest

/-- **A connection for lines that does nothing**: it is idle or closed. -/
def Quiet (link : Link) : Prop :=
  link.protocol = .rpc ∧ (link.stage = .idle ∨ link.stage = .closed)

theorem Quiet.ready_eq_none (h : link.Quiet) : link.ready = none := by
  rcases h.2 with hstage | hstage <;> rw [ready, hstage]

theorem quiet_reply (hprotocol : link.protocol = .rpc) (reaction : Reaction) :
    (link.reply reaction).Quiet := by
  unfold reply
  split
  · exact ⟨hprotocol, Or.inr rfl⟩
  · exact ⟨hprotocol, Or.inl rfl⟩

/-- **What was sent was sent.** -/
theorem sent_reply (link : Link) (reaction : Reaction) :
    link.sent <+: (link.reply reaction).sent := by
  unfold reply
  split
  · exact List.prefix_rfl
  · exact List.prefix_append ..

/-- A reply is one reaction, or none. -/
theorem sent_reply_eq (link : Link) (reaction : Reaction) :
    ∃ told, (link.reply reaction).sent = link.sent ++ told ∧ told.length ≤ 1 := by
  unfold reply
  split
  · exact ⟨[], (List.append_nil _).symm, Nat.zero_le 1⟩
  · exact ⟨[reaction], rfl, Nat.le_refl 1⟩

/-- A reply reads nothing. -/
theorem unread_reply (link : Link) {reaction : Reaction} :
    (link.reply reaction).unread = link.unread := by
  unfold reply
  split <;> rfl

/-- **Whoever is quiet when the server drains stays so**: it looks for the drain before it reads. -/
theorem Quiet.step (h : link.Quiet) (hflags : flags.draining = true) (limit : Nat)
    (event : Link.Event) :
    (link.step limit flags event).Quiet ∧ link.Keeps (link.step limit flags event) := by
  obtain ⟨hprotocol, hstage⟩ := h
  have hkept : link.Quiet ∧ link.Keeps link := ⟨⟨hprotocol, hstage⟩, .refl link⟩
  have hclosed : link.close.Quiet ∧ link.Keeps link.close :=
    ⟨⟨hprotocol, Or.inr rfl⟩, rfl, List.prefix_rfl, rfl⟩
  rcases event with bytes | _ | head | _ | _ | _ | _ | body | _ | _ | _ | _
  case send => exact ⟨⟨hprotocol, hstage⟩, rfl, List.prefix_append .., rfl⟩
  case shut => exact ⟨⟨hprotocol, hstage⟩, rfl, List.prefix_rfl, rfl⟩
  case ask => exact ⟨⟨hprotocol, hstage⟩, rfl, List.prefix_rfl, rfl⟩
  case lose =>
    show (link.lose).Quiet ∧ link.Keeps link.lose
    rw [lose_of_rpc hprotocol]
    exact ⟨⟨hprotocol, hstage⟩, rfl, List.prefix_rfl, rfl⟩
  all_goals
    rcases hstage with hstage | hstage <;>
      simp only [Link.step, turn, read, take, fill, look, wait, expire, hangUp, hprotocol, hstage,
        hflags, if_true] <;>
      first | exact hkept | exact hclosed

/-- **Work goes on** until the backend lets it through, unless the server gives up. A REST request
is also dropped when its peer is lost and when its time is over. -/
theorem step_of_work {work : Work} (hwork : link.work = some work) (hflags : flags.aborted = false)
    (limit : Nat) {event : Link.Event}
    (hevent : link.protocol = .rest → event ≠ .lose ∧ event ≠ .expire) :
    ∃ work', (link.step limit flags event).work = some work' ∧ work.Grows work' ∧
      link.Keeps (link.step limit flags event) := by
  have hkept : ∃ work', link.work = some work' ∧ work.Grows work' ∧ link.Keeps link :=
    ⟨work, hwork, .refl work, .refl link⟩
  have hstage : link.stage = .waiting work ∨ link.stage = .working work := by
    rcases hstage : link.stage with _ | _ | other | other | _ <;>
      rw [Link.work, hstage] at hwork <;> cases hwork
    · exact Or.inl rfl
    · exact Or.inr rfl
  rcases event with bytes | _ | head | _ | _ | _ | _ | body | _ | _ | _ | _
  case send => exact ⟨work, hwork, .refl work, rfl, List.prefix_append .., rfl⟩
  case shut => exact ⟨work, hwork, .refl work, rfl, List.prefix_rfl, rfl⟩
  case ask => exact ⟨work, hwork, .refl work, rfl, List.prefix_rfl, rfl⟩
  case lose =>
    rcases hprotocol : link.protocol with _ | _
    · show ∃ work', (link.lose).work = some work' ∧ _ ∧ link.Keeps link.lose
      rw [lose_of_rpc hprotocol]
      exact ⟨work, hwork, .refl work, rfl, List.prefix_rfl, rfl⟩
    · exact absurd rfl (hevent hprotocol).1
  case expire =>
    rcases hprotocol : link.protocol with _ | _
    · rcases hstage with hstage | hstage <;>
        simpa only [Link.step, expire, hprotocol, hstage] using hkept
    · exact absurd rfl (hevent hprotocol).2
  case fill =>
    rcases hstage with hstage | hstage
    · simpa only [Link.step, fill, hstage] using hkept
    · rcases work with text | ⟨asked, _ | _⟩
      · simpa only [Link.step, fill, hstage] using hkept
      · simp only [Link.step, fill, hstage]
        exact ⟨_, rfl, .body asked body, rfl, List.prefix_rfl, rfl⟩
      · simpa only [Link.step, fill, hstage] using hkept
  case read =>
    rcases hstage with hstage | hstage <;> simpa only [Link.step, read, hstage] using hkept
  case look =>
    rcases hstage with hstage | hstage
    · simp only [Link.step, look, hstage, hflags, Bool.false_eq_true, if_false]
      exact ⟨work, rfl, .refl work, rfl, List.prefix_rfl, rfl⟩
    · simpa only [Link.step, look, hstage] using hkept
  case wait =>
    rcases hstage with hstage | hstage
    · simpa only [Link.step, wait, hstage] using hkept
    · simp only [Link.step, wait, hstage]
      exact ⟨work, rfl, .refl work, rfl, List.prefix_rfl, rfl⟩
  -- What is left begins or ends only what is idle.
  all_goals
    rcases hprotocol : link.protocol with _ | _ <;> rcases hstage with hstage | hstage <;>
      simpa only [Link.step, turn, take, hangUp, hprotocol, hstage] using hkept

/-- **Work can always be ended**: it is looked after, its body comes, and nothing more is needed. -/
theorem ready_of_work {work : Work} (hwork : link.work = some work) (hflags : flags.aborted = false)
    (limit : Nat) (body : Bytes) :
    ∃ work', (((link.step limit flags .wait).step limit flags .look).step limit flags
      (.fill body)).ready = some work' ∧ work.Grows work' := by
  have hwaits : (link.step limit flags .wait).stage = .waiting work := by
    rcases hstage : link.stage with _ | _ | other | other | _ <;>
      rw [Link.work, hstage] at hwork <;> cases hwork <;> simp only [step, wait, hstage]
  have hworks : ((link.step limit flags .wait).step limit flags .look).stage = .working work := by
    show (look flags _).stage = _
    rw [look, hwaits]
    dsimp only
    rw [if_neg (by simp [hflags])]
  show ∃ work', (fill body _).ready = some work' ∧ _
  rw [fill, hworks]
  rcases work with text | ⟨asked, _ | _⟩
  · exact ⟨_, by rw [ready, hworks]; rfl, .refl _⟩
  · exact ⟨_, rfl, .body asked body⟩
  · exact ⟨_, by rw [ready, hworks]; rfl, .refl _⟩

/-- **A connection that is about to read** reads, or goes on to do so, or is closed because it was
idle for too long. -/
theorem step_of_reading (hprotocol : link.protocol = .rpc) (hstage : link.stage = .reading)
    (limit : Nat) (event : Link.Event) :
    ((link.step limit flags event).stage = .reading ∧ link.Keeps (link.step limit flags event)) ∨
      ((link.step limit flags event).Quiet ∧ link.Keeps (link.step limit flags event)) ∨
      link.step limit flags event = link.readLine limit := by
  have hkept : link.stage = .reading ∧ link.Keeps link := ⟨hstage, .refl link⟩
  rcases event with bytes | _ | head | _ | _ | _ | _ | body | _ | _ | _ | _
  case send => exact Or.inl ⟨hstage, rfl, List.prefix_append .., rfl⟩
  case shut => exact Or.inl ⟨hstage, rfl, List.prefix_rfl, rfl⟩
  case ask => exact Or.inl ⟨hstage, rfl, List.prefix_rfl, rfl⟩
  case lose =>
    refine Or.inl ?_
    show (link.lose).stage = _ ∧ link.Keeps link.lose
    rw [lose_of_rpc hprotocol]
    exact ⟨hstage, rfl, List.prefix_rfl, rfl⟩
  case expire =>
    refine Or.inr (Or.inl ?_)
    simp only [Link.step, expire, hprotocol, hstage]
    exact ⟨⟨hprotocol, Or.inr rfl⟩, rfl, List.prefix_rfl, rfl⟩
  case read => exact Or.inr (Or.inr (by simp only [Link.step, read, hstage]))
  all_goals
    refine Or.inl ?_
    simpa only [Link.step, turn, take, fill, look, wait, hangUp, hprotocol, hstage] using hkept

/-- **What a connection reads** is no more than a line. Either nothing has to be done for it, or it
is a request and nothing was sent yet. -/
theorem readLine_cases (hprotocol : link.protocol = .rpc) (limit : Nat) :
    ((link.readLine limit).Quiet ∧
      (link.unread <+: (link.readLine limit).unread ∨
        (Rpc.window limit link.unread).2 <+: (link.readLine limit).unread) ∧
      ∃ told, (link.readLine limit).sent = link.sent ++ told ∧ told.length ≤ 1) ∨
    ∃ text, Rpc.classify limit (Rpc.window limit link.unread).1 = .request text ∧
      link.readLine limit = { link with
        unread := (Rpc.window limit link.unread).2, stage := .waiting (.line text) } := by
  have hnothing : ∃ told, link.sent = link.sent ++ told ∧ told.length ≤ 1 :=
    ⟨[], (List.append_nil _).symm, Nat.zero_le 1⟩
  unfold readLine
  dsimp only
  split_ifs
  · exact Or.inl ⟨⟨hprotocol, Or.inr rfl⟩, Or.inl List.prefix_rfl, hnothing⟩
  · exact Or.inl ⟨⟨hprotocol, Or.inl rfl⟩, Or.inl List.prefix_rfl, hnothing⟩
  · exact Or.inl ⟨⟨hprotocol, Or.inl rfl⟩, Or.inl List.prefix_rfl, hnothing⟩
  · rcases hclass : Rpc.classify limit (Rpc.window limit link.unread).1 with _ | _ | _ | text
    · exact Or.inl ⟨⟨hprotocol, Or.inr rfl⟩, Or.inl List.prefix_rfl, hnothing⟩
    · refine Or.inl ⟨⟨(quiet_reply hprotocol _).1, Or.inr rfl⟩, Or.inl ?_, sent_reply_eq link _⟩
      show link.unread <+: (link.reply _).unread
      simp only [unread_reply, List.prefix_rfl]
    · exact Or.inl ⟨⟨hprotocol, Or.inl rfl⟩, Or.inr List.prefix_rfl, hnothing⟩
    · exact Or.inr ⟨text, rfl, rfl⟩

/-- The peer is lost when it is, and not because of anything else. -/
theorem lost_step {limit : Nat} {event : Link.Event} (hevent : event ≠ .lose) :
    (link.step limit flags event).lost = link.lost := by
  have hreply : ∀ reaction, (link.reply reaction).lost = link.lost := by
    intro reaction
    unfold reply
    split <;> rfl
  rcases event with bytes | _ | head | _ | _ | _ | _ | body | _ | _ | _ | _
  case lose => exact absurd rfl hevent
  all_goals
    simp only [Link.step, turn, read, readLine, take, fill, look, wait, expire, hangUp, close]
    repeat' split
    all_goals first | rfl | exact hreply _

theorem sent_step (link : Link) (limit : Nat) (flags : StopFlags) (event : Link.Event) :
    link.sent <+: (link.step limit flags event).sent := by
  have hkept : link.sent <+: link.sent := List.prefix_rfl
  rcases event with bytes | _ | head | _ | _ | _ | _ | body | _ | _ | _ | _
  all_goals
    simp only [Link.step, turn, read, readLine, take, fill, look, wait, expire, hangUp, lose, close]
    repeat' split
    all_goals first | exact hkept | exact sent_reply link _

theorem protocol_reply (link : Link) (reaction : Reaction) :
    (link.reply reaction).protocol = link.protocol := by
  unfold reply
  split <;> rfl

theorem protocol_step (link : Link) (limit : Nat) (flags : StopFlags) (event : Link.Event) :
    (link.step limit flags event).protocol = link.protocol := by
  have hkept : link.protocol = link.protocol := rfl
  rcases event with bytes | _ | head | _ | _ | _ | _ | body | _ | _ | _ | _
  all_goals
    simp only [Link.step, turn, read, readLine, take, fill, look, wait, expire, hangUp, lose, close]
    repeat' split
    all_goals first | exact hkept | exact protocol_reply link _

/-- Nothing opens a closed connection again. -/
theorem closed_step (hclosed : link.stage = .closed) (limit : Nat) (flags : StopFlags)
    (event : Link.Event) : (link.step limit flags event).stage = .closed := by
  rcases event with bytes | _ | head | _ | _ | _ | _ | body | _ | _ | _ | _
  all_goals
    rcases hprotocol : link.protocol with _ | _ <;>
      simp only [Link.step, turn, read, take, fill, look, wait, expire, hangUp, lose, close,
        hclosed, hprotocol]

/-- What is being worked on without a further look. -/
def current (link : Link) : Option Work :=
  match link.stage with
  | .working work => some work
  | _ => none

theorem stage_of_current {work : Work} (h : link.current = some work) :
    link.stage = .working work := by
  rcases hstage : link.stage with _ | _ | other | other | _ <;>
    rw [current, hstage] at h <;> cases h
  rfl

theorem current_reply (link : Link) (reaction : Reaction) :
    (link.reply reaction).current = none := by
  unfold reply
  split <;> rfl

/-- **When the server gives up, no work goes on** but what is already past its look. -/
theorem current_step (hflags : flags.aborted = true) (limit : Nat) (event : Link.Event) :
    (link.step limit flags event).current = none ∨
      ∃ work work', link.current = some work ∧
        (link.step limit flags event).current = some work' ∧ work.Grows work' := by
  have hkept : link.current = none ∨
      ∃ work work', link.current = some work ∧ link.current = some work' ∧ work.Grows work' := by
    rcases link.current with _ | work
    · exact Or.inl rfl
    · exact Or.inr ⟨work, work, rfl, rfl, .refl work⟩
  rcases event with bytes | _ | head | _ | _ | _ | _ | body | _ | _ | _ | _
  case fill =>
    show (link.fill body).current = none ∨
      ∃ work work', _ ∧ (link.fill body).current = some work' ∧ _
    unfold fill
    split
    case _ head hstage =>
      exact Or.inr ⟨_, _, by rw [current, hstage], rfl, .body head body⟩
    case _ => exact hkept
  case look =>
    show (link.look flags).current = none ∨
      ∃ work work', _ ∧ (link.look flags).current = some work' ∧ _
    unfold look
    split
    · rw [if_pos hflags]
      split
      · exact Or.inl rfl
      · exact Or.inl (current_reply link _)
    · exact hkept
  all_goals
    simp only [Link.step, turn, read, readLine, take, wait, expire, hangUp, lose, close]
    repeat' split
    all_goals first | exact hkept | exact Or.inl rfl | exact Or.inl (current_reply link _)

end Link
/-! ### One life -/

namespace Lifecycle

/-- Nobody takes back an immediate stop. -/
theorem step_aborted {life : Lifecycle} (h : life.flags.aborted = true) (event : Event) :
    (life.step event).flags.aborted = true := by
  have hite : ∀ {p : Prop} [Decidable p] {after : Lifecycle}, after.flags.aborted = true →
      (if p then after else life).flags.aborted = true := by
    intro p _ after hafter
    split
    · exact hafter
    · exact h
  cases event with
  | gracefulStop => exact h
  | stop => rfl
  | serve => exact hite h
  | loopEnd => exact hite h
  | finish => exact hite rfl
  | cancel => exact hite rfl
  | bind outcome =>
    refine hite ?_
    cases outcome with
    | error error => rfl
    | ok listeners =>
      dsimp only
      split
      · exact h
      · rfl

/-- **Where a server stands that serves.** -/
def Serves (life : Lifecycle) : Prop :=
  life.phase = .serving → life.state = .listening ∨ life.state = .draining

theorem serves_exit (life : Lifecycle) : life.exit.Serves := by
  intro hserving
  cases hserving

theorem serves_ite {p : Prop} [Decidable p] {life after : Lifecycle} (hafter : p → after.Serves)
    (h : life.Serves) : (if p then after else life).Serves := by
  by_cases hp : p
  · rw [if_pos hp]
    exact hafter hp
  · rw [if_neg hp]
    exact h

theorem Serves.step {life : Lifecycle} (h : life.Serves) (event : Event) :
    (life.step event).Serves := by
  cases event with
  | serve => exact serves_ite (fun _ hserving => by cases hserving) h
  | bind outcome =>
    refine serves_ite (fun _ => ?_) h
    cases outcome with
    | error error => exact serves_exit life
    | ok listeners =>
      dsimp only
      split
      · exact fun _ => Or.inl rfl
      · exact serves_exit life
  | gracefulStop =>
    intro hserving
    rcases h hserving with hstate | hstate <;>
      exact Or.inr (by simp [Lifecycle.step, hstate, beginStop])
  | stop =>
    intro hserving
    rcases h hserving with hstate | hstate <;>
      exact Or.inr (by simp [Lifecycle.step, hstate, beginStop])
  | loopEnd =>
    refine serves_ite (fun _ hserving => ?_) h
    rcases h hserving with hstate | hstate <;> exact Or.inr (by simp [hstate, beginDraining])
  | finish => exact serves_ite (fun _ => serves_exit life) h
  | cancel => exact serves_ite (fun _ => serves_exit life) h

end Lifecycle

namespace Server

variable {service : Service} {server : Server}

/-! ### Draining -/

/-- **An immediate stop**: someone asks for it, or the call of `serve` is dropped. A deadline for
draining that has passed asks for it too. -/
def Event.isImmediate : Event → Bool
  | .life .stop => true
  | .life .cancel => true
  | _ => false

/-- **A server that drains**: it is over only when all its connections are closed. -/
structure Drains (server : Server) : Prop where
  /-- It was asked to. -/
  draining : server.life.flags.draining = true
  /-- Either it is still serving and lets running work finish, or it is over. -/
  phase : (server.life.phase = .serving ∧ server.life.flags.aborted = false ∧
      server.life.state = .draining) ∨
    (server.life.phase = .over ∧ server.life.state = .stopped ∧
      ∀ link ∈ server.links, link.stage = .closed)

/-- The accept loops of a server that does not give up end once all connections are closed. -/
theorem closed_of_loopsEnded (haborted : server.life.flags.aborted = false)
    (hended : server.loopsEnded = true) {link : Link} (hlink : link ∈ server.links) :
    link.stage = .closed := by
  simp only [loopsEnded, haborted, Bool.and_eq_true, List.all_eq_true] at hended
  have hreleased := hended.2 link hlink
  rcases hstage : link.stage with _ | _ | work | work | _
  case closed => rfl
  all_goals
    rcases hprotocol : link.protocol with _ | _ <;>
      simp only [Link.isReleased, hstage, hprotocol, Bool.false_and, Bool.false_eq_true]
        at hreleased

namespace Drains

/-- A server that has work is not over. -/
theorem not_aborted (h : server.Drains) {index : Nat} {link : Link} {work : Work}
    (hlink : server.links[index]? = some link) (hwork : link.work = some work) :
    server.life.flags.aborted = false := by
  rcases h.phase with ⟨-, haborted, -⟩ | ⟨-, -, hclosed⟩
  · exact haborted
  · rw [Link.work, hclosed link (List.mem_of_getElem? hlink)] at hwork
    cases hwork

/-- **What happens in the life of a server that drains** brings it to its end at most, and to that
only when its connections are closed. -/
theorem step_life (h : server.Drains) {event : Lifecycle.Event}
    (hevent : Event.isImmediate (.life event) = false) :
    (server.step service (.life event)).Drains := by
  obtain ⟨hdraining, hphase⟩ := h
  cases event with
  | stop => cases hevent
  | cancel => cases hevent
  | finish =>
    simp only [step]
    by_cases hended : server.loopsEnded = true
    · rw [if_pos hended]
      rcases hphase with ⟨hserving, haborted, -⟩ | ⟨hover, hstopped, hclosed⟩
      · simp only [Lifecycle.step, hserving, if_true]
        exact ⟨rfl, Or.inr ⟨rfl, rfl, fun link hlink => closed_of_loopsEnded haborted hended hlink⟩⟩
      · simp only [Lifecycle.step, hover, reduceCtorEq, if_false]
        exact ⟨hdraining, Or.inr ⟨hover, hstopped, hclosed⟩⟩
    · rw [if_neg hended]
      exact ⟨hdraining, hphase⟩
  | serve =>
    rcases hphase with ⟨hserving, hrest⟩ | ⟨hover, hrest⟩
    · simp only [step, Lifecycle.step, hserving, reduceCtorEq, if_false]
      exact ⟨hdraining, Or.inl ⟨hserving, hrest⟩⟩
    · simp only [step, Lifecycle.step, hover, reduceCtorEq, if_false]
      exact ⟨hdraining, Or.inr ⟨hover, hrest⟩⟩
  | bind outcome =>
    rcases hphase with ⟨hserving, hrest⟩ | ⟨hover, hrest⟩
    · simp only [step, Lifecycle.step, hserving, reduceCtorEq, if_false]
      exact ⟨hdraining, Or.inl ⟨hserving, hrest⟩⟩
    · simp only [step, Lifecycle.step, hover, reduceCtorEq, if_false]
      exact ⟨hdraining, Or.inr ⟨hover, hrest⟩⟩
  | gracefulStop =>
    refine ⟨rfl, ?_⟩
    rcases hphase with ⟨hserving, haborted, hstate⟩ | ⟨hover, hstate, hclosed⟩
    · exact Or.inl ⟨hserving, haborted, by simp [step, Lifecycle.step, hstate, Lifecycle.beginStop]⟩
    · exact Or.inr ⟨hover, by simp [step, Lifecycle.step, hstate, Lifecycle.beginStop], hclosed⟩
  | loopEnd =>
    rcases hphase with ⟨hserving, haborted, hstate⟩ | ⟨hover, hstate, hclosed⟩
    · simp only [step, Lifecycle.step, hserving, true_or, if_true]
      exact ⟨rfl, Or.inl ⟨rfl, haborted, by rw [hstate]; rfl⟩⟩
    · simp only [step, Lifecycle.step, hover, or_true, if_true]
      exact ⟨rfl, Or.inr ⟨rfl, by rw [hstate]; rfl, hclosed⟩⟩

/-- **One event of a server that drains.** -/
theorem step (h : server.Drains) (service : Service) {event : Event}
    (hevent : event.isImmediate = false) : (server.step service event).Drains := by
  -- Outside its life, all that counts is that closed connections stay closed.
  have hkept : ∀ {after : Server}, after.life = server.life →
      (server.life.phase = .over → (∀ link ∈ server.links, link.stage = .closed) →
        ∀ link ∈ after.links, link.stage = .closed) → after.Drains := by
    intro after hlife hclosed
    refine ⟨hlife ▸ h.draining, ?_⟩
    rw [hlife]
    rcases h.phase with hserving | ⟨hover, hstopped, hlinks⟩
    · exact Or.inl hserving
    · exact Or.inr ⟨hover, hstopped, hclosed hover hlinks⟩
  rcases event with event | protocol | ⟨index, change⟩ | ⟨index, now⟩
  · exact h.step_life hevent
  · simp only [Server.step]
    split
    · rename_i hserving
      refine hkept rfl fun hover => ?_
      rw [hserving] at hover
      cases hover
    · exact h
  · refine hkept rfl fun _ hclosed link hlink => ?_
    obtain ⟨other, hother⟩ := List.getElem?_of_mem hlink
    have hmodify := hother
    simp only [Server.step, List.getElem?_modify, Option.map_eq_map, Option.map_eq_some_iff]
      at hmodify
    obtain ⟨found, hfound, rfl⟩ := hmodify
    have hstage := hclosed found (List.mem_of_getElem? hfound)
    split
    · exact Link.closed_step hstage _ _ change
    · exact hstage
  · rcases step_finish service server index now with
      ⟨link, work, hlink, hready, -, hstep⟩ | ⟨-, -, hstep⟩
    · rw [hstep]
      refine hkept rfl fun _ hclosed => ?_
      rw [Link.ready, hclosed link (List.mem_of_getElem? hlink)] at hready
      cases hready
    · rw [hstep]
      exact h

/-- **A server that drains goes on draining.** -/
theorem run (h : server.Drains) (service : Service) {events : List Event}
    (hevents : ∀ event ∈ events, event.isImmediate = false) :
    (server.run service events).Drains := by
  induction events generalizing server with
  | nil => exact h
  | cons event events ih =>
    exact ih (h.step service (hevents event List.mem_cons_self))
      fun other hother => hevents other (List.mem_cons_of_mem _ hother)

/-- **Whoever is quiet stays so** as long as the server drains, and nothing is done for it. -/
theorem quiet (h : server.Drains) (service : Service) {events : List Event}
    (hevents : ∀ event ∈ events, event.isImmediate = false) {index : Nat} {link : Link}
    (hlink : server.links[index]? = some link) (hquiet : link.Quiet) :
    ∃ final, (server.run service events).links[index]? = some final ∧ final.Quiet ∧
      link.Keeps final ∧ deedsFor index (server.deeds service events) = [] := by
  induction events generalizing server link with
  | nil => exact ⟨link, hlink, hquiet, .refl link, rfl⟩
  | cons event events ih =>
    have hnext := h.step service (hevents event List.mem_cons_self)
    have hmore : ∀ other ∈ events, other.isImmediate = false :=
      fun other hother => hevents other (List.mem_cons_of_mem _ hother)
    rw [run_cons, deedsFor_cons]
    rcases step_link service event hlink with
      ⟨hkept, hdeed⟩ | ⟨change, rfl, hchanged, hdeed⟩ | ⟨now, work, rfl, hready, -⟩
    · rw [hdeed]
      exact ih hnext hmore hkept hquiet
    · rw [hdeed]
      obtain ⟨hquiet', hkeeps⟩ := hquiet.step h.draining service.limit change
      obtain ⟨final, hfinal, hlast, hkeeps', hnone⟩ := ih hnext hmore hchanged hquiet'
      exact ⟨final, hfinal, hlast, hkeeps.trans hkeeps', hnone⟩
    · rw [hquiet.ready_eq_none] at hready
      cases hready

end Drains

/-- **A connection stays what it is**, and what was sent over it stays sent, in every run. -/
theorem sent_run (service : Service) (events : List Event) {index : Nat} {link : Link}
    (hlink : server.links[index]? = some link) :
    ∃ final, (server.run service events).links[index]? = some final ∧
      final.protocol = link.protocol ∧ link.sent <+: final.sent := by
  induction events generalizing server link with
  | nil => exact ⟨link, hlink, rfl, List.prefix_rfl⟩
  | cons event events ih =>
    rw [run_cons]
    rcases step_link service event hlink with
      ⟨hkept, -⟩ | ⟨change, rfl, hchanged, -⟩ | ⟨now, work, rfl, -, hdone, -⟩
    · exact ih hkept
    · obtain ⟨final, hfinal, hprotocol, hsent⟩ := ih hchanged
      exact ⟨final, hfinal, hprotocol.trans (Link.protocol_step ..),
        (Link.sent_step ..).trans hsent⟩
    · obtain ⟨final, hfinal, hprotocol, hsent⟩ := ih hdone
      exact ⟨final, hfinal, hprotocol.trans (Link.protocol_reply ..),
        (Link.sent_reply ..).trans hsent⟩

/-- **What becomes of running work** when a server drains: it is still running, and nothing has come
of it; or it was done, before anything else on its connection. -/
def Fate (service : Service) (server : Server) (events : List Event) (index : Nat) (link : Link)
    (work : Work) : Prop :=
  ∃ final, (server.run service events).links[index]? = some final ∧
    ((link.Keeps final ∧ deedsFor index (server.deeds service events) = [] ∧
        ∃ work', final.work = some work' ∧ work.Grows work') ∨
      ∃ deed more, deedsFor index (server.deeds service events) = deed :: more ∧
        work.Grows deed.work ∧
        (link.lost = false → Event.link index .lose ∉ events →
          link.sent ++ [deed.reaction] <+: final.sent) ∧
        (link.protocol = .rpc → more = [] ∧ link.unread <+: final.unread ∧
          ∃ told, final.sent = link.sent ++ told ∧ told.length ≤ 1))

/-- **Running work runs on** when a server drains. -/
theorem Drains.working (h : server.Drains) (service : Service) {events : List Event}
    (hevents : ∀ event ∈ events, event.isImmediate = false) {index : Nat} {link : Link}
    {work : Work} (hlink : server.links[index]? = some link) (hwork : link.work = some work)
    (hrest : link.protocol = .rest →
      Event.link index .lose ∉ events ∧ Event.link index .expire ∉ events) :
    Fate service server events index link work := by
  induction events generalizing server link work with
  | nil => exact ⟨link, hlink, Or.inl ⟨.refl link, rfl, work, hwork, .refl work⟩⟩
  | cons event events ih =>
    have hnext := h.step service (hevents event List.mem_cons_self)
    have hmore : ∀ other ∈ events, other.isImmediate = false :=
      fun other hother => hevents other (List.mem_cons_of_mem _ hother)
    have hlater : ∀ {other : Event}, other ∉ event :: events → other ∉ events :=
      fun hnot hother => hnot (List.mem_cons_of_mem _ hother)
    unfold Fate
    rw [run_cons, deedsFor_cons]
    rcases step_link service event hlink with
      ⟨hkept, hdeed⟩ | ⟨change, rfl, hchanged, hdeed⟩ | ⟨now, work', rfl, hready, hdone, hdeed⟩
    · rw [hdeed]
      obtain ⟨final, hfinal, hcase | ⟨deed, more, hdeeds, hgrows, hsent, hline⟩⟩ :=
        ih hnext hmore hkept hwork fun hprotocol => (hrest hprotocol).imp hlater hlater
      · exact ⟨final, hfinal, Or.inl hcase⟩
      · exact ⟨final, hfinal, Or.inr ⟨deed, more, hdeeds, hgrows,
          fun hpeer hnot => hsent hpeer (hlater hnot), hline⟩⟩
    · rw [hdeed]
      have hchange : link.protocol = .rest → change ≠ .lose ∧ change ≠ .expire := by
        intro hprotocol
        obtain ⟨hlose, hexpire⟩ := hrest hprotocol
        constructor <;> rintro rfl
        · exact hlose List.mem_cons_self
        · exact hexpire List.mem_cons_self
      obtain ⟨work', hwork', hgrows, hkeeps⟩ :=
        Link.step_of_work hwork (h.not_aborted hlink hwork) service.limit hchange
      obtain ⟨final, hfinal, ⟨hkeeps', hnone, last, hlast, hgrows'⟩ |
          ⟨deed, more, hdeeds, hgrows', hsent, hline⟩⟩ :=
        ih hnext hmore hchanged hwork' fun hprotocol =>
          (hrest (hkeeps.protocol_eq.symm.trans hprotocol)).imp hlater hlater
      · exact ⟨final, hfinal, Or.inl
          ⟨hkeeps.trans hkeeps', hnone, last, hlast, hgrows.trans hgrows'⟩⟩
      · refine ⟨final, hfinal, Or.inr ⟨deed, more, hdeeds, hgrows.trans hgrows', ?_, ?_⟩⟩
        · intro hpeer hnot
          have hchange' : change ≠ .lose := by
            rintro rfl
            exact hnot List.mem_cons_self
          rw [← hkeeps.sent_eq]
          exact hsent ((Link.lost_step hchange').trans hpeer) (hlater hnot)
        · intro hprotocol
          obtain ⟨hone, hunread, told, htold, hle⟩ := hline (hkeeps.protocol_eq.trans hprotocol)
          exact ⟨hone, hkeeps.unread.trans hunread, told, htold.trans (by rw [hkeeps.sent_eq]), hle⟩
    · -- The work is done here, and what follows has nothing to do with it.
      obtain ⟨hstage, -⟩ := Link.work_of_ready hready
      obtain rfl : work = work' := by
        rw [Link.work, hstage] at hwork
        exact (Option.some.inj hwork).symm
      obtain ⟨final, hfinal, -, hsent⟩ := sent_run service events hdone
      rw [hdeed]
      refine ⟨final, hfinal, Or.inr ⟨_, _, rfl, .refl work, fun hpeer _ => ?_, fun hprotocol => ?_⟩⟩
      · rwa [Link.reply_of_peer hpeer] at hsent
      · obtain ⟨last, hlast, -, hkeeps, hnone⟩ :=
          hnext.quiet service hmore hdone (Link.quiet_reply hprotocol _)
        obtain rfl : last = final := Option.some.inj (hlast.symm.trans hfinal)
        obtain ⟨told, htold, hle⟩ :=
          Link.sent_reply_eq link (work.answer service server.backend now).1
        refine ⟨hnone, ?_, told, hkeeps.sent_eq.trans htold, hle⟩
        rw [← Link.unread_reply link]
        exact hkeeps.unread

/-- **At most the next line is read**: what is done for a connection is what that line asks for, and
what comes behind the line stays unread. Some of the line may have come later. -/
def ReadsOne (service : Service) (link final : Link) (deeds : List Deed) : Prop :=
  ∃ come : Bytes,
    (link.unread <+: final.unread ∨
      (Rpc.window service.limit (link.unread ++ come)).2 <+: final.unread) ∧
    deeds.length ≤ 1 ∧
    (∀ deed ∈ deeds, ∃ text,
      Rpc.classify service.limit (Rpc.window service.limit (link.unread ++ come)).1 =
        .request text ∧ deed.work = .line text) ∧
    ∃ told, final.sent = link.sent ++ told ∧ told.length ≤ 1

/-- Nothing was read, and nothing was done. -/
theorem ReadsOne.of_keeps {link final : Link} (h : link.Keeps final) :
    ReadsOne service link final [] := by
  refine ⟨[], Or.inl h.unread, Nat.zero_le 1, List.forall_mem_nil _, [], ?_, Nat.zero_le 1⟩
  rw [h.sent_eq, List.append_nil]

/-- **Who is about to read** when the server begins to drain reads at most the next line. -/
theorem Drains.reading (h : server.Drains) (service : Service) {events : List Event}
    (hevents : ∀ event ∈ events, event.isImmediate = false) {index : Nat} {link : Link}
    (hlink : server.links[index]? = some link) (hprotocol : link.protocol = .rpc)
    (hstage : link.stage = .reading) :
    ∃ final, (server.run service events).links[index]? = some final ∧
      ReadsOne service link final (deedsFor index (server.deeds service events)) := by
  induction events generalizing server link with
  | nil => exact ⟨link, hlink, .of_keeps (.refl link)⟩
  | cons event events ih =>
    have hnext := h.step service (hevents event List.mem_cons_self)
    have hmore : ∀ other ∈ events, other.isImmediate = false :=
      fun other hother => hevents other (List.mem_cons_of_mem _ hother)
    rw [run_cons, deedsFor_cons]
    rcases step_link service event hlink with
      ⟨hkept, hdeed⟩ | ⟨change, rfl, hchanged, hdeed⟩ | ⟨now, work, rfl, hready, -⟩
    · rw [hdeed]
      exact ih hnext hmore hkept hprotocol hstage
    · rw [hdeed, List.nil_append]
      rcases Link.step_of_reading hprotocol hstage service.limit change with
        ⟨hstage', hkeeps⟩ | ⟨hquiet, hkeeps⟩ | hread
      · obtain ⟨final, hfinal, come, hunread, hone, hwork, told, htold, hle⟩ :=
          ih hnext hmore hchanged (hkeeps.protocol_eq.trans hprotocol) hstage'
        obtain ⟨first, hfirst⟩ := hkeeps.unread
        rw [← hfirst, List.append_assoc] at hunread hwork
        refine ⟨final, hfinal, first ++ come, hunread.imp ?_ id, hone, hwork, told, ?_, hle⟩
        · exact (List.prefix_append _ _).trans
        · rw [htold, hkeeps.sent_eq]
      · obtain ⟨final, hfinal, -, hkeeps', hnone⟩ := hnext.quiet service hmore hchanged hquiet
        rw [hnone]
        exact ⟨final, hfinal, .of_keeps (hkeeps.trans hkeeps')⟩
      · rw [hread] at hchanged
        rcases Link.readLine_cases hprotocol service.limit with
          ⟨hquiet, hunread, told, htold, hle⟩ | ⟨text, hclass, hline⟩
        · obtain ⟨final, hfinal, -, hkeeps, hnone⟩ := hnext.quiet service hmore hchanged hquiet
          rw [hnone]
          refine ⟨final, hfinal, [], ?_, Nat.zero_le 1, List.forall_mem_nil _, told,
            hkeeps.sent_eq.trans htold, hle⟩
          rw [List.append_nil]
          exact hunread.imp (fun h => h.trans hkeeps.unread) fun h => h.trans hkeeps.unread
        · -- What was read is worked on as if the drain had come later.
          have hwork : (link.readLine service.limit).work = some (.line text) := by
            rw [hline]
            rfl
          obtain ⟨final, hfinal, hfate⟩ := hnext.working service hmore hchanged hwork
            fun hrest => by
              rw [hline, hprotocol] at hrest
              cases hrest
          rw [hline] at hfate
          refine ⟨final, hfinal, [], Or.inr ?_, ?_⟩
          all_goals
            rw [List.append_nil]
            rcases hfate with ⟨hkeeps, hnone, -⟩ | ⟨deed, more, hdeeds, hgrows, -, honly⟩
          · exact hkeeps.unread
          · exact (honly hprotocol).2.1
          · rw [hnone]
            exact ⟨Nat.zero_le 1, List.forall_mem_nil _, [],
              hkeeps.sent_eq.trans (List.append_nil _).symm, Nat.zero_le 1⟩
          · obtain ⟨rfl, -, told, htold, hle⟩ := honly hprotocol
            rw [hdeeds]
            refine ⟨Nat.le_refl 1, fun other hother => ?_, told, htold, hle⟩
            obtain rfl := List.mem_singleton.mp hother
            exact ⟨text, hclass, hgrows.eq_line⟩
    · rw [Link.ready, hstage] at hready
      cases hready

/-- **Who connects too late** gets nothing over a connection for lines. -/
theorem Drains.newcomer (h : server.Drains) (service : Service) {events : List Event}
    (hevents : ∀ event ∈ events, event.isImmediate = false) {index : Nat} {final : Link}
    (hnew : server.links.length ≤ index)
    (hfinal : (server.run service events).links[index]? = some final)
    (hprotocol : final.protocol = .rpc) :
    deedsFor index (server.deeds service events) = [] ∧ final.sent = [] := by
  induction events generalizing server with
  | nil =>
    have hlt := (List.getElem?_eq_some_iff.mp hfinal).1
    exact absurd hlt (Nat.not_lt.mpr hnew)
  | cons event events ih =>
    have hnext := h.step service (hevents event List.mem_cons_self)
    have hmore : ∀ other ∈ events, other.isImmediate = false :=
      fun other hother => hevents other (List.mem_cons_of_mem _ hother)
    rw [run_cons] at hfinal
    rw [deedsFor_cons, deedsFor_deed_of_new service event hnew]
    rcases links_of_new service event hnew with hlater | ⟨protocol, hfresh⟩
    · exact ih hnext hmore hlater hfinal
    · obtain ⟨last, hlast, hsame, -⟩ := sent_run service events hfresh
      obtain rfl : last = final := Option.some.inj (hlast.symm.trans hfinal)
      obtain rfl : protocol = .rpc := hsame.symm.trans hprotocol
      obtain ⟨last', hlast', -, hkeeps, hnone⟩ :=
        hnext.quiet service hmore hfresh ⟨rfl, Or.inl rfl⟩
      obtain rfl : last' = last := Option.some.inj (hlast'.symm.trans hlast)
      exact ⟨hnone, hkeeps.sent_eq⟩

/-- **Work can be ended at any time**: once it is looked after, its body is there and the backend
lets it through, it is done. -/
def CanEnd (service : Service) (server : Server) (index : Nat) (work : Work) : Prop :=
  ∀ now body, ∃ deed, server.deeds service [.link index .wait, .link index .look,
      .link index (.fill body), .finish index now] = [deed] ∧
    deed.index = index ∧ deed.now = now ∧ work.Grows deed.work

theorem Drains.canEnd (h : server.Drains) (service : Service) {index : Nat} {link : Link}
    {work : Work} (hlink : server.links[index]? = some link) (hwork : link.work = some work) :
    CanEnd service server index work := by
  intro now body
  obtain ⟨work', hready, hgrows⟩ :=
    Link.ready_of_work hwork (h.not_aborted hlink hwork) service.limit body
  have hmodify : ∀ {middle : Server} {found : Link} (change : Link.Event),
      middle.links[index]? = some found →
      (middle.step service (.link index change)).links[index]? =
        some (found.step service.limit middle.life.flags change) := by
    intro middle found change hfound
    show (middle.links.modify index _)[index]? = _
    rw [List.getElem?_modify, hfound]
    simp
  obtain ⟨filled, hfilled, hready'⟩ : ∃ filled,
      (((server.step service (.link index .wait)).step service (.link index .look)).step service
        (.link index (.fill body))).links[index]? = some filled ∧ filled.ready = some work' :=
    ⟨_, hmodify (.fill body) (hmodify .look (hmodify .wait hlink)), hready⟩
  refine ⟨⟨index, work', now, (work'.answer service server.backend now).1⟩, ?_, rfl, rfl, hgrows⟩
  simp only [deeds, deed, Option.toList_none, List.nil_append, List.append_nil]
  rw [hfilled, Option.bind_some, hready']
  rfl

/-- **A drain is kept to** by a server that drains, in a run in which nobody asks for an immediate
stop. -/
structure KeepsDrain (service : Service) (server : Server) (events : List Event) : Prop where
  /-- The store has changed by the deeds, each done as if nobody had asked to stop. -/
  carried : Carried service server.backend (server.deeds service events)
    (server.run service events).backend
  /-- Work that was running is done once and its sender gets what comes of it, before anything else;
  further deeds are for requests that are read later. Or it is still running, and can be ended. -/
  finishes : ∀ {index : Nat} {link : Link} {work : Work}, server.links[index]? = some link →
    link.work = some work → link.lost = false → Event.link index .lose ∉ events →
    (link.protocol = .rest → Event.link index .expire ∉ events) →
    ∃ final, (server.run service events).links[index]? = some final ∧
      ((∃ deed more, deedsFor index (server.deeds service events) = deed :: more ∧
          work.Grows deed.work ∧ link.sent ++ [deed.reaction] <+: final.sent ∧
          more.length ≤ events.countP (Event.isReadingAt index)) ∨
        (deedsFor index (server.deeds service events) = [] ∧ final.sent = link.sent ∧
          ∃ work', final.work = some work' ∧ work.Grows work' ∧
            CanEnd service (server.run service events) index work'))
  /-- Lines that were not read stay unread, and nothing but running work is done for their
  connection. Only who had looked for the drain before reads one more line. -/
  lines : ∀ {index : Nat} {link : Link}, server.links[index]? = some link → link.protocol = .rpc →
    ∃ final, (server.run service events).links[index]? = some final ∧
      (link.stage = .reading →
        ReadsOne service link final (deedsFor index (server.deeds service events))) ∧
      (link.stage ≠ .reading →
        link.unread <+: final.unread ∧
          (link.work = none →
            deedsFor index (server.deeds service events) = [] ∧ final.sent = link.sent) ∧
          ∀ work, link.work = some work →
            deedsFor index (server.deeds service events) = [] ∨
              ∃ deed, deedsFor index (server.deeds service events) = [deed] ∧
                work.Grows deed.work)
  /-- Who connects later gets nothing over a connection for lines. -/
  newcomers : ∀ {index : Nat} {final : Link}, server.links.length ≤ index →
    (server.run service events).links[index]? = some final → final.protocol = .rpc →
    deedsFor index (server.deeds service events) = [] ∧ final.sent = []
  /-- The server is not stopped while anything is running. -/
  not_stopped : (server.run service events).life.state = .stopped →
    ∀ link ∈ (server.run service events).links, link.work = none

/-- **Every drain is kept to.** -/
theorem Drains.keepsDrain (h : server.Drains) (service : Service) {events : List Event}
    (hevents : ∀ event ∈ events, event.isImmediate = false) : KeepsDrain service server events where
  carried := carried_deeds service server events
  finishes := by
    intro index link work hlink hwork hpeer hlose hexpire
    obtain ⟨final, hfinal, hfate⟩ := h.working service hevents hlink hwork
      fun hrest => ⟨hlose, hexpire hrest⟩
    refine ⟨final, hfinal, ?_⟩
    rcases hfate with ⟨hkeeps, hnone, work', hwork', hgrows⟩ |
      ⟨deed, more, hdeeds, hgrows, hsent, -⟩
    · exact Or.inr ⟨hnone, hkeeps.sent_eq, work', hwork', hgrows,
        (h.run service hevents).canEnd service hfinal hwork'⟩
    · have hle := length_deedsFor_le service events hlink
      rw [hdeeds, hwork] at hle
      simp only [List.length_cons, Option.toList_some, List.length_nil] at hle
      exact Or.inl ⟨deed, more, hdeeds, hgrows, hsent hpeer hlose, by omega⟩
  lines := by
    intro index link hlink hprotocol
    have hrest : link.protocol = .rest →
        Event.link index .lose ∉ events ∧ Event.link index .expire ∉ events := by
      intro hrest
      rw [hprotocol] at hrest
      cases hrest
    rcases hstage : link.stage with _ | _ | work | work | _
    case reading =>
      obtain ⟨final, hfinal, hreads⟩ := h.reading service hevents hlink hprotocol hstage
      exact ⟨final, hfinal, fun _ => hreads, fun hnot => absurd rfl hnot⟩
    -- What is idle or closed is quiet, and what works has work.
    case idle | closed =>
      obtain ⟨final, hfinal, -, hkeeps, hnone⟩ := h.quiet service hevents hlink
        ⟨hprotocol, by simp [hstage]⟩
      refine ⟨final, hfinal, (fun hreading => by cases hreading), fun _ => ?_⟩
      exact ⟨hkeeps.unread, fun _ => ⟨hnone, hkeeps.sent_eq⟩, fun _ _ => Or.inl hnone⟩
    all_goals
      have hwork : link.work = some work := by rw [Link.work, hstage]; rfl
      obtain ⟨final, hfinal, hfate⟩ := h.working service hevents hlink hwork hrest
      refine ⟨final, hfinal, (fun hreading => by cases hreading), fun _ => ?_⟩
      rw [hwork]
      rcases hfate with ⟨hkeeps, hnone, -⟩ | ⟨deed, more, hdeeds, hgrows, -, honly⟩
      · exact ⟨hkeeps.unread, (fun hidle => by cases hidle), fun _ _ => Or.inl hnone⟩
      · obtain ⟨rfl, hunread, -⟩ := honly hprotocol
        refine ⟨hunread, (fun hidle => by cases hidle), fun other hother => Or.inr ?_⟩
        refine ⟨deed, hdeeds, ?_⟩
        exact Option.some.inj hother ▸ hgrows
  newcomers := fun hnew hfinal hprotocol => h.newcomer service hevents hnew hfinal hprotocol
  not_stopped := by
    intro hstopped link hlink
    rcases (h.run service hevents).phase with ⟨-, -, hdraining⟩ | ⟨-, -, hclosed⟩
    · rw [hdraining] at hstopped
      cases hstopped
    · rw [Link.work, hclosed link hlink]
      rfl

/-! ### Immediate stops -/

/-- **What a connection is past its look with**, if there is such a connection. -/
def current (server : Server) (index : Nat) : Option Work :=
  server.links[index]?.bind Link.current

/-- **An event after an immediate stop**: nobody takes the stop back, and no work
gets past a look. -/
theorem current_step (haborted : server.life.flags.aborted = true) (service : Service)
    (event : Event) (index : Nat) :
    (server.step service event).life.flags.aborted = true ∧
      ((deedsFor index (server.deed service event).toList = [] ∧
          ((server.step service event).current index = none ∨
            ∃ work work', server.current index = some work ∧
              (server.step service event).current index = some work' ∧ work.Grows work')) ∨
        ∃ deed, deedsFor index (server.deed service event).toList = [deed] ∧
          server.current index = some deed.work ∧
          (server.step service event).current index = none) := by
  constructor
  · rcases event with event | protocol | ⟨other, change⟩ | ⟨other, now⟩
    · rcases step_life_eq service server event with hstep | hstep <;> rw [hstep]
      · exact Lifecycle.step_aborted haborted event
      · exact haborted
    · simp only [step]
      split <;> exact haborted
    · exact haborted
    · rcases step_finish service server other now with
        ⟨link, work, -, -, -, hstep⟩ | ⟨-, -, hstep⟩ <;> rw [hstep] <;> exact haborted
  have hcurrent : ∀ {found : Server} {link : Link}, found.links[index]? = some link →
      found.current index = link.current := by
    intro found link hlink
    rw [current, hlink]
    rfl
  rcases hlink : server.links[index]? with _ | link
  · have hnew : server.links.length ≤ index := List.getElem?_eq_none_iff.mp hlink
    refine Or.inl ⟨deedsFor_deed_of_new service event hnew, Or.inl ?_⟩
    rcases links_of_new service event hnew with hlater | ⟨protocol, hfresh⟩
    · rw [current, List.getElem?_eq_none_iff.mpr hlater]
      rfl
    · exact hcurrent hfresh
  rw [hcurrent hlink]
  rcases step_link service event hlink with
    ⟨hkept, hdeed⟩ | ⟨change, rfl, hchanged, hdeed⟩ | ⟨now, work, rfl, hready, hdone, hdeed⟩
  · refine Or.inl ⟨hdeed, ?_⟩
    rw [hcurrent hkept]
    rcases link.current with _ | work
    · exact Or.inl rfl
    · exact Or.inr ⟨work, work, rfl, rfl, .refl work⟩
  · refine Or.inl ⟨hdeed, ?_⟩
    rw [hcurrent hchanged]
    exact Link.current_step haborted service.limit change
  · obtain ⟨hstage, -⟩ := Link.work_of_ready hready
    refine Or.inr ⟨_, hdeed, by rw [Link.current, hstage], ?_⟩
    rw [hcurrent hdone]
    exact Link.current_reply link _

/-- **After an immediate stop** nothing is done for a connection but what was past its look before,
and that at most once. -/
theorem deedsFor_of_aborted (haborted : server.life.flags.aborted = true) (service : Service)
    (events : List Event) (index : Nat) :
    deedsFor index (server.deeds service events) = [] ∨
      ∃ work deed, server.current index = some work ∧
        deedsFor index (server.deeds service events) = [deed] ∧ work.Grows deed.work := by
  induction events generalizing server with
  | nil => exact Or.inl rfl
  | cons event events ih =>
    rw [deedsFor_cons]
    obtain ⟨haborted', hstep⟩ := current_step haborted service event index
    have hlater := ih haborted'
    rcases hstep with ⟨hdeed, hnone | ⟨work, work', hwork, hwork', hgrows⟩⟩ |
      ⟨deed, hdeed, hwork, hnone⟩
    · rw [hdeed, List.nil_append]
      rcases hlater with hnothing | ⟨later, -, hlater, -⟩
      · exact Or.inl hnothing
      · rw [hnone] at hlater
        cases hlater
    · rw [hdeed, List.nil_append]
      rcases hlater with hnothing | ⟨later, deed, hlater, hdeeds, hgrows'⟩
      · exact Or.inl hnothing
      · obtain rfl : work' = later := Option.some.inj (hwork'.symm.trans hlater)
        exact Or.inr ⟨work, deed, hwork, hdeeds, hgrows.trans hgrows'⟩
    · refine Or.inr ⟨deed.work, deed, hwork, ?_, .refl _⟩
      rcases hlater with hnothing | ⟨later, -, hlater, -⟩
      · rw [hdeed, hnothing, List.append_nil]
      · rw [hnone] at hlater
        cases hlater

/-- **An immediate stop is kept to** by a server that was asked for one. -/
structure GivesUp (service : Service) (server : Server) (events : List Event) : Prop where
  /-- The store has changed by the deeds. -/
  carried : Carried service server.backend (server.deeds service events)
    (server.run service events).backend
  /-- A deed is work that was past its look when the stop came, and each is done once at most. -/
  overtaken : ∀ index, (deedsFor index (server.deeds service events)).length ≤ 1 ∧
    ∀ deed ∈ deedsFor index (server.deeds service events), ∃ link work,
      server.links[index]? = some link ∧ link.stage = .working work ∧ work.Grows deed.work
  /-- So the store does not change if no work was past its look. -/
  unchanged : (∀ link ∈ server.links, ∀ work, link.stage ≠ .working work) →
    (server.run service events).backend = server.backend

/-- **Every immediate stop is kept to.** -/
theorem givesUp_of_aborted (haborted : server.life.flags.aborted = true) (service : Service)
    (events : List Event) : GivesUp service server events := by
  have hovertaken : ∀ index, (deedsFor index (server.deeds service events)).length ≤ 1 ∧
      ∀ deed ∈ deedsFor index (server.deeds service events), ∃ link work,
        server.links[index]? = some link ∧ link.stage = .working work ∧ work.Grows deed.work := by
    intro index
    rcases deedsFor_of_aborted haborted service events index with
      hnone | ⟨work, deed, hcurrent, hone, hgrows⟩
    · rw [hnone]
      exact ⟨Nat.zero_le 1, List.forall_mem_nil _⟩
    · rw [hone]
      refine ⟨Nat.le_refl 1, fun other hother => ?_⟩
      obtain rfl := List.mem_singleton.mp hother
      obtain ⟨link, hlink, hstage⟩ := Option.bind_eq_some_iff.mp hcurrent
      exact ⟨link, work, hlink, Link.stage_of_current hstage, hgrows⟩
  refine ⟨carried_deeds service server events, hovertaken, fun hnone => ?_⟩
  have hdeeds : server.deeds service events = [] := by
    refine List.eq_nil_iff_forall_not_mem.mpr fun deed hdeed => ?_
    obtain ⟨link, work, hlink, hstage, -⟩ := (hovertaken deed.index).2 deed
      (List.mem_filter.mpr ⟨hdeed, by simp⟩)
    exact hnone link (List.mem_of_getElem? hlink) work hstage
  have hcarried := carried_deeds service server events
  rw [hdeeds] at hcarried
  exact hcarried

/-! ### Stops in a run -/

/-- **An immediate stop of a server that serves** is one from then on, and changes nothing else. -/
theorem aborted_of_immediate (service : Service) (hserving : server.life.phase = .serving)
    {event : Event} (hevent : event.isImmediate = true) :
    (server.step service event).life.flags.aborted = true ∧
      (server.step service event).backend = server.backend ∧
      (server.step service event).links = server.links := by
  rcases event with event | _ | _ | _
  · cases event with
    | stop => exact ⟨rfl, rfl, rfl⟩
    | cancel =>
      refine ⟨?_, rfl, rfl⟩
      simp only [step, Lifecycle.step, hserving, or_true, if_true]
      rfl
    | _ => cases hevent
  all_goals cases hevent

/-- What a run has made of a server's life is a life. -/
theorem serves_run (service : Service) (h : server.life.Serves) (events : List Event) :
    (server.run service events).life.Serves := by
  induction events generalizing server with
  | nil => exact h
  | cons event events ih =>
    refine ih ?_
    rcases event with event | protocol | ⟨index, change⟩ | ⟨index, now⟩
    · rcases step_life_eq service server event with hstep | hstep <;> rw [hstep]
      · exact h.step event
      · exact h
    · simp only [step]
      split <;> exact h
    · exact h
    · rcases step_finish service server index now with
        ⟨link, work, -, -, -, hstep⟩ | ⟨-, -, hstep⟩ <;> rw [hstep] <;> exact h

/-- A server that serves drains when it is asked to. -/
theorem drains_of_gracefulStop (service : Service) (h : server.life.Serves)
    (hserving : server.life.phase = .serving) (haborted : server.life.flags.aborted = false) :
    (server.step service (.life .gracefulStop)).Drains := by
  refine ⟨rfl, Or.inl ⟨hserving, haborted, ?_⟩⟩
  rcases h hserving with hstate | hstate <;>
    simp [step, Lifecycle.step, hstate, Lifecycle.beginStop]

/-- **Stops, in any run of a server that listens.** Someone asks it to drain, and nobody asks for an
immediate stop, before or after: then what was running is finished, done once and answered as ever,
what was not read stays so unless it was just about to be read, and the server is not stopped
before. Or someone asks for an immediate stop: then nothing changes the store any more but work that
was past its look for the stop when it came, whatever the backend lets through. -/
theorem stops_respect_work (service : Service) (backend : Backend) (before after : List Event)
    (hserving : (run service { backend := backend } before).life.phase = .serving) :
    let server := run service { backend := backend } before
    (server.life.flags.aborted = false → (∀ event ∈ after, event.isImmediate = false) →
      (server.step service (.life .gracefulStop)).backend = server.backend ∧
      (server.step service (.life .gracefulStop)).links = server.links ∧
      KeepsDrain service (server.step service (.life .gracefulStop)) after) ∧
    ∀ event : Event, event.isImmediate = true →
      (server.step service event).backend = server.backend ∧
      (server.step service event).links = server.links ∧
      GivesUp service (server.step service event) after := by
  intro server
  refine ⟨fun haborted hafter => ⟨rfl, rfl, ?_⟩, fun event hevent => ?_⟩
  · have hserves : server.life.Serves :=
      serves_run service (fun hfresh => by cases hfresh) before
    exact (drains_of_gracefulStop service hserves hserving haborted).keepsDrain service hafter
  · obtain ⟨haborted, hbackend, hlinks⟩ := aborted_of_immediate service hserving hevent
    exact ⟨hbackend, hlinks, givesUp_of_aborted haborted service after⟩

/-- **Stops can be overtaken**, and an immediate stop is not taken back by a drain. A line that was
not read when the drain came is read and answered, by a connection that had looked for the drain
before. A removal is done after an immediate stop, by a connection that had looked for the stop
before. And a removal that is being worked on is given up although the last stop was a drain. -/
theorem stops_overtaken :
    let service : Service := { snapshot := ⟨1, ⟨.loopback, 80, 0⟩⟩ }
    let backend : Backend := { store := ⟨[("1", ⟨1, .new "1" "tea" ⟨0, 0⟩⟩)], 1⟩ }
    let removal : Rest.Request := ⟨"DELETE", "/api/v1/tasks/1".toList, none, []⟩
    let listening : List Event :=
      [.life .serve, .life (.bind (.ok ⟨.tcp ⟨.loopback, 4000, 0⟩, ⟨.loopback, 80, 0⟩⟩))]
    let reading := run service { backend := backend } (listening ++
      [.connect .rpc, .link 0 (.send [120, 10]), .link 0 .turn])
    let drained := reading.step service (.life .gracefulStop)
    let removing := run service { backend := backend } (listening ++
      [.connect .rest, .link 0 (.ask removal), .link 0 .take, .link 0 .look])
    let stopped := removing.step service (.life .stop)
    (drained.life.flags.draining = true ∧ drained.life.flags.aborted = false ∧
      drained.links.map Link.unread = [[120, 10]] ∧
      (drained.run service [.link 0 .read, .link 0 .look, .finish 0 ⟨0, 0⟩]).links.map
        (fun link => (link.unread, link.sent.length)) = [([], 1)]) ∧
    (stopped.life.flags.aborted = true ∧ stopped.backend.store.size = 1 ∧
      (stopped.run service [.link 0 (.fill []), .finish 0 ⟨0, 0⟩]).backend.store.size = 0) ∧
    ((stopped.step service (.life .gracefulStop)).links.map (fun link => link.work.isSome) =
        [true] ∧
      ((stopped.step service (.life .gracefulStop)).run service
        [.link 0 .wait, .link 0 .look, .link 0 (.fill []), .finish 0 ⟨0, 0⟩]).backend.store.size =
          1) := by
  refine ⟨⟨by decide, by decide, by decide, ?_⟩, ⟨by decide, by decide, by decide⟩,
    by decide, by decide⟩
  decide

/-- A server that listens, with a removal and a line being worked on when the stop comes. -/
theorem stops_respect_work_removal :
    let service : Service := { snapshot := ⟨1, ⟨.loopback, 80, 0⟩⟩ }
    let backend : Backend := { store := ⟨[("1", ⟨1, .new "1" "tea" ⟨0, 0⟩⟩)], 1⟩ }
    let removal : Rest.Request := ⟨"DELETE", "/api/v1/tasks/1".toList, none, []⟩
    let before : List Event :=
      [.life .serve, .life (.bind (.ok ⟨.tcp ⟨.loopback, 4000, 0⟩, ⟨.loopback, 80, 0⟩⟩)),
        .connect .rest, .link 0 (.ask removal), .link 0 .take, .link 0 .look, .link 0 .wait,
        .connect .rpc, .link 1 (.send [120, 10, 121, 10]), .link 1 .turn, .link 1 .read]
    let after : List Event :=
      [.life .loopEnd, .link 1 .look, .finish 1 ⟨0, 0⟩, .link 1 .turn, .link 0 .look,
        .link 0 (.fill []), .finish 0 ⟨0, 0⟩, .link 0 .hangUp, .life .finish]
    let server := run service { backend := backend } before
    let drained := server.step service (.life .gracefulStop)
    server.life.phase = .serving ∧ server.life.flags.aborted = false ∧
      (∀ event ∈ after, event.isImmediate = false) ∧
      server.links.map (fun link => link.work.isSome) = [true, true] ∧
      KeepsDrain service drained after ∧
      (drained.deeds service after).map Deed.index = [1, 0] ∧
      (drained.run service after).links.map (fun link => (link.unread, link.sent.length)) =
        [([], 1), ([121, 10], 1)] ∧
      drained.backend.store.size = 1 ∧ (drained.run service after).backend.store.size = 0 ∧
      (drained.run service after).life.state = .stopped ∧
      GivesUp service (server.step service (.life .stop)) after ∧
      ((server.step service (.life .stop)).run service after).backend.store.size = 1 := by
  intro service backend removal before after server drained
  have hserving : server.life.phase = .serving := by decide
  have haborted : server.life.flags.aborted = false := by decide
  have hafter : ∀ event ∈ after, event.isImmediate = false := by
    simp [after, Event.isImmediate]
  have hdrain := ((stops_respect_work service backend before after hserving).1 haborted hafter).2.2
  have hstop := ((stops_respect_work service backend before after hserving).2 (.life .stop) rfl).2.2
  refine ⟨hserving, haborted, hafter, by decide, hdrain, by decide, by decide, by decide, by decide,
    by decide, hstop, by decide⟩

end Server

end TaskDaemon
