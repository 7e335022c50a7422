import Mathlib.Logic.Basic
import TaskDaemon.Daemon.Server

/-!
# What a server has done

A run of a server is told by its deeds: the pieces of work that the backend let through, in order.
They are all that happens to the backend (`TaskDaemon.Server.carried_deeds`), and each is answered
by `TaskDaemon.Work.answer`, which knows nothing of stops. What happens to one connection is told by
its own events and its own deeds (`TaskDaemon.Server.step_link`).

* `TaskDaemon.Work.Grows`: work before and after its body has come;
* `TaskDaemon.Server.Deed` and `TaskDaemon.Server.deeds`: the deeds of a run;
* `TaskDaemon.Server.Carried`: deeds carry a backend on to another;
* `TaskDaemon.Server.deedsFor`: the deeds that were done for a connection, of which there are at
  most as many as requests that it has read (`TaskDaemon.Server.length_deedsFor_le`).
-/

namespace TaskDaemon

/-- **Work grows** when the body of its request comes. -/
inductive Work.Grows : Work → Work → Prop where
  /-- It has not come, or it was there. -/
  | refl (work : Work) : Grows work work
  /-- It has come. -/
  | body (head : Rest.Request) (body : Bytes) :
    Grows (.request head false) (.request { head with body := body } true)

theorem Work.Grows.trans {first second third : Work} (h : first.Grows second)
    (h' : second.Grows third) : first.Grows third := by
  rcases h with _ | ⟨head, body⟩
  · exact h'
  · rcases h' with _ | _
    exact .body head body

/-- The work on a line does not grow. -/
theorem Work.Grows.eq_line {text : String} {work : Work} (h : (Work.line text).Grows work) :
    work = .line text := by
  rcases h with _ | _
  rfl

/-! ### One connection -/

namespace Link

variable {link : Link}

/-- Work that can come to its end is being worked on. -/
theorem work_of_ready {work : Work} (h : link.ready = some work) :
    link.stage = .working work ∧ work.isWhole = true := by
  unfold ready at h
  rcases hstage : link.stage with _ | _ | _ | other | _ <;> rw [hstage] at h
  case working =>
    by_cases hwhole : other.isWhole = true
    · simp only [hwhole, if_true, Option.some.injEq] at h
      exact ⟨by rw [h], h ▸ hwhole⟩
    · simp [hwhole] at h
  all_goals cases h

/-- A connection that was replied to works on nothing. -/
theorem work_reply (link : Link) (reaction : Reaction) : (link.reply reaction).work = none := by
  unfold reply
  split <;> rfl

/-- **Whether a request is read.** -/
def Event.isReading : Event → Bool
  | .read => true
  | .take => true
  | _ => false

/-- **Work begins when a request is read**, and never otherwise. -/
theorem work_of_step {limit : Nat} {flags : StopFlags} {event : Event}
    (hevent : event.isReading = false) (hidle : link.work = none) :
    (link.step limit flags event).work = none := by
  have hstage : ∀ work, link.stage ≠ .waiting work ∧ link.stage ≠ .working work := by
    intro work
    constructor <;> intro hstage <;> rw [Link.work, hstage] at hidle <;> cases hidle
  rcases event with bytes | _ | head | _ | _ | _ | _ | body | _ | _ | _ | _
  case read => cases hevent
  case take => cases hevent
  case send => exact hidle
  case shut => exact hidle
  case ask => exact hidle
  case lose =>
    show (link.lose).work = none
    unfold lose
    split
    · exact hidle
    · rfl
  all_goals
    simp only [step, turn, fill, look, wait, expire, hangUp]
    repeat' split
    all_goals first | exact hidle | rfl | exact work_reply _ _ | (exfalso; simp_all)

end Link

namespace Server

/-! ### Deeds -/

/-- **A piece of work that was done.** -/
structure Deed where
  /-- The connection that it was done for. -/
  index : Nat
  /-- The work. -/
  work : Work
  /-- The time. -/
  now : Instant
  /-- What comes of it for its sender. -/
  reaction : Reaction

/-- **The deed of an event**, if there is one. -/
def deed (service : Service) (server : Server) : Event → Option Deed
  | .finish index now =>
    (server.links[index]?.bind Link.ready).map fun work =>
      ⟨index, work, now, (work.answer service server.backend now).1⟩
  | _ => none

/-- **The deeds of a run**, in order. -/
def deeds (service : Service) (server : Server) : List Event → List Deed
  | [] => []
  | event :: events =>
    (server.deed service event).toList ++ deeds service (server.step service event) events

/-- **Deeds carry a backend on to another**: each is answered as if nobody had asked to stop, at the
backend that the one before has left. -/
def Carried (service : Service) (backend : Backend) : List Deed → Backend → Prop
  | [], final => final = backend
  | deed :: more, final =>
    deed.reaction = (deed.work.answer service backend deed.now).1 ∧
      Carried service (deed.work.answer service backend deed.now).2 more final

/-- The deeds that were done for a connection. -/
def deedsFor (index : Nat) (deeds : List Deed) : List Deed :=
  deeds.filter fun deed => deed.index == index

variable {service : Service} {server : Server}

theorem deedsFor_append (index : Nat) (deeds more : List Deed) :
    deedsFor index (deeds ++ more) = deedsFor index deeds ++ deedsFor index more :=
  List.filter_append ..

theorem run_cons (service : Service) (server : Server) (event : Event) (events : List Event) :
    server.run service (event :: events) = (server.step service event).run service events :=
  rfl

/-- The deeds for a connection begin with that of the first event. -/
theorem deedsFor_cons (service : Service) (server : Server) (index : Nat) (event : Event)
    (events : List Event) :
    deedsFor index (server.deeds service (event :: events)) =
      deedsFor index (server.deed service event).toList ++
        deedsFor index ((server.step service event).deeds service events) :=
  deedsFor_append ..

theorem Carried.append {backend middle final : Backend} {deeds more : List Deed}
    (h : Carried service backend deeds middle) (hmore : Carried service middle more final) :
    Carried service backend (deeds ++ more) final := by
  induction deeds generalizing backend with
  | nil =>
    obtain rfl : middle = backend := h
    exact hmore
  | cons deed deeds ih => exact ⟨h.1, ih h.2⟩

/-! ### One event -/

/-- **Something in a server's life** is a step of that life, or nothing where the server cannot end
yet. -/
theorem step_life_eq (service : Service) (server : Server) (event : Lifecycle.Event) :
    server.step service (.life event) = { server with life := server.life.step event } ∨
      server.step service (.life event) = server := by
  cases event with
  | finish =>
    simp only [step]
    split
    · exact Or.inl rfl
    · exact Or.inr rfl
  | _ => exact Or.inl rfl

/-- **Work that is let through**, and nothing where there is none. -/
theorem step_finish (service : Service) (server : Server) (index : Nat) (now : Instant) :
    (∃ link work, server.links[index]? = some link ∧ link.ready = some work ∧
      server.deed service (.finish index now) =
        some ⟨index, work, now, (work.answer service server.backend now).1⟩ ∧
      server.step service (.finish index now) =
        { server with
          links := server.links.set index (link.reply (work.answer service server.backend now).1)
          backend := (work.answer service server.backend now).2 }) ∨
    (server.links[index]?.bind Link.ready = none ∧
      server.deed service (.finish index now) = none ∧
      server.step service (.finish index now) = server) := by
  rcases hlink : server.links[index]? with _ | link
  · exact Or.inr ⟨rfl, by simp [deed, hlink], by simp [step, hlink]⟩
  rcases hready : link.ready with _ | work
  · refine Or.inr ⟨hready, by simp [deed, hlink, hready], ?_⟩
    obtain ⟨hlt, hget⟩ := List.getElem?_eq_some_iff.mp hlink
    simp only [step, hlink, Link.finish, hready]
    rw [← hget, List.set_getElem_self]
  · refine Or.inl ⟨link, work, rfl, hready, by simp [deed, hlink, hready], ?_⟩
    simp only [step, hlink, Link.finish, hready]

/-- **What an event makes of a connection.** It has nothing to do with it; or something happens on
it; or its work is done. -/
theorem step_link (service : Service) (event : Event) {index : Nat} {link : Link}
    (hlink : server.links[index]? = some link) :
    ((server.step service event).links[index]? = some link ∧
      deedsFor index (server.deed service event).toList = []) ∨
    (∃ change, event = .link index change ∧
      (server.step service event).links[index]? =
        some (link.step service.limit server.life.flags change) ∧
      deedsFor index (server.deed service event).toList = []) ∨
    (∃ now work, event = .finish index now ∧ link.ready = some work ∧
      (server.step service event).links[index]? =
        some (link.reply (work.answer service server.backend now).1) ∧
      deedsFor index (server.deed service event).toList =
        [⟨index, work, now, (work.answer service server.backend now).1⟩]) := by
  have hlt := (List.getElem?_eq_some_iff.mp hlink).1
  rcases event with event | protocol | ⟨other, change⟩ | ⟨other, now⟩
  · refine Or.inl ⟨?_, rfl⟩
    rcases step_life_eq service server event with hstep | hstep <;> rw [hstep] <;> exact hlink
  · refine Or.inl ⟨?_, rfl⟩
    simp only [step]
    split
    · show (server.links ++ _)[index]? = _
      rw [List.getElem?_append_left hlt, hlink]
    · exact hlink
  · have hmodify : (server.step service (.link other change)).links[index]? =
        if other = index then some (link.step service.limit server.life.flags change)
        else some link := by
      show (server.links.modify other _)[index]? = _
      rw [List.getElem?_modify, hlink]
      split <;> rfl
    rcases eq_or_ne other index with rfl | hne
    · exact Or.inr (Or.inl ⟨change, rfl, by rw [hmodify, if_pos rfl], rfl⟩)
    · exact Or.inl ⟨by rw [hmodify, if_neg hne], rfl⟩
  · rcases step_finish service server other now with
      ⟨found, work, hfound, hready, hdeed, hstep⟩ | ⟨-, hdeed, hstep⟩
    · rw [hdeed, hstep]
      rcases eq_or_ne other index with rfl | hne
      · obtain rfl : link = found := Option.some.inj (hlink.symm.trans hfound)
        refine Or.inr (Or.inr ⟨now, work, rfl, hready, List.getElem?_set_self hlt, ?_⟩)
        simp [deedsFor]
      · refine Or.inl ⟨(List.getElem?_set_ne hne).trans hlink, ?_⟩
        simp [deedsFor, hne]
    · rw [hdeed, hstep]
      exact Or.inl ⟨hlink, rfl⟩

/-- **A connection that is not there yet** has no deeds. -/
theorem deedsFor_deed_of_new (service : Service) (event : Event) {index : Nat}
    (hnew : server.links.length ≤ index) :
    deedsFor index (server.deed service event).toList = [] := by
  rcases event with event | protocol | ⟨other, change⟩ | ⟨other, now⟩
  case finish =>
    rcases step_finish service server other now with
      ⟨link, work, hlink, -, hdeed, -⟩ | ⟨-, hdeed, -⟩
    · have hlt := (List.getElem?_eq_some_iff.mp hlink).1
      rw [hdeed]
      simp [deedsFor, show other ≠ index by omega]
    · rw [hdeed]
      rfl
  all_goals rfl

/-- **A connection comes into being** when a peer connects, and is idle then. -/
theorem links_of_new (service : Service) (event : Event) {index : Nat}
    (hnew : server.links.length ≤ index) :
    (server.step service event).links.length ≤ index ∨
      ∃ protocol, (server.step service event).links[index]? = some { protocol := protocol } := by
  rcases event with event | protocol | ⟨other, change⟩ | ⟨other, now⟩
  · rcases step_life_eq service server event with hstep | hstep <;> rw [hstep] <;> exact Or.inl hnew
  · simp only [step]
    split
    · rcases Nat.eq_or_lt_of_le hnew with rfl | hlt
      · exact Or.inr ⟨protocol, List.getElem?_concat_length⟩
      · exact Or.inl (by rw [List.length_append]; exact hlt)
    · exact Or.inl hnew
  · exact Or.inl ((List.length_modify ..).symm ▸ hnew)
  · rcases step_finish service server other now with
      ⟨link, work, -, -, -, hstep⟩ | ⟨-, -, hstep⟩ <;> rw [hstep]
    · exact Or.inl (List.length_set.symm ▸ hnew)
    · exact Or.inl hnew

/-- **Events change the backend by their deed only.** -/
theorem carried_step (service : Service) (server : Server) (event : Event) :
    Carried service server.backend (server.deed service event).toList
      (server.step service event).backend := by
  rcases event with event | protocol | ⟨index, change⟩ | ⟨index, now⟩
  · rcases step_life_eq service server event with hstep | hstep <;> rw [hstep] <;> rfl
  · show (server.step service (.connect protocol)).backend = server.backend
    simp only [step]
    split <;> rfl
  · rfl
  · rcases step_finish service server index now with
      ⟨link, work, -, -, hdeed, hstep⟩ | ⟨-, hdeed, hstep⟩
    · rw [hdeed, hstep]
      exact ⟨rfl, rfl⟩
    · rw [hdeed, hstep]
      rfl

/-! ### Runs -/

/-- **All that happens to the backend is deeds**, in every run. -/
theorem carried_deeds (service : Service) (server : Server) (events : List Event) :
    Carried service server.backend (server.deeds service events)
      (server.run service events).backend := by
  induction events generalizing server with
  | nil => rfl
  | cons event events ih => exact (carried_step service server event).append (ih _)

/-- **Whether a request is read on a connection.** -/
def Event.isReadingAt (index : Nat) : Event → Bool
  | .link other change => other == index && change.isReading
  | _ => false

/-- **A connection has no more deeds than requests**: at most one for what it is working on, and one
for every time that it reads. -/
theorem length_deedsFor_le (service : Service) {index : Nat} (events : List Event) {link : Link}
    (hlink : server.links[index]? = some link) :
    (deedsFor index (server.deeds service events)).length ≤
      link.work.toList.length + events.countP (Event.isReadingAt index) := by
  induction events generalizing server link with
  | nil => exact Nat.zero_le _
  | cons event events ih =>
    rw [deedsFor_cons, List.length_append, List.countP_cons]
    rcases step_link service event hlink with
      ⟨hkept, hdeed⟩ | ⟨change, rfl, hchanged, hdeed⟩ | ⟨now, work, rfl, hready, hdone, hdeed⟩
    · have hmore := ih hkept
      rw [hdeed]
      simp only [List.length_nil]
      omega
    · have hmore := ih hchanged
      rw [hdeed]
      simp only [List.length_nil, Event.isReadingAt, beq_self_eq_true, Bool.true_and]
      have hone : ∀ work : Option Work, work.toList.length ≤ 1 := by
        rintro (_ | work) <;> simp
      rcases hreading : change.isReading with _ | _
      · rcases hwork : link.work with _ | work
        · rw [Link.work_of_step hreading hwork] at hmore
          simpa using hmore
        · have hafter := hone (link.step service.limit server.life.flags change).work
          simp only [Option.toList_some, List.length_singleton]
          omega
      · have hafter := hone (link.step service.limit server.life.flags change).work
        simp only [if_true]
        omega
    · have hmore := ih hdone
      obtain ⟨hstage, -⟩ := Link.work_of_ready hready
      rw [Link.work_reply] at hmore
      rw [hdeed, Link.work, hstage]
      simp only [List.length_singleton, Link.Stage.work, Option.toList_some, Option.toList_none,
        List.length_nil] at hmore ⊢
      omega

end Server

end TaskDaemon
