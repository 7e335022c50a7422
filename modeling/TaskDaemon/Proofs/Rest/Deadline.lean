import Mathlib.Data.List.Induction
import TaskDaemon.Proofs.Rest.Failures
import TaskDaemon.Rest.Deadline

/-!
# Done as a whole or not at all

A request that is told to have taken too long must not have done anything, or its caller would do it
twice. This holds however the looks at it fall (`TaskDaemon.Rest.attend_fate`): all that a request
does, it does at one look, and that look answers it too. So a request is answered as out of time
only while the store is as it was, and otherwise as if nothing had taken any time.

| where the deadline passes | answer | store |
|---|---|---|
| before the request has come in | 408 | as it was |
| while the backend is waited for | 408 | as it was |
| at the look at which the work gets done | that of the work | that of the work |
| behind it | that of the work | that of the work |

No other answer has the status 408 (`TaskDaemon.Rest.status_serve_ne`), so the answer tells which of
the two it was.

* `TaskDaemon.Rest.Fate`: what can have become of a request after some looks;
* `TaskDaemon.Rest.attend_prompt`: where looks come without delay,
  `TaskDaemon.Rest.serveWithin` says what becomes of a request;
* `TaskDaemon.Rest.timed_out_or_whole`: the main result.
-/

namespace TaskDaemon

namespace Rest

variable {request : Request} {backend : Backend} {pace : Pace} {arrival : Nat}

/-! ### Which answers tell that time is over -/

@[simp]
theorem status_shape (request : Request) (response : Response) :
    (shape request response).status = response.status := by
  unfold shape
  split <;> rfl

theorem status_ofError_ne (error : Error) : (Response.ofError error).status ≠ 408 := by
  have hstatus :
      (statusOf error).1 = 400 ∨ (statusOf error).1 = 404 ∨ (statusOf error).1 = 500 := by
    unfold statusOf
    split
    · exact Or.inl rfl
    · exact Or.inr (Or.inl rfl)
    · exact Or.inr (Or.inr rfl)
  change (statusOf error).1 ≠ 408
  omega

theorem status_answer_ne {α : Type} (operation : String) {success : α → Response}
    (hsuccess : ∀ value, (success value).status ≠ 408) (outcome : Outcome α) :
    (answer operation success outcome).status ≠ 408 := by
  cases outcome with
  | ok value => exact hsuccess value
  | error error => exact status_ofError_ne _

theorem status_run_ne (operation : Operation) (backend : Backend) (now : Instant) :
    (operation.run backend now).1.status ≠ 408 := by
  have hdone (status : Nat) (body : String) (h : status ≠ 408) :
      (Response.json status body).status ≠ 408 := h
  cases operation with
  | list => exact hdone 200 _ (by decide)
  | create draft => exact status_answer_ne _ (fun _ => hdone 201 _ (by decide)) _
  | update id body => exact status_answer_ne _ (fun _ => hdone 200 _ (by decide)) _
  | delete id => exact status_answer_ne _ (fun _ => by decide) _

/-- An answer that is made before the store is asked is about the request itself. -/
theorem status_plan_ne {response : Response} (h : plan request = .error response) :
    response.status ≠ 408 := by
  have hbody {α : Type} {s : Json.Schema α} {operation : α → Operation}
      (h : ((readBody s request).mapError fun fault => Response.failed 400 fault.message).map
        operation = .error response) : response.status ≠ 408 := by
    cases hread : readBody s request with
    | ok value => rw [hread] at h; cases h
    | error fault =>
      rw [hread] at h
      obtain rfl := Except.error.inj h
      change 400 ≠ 408
      decide
  unfold plan at h
  dsimp only at h
  split at h
  · obtain rfl := Except.error.inj h
    decide
  · split at h
    · cases h
    split at h
    · exact hbody h
    · obtain rfl := Except.error.inj h
      change 405 ≠ 408
      decide
  · split at h
    · split at h
      · obtain rfl := Except.error.inj h
        decide
      · split at h
        · exact hbody h
        · cases h
    · obtain rfl := Except.error.inj h
      change 405 ≠ 408
      decide

/-- **A request that is served is not out of time.** -/
theorem status_serve_ne (request : Request) (backend : Backend) (now : Instant) :
    (serve backend now request).1.status ≠ 408 := by
  unfold serve
  cases hplan : plan request with
  | error response =>
    dsimp only
    rw [status_shape]
    exact status_plan_ne hplan
  | ok operation =>
    dsimp only
    rw [status_shape]
    exact status_run_ne operation backend now

/-! ### What can have become of a request -/

/-- **A request waits**, and if it waits for the backend, then for what it wants from it. -/
def Stage.Waits (request : Request) : Stage → Prop
  | .arriving => True
  | .asking operation _ => plan request = .ok operation
  | .answered _ => False

/-- **What can have become of a request** after some looks: how far it has come, and the backend by
then. -/
inductive Fate (request : Request) (backend : Backend) (limit : Nat) (looks : List Look) :
    Stage × Backend → Prop where
  /-- It waits, with nothing done, and its time is not over. -/
  | waiting {stage : Stage} (hwaits : stage.Waits request)
    (hlooks : ∀ look ∈ looks, look.time < limit) :
    Fate request backend limit looks (stage, backend)
  /-- It was dropped, with nothing done: its time was over at a look. -/
  | timedOut {response : Response} (hstatus : response.status = 408)
    (hlooks : ∃ look ∈ looks, limit ≤ look.time) :
    Fate request backend limit looks (.answered response, backend)
  /-- It was served at one of the looks, as a whole. -/
  | served {look : Look} (hlook : look ∈ looks) :
    Fate request backend limit looks
      (.answered (serve backend look.clock request).1, (serve backend look.clock request).2)

/-- **The work at a look**: it waits on with nothing done, or the request is served as a whole. -/
theorem Stage.Waits.advance {stage : Stage} (h : stage.Waits request) (arrival delay : Nat)
    (look : Look) (backend : Backend) :
    (∃ later : Stage, later.Waits request ∧
        stage.advance arrival delay request look backend = (later, backend)) ∨
      stage.advance arrival delay request look backend =
        (.answered (serve backend look.clock request).1, (serve backend look.clock request).2) := by
  -- A backend that is due does the operation and answers in one piece.
  have hawaited {operation : Operation} (hplan : plan request = .ok operation) (due : Nat) :
      (∃ later : Stage, later.Waits request ∧
          operation.awaited due request look backend = (later, backend)) ∨
        operation.awaited due request look backend =
          (.answered (serve backend look.clock request).1,
            (serve backend look.clock request).2) := by
    unfold Operation.awaited
    split
    · exact Or.inl ⟨.asking operation due, hplan, rfl⟩
    · refine Or.inr ?_
      unfold serve
      rw [hplan]
  cases stage with
  | arriving =>
    unfold Stage.advance
    dsimp only
    split
    · exact Or.inl ⟨.arriving, trivial, rfl⟩
    · cases hplan : plan request with
      | error response =>
        refine Or.inr ?_
        unfold serve
        rw [hplan]
      | ok operation => exact hawaited hplan _
  | asking operation due => exact hawaited h due
  | answered response => exact h.elim

namespace Fate

variable {limit : Nat} {looks : List Look}

/-- What is settled stays so. -/
theorem answered_concat {response : Response} {after : Backend}
    (h : Fate request backend limit looks (.answered response, after)) (look : Look) :
    Fate request backend limit (looks ++ [look]) (.answered response, after) := by
  cases h with
  | waiting hwaits => exact hwaits.elim
  | timedOut hstatus hlooks =>
    obtain ⟨late, hmem, hlate⟩ := hlooks
    exact timedOut hstatus ⟨late, List.mem_append_left _ hmem, hlate⟩
  | served hlook => exact served (List.mem_append_left _ hlook)

/-- **One look more.** -/
theorem attend {stage : Stage} {after : Backend}
    (h : Fate request backend pace.limit looks (stage, after)) (arrival : Nat) (look : Look) :
    Fate request backend pace.limit (looks ++ [look])
      (stage.attend pace arrival request look after) := by
  by_cases hanswered : ∃ response, stage = .answered response
  · obtain ⟨response, rfl⟩ := hanswered
    exact h.answered_concat look
  have hlast : look ∈ looks ++ [look] := List.mem_append_right _ List.mem_cons_self
  cases h with
  | timedOut => exact absurd ⟨_, rfl⟩ hanswered
  | served => exact absurd ⟨_, rfl⟩ hanswered
  | waiting hwaits hlooks =>
    unfold Stage.attend
    rcases hwaits.advance arrival pace.delay look backend with ⟨later, hlater, hwork⟩ | hwork
    · rw [hwork]
      -- Only now, with the work still to be waited for, does the deadline count.
      cases later with
      | answered response => exact hlater.elim
      | _ =>
        dsimp only
        split
        · next hover => exact timedOut (status_shape request _) ⟨look, hlast, hover⟩
        · next hover =>
          refine waiting hlater fun other hmem => ?_
          rcases List.mem_append.mp hmem with hmem | hmem
          · exact hlooks other hmem
          · obtain rfl := List.mem_singleton.mp hmem
            exact not_le.mp hover
    · rw [hwork]
      exact served hlast

end Fate

/-- **What becomes of a request**, whenever the looks at it come. -/
theorem attend_fate (pace : Pace) (arrival : Nat) (request : Request) (looks : List Look)
    (backend : Backend) :
    Fate request backend pace.limit looks (attend pace arrival request looks backend) := by
  induction looks using List.reverseRecOn with
  | nil => exact .waiting trivial nofun
  | append_singleton looks look ih =>
    unfold Rest.attend at ih ⊢
    rw [List.foldl_append]
    exact ih.attend arrival look

/-! ### Looks that come as soon as there is something to do -/

/-- What is answered at a look is answered. -/
theorem Stage.attend_of_answered {stage : Stage} {look : Look} {response : Response}
    {after : Backend}
    (h : stage.advance arrival pace.delay request look backend = (.answered response, after)) :
    stage.attend pace arrival request look backend = (.answered response, after) := by
  unfold Stage.attend
  rw [h]

/-- **A request whose backend is asked at once**, looked at when there is something to do: when the
backend gets to it, or when its time is over. -/
theorem attend_asking (operation : Operation) (now : Instant) :
    let final : Look := ⟨min pace.delay pace.limit, now⟩
    (Stage.asking operation pace.delay).attend pace arrival request final backend =
      if pace.limit < pace.delay then (.answered (shape request .timedOut), backend)
      else
        (.answered (shape request (operation.run backend now).1),
          (operation.run backend now).2) := by
  intro final
  unfold Stage.attend Stage.advance Operation.awaited
  dsimp only
  by_cases hlate : pace.limit < pace.delay
  · have hdue : final.time < pace.delay := (min_le_right _ _).trans_lt hlate
    have hover : pace.limit ≤ final.time := le_min hlate.le le_rfl
    rw [if_pos hdue, if_pos hlate]
    exact if_pos hover
  · have hdue : ¬ final.time < pace.delay := not_lt.mpr (le_min le_rfl (not_lt.mp hlate))
    rw [if_neg hdue, if_neg hlate]

/-- **Without delay between looks**, a request whose backend takes longer than it may is out of
time, and every other one is served. -/
theorem attend_prompt (pace : Pace) (request : Request) (backend : Backend) (now : Instant) :
    attend pace 0 request [⟨0, now⟩, ⟨min pace.delay pace.limit, now⟩] backend =
      (.answered (serveWithin pace backend now request).1,
        (serveWithin pace backend now request).2) := by
  change Stage.attend pace 0 request _ (Stage.attend pace 0 request ⟨0, now⟩ .arriving backend).1
    (Stage.attend pace 0 request ⟨0, now⟩ .arriving backend).2 = _
  unfold serveWithin
  cases hplan : plan request with
  | error response =>
    have hfirst : Stage.advance 0 pace.delay request ⟨0, now⟩ .arriving backend =
        (.answered (shape request response), backend) := by
      simp only [Stage.advance, hplan, Nat.lt_irrefl, if_false]
    rw [Stage.attend_of_answered hfirst]
    rfl
  | ok operation =>
    have hfirst : Stage.advance 0 pace.delay request ⟨0, now⟩ .arriving backend =
        operation.awaited pace.delay request ⟨0, now⟩ backend := by
      simp only [Stage.advance, hplan, Nat.lt_irrefl, if_false, Nat.zero_add]
    dsimp only
    by_cases hdelay : pace.delay = 0
    · -- The backend gets to the request at the first look.
      have hdone : Stage.advance 0 pace.delay request ⟨0, now⟩ .arriving backend =
          (.answered (shape request (operation.run backend now).1),
            (operation.run backend now).2) := by
        rw [hfirst]
        unfold Operation.awaited
        rw [hdelay]
        rfl
      rw [Stage.attend_of_answered hdone, if_neg (by omega)]
      rfl
    · have hasked : Stage.advance 0 pace.delay request ⟨0, now⟩ .arriving backend =
          (.asking operation pace.delay, backend) := by
        rw [hfirst]
        exact if_pos (Nat.pos_of_ne_zero hdelay)
      by_cases hlimit : pace.limit = 0
      · -- There is no time to wait for the backend.
        have hover : Stage.attend pace 0 request ⟨0, now⟩ .arriving backend =
            (.answered (shape request .timedOut), backend) := by
          unfold Stage.attend
          rw [hasked]
          exact if_pos hlimit.le
        rw [hover, if_pos (by omega)]
        rfl
      · have hwaits : Stage.attend pace 0 request ⟨0, now⟩ .arriving backend =
            (.asking operation pace.delay, backend) := by
          unfold Stage.attend
          rw [hasked]
          exact if_neg (by simpa using hlimit)
        rw [hwaits, attend_asking]
        split <;> rfl

/-! ### The answer tells -/

namespace Fate

variable {limit : Nat} {looks : List Look} {response : Response} {after : Backend}

/-- **An answer tells which it was**: dropped with nothing done, or served as a whole. -/
theorem tells (h : Fate request backend limit looks (.answered response, after)) :
    (response.status = 408 → after = backend ∧ ∃ look ∈ looks, limit ≤ look.time) ∧
      (response.status ≠ 408 →
        ∃ look ∈ looks, (response, after) = serve backend look.clock request) := by
  cases h with
  | waiting hwaits => exact hwaits.elim
  | timedOut hstatus hlooks => exact ⟨fun _ => ⟨rfl, hlooks⟩, fun hother => absurd hstatus hother⟩
  | @served look hlook =>
    exact ⟨fun hstatus => absurd hstatus (status_serve_ne request backend look.clock),
      fun _ => ⟨look, hlook, rfl⟩⟩

/-- **A request is answered** at a look at which its time is over, if not before. -/
theorem exists_answer {state : Stage × Backend} (h : Fate request backend limit looks state)
    (hlooks : ∃ look ∈ looks, limit ≤ look.time) : ∃ response, state.1 = .answered response := by
  cases h with
  | waiting _ hleft =>
    obtain ⟨look, hmem, hover⟩ := hlooks
    exact absurd hover (not_le.mpr (hleft look hmem))
  | timedOut => exact ⟨_, rfl⟩
  | served => exact ⟨_, rfl⟩

/-- Nothing is done without an answer. -/
theorem unchanged {state : Stage × Backend} (h : Fate request backend limit looks state)
    (hopen : ∀ response, state.1 ≠ .answered response) : state.2 = backend := by
  cases h with
  | waiting => rfl
  | timedOut => rfl
  | served => exact absurd rfl (hopen _)

end Fate

/-- **Which answers are out of time**, where looks come without delay. -/
theorem status_serveWithin_iff (pace : Pace) (backend : Backend) (now : Instant)
    (request : Request) :
    (serveWithin pace backend now request).1.status = 408 ↔
      pace.limit < pace.delay ∧ ∃ operation, plan request = .ok operation := by
  unfold serveWithin
  cases hplan : plan request with
  | error response =>
    dsimp only
    rw [status_shape]
    exact ⟨fun h => absurd h (status_plan_ne hplan), fun h => nomatch h.2.choose_spec⟩
  | ok operation =>
    dsimp only
    split
    · next hlate => exact ⟨fun _ => ⟨hlate, operation, rfl⟩, fun _ => status_shape request _⟩
    · next hearly =>
      rw [status_shape]
      exact ⟨fun h => absurd h (status_run_ne operation backend now), fun h => absurd h.1 hearly⟩

/-- **A request does what it asks for as a whole, or nothing.** Take any time for its coming in, for
the backend and for the deadline, and looks at it at any times.

* If it is answered with 408, its time was over and the backend is as it was; any other answer is
  the one that it gets without any delay at one of the looks, and so is the backend.
* As long as there is no answer, the backend is as it was; and there is one as soon as a look finds
  its time to be over.
* Where looks come without delay, the same holds of `TaskDaemon.Rest.serveWithin`, and the answer is
  408 exactly if the request asks the backend for something that takes longer than it may. -/
theorem timed_out_or_whole (pace : Pace) (arrival : Nat) (request : Request) (looks : List Look)
    (backend : Backend) (now : Instant) :
    (∀ response after, attend pace arrival request looks backend = (.answered response, after) →
      (response.status = 408 → after = backend ∧ ∃ look ∈ looks, pace.limit ≤ look.time) ∧
        (response.status ≠ 408 →
          ∃ look ∈ looks, (response, after) = serve backend look.clock request)) ∧
    ((∀ response, (attend pace arrival request looks backend).1 ≠ .answered response) →
      (attend pace arrival request looks backend).2 = backend) ∧
    ((∃ look ∈ looks, pace.limit ≤ look.time) →
      ∃ response, (attend pace arrival request looks backend).1 = .answered response) ∧
    ((serveWithin pace backend now request).1.status = 408 →
      (serveWithin pace backend now request).2 = backend) ∧
    ((serveWithin pace backend now request).1.status ≠ 408 →
      serveWithin pace backend now request = serve backend now request) ∧
    ((serveWithin pace backend now request).1.status = 408 ↔
      pace.limit < pace.delay ∧ ∃ operation, plan request = .ok operation) := by
  have hfate := attend_fate pace arrival request looks backend
  have hprompt := attend_fate pace 0 request [⟨0, now⟩, ⟨min pace.delay pace.limit, now⟩] backend
  rw [attend_prompt] at hprompt
  refine ⟨fun response after hattend => ?_, hfate.unchanged, hfate.exists_answer,
    fun hstatus => (hprompt.tells.1 hstatus).1, fun hstatus => ?_,
    status_serveWithin_iff pace backend now request⟩
  · rw [hattend] at hfate
    exact hfate.tells
  · obtain ⟨look, hlook, hserve⟩ := hprompt.tells.2 hstatus
    have hclock : look.clock = now := by
      simp only [List.mem_cons, List.not_mem_nil, or_false] at hlook
      rcases hlook with rfl | rfl <;> rfl
    rw [hclock] at hserve
    exact hserve

/-- **The same removal, dropped and done.** It has come in after 30 of the 50 milliseconds that it
has, and the backend takes 40. A look at the deadline finds it waiting for the backend; where the
next look is a late one, it finds the backend ready, and the removal is done. -/
theorem timed_out_or_whole_removal :
    let request : Request := ⟨"DELETE", "/api/v1/tasks/1".toList, none, []⟩
    let backend : Backend := { store := ⟨[("1", ⟨1, .new "1" "tea" ⟨0, 0⟩⟩)], 1⟩ }
    let dropped := attend ⟨40, 50⟩ 30 request [⟨10, ⟨0, 0⟩⟩, ⟨30, ⟨0, 0⟩⟩, ⟨50, ⟨0, 0⟩⟩] backend
    let done := attend ⟨40, 50⟩ 30 request [⟨10, ⟨0, 0⟩⟩, ⟨30, ⟨0, 0⟩⟩, ⟨80, ⟨0, 0⟩⟩] backend
    (dropped.1 = .answered .timedOut ∧ dropped.2 = backend) ∧
      done.1 = .answered (.bare 204) ∧ done.2.store.entries = [] ∧
        (.bare 204, done.2) = serve backend ⟨0, 0⟩ request := by
  intro request backend dropped done
  have hdropped : dropped = (.answered .timedOut, dropped.2) :=
    Prod.ext (by decide : dropped.1 = .answered .timedOut) rfl
  have hdone : done = (.answered (.bare 204), done.2) :=
    Prod.ext (by decide : done.1 = .answered (.bare 204)) rfl
  have hwhole := (timed_out_or_whole ⟨40, 50⟩ 30 request
    [⟨10, ⟨0, 0⟩⟩, ⟨30, ⟨0, 0⟩⟩, ⟨50, ⟨0, 0⟩⟩] backend ⟨0, 0⟩).1 _ _ hdropped
  have hlate := (timed_out_or_whole ⟨40, 50⟩ 30 request
    [⟨10, ⟨0, 0⟩⟩, ⟨30, ⟨0, 0⟩⟩, ⟨80, ⟨0, 0⟩⟩] backend ⟨0, 0⟩).1 _ _ hdone
  obtain ⟨look, hlook, hserve⟩ := hlate.2 (show 204 ≠ 408 by decide)
  have hclock : look.clock = ⟨0, 0⟩ := by
    simp only [List.mem_cons, List.not_mem_nil, or_false] at hlook
    rcases hlook with rfl | rfl | rfl <;> rfl
  rw [hclock] at hserve
  exact ⟨⟨congrArg Prod.fst hdropped, (hwhole.1 rfl).1⟩, congrArg Prod.fst hdone, by decide, hserve⟩

end Rest

end TaskDaemon
