import TaskDaemon.Daemon.Traffic
import TaskDaemon.Proofs.Rest.Asking

/-!
# Which failures say what went wrong

An answer that is no success is to have a body with a message. Errors of the store, refused bodies,
requests that take too long and requests that are given up all become such an answer. But an answer
that is made before any of them gets to see the request does not: nothing is known at the path, the
method is not one of those known there, or the id in the path is no text. So what matters is how far
a request gets.

| answer | status | body |
|---|---|---|
| nothing at the path | 404 | none |
| another method is wanted | 405 | none |
| the id is no text | 400 | plain text |
| a refused body | 400 | a message |
| an error of the store | 400, 404 or 500 | a message |
| out of time | 408 | a message |
| given up | 503 | a message |

* `TaskDaemon.Rest.Request.IsRouted`: a request gets as far as what it asks for;
* `TaskDaemon.Rest.failures_tell_iff`: exactly then its failures tell a message;
* `TaskDaemon.Rest.unrouted_tell_nothing`: the three others.
-/

namespace TaskDaemon

namespace Rest

/-- **A success.** -/
def Response.IsSuccess (response : Response) : Prop :=
  200 ≤ response.status ∧ response.status < 300

instance (response : Response) : Decidable response.IsSuccess :=
  inferInstanceAs (Decidable (200 ≤ response.status ∧ response.status < 300))

/-- **An answer tells a message**: its body is an object with a message and nothing else. -/
def Response.TellsMessage (response : Response) : Prop :=
  ∃ message, response.body = (Json.object [("message", .string message)]).render

/-- **A request is routed** to what it asks for, by its path and its method. -/
inductive Request.IsRouted (request : Request) : Prop where
  /-- To the tasks. -/
  | tasks (hpath : pathOf request.target = tasksPath)
    (hmethod : request.method ∈ ["GET", "HEAD", "POST"])
  /-- To the task of an id. -/
  | task {segment : List Char} {id : String}
    (hpath : pathOf request.target = tasksPath ++ '/' :: segment) (hid : Names segment id)
    (hmethod : request.method ∈ ["PATCH", "DELETE"])

variable {request : Request}

/-! ### Answers with a message, and without -/

theorem tellsMessage_failed (status : Nat) (message : String) :
    (Response.failed status message).TellsMessage :=
  ⟨message, rfl⟩

/-- A body with a message begins with a brace. -/
theorem Response.TellsMessage.head? {response : Response} (h : response.TellsMessage) :
    response.body.toList.head? = some '\x7b' := by
  obtain ⟨message, hbody⟩ := h
  rw [hbody, Json.render, String.toList_ofList]
  rfl

/-- **A failure that says nothing.** -/
def Response.IsSilent (response : Response) : Prop :=
  ¬ response.IsSuccess ∧ ¬ response.TellsMessage

theorem isSilent_notFound : Response.notFound.IsSilent :=
  ⟨by decide, fun h => by cases h.head?⟩

theorem isSilent_notAllowed (methods : String) : (Response.notAllowed methods).IsSilent :=
  ⟨show ¬(200 ≤ 405 ∧ 405 < 300) by decide, fun h => by cases h.head?⟩

theorem isSilent_badId : badId.IsSilent :=
  ⟨by decide, fun h => by cases h.head?⟩

/-! ### How far a request gets -/

/-- **The routes that there are**, and the paths that lead to them. -/
theorem ofPath_cases (path : List Char) : Route.ofPath path = .unknown ∨
    (Route.ofPath path = .tasks ∧ path = tasksPath) ∨
      ∃ segment, Route.ofPath path = .task segment ∧ path = tasksPath ++ '/' :: segment ∧
        segment ≠ [] ∧ '/' ∉ segment := by
  by_cases htasks : path = tasksPath
  · exact Or.inr (Or.inl ⟨if_pos htasks, htasks⟩)
  by_cases hfront : path.take (tasksPath.length + 1) = tasksPath ++ ['/']
  · have hpath : path = tasksPath ++ '/' :: path.drop (tasksPath.length + 1) := by
      rw [List.append_cons, ← hfront, List.take_append_drop]
    by_cases hsegment : (path.drop (tasksPath.length + 1)).isEmpty = true ∨
        (path.drop (tasksPath.length + 1)).contains '/' = true
    · refine Or.inl ?_
      rw [Route.ofPath, if_neg htasks, if_pos hfront]
      exact if_pos hsegment
    · refine Or.inr (Or.inr ⟨_, ?_, hpath, ?_⟩)
      · rw [Route.ofPath, if_neg htasks, if_pos hfront]
        exact if_neg hsegment
      · simpa using hsegment
  · refine Or.inl ?_
    rw [Route.ofPath, if_neg htasks, if_neg hfront]

/-- **A request that is routed** asks for something, or its body is refused with a message. -/
theorem plan_of_isRouted (h : request.IsRouted) :
    (∃ operation, plan request = .ok operation) ∨
      ∃ response, plan request = .error response ∧ response.TellsMessage := by
  -- A new task and a change are read from the body, which may be refused.
  have hbody {α : Type} (s : Json.Schema α) (operation : α → Operation)
      (hplan : plan request = ((readBody s request).mapError fun fault =>
        Response.failed 400 fault.message).map operation) :
      (∃ operation, plan request = .ok operation) ∨
        ∃ response, plan request = .error response ∧ response.TellsMessage := by
    cases hread : readBody s request with
    | ok value => exact Or.inl ⟨operation value, by rw [hplan, hread]; rfl⟩
    | error fault => exact Or.inr ⟨_, by rw [hplan, hread]; rfl, tellsMessage_failed _ _⟩
  rcases h with ⟨hpath, hmethod⟩ | @⟨segment, id, hpath, hid, hmethod⟩
  · simp only [List.mem_cons, List.not_mem_nil, or_false] at hmethod
    rcases hmethod with hmethod | hmethod | hmethod
    · exact Or.inl ⟨.list, by rw [plan, hpath, ofPath_tasksPath]; exact if_pos (Or.inl hmethod)⟩
    · exact Or.inl ⟨.list, by rw [plan, hpath, ofPath_tasksPath]; exact if_pos (Or.inr hmethod)⟩
    · refine hbody TaskDraft.schema .create ?_
      rw [plan, hpath, ofPath_tasksPath, hmethod]
      rfl
  · simp only [List.mem_cons, List.not_mem_nil, or_false] at hmethod
    rcases hmethod with hmethod | hmethod
    · refine hbody PatchBody.schema (.update id) ?_
      rw [plan, hpath, hid.ofPath, hmethod]
      dsimp only
      rw [if_pos (Or.inl rfl), hid.toString?_eq]
      rfl
    · refine Or.inl ⟨.delete id, ?_⟩
      rw [plan, hpath, hid.ofPath, hmethod]
      dsimp only
      rw [if_pos (Or.inr rfl), hid.toString?_eq]
      rfl

/-- **A request that is not routed** is answered with a failure that says nothing. -/
theorem plan_of_not_isRouted (h : ¬ request.IsRouted) :
    ∃ response, plan request = .error response ∧ response.IsSilent := by
  rcases ofPath_cases (pathOf request.target) with
    hroute | ⟨hroute, hpath⟩ | ⟨segment, hroute, hpath, hempty, hslash⟩
  · exact ⟨_, by rw [plan, hroute], isSilent_notFound⟩
  · have hmethod : request.method ∉ ["GET", "HEAD", "POST"] := fun hmem => h (.tasks hpath hmem)
    simp only [List.mem_cons, List.not_mem_nil, or_false, not_or] at hmethod
    obtain ⟨hget, hhead, hpost⟩ := hmethod
    refine ⟨.notAllowed "GET,HEAD,POST", ?_, isSilent_notAllowed _⟩
    rw [plan, hroute]
    dsimp only
    rw [if_neg (not_or.mpr ⟨hget, hhead⟩), if_neg hpost]
  · by_cases hmethod : request.method = "PATCH" ∨ request.method = "DELETE"
    · -- the segment is no text, for else it would be an id
      have htext : Utf8.toString? (percentDecode segment) = none := by
        rw [Utf8.toString?]
        split
        case h_1 chars hdecode =>
          have hid : Names segment (String.ofList chars) := by
            refine ⟨hempty, hslash, ?_⟩
            rw [Utf8.ofString, String.toList_ofList]
            exact ((Utf8.decode_eq_ok_iff _ _).mp hdecode).symm
          exact absurd (.task hpath hid (by simpa using hmethod)) h
        · rfl
      refine ⟨_, ?_, isSilent_badId⟩
      rw [plan, hroute]
      dsimp only
      rw [if_pos hmethod, htext]
    · refine ⟨.notAllowed "PATCH,DELETE", ?_, isSilent_notAllowed _⟩
      rw [plan, hroute]
      dsimp only
      rw [if_neg hmethod]

/-! ### What is asked for may fail -/

/-- **The answer to an outcome** is that of a success, or tells a message. -/
theorem answer_tells {α : Type} (operation : String) {success : α → Response}
    (hsuccess : ∀ value, (success value).IsSuccess) (outcome : Outcome α) :
    ¬ (answer operation success outcome).IsSuccess →
      (answer operation success outcome).TellsMessage := by
  cases outcome with
  | ok value => exact fun h => absurd (hsuccess value) h
  | error error => exact fun _ => tellsMessage_failed _ _

/-- **What a request asks for** succeeds, or its failure tells a message. -/
theorem run_tells (operation : Operation) (backend : Backend) (now : Instant) :
    ¬ (operation.run backend now).1.IsSuccess → (operation.run backend now).1.TellsMessage := by
  have hdone (body : String) : (Response.json 200 body).IsSuccess :=
    show 200 ≤ 200 ∧ 200 < 300 by decide
  have hmade (body : String) : (Response.json 201 body).IsSuccess :=
    show 200 ≤ 201 ∧ 201 < 300 by decide
  cases operation with
  | list => exact fun h => absurd (hdone _) h
  | create draft => exact answer_tells _ (fun _ => hmade _) _
  | update id body => exact answer_tells _ (fun _ => hdone _) _
  | delete id => exact answer_tells _ (fun _ => by decide) _

theorem shape_of_ne (hmethod : request.method ≠ "HEAD") (response : Response) :
    shape request response = response :=
  if_neg hmethod

/-- **A failure tells a message** exactly if the request was routed. -/
theorem serveWithin_tells_iff (hmethod : request.method ≠ "HEAD") (pace : Pace) (backend : Backend)
    (now : Instant) :
    (¬ (serveWithin pace backend now request).1.IsSuccess →
      (serveWithin pace backend now request).1.TellsMessage) ↔ request.IsRouted := by
  constructor
  · intro htells
    by_contra hrouted
    obtain ⟨response, hplan, hfailed, hsilent⟩ := plan_of_not_isRouted hrouted
    rw [serveWithin, hplan] at htells
    dsimp only at htells
    rw [shape_of_ne hmethod] at htells
    exact hsilent (htells hfailed)
  · intro hrouted
    rw [serveWithin]
    rcases plan_of_isRouted hrouted with ⟨operation, hplan⟩ | ⟨response, hplan, htells⟩
    · rw [hplan]
      dsimp only
      split_ifs
      · rw [shape_of_ne hmethod]
        exact fun _ => tellsMessage_failed _ _
      · rw [shape_of_ne hmethod]
        exact run_tells operation backend now
    · rw [hplan]
      dsimp only
      rw [shape_of_ne hmethod]
      exact fun _ => htells

/-- A backend that takes no time leaves every request the time it needs. -/
theorem serve_eq_serveWithin (backend : Backend) (now : Instant) (request : Request) :
    serve backend now request = serveWithin ⟨0, 0⟩ backend now request := by
  rw [serve, serveWithin]
  cases plan request <;> rfl

/-- **Which failures tell a message.** For every request but one that wants no body, whatever the
store holds, whatever error changes to it fail with, and however long things take: the answer is a
success or tells a message exactly if the request is routed. When a server has worked on the
request, that is so as well; and every request that the server gives up, whether or not its body has
come, is a failure that tells a message. -/
theorem failures_tell_iff (request : Request) (hmethod : request.method ≠ "HEAD") :
    (∀ pace backend now,
      (¬ (serveWithin pace backend now request).1.IsSuccess →
        (serveWithin pace backend now request).1.TellsMessage) ↔ request.IsRouted) ∧
    (∀ service now backend (link : Link),
      link.stage = .working (.request request true) → link.lost = false →
      ∃ response, (link.finish service now backend).1.sent = link.sent ++ [.response response] ∧
        ((¬ response.IsSuccess → response.TellsMessage) ↔ request.IsRouted)) ∧
    ∀ (flags : StopFlags) (whole : Bool) (link : Link),
      link.stage = .waiting (.request request whole) → link.lost = false → flags.aborted = true →
      ∃ response, (link.look flags).sent = link.sent ++ [.response response] ∧
        ¬ response.IsSuccess ∧ response.TellsMessage := by
  refine ⟨serveWithin_tells_iff hmethod, fun service now backend link hstage hpeer => ?_,
    fun flags whole link hstage hpeer habort => ?_⟩
  · refine ⟨(serve backend now request).1, ?_, ?_⟩
    · have hready : link.ready = some (.request request true) := by
        rw [Link.ready, hstage]
        rfl
      rw [Link.finish, hready]
      show (link.reply _).sent = _
      rw [Link.reply_of_peer hpeer]
      rfl
    · rw [serve_eq_serveWithin]
      exact serveWithin_tells_iff hmethod _ _ _
  · refine ⟨.givenUp, ?_, by decide, tellsMessage_failed _ _⟩
    rw [Link.look, hstage]
    dsimp only
    rw [if_pos habort, shape_of_ne hmethod, Link.reply_of_peer hpeer]

/-- A task that does not exist is told as a message. -/
theorem failures_tell_missing :
    let request : Request := ⟨"DELETE", "/api/v1/tasks/1".toList, none, []⟩
    request.method ≠ "HEAD" ∧ (serveWithin ⟨0, 10000⟩ {} ⟨0, 0⟩ request).1.status = 404 ∧
      (serveWithin ⟨0, 10000⟩ {} ⟨0, 0⟩ request).1.TellsMessage := by
  intro request
  have hmethod : request.method ≠ "HEAD" := by decide
  have hid : Names ['1'] "1" := ⟨by decide, by decide, by decide⟩
  have hrouted : request.IsRouted := .task (by decide) hid (by decide)
  refine ⟨hmethod, by decide, ((failures_tell_iff request hmethod).1 _ _ _).mpr hrouted ?_⟩
  decide

/-- **An unknown path, a method that is not known at a path, and an id that is no text** are
answered without a message. -/
theorem unrouted_tell_nothing :
    let unknown : Request := ⟨"GET", "/api/v1/lists".toList, none, []⟩
    let misused : Request := ⟨"PUT", "/api/v1/tasks".toList, none, []⟩
    let unreadable : Request := ⟨"DELETE", "/api/v1/tasks/%ff".toList, none, []⟩
    ((serve {} ⟨0, 0⟩ unknown).1.status = 404 ∧ ¬ (serve {} ⟨0, 0⟩ unknown).1.TellsMessage) ∧
    ((serve {} ⟨0, 0⟩ misused).1.status = 405 ∧ ¬ (serve {} ⟨0, 0⟩ misused).1.TellsMessage) ∧
    ((serve {} ⟨0, 0⟩ unreadable).1.status = 400 ∧
      ¬ (serve {} ⟨0, 0⟩ unreadable).1.TellsMessage) := by
  intro unknown misused unreadable
  refine ⟨⟨by decide, fun h => ?_⟩, ⟨by decide, fun h => ?_⟩, ⟨by decide, fun h => ?_⟩⟩
  all_goals exact absurd h.head? (by decide)

end Rest

end TaskDaemon
