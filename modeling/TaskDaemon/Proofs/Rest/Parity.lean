import TaskDaemon.Proofs.Rest.Asking
import TaskDaemon.Proofs.Rpc.Verdict
import TaskDaemon.Proofs.Rpc.Wire

/-!
# Two ways to the same store

Requests come in over REST and over RPC, and are read by different readers. Where they ask for the
same, they do the same (`TaskDaemon.Rest.serve_like_call`): the store is the same afterwards, and
the answers say the same (`TaskDaemon.Rest.Agree`).

| outcome | REST | RPC |
|---|---|---|
| a new task | 201 and the task | the task |
| a changed task | 200 and the task | the task |
| all tasks | 200 and the tasks | the tasks, under a key |
| a removal | 204 | an empty object |
| a blank summary | 400 and a message | -32602 and the message |
| no such task | 404 and a message | -32004 and the message |

The proof goes over what is asked for (`TaskDaemon.Rpc.Demand`). For a request, that is read off its
method, its path and its body (`TaskDaemon.Rest.plan_of_asks`), for a line off its parameters. The
two name the fields of a change differently: the body of a request does not name a summary that is
null. Since such a summary stays as it is, named or not, this makes no difference
(`TaskDaemon.Rest.Serves.through_mask`).
-/

namespace TaskDaemon

namespace Rest

/-- **An answer that says what a reply says**, each in its own words. -/
inductive Agree : Rpc.Demand → Response → Except Rpc.Failure Json → Prop where
  /-- A task was made. -/
  | created (summary : String) (task : Task) :
    Agree (.create summary) (.json 201 (Task.schema.render task)) (.ok (Task.schema.toJson task))
  /-- A task was changed. -/
  | changed (params : Rpc.UpdateParams) (task : Task) :
    Agree (.update params) (.json 200 (Task.schema.render task)) (.ok (Task.schema.toJson task))
  /-- All tasks, in the same order. -/
  | listed (tasks : List Task) :
    Agree .list (.json 200 ((Json.Schema.list Task.schema).render tasks))
      (.ok (Rpc.listResult.toJson tasks))
  /-- A task was removed. -/
  | removed (id : String) : Agree (.delete id) (.bare 204) (.ok (Rpc.deleteResult.toJson ()))
  /-- What was asked for makes no sense. -/
  | refused (demand : Rpc.Demand) (message : String) :
    Agree demand (.failed 400 message) (.error { code := -32602, message := message })
  /-- The task is not there. -/
  | missing (demand : Rpc.Demand) (message : String) :
    Agree demand (.failed 404 message) (.error { code := -32004, message := message })

variable {request : Request} {demand : Rpc.Demand} {response : Response}
  {outcome : Except Rpc.Failure Json}

namespace Agree

/-- **The status is 400** exactly where the code is -32602. -/
theorem status_eq_400_iff (h : Agree demand response outcome) :
    response.status = 400 ↔ ∃ failure, outcome = .error failure ∧ failure.code = -32602 := by
  cases h <;> simp [Response.json, Response.bare, Response.failed]

/-- **The status is 404** exactly where the code is -32004. -/
theorem status_eq_404_iff (h : Agree demand response outcome) :
    response.status = 404 ↔ ∃ failure, outcome = .error failure ∧ failure.code = -32004 := by
  cases h <;> simp [Response.json, Response.bare, Response.failed]

/-- **Outcomes are answered alike**, if their results are and nothing goes wrong inside. -/
theorem of_outcome {α : Type} {result : Outcome α} {success : α → Response} {wrap : α → Rpc.Result}
    (hkind : ∀ error, result = .error error →
      error.kind = .invalidArgument ∨ error.kind = .notFound)
    (hsuccess : ∀ a, Agree demand (success a) (.ok (wrap a).toJson)) :
    Agree demand (answer demand.doing success result) (demand.told (result.map wrap)) := by
  cases result with
  | ok a => exact hsuccess a
  | error error =>
    have htold : ∀ code, error.kind.rpcCode = code →
        demand.told ((.error error : Outcome α).map wrap) =
          .error { code := code, message := (Error.context demand.doing error).text } := by
      rintro code rfl
      rfl
    have hanswer : answer demand.doing success (.error error) =
        .ofError (.context demand.doing error) := rfl
    -- Both sides tell the error in the same context, which has no kind of its own.
    have hcontext : (Error.context demand.doing error).kind = error.kind := by rw [Error.kind]
    rw [hanswer]
    unfold Response.ofError statusOf
    rw [hcontext]
    rcases hkind error rfl with h | h
    · rw [htold (-32602) (by rw [h]; rfl), h]
      exact refused demand _
    · rw [htold (-32004) (by rw [h]; rfl), h]
      exact missing demand _

end Agree

/-! ### Doing the same -/

/-- **A summary that is not given stays**, whether or not it is named. -/
theorem Serves.through_mask (body : PatchBody) {named : Bool}
    (hnamed : body.summary.isSome = true → named = true) :
    body.patch.through body.mask = body.patch.through ⟨named, body.completedAt.isSome⟩ := by
  unfold TaskPatch.through PatchBody.patch PatchBody.mask
  cases hsummary : body.summary with
  | none => simp
  | some summary =>
    rw [hsummary] at hnamed
    simp [hnamed rfl]

/-- **A demand that goes wrong** was about nothing, or made no sense. -/
theorem kind_of_serves {operation : Operation} (h : Serves operation demand)
    {snapshot : ProcessSnapshot} {store : Store} {now : Instant} {error : Error}
    (herror : (demand.perform snapshot ⟨store, none⟩ now).1 = .error error) :
    error.kind = .invalidArgument ∨ error.kind = .notFound := by
  have hreportable : demand.Reportable snapshot := by
    cases h <;> trivial
  rcases Rpc.Demand.kind_of_perform rfl herror with hkind | hkind | ⟨-, hnot⟩
  · exact Or.inl hkind
  · exact Or.inr hkind
  · exact absurd hreportable hnot

/-- **An operation does what it serves.** -/
theorem run_of_serves {operation : Operation} (h : Serves operation demand)
    (snapshot : ProcessSnapshot) (store : Store) (now : Instant) :
    (operation.run ⟨store, none⟩ now).2 = (demand.perform snapshot ⟨store, none⟩ now).2 ∧
      Agree demand (operation.run ⟨store, none⟩ now).1
        (demand.told (demand.perform snapshot ⟨store, none⟩ now).1) := by
  have hkind : ∀ {α : Type} {result : Outcome α} {wrap : α → Rpc.Result},
      (demand.perform snapshot ⟨store, none⟩ now).1 = result.map wrap → ∀ error,
        result = .error error → error.kind = .invalidArgument ∨ error.kind = .notFound := by
    rintro α _ wrap hperform error rfl
    exact kind_of_serves h hperform
  cases h with
  | list => exact ⟨rfl, .listed _⟩
  | create summary => exact ⟨rfl, .of_outcome (hkind rfl) (.created summary)⟩
  | update id body named hnamed =>
    -- The two masks differ where a summary is null; the store sees a patch through its mask only.
    have hsame : Backend.update ⟨store, none⟩ id body.patch body.mask now =
        Backend.update ⟨store, none⟩ id body.patch ⟨named, body.completedAt.isSome⟩ now := by
      unfold Backend.update Backend.change Store.update
      rw [Serves.through_mask body hnamed]
    simp only [Operation.run, hsame]
    exact ⟨rfl, .of_outcome (hkind rfl) (.changed _)⟩
  | delete id => exact ⟨rfl, .of_outcome (hkind rfl) fun _ => .removed id⟩

/-- The answer to a request that asks for something is sent as it is. -/
theorem shape_of_asks (h : Asks request demand) (response : Response) :
    shape request response = response := by
  have hmethod : request.method ≠ "HEAD" := by
    cases h with
    | list hmethod => rw [hmethod]; decide
    | create hmethod => rw [hmethod]; decide
    | update hmethod => rw [hmethod]; decide
    | delete hmethod => rw [hmethod]; decide
  exact if_neg hmethod

/-- **A request acts as the call that asks for the same**: the store is the same afterwards, and the
answer says what the reply says. -/
theorem serve_like_call (snapshot : ProcessSnapshot) (store : Store) (now : Instant)
    (hasks : Asks request demand) {line : String} (hline : Rpc.Demands line demand) :
    let answered := serve ⟨store, none⟩ now request
    let handled := Rpc.handle snapshot ⟨store, none⟩ now line
    answered.2 = handled.2 ∧ Agree demand answered.1 handled.1.outcome ∧
      (answered.1.status = 400 ↔
        ∃ failure, handled.1.outcome = .error failure ∧ failure.code = -32602) ∧
      (answered.1.status = 404 ↔
        ∃ failure, handled.1.outcome = .error failure ∧ failure.code = -32004) := by
  intro answered handled
  obtain ⟨operation, hplan, hserves⟩ := plan_of_asks hasks
  obtain ⟨called, method, hrequest, hmethod, hread⟩ := hline
  obtain ⟨hbackend, hagree⟩ := run_of_serves hserves snapshot store now
  have hanswered : answered = operation.run ⟨store, none⟩ now := by
    change serve ⟨store, none⟩ now request = _
    unfold serve
    rw [hplan]
    dsimp only
    rw [shape_of_asks hasks]
  have hhandled : handled = (⟨called.id, demand.told (demand.perform snapshot ⟨store, none⟩ now).1⟩,
      (demand.perform snapshot ⟨store, none⟩ now).2) :=
    Rpc.handle_of_demands hrequest hmethod hread snapshot _ now
  rw [hanswered, hhandled]
  exact ⟨hbackend, hagree, hagree.status_eq_400_iff, hagree.status_eq_404_iff⟩

/-- **A task is completed**, while its summary is named and left as it is. The id is written byte by
byte. -/
theorem serve_like_call_completion :
    let store : Store := ⟨[("a/b", ⟨1, .new "a/b" "tea" ⟨0, 0⟩⟩)], 1⟩
    let time : Instant := ⟨1714564800, 0⟩
    let demand : Rpc.Demand := .update ⟨"a/b", ⟨none, some time⟩, ⟨true, true⟩⟩
    let request : Request := ⟨"PATCH",
      tasksPath ++ '/' :: percentEncode (fun _ => false) "a/b".toList,
      some "application/json; charset=utf-8",
      Utf8.ofString (Json.object [("completed_at", .string time.text), ("summary", .null)]).render⟩
    let snapshot : ProcessSnapshot := ⟨4242, ⟨.loopback, 45678, 0⟩⟩
    Asks request demand ∧ Rpc.Demands (demand.line 1) demand ∧
      (serve ⟨store, none⟩ time request).2 =
        (Rpc.handle snapshot ⟨store, none⟩ time (demand.line 1)).2 ∧
      Agree demand (serve ⟨store, none⟩ time request).1
        (Rpc.handle snapshot ⟨store, none⟩ time (demand.line 1)).1.outcome ∧
      (serve ⟨store, none⟩ time request).1.status = 200 ∧
      (serve ⟨store, none⟩ time request).2.store.list =
        [⟨"a/b", "tea", ⟨0, 0⟩, some time, some time⟩] := by
  intro store time demand request snapshot
  have htold : time.IsTold := by decide
  have htime : MeansTime (.string time.text) time := ⟨time.text, rfl, Instant.parse_text htold⟩
  obtain ⟨hid, hpath⟩ := names_percentEncode (fun _ => false) (fun _ _ => rfl)
    (by decide : "a/b" ≠ "")
  have hreadable : Json.Readable Json.depthLimit
      (.object [("completed_at", .string time.text), ("summary", .null)]) :=
    ⟨trivial, trivial, trivial⟩
  have hbody : Holds request
      (.object [("completed_at", .string time.text), ("summary", .null)]) :=
    holds_render hreadable _ _ (by decide +kernel) (by decide +kernel)
  have hasks : Asks request demand :=
    .update rfl hpath hid hbody (.null rfl) (.value rfl htime)
  have hline : Rpc.Demands (demand.line 1) demand :=
    demand.demands_line (fun _ h => Option.some.inj h ▸ htold) (by decide)
  obtain ⟨hbackend, hagree, -⟩ := serve_like_call snapshot store time hasks hline
  exact ⟨hasks, hline, hbackend, hagree, by decide +kernel, by decide +kernel⟩

end Rest

end TaskDaemon
