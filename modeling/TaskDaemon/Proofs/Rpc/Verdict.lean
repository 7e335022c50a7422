import TaskDaemon.Proofs.Json.Text
import TaskDaemon.Proofs.Rpc.Demand

/-!
# Which check a line fails

Every line gets one reply, and its error code is that of the first check that the line fails. Each
check is said on its own here, by what lets a line pass (`TaskDaemon.Rpc.Check.Passes`); nothing in
that speaks of the order in which the service looks at things.

| check | code | passed by |
|---|---|---|
| `json` | -32700 | what the JSON reader accepts |
| `request` | -32600 | a request of version 2.0 |
| `method` | -32601 | a request whose method exists |
| `params` | -32602 | a demand without a blank summary, where there is a task to get it |
| `presence` | -32004 | a demand whose task is there |
| `process` | -32603 | a demand that does not ask for a process id that is none |

The main result is `TaskDaemon.Rpc.handle_verdict`. What it says about stores comes from
`TaskDaemon.Rpc.Demand.perform_verdict`: a demand fails in one of three ways, and each leaves the
store as it is.
-/

namespace TaskDaemon

namespace Rpc

/-! ### What a demand can fail -/

namespace Demand

/-- **No blank summary**, where there is a task to get it. -/
def Sound (store : Store) : Demand → Prop
  | create summary => ¬IsBlankText summary.toList
  | update params => store.get? params.id ≠ none → params.update.blanks params.fields = false
  | _ => True

/-- **The task is there** that is to be changed or removed. -/
def Present (store : Store) : Demand → Prop
  | update params => store.get? params.id ≠ none
  | delete id => store.get? id ≠ none
  | _ => True

/-- **The process id is one**, where it is asked for: a number of 32 bits. -/
def Reportable (snapshot : ProcessSnapshot) : Demand → Prop
  | status => 0 ≤ snapshot.pid ∧ snapshot.pid < 4294967296
  | _ => True

/-- A demand fails with an error of this kind, and the store stays as it is. -/
def FailsAs (snapshot : ProcessSnapshot) (store : Store) (now : Instant) (demand : Demand)
    (kind : ErrorKind) : Prop :=
  ∃ error, demand.perform snapshot ⟨store, none⟩ now = (.error error, ⟨store, none⟩) ∧
    error.kind = kind

/-- **A demand fails in one of three ways, or it succeeds**; the first way that applies is taken. -/
theorem perform_verdict (snapshot : ProcessSnapshot) (store : Store) (now : Instant)
    (demand : Demand) :
    (¬demand.Sound store ∧ demand.FailsAs snapshot store now .invalidArgument) ∨
      (demand.Sound store ∧ ¬demand.Present store ∧ demand.FailsAs snapshot store now .notFound) ∨
      (demand.Sound store ∧ demand.Present store ∧ ¬demand.Reportable snapshot ∧
        demand.FailsAs snapshot store now .internal) ∨
      (demand.Sound store ∧ demand.Present store ∧ demand.Reportable snapshot ∧
        ∃ result, (demand.perform snapshot ⟨store, none⟩ now).1 = .ok result) := by
  cases demand with
  | status =>
    refine Or.inr (Or.inr ?_)
    by_cases hpid : 0 ≤ snapshot.pid ∧ snapshot.pid < 4294967296
    · refine Or.inr ⟨trivial, trivial, hpid, ?_⟩
      simp only [perform, ProcessSnapshot.report, if_pos hpid]
      exact ⟨_, rfl⟩
    · refine Or.inl ⟨trivial, trivial, hpid,
        .internal ("invalid server PID " ++ Decimal.intText snapshot.pid), ?_, rfl⟩
      simp only [perform, ProcessSnapshot.report, if_neg hpid]
      rfl
  | create summary =>
    have hcreate : (Backend.mk store none).create ⟨summary⟩ now =
        ((store.create ⟨summary⟩ now).1, ⟨(store.create ⟨summary⟩ now).2, none⟩) := rfl
    by_cases hblank : IsBlankText summary.toList
    · refine Or.inl ⟨not_not.mpr hblank, blankSummary, ?_, rfl⟩
      simp only [perform, hcreate, Store.create_eq, if_pos hblank]
      rfl
    · refine Or.inr (Or.inr (Or.inr ⟨hblank, trivial, trivial, ?_⟩))
      simp only [perform, hcreate, Store.create_eq, if_neg hblank]
      exact ⟨_, rfl⟩
  | list => exact Or.inr (Or.inr (Or.inr ⟨trivial, trivial, trivial, _, rfl⟩))
  | update params =>
    have hupdate : (Backend.mk store none).update params.id params.update params.fields now =
        ((store.update params.id params.update params.fields now).1,
          ⟨(store.update params.id params.update params.fields now).2, none⟩) := rfl
    cases hfound : store.get? params.id with
    | none =>
      refine Or.inr (Or.inl ⟨fun h => absurd hfound h, not_not.mpr hfound,
        .taskNotFound params.id, ?_, rfl⟩)
      simp only [perform, hupdate, Store.update_of_none hfound]
      rfl
    | some row =>
      have hthere : store.get? params.id ≠ none := by
        rw [hfound]
        exact Option.some_ne_none row
      cases hfit : params.update.blanks params.fields with
      | true =>
        refine Or.inl ⟨fun h => absurd (hfit.symm.trans (h hthere)) (by decide), blankSummary, ?_,
          rfl⟩
        simp only [perform, hupdate, Store.update_of_some hfound, hfit]
        rfl
      | false =>
        refine Or.inr (Or.inr (Or.inr ⟨fun _ => hfit, hthere, trivial, ?_⟩))
        simp only [perform, hupdate, Store.update_of_some hfound, hfit]
        exact ⟨_, rfl⟩
  | delete id =>
    have hdelete : (Backend.mk store none).delete id =
        ((store.delete id).1, ⟨(store.delete id).2, none⟩) := rfl
    cases hfound : store.get? id with
    | none =>
      refine Or.inr (Or.inl ⟨trivial, not_not.mpr hfound, .taskNotFound id, ?_, rfl⟩)
      simp only [perform, hdelete, Store.delete_of_none hfound]
      rfl
    | some row =>
      have hthere : store.get? id ≠ none := by
        rw [hfound]
        exact Option.some_ne_none row
      refine Or.inr (Or.inr (Or.inr ⟨trivial, hthere, trivial, ?_⟩))
      simp only [perform, hdelete, Store.delete_of_some hfound]
      exact ⟨_, rfl⟩

/-- **The kind of an error that a demand ends with.** It is internal only for a process id that is
none. -/
theorem kind_of_perform {snapshot : ProcessSnapshot} {backend : Backend}
    (hbackend : backend.failure = none) {now : Instant} {demand : Demand} {error : Error}
    (h : (demand.perform snapshot backend now).1 = .error error) :
    error.kind = .invalidArgument ∨ error.kind = .notFound ∨
      (error.kind = .internal ∧ ¬demand.Reportable snapshot) := by
  obtain ⟨store, failure⟩ := backend
  obtain rfl : failure = none := hbackend
  have hfails : ∀ kind, demand.FailsAs snapshot store now kind → error.kind = kind := by
    rintro kind ⟨other, hperform, hkind⟩
    rw [hperform] at h
    obtain rfl := Except.error.inj h
    exact hkind
  rcases demand.perform_verdict snapshot store now with ⟨-, hkind⟩ | ⟨-, -, hkind⟩ |
    ⟨-, -, hreportable, hkind⟩ | ⟨-, -, -, result, hresult⟩
  · exact Or.inl (hfails _ hkind)
  · exact Or.inr (Or.inl (hfails _ hkind))
  · exact Or.inr (Or.inr ⟨hfails _ hkind, hreportable⟩)
  · rw [hresult] at h
    cases h

end Demand

/-! ### The checks -/

/-- **What is checked about a line**, in order. -/
inductive Check where
  /-- It is JSON. -/
  | json
  /-- It is a request of the protocol. -/
  | request
  /-- Its method exists. -/
  | method
  /-- Its parameters say what is asked for, and that is no blank summary. -/
  | params
  /-- What it is about is there. -/
  | presence
  /-- The process can be told about. -/
  | process
  deriving DecidableEq, Repr

namespace Check

/-- **The error code of a line that fails a check.** -/
def code : Check → Int
  | json => -32700
  | request => -32600
  | method => -32601
  | params => -32602
  | presence => -32004
  | process => -32603

/-- The place of a check in the order. -/
def place : Check → Nat
  | json => 0
  | request => 1
  | method => 2
  | params => 3
  | presence => 4
  | process => 5

/-- All checks, in order. -/
def all : List Check := [json, request, method, params, presence, process]

/-- **A line passes a check.** -/
def Passes (snapshot : ProcessSnapshot) (store : Store) (line : String) : Check → Prop
  | json => ∃ value, Json.parse (Glyph.ofString line) = .ok value
  | request => ∃ request, Asks line request
  | method => ∃ request, ∃ method : Method, Asks line request ∧ method.name = request.method
  | params => ∃ demand, Demands line demand ∧ demand.Sound store
  | presence => ∃ demand, Demands line demand ∧ demand.Present store
  | process => ∃ demand, Demands line demand ∧ demand.Reportable snapshot

/-- **The first check that a line fails.** -/
def IsFirst (snapshot : ProcessSnapshot) (store : Store) (line : String) (check : Check) : Prop :=
  ¬check.Passes snapshot store line ∧
    ∀ earlier : Check, earlier.place < check.place → earlier.Passes snapshot store line

variable {snapshot : ProcessSnapshot} {store : Store} {line : String}

/-- No line fails two checks first. -/
theorem IsFirst.unique {check other : Check} (h : check.IsFirst snapshot store line)
    (hother : other.IsFirst snapshot store line) : check = other := by
  have hplace : check.place = other.place := by
    rcases Nat.lt_trichotomy check.place other.place with hlt | heq | hgt
    · exact absurd (hother.2 check hlt) h.1
    · exact heq
    · exact absurd (h.2 other hgt) hother.1
  revert hplace
  cases check <;> cases other <;> decide

theorem code_injective {check other : Check} (h : check.code = other.code) : check = other := by
  revert h
  cases check <;> cases other <;> decide

end Check

/-! ### What a line asks for is one thing -/

theorem Asks.unique {line : String} {request other : Request} (h : Asks line request)
    (hother : Asks line other) : request = other := by
  obtain ⟨value, hparse, hdecode, -⟩ := h
  obtain ⟨value', hparse', hdecode', -⟩ := hother
  obtain rfl : value = value' := Except.ok.inj (hparse.symm.trans hparse')
  exact Except.ok.inj (hdecode.symm.trans hdecode')

theorem Demands.unique {line : String} {demand other : Demand} (h : Demands line demand)
    (hother : Demands line other) : demand = other := by
  obtain ⟨request, method, hasks, hmethod, hread⟩ := h
  obtain ⟨request', method', hasks', hmethod', hread'⟩ := hother
  obtain rfl := hasks.unique hasks'
  obtain rfl : method = method' := Method.name_injective (hmethod.trans hmethod'.symm)
  exact Except.ok.inj (hread.symm.trans hread')

/-! ### The verdict -/

/-- **A response object**: the version, an id, and a result or an error, its keys in order. -/
theorem Reply.toJson_eq (reply : Reply) :
    reply.toJson = .object
      (match reply.outcome with
        | .ok result =>
          [("id", reply.id.canonical), ("jsonrpc", .string "2.0"), ("result", result.canonical)]
        | .error failure =>
          [("error",
              .object [("code", Json.int failure.code), ("message", .string failure.message)]),
            ("id", reply.id.canonical), ("jsonrpc", .string "2.0")]) := by
  have h₁ : ¬"id" < "error" := by decide
  have h₂ : "error" < "jsonrpc" := by decide
  have h₃ : "id" < "jsonrpc" := by decide
  have h₄ : "id" < "result" := by decide
  have h₅ : ¬"result" < "jsonrpc" := by decide
  have h₆ : ¬"message" < "code" := by decide
  obtain ⟨id, outcome⟩ := reply
  cases outcome with
  | ok result =>
    simp only [Reply.toJson, Json.canonical, Json.canonicalMembers, Json.insertMember, h₃, h₄, h₅,
      version, if_true, if_false, String.reduceEq]
  | error failure =>
    simp only [Reply.toJson, Json.canonical, Json.canonicalMembers, Json.insertMember, Json.int, h₁,
      h₂, h₃, h₆, version, if_true, if_false, String.reduceEq]

section Refusals

variable {line : String} {request : Request} (snapshot : ProcessSnapshot) (backend : Backend)
  (now : Instant)

/-- **What is not JSON** is refused as such. -/
theorem handle_of_no_json (h : ¬∃ value, Json.parse (Glyph.ofString line) = .ok value) :
    ∃ id message, handle snapshot backend now line =
      (.failed id Check.json.code message, backend) := by
  cases hparse : Json.parse (Glyph.ofString line) with
  | ok value => exact absurd ⟨value, hparse⟩ h
  | error fault =>
    refine ⟨.null, "Parse error: " ++ fault.message (Glyph.ofString line), ?_⟩
    unfold handle
    simp only [hparse]
    rfl

/-- **JSON that is no request**, or one of another version, is refused as such. -/
theorem handle_of_no_request {value : Json} (hparse : Json.parse (Glyph.ofString line) = .ok value)
    (h : ¬∃ request, Asks line request) :
    ∃ id message, handle snapshot backend now line =
      (.failed id Check.request.code message, backend) := by
  refine ⟨(value.canonical.member? "id").getD .null, ?_⟩
  unfold handle
  simp only [hparse]
  unfold handleValue
  cases hdecode : Request.schema.decode value.canonical with
  | error message => exact ⟨"Invalid request: " ++ message, rfl⟩
  | ok request =>
    have hversion : request.version ≠ version := fun heq => h ⟨request, value, hparse, hdecode, heq⟩
    refine ⟨"Unsupported JSON-RPC version '" ++ request.version ++ "'", ?_⟩
    dsimp only
    rw [if_pos hversion]
    rfl

/-- **A request of an unknown method** is refused as such. -/
theorem handle_of_no_method (hasks : Asks line request)
    (h : ∀ method : Method, method.name ≠ request.method) :
    ∃ id message, handle snapshot backend now line =
      (.failed id Check.method.code message, backend) := by
  refine ⟨request.id, "Method not found: " ++ request.method, ?_⟩
  rw [handle_of_asks hasks]
  unfold dispatch
  rw [Method.ofName?_eq_none_iff.mpr h]
  rfl

/-- **A call whose parameters do not fit** is refused as such. -/
theorem handle_of_no_demand {method : Method} {refusal : String} (hasks : Asks line request)
    (hmethod : method.name = request.method)
    (h : Demand.read method request.params = .error refusal) :
    ∃ id message, handle snapshot backend now line =
      (.failed id Check.params.code message, backend) := by
  refine ⟨request.id, "Invalid params: " ++ refusal, ?_⟩
  rw [handle_of_asks hasks]
  unfold dispatch
  rw [← hmethod, Method.ofName?_name]
  dsimp only
  rw [call_eq, h]
  rfl

/-- **A demand that fails** is told by the code of its error, whatever was being done. -/
theorem handle_of_failure {method : Method} {demand : Demand} {store : Store} {check : Check}
    {kind : ErrorKind} (hasks : Asks line request) (hmethod : method.name = request.method)
    (hread : Demand.read method request.params = .ok demand)
    (h : demand.FailsAs snapshot store now kind) (hcode : kind.rpcCode = check.code) :
    ∃ id message, handle snapshot ⟨store, none⟩ now line =
      (.failed id check.code message, ⟨store, none⟩) := by
  obtain ⟨error, hperform, hkind⟩ := h
  have hcontext : (Error.context demand.doing error).kind.rpcCode = check.code := by
    rw [← hcode, ← hkind]
    rfl
  refine ⟨request.id, (Error.context demand.doing error).text, ?_⟩
  rw [handle_of_demands hasks hmethod hread, hperform]
  simp only [Demand.told, Failure.ofError, hcontext]
  rfl

end Refusals

namespace Check

variable {snapshot : ProcessSnapshot} {store : Store} {line : String}

/-- The first check to fail is found by going through them in order. -/
theorem isFirst_of_passes {check : Check} (hfails : ¬check.Passes snapshot store line)
    (h : ∀ earlier ∈ all.take check.place, earlier.Passes snapshot store line) :
    check.IsFirst snapshot store line := by
  refine ⟨hfails, fun earlier hlt => h earlier ?_⟩
  revert hlt
  cases check <;> cases earlier <;> decide

end Check

/-- **What can become of a line.** -/
inductive Settled (snapshot : ProcessSnapshot) (store : Store) (now : Instant) (line : String) :
    Prop where
  /-- It fails a check: the reply has the check's code, and nothing is done. -/
  | refused (check : Check) (id : Json) (message : String)
    (hfirst : check.IsFirst snapshot store line)
    (hhandle : handle snapshot ⟨store, none⟩ now line =
      (.failed id check.code message, ⟨store, none⟩))
  /-- It passes them all: what it demands is done. -/
  | done (demand : Demand) (id : Json) (result : Result) (hdemands : Demands line demand)
    (hpasses : ∀ check : Check, check.Passes snapshot store line)
    (hresult : (demand.perform snapshot ⟨store, none⟩ now).1 = .ok result)
    (hhandle : handle snapshot ⟨store, none⟩ now line =
      (⟨id, .ok result.toJson⟩, (demand.perform snapshot ⟨store, none⟩ now).2))

namespace Settled

variable {snapshot : ProcessSnapshot} {store : Store} {now : Instant} {line : String}

/-- A line that passes the checks up to one that it fails is refused for that one. -/
theorem of_fails {check : Check} (hfails : ¬check.Passes snapshot store line)
    (hearlier : ∀ earlier ∈ Check.all.take check.place, earlier.Passes snapshot store line)
    (hhandle : ∃ id message, handle snapshot ⟨store, none⟩ now line =
      (.failed id check.code message, ⟨store, none⟩)) : Settled snapshot store now line := by
  obtain ⟨id, message, hhandle⟩ := hhandle
  exact refused check id message (Check.isFirst_of_passes hfails hearlier) hhandle

/-- **A line that demands something** has passed three checks; the others are about the demand. -/
theorem of_demand {request : Request} {method : Method} {demand : Demand}
    (hasks : Asks line request) (hname : method.name = request.method)
    (hread : Demand.read method request.params = .ok demand) :
    Settled snapshot store now line := by
  have hdemands : Demands line demand := ⟨request, method, hasks, hname, hread⟩
  have hjson : Check.json.Passes snapshot store line := ⟨_, hasks.choose_spec.1⟩
  have hrequest : Check.request.Passes snapshot store line := ⟨request, hasks⟩
  have hmethod : Check.method.Passes snapshot store line := ⟨request, method, hasks, hname⟩
  -- The line demands one thing only, so that a check about the demand can fail in one way only.
  have hone : ∀ {fits : Demand → Prop}, ¬fits demand →
      ¬∃ other, Demands line other ∧ fits other := by
    rintro fits hnot ⟨other, hother, hfits⟩
    exact hnot (hdemands.unique hother ▸ hfits)
  rcases demand.perform_verdict snapshot store now with ⟨hsound, hfails⟩ |
    ⟨hsound, hpresent, hfails⟩ | ⟨hsound, hpresent, hreportable, hfails⟩ |
    ⟨hsound, hpresent, hreportable, result, hresult⟩
  · have hparams : ¬Check.params.Passes snapshot store line := hone hsound
    exact of_fails hparams (by simpa [Check.place, Check.all] using ⟨hjson, hrequest, hmethod⟩)
      (handle_of_failure snapshot now hasks hname hread hfails rfl)
  · have hpresence : ¬Check.presence.Passes snapshot store line := hone hpresent
    exact of_fails hpresence
      (by simpa [Check.place, Check.all] using
        ⟨hjson, hrequest, hmethod, demand, hdemands, hsound⟩)
      (handle_of_failure snapshot now hasks hname hread hfails rfl)
  · have hprocess : ¬Check.process.Passes snapshot store line := hone hreportable
    exact of_fails hprocess
      (by simpa [Check.place, Check.all] using
        ⟨hjson, hrequest, hmethod, ⟨demand, hdemands, hsound⟩, demand, hdemands, hpresent⟩)
      (handle_of_failure snapshot now hasks hname hread hfails rfl)
  · refine done demand request.id result hdemands ?_ hresult ?_
    · intro check
      cases check with
      | json => exact hjson
      | request => exact hrequest
      | method => exact hmethod
      | params => exact ⟨demand, hdemands, hsound⟩
      | presence => exact ⟨demand, hdemands, hpresent⟩
      | process => exact ⟨demand, hdemands, hreportable⟩
    · rw [handle_of_demands hasks hname hread, hresult]
      rfl

end Settled

/-- **What the operations of the store do for a demand**: what comes of it, and the store that they
leave. -/
def Demand.onStore (snapshot : ProcessSnapshot) (store : Store) (now : Instant) :
    Demand → Outcome Result × Store
  | status => (snapshot.report.map .status, store)
  | create summary => Prod.map (Except.map .task) id (store.create ⟨summary⟩ now)
  | list => (.ok (.tasks store.list), store)
  | update params =>
    Prod.map (Except.map .task) id (store.update params.id params.update params.fields now)
  | delete key => Prod.map (Except.map fun _ => .removed) id (store.delete key)

/-- **A backend in order does what its store does.** -/
theorem Demand.perform_eq_onStore (snapshot : ProcessSnapshot) (store : Store) (now : Instant)
    (demand : Demand) : demand.perform snapshot ⟨store, none⟩ now =
      Prod.map id (Backend.mk · none) (demand.onStore snapshot store now) := by
  cases demand <;> rfl

/-- **A line fails a check, or something is done.** -/
theorem handle_settled (snapshot : ProcessSnapshot) (store : Store) (now : Instant)
    (line : String) :
    Settled snapshot store now line := by
  by_cases hjson : Check.json.Passes snapshot store line
  swap
  · exact .of_fails hjson (by simp [Check.place])
      (handle_of_no_json snapshot ⟨store, none⟩ now hjson)
  by_cases hrequest : Check.request.Passes snapshot store line
  swap
  · obtain ⟨value, hparse⟩ := hjson
    exact .of_fails hrequest (by simpa [Check.place, Check.all] using ⟨value, hparse⟩)
      (handle_of_no_request snapshot ⟨store, none⟩ now hparse hrequest)
  obtain ⟨request, hasks⟩ := id hrequest
  by_cases hknown : ∃ method : Method, method.name = request.method
  swap
  · have hmethod : ¬Check.method.Passes snapshot store line := by
      rintro ⟨other, method, hother, hname⟩
      obtain rfl := hasks.unique hother
      exact hknown ⟨method, hname⟩
    exact .of_fails hmethod (by simpa [Check.place, Check.all] using ⟨hjson, hrequest⟩)
      (handle_of_no_method snapshot ⟨store, none⟩ now hasks fun method hname =>
        hknown ⟨method, hname⟩)
  obtain ⟨method, hname⟩ := hknown
  cases hread : Demand.read method request.params with
  | ok demand => exact .of_demand hasks hname hread
  | error refusal =>
    have hmethod : Check.method.Passes snapshot store line := ⟨request, method, hasks, hname⟩
    have hparams : ¬Check.params.Passes snapshot store line := by
      rintro ⟨demand, ⟨other, method', hother, hname', hread'⟩, -⟩
      obtain rfl := hasks.unique hother
      obtain rfl : method = method' := Method.name_injective (hname.trans hname'.symm)
      exact absurd (hread.symm.trans hread') (by simp)
    exact .of_fails hparams
      (by simpa [Check.place, Check.all] using ⟨hjson, hrequest, hmethod⟩)
      (handle_of_no_demand snapshot ⟨store, none⟩ now hasks hname hread)

/-- **The verdict on a line.** For every line, store and process there is one reply: an object of
the version, an id, and a result or an error, never both. Its error has the code of a check exactly
if that check is the first that the line fails; there is no other error, and an error leaves
everything as it is. A result is that of the operation of the store which the line demands, and the
store is the one this operation leaves. -/
theorem handle_verdict (snapshot : ProcessSnapshot) (store : Store) (now : Instant)
    (line : String) :
    (∃ id,
      (∃ result, (handle snapshot ⟨store, none⟩ now line).1.toJson =
        .object [("id", id), ("jsonrpc", .string "2.0"), ("result", result)]) ∨
      ∃ code message, (handle snapshot ⟨store, none⟩ now line).1.toJson =
        .object [("error", .object [("code", Json.int code), ("message", .string message)]),
          ("id", id), ("jsonrpc", .string "2.0")]) ∧
    (∀ check : Check,
      (∃ failure, (handle snapshot ⟨store, none⟩ now line).1.outcome = .error failure ∧
        failure.code = check.code) ↔ check.IsFirst snapshot store line) ∧
    (∀ failure, (handle snapshot ⟨store, none⟩ now line).1.outcome = .error failure →
      (∃ check : Check, failure.code = check.code) ∧
        (handle snapshot ⟨store, none⟩ now line).2 = ⟨store, none⟩) ∧
    ∀ result, (handle snapshot ⟨store, none⟩ now line).1.outcome = .ok result →
      ∃ demand value, Demands line demand ∧
        (demand.onStore snapshot store now).1 = .ok value ∧ result = value.toJson ∧
        (handle snapshot ⟨store, none⟩ now line).2 =
          ⟨(demand.onStore snapshot store now).2, none⟩ := by
  refine ⟨?_, ?_⟩
  · rw [Reply.toJson_eq]
    refine ⟨(handle snapshot ⟨store, none⟩ now line).1.id.canonical, ?_⟩
    cases (handle snapshot ⟨store, none⟩ now line).1.outcome with
    | ok result => exact Or.inl ⟨result.canonical, rfl⟩
    | error failure => exact Or.inr ⟨failure.code, failure.message, rfl⟩
  rcases handle_settled snapshot store now line with ⟨check, id, message, hfirst, hhandle⟩ |
    ⟨demand, id, result, hdemands, hpasses, hresult, hhandle⟩
  · rw [hhandle]
    refine ⟨fun other => ⟨?_, ?_⟩, ?_, ?_⟩
    · rintro ⟨failure, hfailure, hcode⟩
      obtain rfl := Except.error.inj hfailure
      obtain rfl := Check.code_injective hcode
      exact hfirst
    · intro hother
      obtain rfl := hfirst.unique hother
      exact ⟨_, rfl, rfl⟩
    · intro failure hfailure
      obtain rfl := Except.error.inj hfailure
      exact ⟨⟨check, rfl⟩, rfl⟩
    · intro other hother
      cases hother
  · rw [hhandle]
    refine ⟨fun check => ⟨?_, ?_⟩, ?_, ?_⟩
    · rintro ⟨failure, hfailure, -⟩
      cases hfailure
    · intro hfirst
      exact absurd (hpasses check) hfirst.1
    · intro failure hfailure
      cases hfailure
    · intro other hother
      obtain rfl := Except.ok.inj hother
      rw [demand.perform_eq_onStore] at hresult ⊢
      exact ⟨demand, result, hdemands, hresult, rfl, rfl⟩

/-- One line makes a task, and another asks for the removal of a task that is not there. -/
theorem handle_verdict_made :
    let snapshot : ProcessSnapshot := ⟨4242, ⟨.loopback, 45678, 0⟩⟩
    let line (method : String) (param : String × Json) : String := Json.render (.object
      [("jsonrpc", .string "2.0"), ("method", .string method), ("params", .object [param]),
        ("id", .string "a")])
    let made := line "tasks/create" ("summary", .string "tea")
    let missed := line "tasks/delete" ("id", .string "7")
    ((handle snapshot ⟨.empty, none⟩ ⟨5, 0⟩ made).1.outcome.toOption =
        some (Task.schema.toJson (.new "1" "tea" ⟨5, 0⟩)) ∧
      (handle snapshot ⟨.empty, none⟩ ⟨5, 0⟩ made).2 =
        ⟨(Store.empty.create ⟨"tea"⟩ ⟨5, 0⟩).2, none⟩) ∧
      Check.presence.IsFirst snapshot .empty missed ∧
      ∃ failure, (handle snapshot ⟨.empty, none⟩ ⟨5, 0⟩ missed).1.outcome = .error failure ∧
        failure.code = -32004 := by
  intro snapshot line made missed
  have hmade : Demands made (.create "tea") := by
    refine ⟨⟨"2.0", "tasks/create", .object [("summary", .string "tea")], .string "a"⟩, .createTask,
      ⟨_, Json.parse_render ?_, rfl, rfl⟩, rfl, rfl⟩
    exact ⟨trivial, trivial, ⟨trivial, trivial⟩, trivial, trivial⟩
  have hmissed : Demands missed (.delete "7") := by
    refine ⟨⟨"2.0", "tasks/delete", .object [("id", .string "7")], .string "a"⟩, .deleteTask,
      ⟨_, Json.parse_render ?_, rfl, rfl⟩, rfl, rfl⟩
    exact ⟨trivial, trivial, ⟨trivial, trivial⟩, trivial, trivial⟩
  have hfirst : Check.presence.IsFirst snapshot .empty missed := by
    obtain ⟨request, method, hasks, hmethod, -⟩ := id hmissed
    refine ⟨?_, fun earlier hearlier => ?_⟩
    · rintro ⟨demand, hdemands, hpresent⟩
      obtain rfl := hmissed.unique hdemands
      exact hpresent rfl
    · cases earlier with
      | json =>
        obtain ⟨value, hparse, -⟩ := hasks
        exact ⟨value, hparse⟩
      | request => exact ⟨request, hasks⟩
      | method => exact ⟨request, method, hasks, hmethod⟩
      | params => exact ⟨_, hmissed, trivial⟩
      | presence | process => exact absurd hearlier (by decide)
  obtain ⟨-, -, -, hresult⟩ := handle_verdict snapshot .empty ⟨5, 0⟩ made
  obtain ⟨-, hcodes, -, -⟩ := handle_verdict snapshot .empty ⟨5, 0⟩ missed
  refine ⟨?_, hfirst, (hcodes .presence).mpr hfirst⟩
  obtain ⟨request, method, hasks, hmethod, hread⟩ := id hmade
  have houtcome : (handle snapshot ⟨.empty, none⟩ ⟨5, 0⟩ made).1.outcome =
      .ok (Task.schema.toJson (.new "1" "tea" ⟨5, 0⟩)) := by
    have hone : Decimal.text 1 = "1" := by
      rw [Decimal.text, Decimal.chars, Decimal.digits]
      rfl
    have hcreate : (Store.empty.create ⟨"tea"⟩ ⟨5, 0⟩).1 = .ok (.new "1" "tea" ⟨5, 0⟩) := by
      rw [Store.create_eq, if_neg (by decide), ← hone]
      rfl
    rw [handle_of_demands hasks hmethod hread, Demand.perform_eq_onStore]
    show (Demand.create "tea").told ((Store.empty.create ⟨"tea"⟩ ⟨5, 0⟩).1.map Result.task) = _
    rw [hcreate]
    rfl
  obtain ⟨demand, value, hdemands, -, -, hstore⟩ := hresult _ houtcome
  obtain rfl := hmade.unique hdemands
  exact ⟨congrArg Except.toOption houtcome, hstore⟩

end Rpc

end TaskDaemon
