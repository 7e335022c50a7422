import TaskDaemon.Proofs.Store.Run
import TaskDaemon.Rpc.Service

/-!
# What calls ask for

A method and its parameters say what is asked for, and nothing else about a line does. This file
takes the reading of a call and the doing of it apart.

* `TaskDaemon.Rpc.Demand`: what can be asked for, with `TaskDaemon.Rpc.Demand.read`, which takes it
  from a method and its parameters;
* `TaskDaemon.Rpc.Result` and `TaskDaemon.Rpc.Demand.perform`: what comes of it, by the operations
  of the backend alone;
* `TaskDaemon.Rpc.Asks` and `TaskDaemon.Rpc.Demands`: a line is a request of the protocol, and a
  line demands something;
* `TaskDaemon.Rpc.call_eq` and `TaskDaemon.Rpc.handle_of_demands`: a call is reading and then doing,
  and so is the handling of a line that demands something.

| demand | operation | done in the name of |
|---|---|---|
| status | the report of the process | `cannot get server status` |
| a new task | `TaskDaemon.Backend.create` | `cannot create task` |
| all tasks | `TaskDaemon.Backend.list` | cannot fail |
| a change | `TaskDaemon.Backend.update` | `cannot update task '..'` |
| a removal | `TaskDaemon.Backend.delete` | `cannot delete task '..'` |
-/

namespace TaskDaemon

namespace Rpc

/-- **What can be asked for.** -/
inductive Demand where
  /-- What the daemon tells about itself. -/
  | status
  /-- A new task with this summary. -/
  | create (summary : String)
  /-- All tasks. -/
  | list
  /-- A change to a task. -/
  | update (params : UpdateParams)
  /-- The removal of the task of an id. -/
  | delete (id : String)
  deriving DecidableEq, Repr

/-- **What a demand comes to** where it succeeds. -/
inductive Result where
  /-- The status of the daemon. -/
  | status (status : ServerStatus)
  /-- A task. -/
  | task (task : Task)
  /-- Some tasks. -/
  | tasks (tasks : List Task)
  /-- Nothing: something was removed. -/
  | removed
  deriving DecidableEq, Repr

/-- The JSON of a result. -/
def Result.toJson : Result → Json
  | status s => ServerStatus.schema.toJson s
  | task t => Task.schema.toJson t
  | tasks ts => listResult.toJson ts
  | removed => deleteResult.toJson ()

/-- **Parameters as they are read**: null stands for none. -/
def givenParams : Json → Json
  | .null => .object []
  | given => given

namespace Demand

/-- The method that makes a demand. -/
def method : Demand → Method
  | status => .status
  | create _ => .createTask
  | list => .listTasks
  | update _ => .updateTask
  | delete _ => .deleteTask

/-- **What a method asks for**, given its parameters, or what is wrong with these. -/
def read (method : Method) (params : Json) : Except String Demand :=
  match method with
  | .status => (statusParams.decode (givenParams params)).map fun _ => status
  | .createTask => (createParams.decode (givenParams params)).map create
  | .listTasks => (listParams.decode (givenParams params)).map fun _ => list
  | .updateTask => (UpdateParams.schema.decode (givenParams params)).map update
  | .deleteTask => (deleteParams.decode (givenParams params)).map delete

/-- What is being done where a demand fails. -/
def doing : Demand → String
  | status => "cannot get server status"
  | create _ => "cannot create task"
  | list => "cannot list tasks"
  | update params => "cannot update task '" ++ params.id ++ "'"
  | delete id => "cannot delete task '" ++ id ++ "'"

/-- **What comes of a demand** at the time `now`, and the backend afterwards. -/
def perform (snapshot : ProcessSnapshot) (backend : Backend) (now : Instant) :
    Demand → Outcome Result × Backend
  | status => (snapshot.report.map Result.status, backend)
  | create summary =>
    ((backend.create ⟨summary⟩ now).1.map Result.task, (backend.create ⟨summary⟩ now).2)
  | list => (.ok (.tasks backend.list), backend)
  | update params =>
    ((backend.update params.id params.update params.fields now).1.map Result.task,
      (backend.update params.id params.update params.fields now).2)
  | delete id => ((backend.delete id).1.map fun _ => Result.removed, (backend.delete id).2)

/-- **The outcome of a demand as a reply tells it.** -/
def told (demand : Demand) : Outcome Result → Except Failure Json
  | .ok result => .ok result.toJson
  | .error error => .error (.ofError (.context demand.doing error))

end Demand

/-! ### Calls -/

/-- **A call is reading and then doing**: parameters that do not fit are refused before anything is
done, and else the reply tells what comes of the demand. -/
theorem call_eq (snapshot : ProcessSnapshot) (backend : Backend) (now : Instant) (method : Method)
    (params : Json) :
    call snapshot backend now method params =
      match Demand.read method params with
      | .error message =>
        (.error
          { code := ErrorKind.invalidArgument.rpcCode, message := "Invalid params: " ++ message },
          backend)
      | .ok demand =>
        (demand.told (demand.perform snapshot backend now).1,
          (demand.perform snapshot backend now).2) := by
  have htake : ∀ {α : Type} (s : Json.Schema α), takeParams s params =
      (s.decode (givenParams params)).mapError fun message =>
        { code := ErrorKind.invalidArgument.rpcCode,
          message := "Invalid params: " ++ message } := by
    intro α s
    cases params <;> rfl
  have hsettle : ∀ {α : Type} (s : Json.Schema α) (wrap : α → Result) (demand : Demand)
      (outcome : Outcome α), (∀ value, (wrap value).toJson = s.toJson value) →
      settle s demand.doing outcome = demand.told (outcome.map wrap) := by
    intro α s wrap demand outcome hwrap
    cases outcome with
    | ok value => exact congrArg Except.ok (hwrap value).symm
    | error error => rfl
  cases method with
  | status =>
    simp only [call, htake, Demand.read]
    cases statusParams.decode (givenParams params) with
    | error message => rfl
    | ok value => exact Prod.ext (hsettle ServerStatus.schema .status .status _ fun _ => rfl) rfl
  | createTask =>
    simp only [call, htake, Demand.read]
    cases createParams.decode (givenParams params) with
    | error message => rfl
    | ok summary => exact Prod.ext (hsettle Task.schema .task (.create summary) _ fun _ => rfl) rfl
  | listTasks =>
    simp only [call, htake, Demand.read]
    cases listParams.decode (givenParams params) with
    | error message => rfl
    | ok value => rfl
  | updateTask =>
    simp only [call, htake, Demand.read]
    cases UpdateParams.schema.decode (givenParams params) with
    | error message => rfl
    | ok p => exact Prod.ext (hsettle Task.schema .task (.update p) _ fun _ => rfl) rfl
  | deleteTask =>
    simp only [call, htake, Demand.read]
    cases deleteParams.decode (givenParams params) with
    | error message => rfl
    | ok id =>
      exact Prod.ext (hsettle deleteResult (fun _ => .removed) (.delete id) _ fun _ => rfl) rfl

/-! ### Lines -/

/-- **A line is a request of the protocol**: JSON of that shape, and of the right version. -/
def Asks (line : String) (request : Request) : Prop :=
  ∃ value, Json.parse (Glyph.ofString line) = .ok value ∧
    Request.schema.decode value.canonical = .ok request ∧ request.version = version

/-- **A line demands something**: it is a request whose method exists and whose parameters say
so. -/
def Demands (line : String) (demand : Demand) : Prop :=
  ∃ request method, Asks line request ∧ method.name = request.method ∧
    Demand.read method request.params = .ok demand

namespace Method

theorem name_injective {method other : Method} (h : method.name = other.name) : method = other := by
  revert h
  cases method <;> cases other <;> decide

theorem mem_all (method : Method) : method ∈ all := by
  cases method <;> decide

/-- **The method of a name** is the one that has it. -/
theorem ofName?_name (method : Method) : ofName? method.name = some method := by
  cases method <;> decide

theorem ofName?_eq_none_iff {name : String} :
    ofName? name = none ↔ ∀ method : Method, method.name ≠ name := by
  unfold ofName?
  rw [List.find?_eq_none]
  constructor
  · intro h method
    simpa using h method method.mem_all
  · intro h method _
    simpa using h method

end Method

section Handle

variable {line : String} {request : Request}

/-- **The handling of a request** is the call of its method. -/
theorem handle_of_asks (h : Asks line request) (snapshot : ProcessSnapshot) (backend : Backend)
    (now : Instant) :
    handle snapshot backend now line =
      (⟨request.id, (dispatch snapshot backend now request.method request.params).1⟩,
        (dispatch snapshot backend now request.method request.params).2) := by
  obtain ⟨value, hparse, hdecode, hversion⟩ := h
  unfold handle
  simp only [hparse]
  unfold handleValue
  simp only [hdecode]
  rw [if_neg (not_not.mpr hversion)]

/-- **The handling of a demand**: it is done, and the reply tells what came of it. -/
theorem handle_of_demands {method : Method} {demand : Demand} (hasks : Asks line request)
    (hmethod : method.name = request.method)
    (hread : Demand.read method request.params = .ok demand) (snapshot : ProcessSnapshot)
    (backend : Backend) (now : Instant) :
    handle snapshot backend now line =
      (⟨request.id, demand.told (demand.perform snapshot backend now).1⟩,
        (demand.perform snapshot backend now).2) := by
  have hcall : dispatch snapshot backend now request.method request.params =
      (demand.told (demand.perform snapshot backend now).1,
        (demand.perform snapshot backend now).2) := by
    unfold dispatch
    rw [← hmethod, Method.ofName?_name]
    simp only [call_eq, hread]
  rw [handle_of_asks hasks, hcall]

end Handle

end Rpc

end TaskDaemon
