import TaskDaemon.Net.Ip
import TaskDaemon.Task.Basic

/-!
# What a daemon tells about itself

* `TaskDaemon.ProcessSnapshot`: the process and the address its REST interface is bound to;
* `TaskDaemon.ServerStatus`: what callers are told;
* `TaskDaemon.ProcessSnapshot.report`: the status of a snapshot, if its process id is one.
-/

namespace TaskDaemon

/-- **A running process.** The id is what the platform says, whether or not it fits. -/
structure ProcessSnapshot where
  /-- The process id. -/
  pid : Int
  /-- The address of the REST interface. -/
  httpAddress : SocketAddress
  deriving DecidableEq, Repr

/-- **What callers are told about a daemon.** -/
structure ServerStatus where
  /-- The process id. -/
  pid : Nat
  /-- Where the REST interface is found. -/
  apiBaseUrl : String
  deriving DecidableEq, Repr

/-- The path below which the REST interface lies. -/
def apiBasePath : String := "/api"

/-- **Where the REST interface is found**, given its address. -/
def apiBaseUrl (address : SocketAddress) : String :=
  "http://" ++ address.text ++ apiBasePath

/-- **The status of a running process**; its id must be a number of 32 bits. -/
def ProcessSnapshot.report (snapshot : ProcessSnapshot) : Outcome ServerStatus :=
  if 0 ≤ snapshot.pid ∧ snapshot.pid < 4294967296 then
    .ok ⟨snapshot.pid.toNat, apiBaseUrl snapshot.httpAddress⟩
  else .error (.internal ("invalid server PID " ++ Decimal.intText snapshot.pid))

/-- A natural number of 32 bits. -/
def wordSchema : Json.Schema Nat :=
  .atom (.nat "u32" 4294967296)

/-- **The shape of a status.** -/
def ServerStatus.schema : Json.Schema ServerStatus :=
  .convert (fun r => ⟨r.1, r.2.1⟩) (fun s => (s.pid, s.apiBaseUrl, ()))
    (.record "ServerStatus" (.need "pid" wordSchema (.need "api_base_url" textSchema .done)))

end TaskDaemon
