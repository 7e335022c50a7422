import TaskDaemon.Host.Path
import TaskDaemon.Net.Ip
import TaskDaemon.Error.Basic

/-!
# Where the daemon is reached

* `TaskDaemon.Endpoint`: a socket file or an internet address;
* `TaskDaemon.Endpoint.parse`: the endpoint of a network and an address on it;
* `TaskDaemon.Endpoint.text`: the name of an endpoint in messages.
-/

namespace TaskDaemon

/-- **Where requests to the daemon arrive.** -/
inductive Endpoint where
  /-- A socket file. -/
  | unix (path : Path)
  /-- An internet address. -/
  | tcp (address : SocketAddress)
  deriving DecidableEq, Repr

namespace Endpoint

/-- The network of an endpoint. -/
def network : Endpoint → String
  | .unix _ => "unix"
  | .tcp _ => "tcp"

/-- **The name of an endpoint.** -/
def text : Endpoint → String
  | .unix path => "unix:" ++ path.text
  | .tcp address => "tcp:" ++ address.text

/-- **The endpoint of a network and an address on it.** -/
def parse (network address : String) : Outcome Endpoint :=
  if network = "unix" then
    if address.isEmpty then .error (.configuration "socket path cannot be empty")
    else .ok (.unix (.ofString address))
  else if network = "tcp" then
    match SocketAddress.parse? address with
    | some parsed => .ok (.tcp parsed)
    | none =>
      .error (.configuration
        ("invalid TCP address '" ++ address ++ "': invalid socket address syntax"))
  else .error (.configuration ("unsupported RPC network '" ++ network ++ "'"))

end Endpoint

end TaskDaemon
