import TaskDaemon.Daemon.Config
import TaskDaemon.Host.Socket
import TaskDaemon.Net.Endpoint
import TaskDaemon.Net.Network

/-!
# Listeners of a daemon

A daemon listens at two places: at an endpoint for RPC calls, and at an internet address for REST
requests. It listens at both or at none.

* `TaskDaemon.Listener`: a listener for RPC calls, `TaskDaemon.Host.listen` and
  `TaskDaemon.Host.unlisten`;
* `TaskDaemon.Listeners` and `TaskDaemon.Host.listenAll`: both listeners of a daemon.
-/

namespace TaskDaemon

/-- **A listener for RPC calls.** -/
inductive Listener where
  /-- On a local socket, with the number of the listener. -/
  | unix (path : Path) (number : Nat)
  /-- On an internet address. -/
  | tcp (address : SocketAddress)
  deriving DecidableEq, Repr

/-- The endpoint that a listener is bound to. -/
def Listener.endpoint : Listener → Endpoint
  | .unix path _ => .unix path
  | .tcp address => .tcp address

/-- **Both listeners of a daemon.** -/
structure Listeners where
  /-- The one for RPC calls. -/
  rpc : Listener
  /-- The address of the one for REST requests. -/
  http : SocketAddress
  deriving DecidableEq, Repr

namespace Host

/-- The error of an endpoint that cannot be listened at. -/
def cannotListen (endpoint : String) (fault : SystemFault) : Error :=
  .network endpoint ("cannot listen: " ++ fault.text)

/-- **Binds a listener for RPC calls** to an endpoint. -/
def listen (network : Network) (host : Host) (endpoint : Endpoint) : Outcome Listener × Host :=
  match endpoint with
  | .unix path =>
    match host.bindSocket path with
    | .ok (number, host) => (.ok (.unix path number), host)
    | .error fault => (.error (cannotListen endpoint.text fault), host)
  | .tcp address =>
    match network.listen address with
    | .ok bound => (.ok (.tcp bound), host)
    | .error fault => (.error (cannotListen endpoint.text fault), host)

/-- **Ends a listener.** -/
def unlisten (host : Host) : Listener → Host
  | .unix path number => host.freeSocket path number
  | .tcp _ => host

/-- **Binds both listeners of a daemon**: for RPC calls to an endpoint, and for REST requests to an
address of its own at a port that the system chooses. -/
def listenAll (network : Network) (host : Host) (endpoint : Endpoint) (restHost : Ip) :
    Outcome Listeners × Host :=
  match host.listen network endpoint with
  | (.error error, host) => (.error (.context "cannot start RPC server" error), host)
  | (.ok rpc, host) =>
    match network.listen ⟨restHost, 0, 0⟩ with
    | .ok address => (.ok ⟨rpc, address⟩, host)
    | .error fault =>
      (.error (.context "cannot start HTTP server" (cannotListen (restHost.text ++ ":0") fault)),
        host.unlisten rpc)

end Host

end TaskDaemon
