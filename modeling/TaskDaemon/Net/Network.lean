import TaskDaemon.Error.System
import TaskDaemon.Net.Ip

/-!
# What the network lets a daemon do

* `TaskDaemon.Network`: which addresses can be bound, and whether connections get through;
* `TaskDaemon.Network.confined`: a network that keeps daemons to themselves.
-/

namespace TaskDaemon

/-- **The network as a daemon sees it.** -/
structure Network where
  /-- Binds a listener to an address: the port it has then, which the system chooses where the
  address leaves it open. -/
  bind : SocketAddress → Except SystemFault Nat
  /-- Whether connections to a bound address get through. -/
  reachable : Bool := true

/-! ### Addresses that can be bound -/

namespace Ip

/-- **Whether an address of version 4 can be bound** on any machine: one that leads back to it, the
one that stands for all that it has, and those that stand for many machines. -/
def isCommon (octets : List Nat) : Bool :=
  octets.all (· = 0) || octets.all (· = 255) ||
    octets.head?.any fun first => first = 127 || 224 ≤ first && first < 240

/-- Whether an address of version 6 stands for many machines. -/
def isGroup (groups : List Nat) : Bool :=
  groups.head?.any fun first => 0xFF00 ≤ first

/-- Whether an address of version 6 means something on one link only. -/
def isLinkLocal (groups : List Nat) : Bool :=
  groups.head?.any fun first => 0xFE80 ≤ first && first < 0xFEC0

end Ip

/-- The scope of the machine's link to itself. -/
def loopScope : Nat := 1

/-- **Why an address cannot be bound** on a machine that has no addresses but those that every
machine has. An address that means something on one link only needs a scope that tells the link. -/
def Ip.unbindable (scope : Nat) : Ip → Option SystemFault
  | .v4 octets => if isCommon octets then none else some .notAvailable
  | .v6 groups =>
    if isGroup groups then some .invalidArgument
    else if isMapped groups then
      if isCommon (octetsOf (groups.drop 6)) then none else some .notAvailable
    else if groups.dropLast.all (· = 0) ∧ groups.getLast?.any (· ≤ 1) then none
    else if isLinkLocal groups then
      if scope = 0 then some .invalidArgument
      else if scope = loopScope then some .notAvailable
      else some .noSuchDevice
    else some .notAvailable

namespace Network

/-- **A network that keeps daemons to themselves**: the ports that can be bound are those that the
system chooses, here `port`, on addresses that every machine has; and no connection gets through. -/
def confined (port : Nat) : Network where
  bind address :=
    if address.port ≠ 0 then .error .denied
    else
      match address.ip.unbindable address.scope with
      | some fault => .error fault
      | none => .ok port
  reachable := false

/-- **Binds a listener to an address**, and tells the address it has then. -/
def listen (network : Network) (address : SocketAddress) : Except SystemFault SocketAddress :=
  (network.bind address).map fun port => { address with port := port }

end Network

end TaskDaemon
