import AudioLink.Network.Handle

/-!
# Loopback

A slave and a master on one segment, both with timers on threads of their own. Time does not pass
by itself: it is moved to the next deadline whenever all queues are empty.
-/

namespace AudioLink

/-- What an endpoint of a loopback is made from. -/
structure Endpoint where
  settings : Settings
  callbacks : Callbacks
  supply : Supply

/-- What a loopback run reports. -/
structure LoopbackReport where
  /-- Installed hooks with the slave started, with both started, and at the end. -/
  hooks : List Nat
  reached : Bool
  lost : Bool
  slaveEvents : List Event
  masterEvents : List Event
  /-- The slave just before the master stops. -/
  slaveMid : Option LoopStatus
  slaveEnd : Option LoopStatus
  masterEnd : Option LoopStatus

namespace Network

/-- Moves the time on to the next deadline, if there is one, and lets timers and loops do what is
due by then. -/
def pass (fuel : Nat) (net : Network) : Option Network :=
  net.due?.map fun due => ({ net with time := max net.time due }.runTimers).settle fuel

/-- Lets time pass until a goal is met, for at most so many deadlines. -/
def runUntil (goal : Network → Bool) (work : Nat) : Nat → Network → Bool × Network
  | 0, net => (goal net, net)
  | fuel + 1, net =>
    if goal net then (true, net)
    else
      match net.pass work with
      | none => (false, net)
      | some net => net.runUntil goal work fuel

/-- The events of node `i` that can be seen from outside, the first one first. -/
def eventsOf (visible : Event → Bool) (i : Nat) (net : Network) : List Event :=
  match net.node? i with
  | some node => (node.history.filter visible).reverse
  | none => []

/-- Adds an endpoint with a timer on a thread of its own. -/
def addEndpoint (endpoint : Endpoint) (net : Network) : Network :=
  let i := net.nodes.length
  (net.join Queue.defaultCapacity).2.spawn i endpoint.settings endpoint.callbacks endpoint.supply
    (.thread .initial)

def isConnected (i : Nat) (net : Network) : Bool :=
  match (net.node? i).bind Node.engine with
  | some engine => engine.connected
  | none => false

end Network

namespace Loopback

private def status? (work i ticket : Nat) (net : Network) : Option LoopStatus × Network :=
  match net.status work i ticket with
  | (.ok status, net) => (some status, net)
  | (.error _, net) => (none, net)

/-- Runs a slave and a master until the slave has seen `events` events, stops the master, waits for
the slave to notice if `lose` says so, and stops the slave. At most `fuel` deadlines pass in each
part, with at most `work` commands each. -/
def run (fuel work : Nat) (slave master : Endpoint) (visible : Event → Bool) (events : Nat)
    (lose : Bool) : LoopbackReport :=
  let net := (Network.empty.addEndpoint slave).addEndpoint master
  let net := (net.start work 0 0).2
  let slaveHooks := net.segment.hooksInstalled
  let net := (net.start work 1 0).2
  let bothHooks := net.segment.hooksInstalled
  let reached :=
    net.runUntil (fun net => events ≤ (net.eventsOf visible 0).length) work fuel
  let mid := status? work 0 1 reached.2
  let net := (mid.2.stop work 1 1).2
  let lost : Bool × Network :=
    if lose then net.runUntil (fun net => !net.isConnected 0) work fuel else (false, net)
  let net := (lost.2.stop work 0 2).2
  let slaveEnd := status? work 0 3 net
  let masterEnd := status? work 1 2 slaveEnd.2
  let net := masterEnd.2
  { hooks := [slaveHooks, bothHooks, net.segment.hooksInstalled]
    reached := reached.1
    lost := lost.1
    slaveEvents := net.eventsOf visible 0
    masterEvents := net.eventsOf visible 1
    slaveMid := mid.1
    slaveEnd := slaveEnd.1
    masterEnd := masterEnd.1 }

end Loopback

end AudioLink
