import AudioLink.Link.Pipeline
import AudioLink.Network.Clockwork
import AudioLink.Network.Segment
import AudioLink.Network.WorkLoop

/-!
# Networks

A network is a segment and the nodes on it. Each node has a port, a dispatch queue, a timer and a
pipeline, and an engine once its loop has been spawned. The engine of a node acts on the network
as its surroundings: its frame hook and its output are the port, and a frame it transmits goes into
the queues of the nodes whose ports accept it.
-/

namespace AudioLink

/-- One node of a network. -/
structure Node where
  port : Nat
  queue : Queue
  clock : Clockwork
  callbacks : Callbacks
  pipeline : Pipeline
  engine : Option Engine
  history : List Event
  replies : List (Nat × Reply)

namespace Node

/-- A node with an empty queue and no engine. -/
def create (port capacity : Nat) : Node where
  port := port
  queue := .ofCapacity capacity
  clock := .manual .initial
  callbacks := ⟨true, true, false⟩
  pipeline := ⟨.silent, .counter .initial⟩
  engine := none
  history := []
  replies := []

/-- Whether the loop of the node has a command to carry out. -/
def isBusy (node : Node) : Bool := node.engine.isSome && !node.queue.pending.isEmpty

def setQueue (queue : Queue) (node : Node) : Node := { node with queue }

def setClock (clock : Clockwork) (node : Node) : Node := { node with clock }

def setPipeline (pipeline : Pipeline) (node : Node) : Node := { node with pipeline }

end Node

/-- A segment with its nodes and a common time in nanoseconds. -/
structure Network where
  segment : Segment
  nodes : List Node
  time : Nat

namespace Network

def empty : Network := ⟨.empty, [], 0⟩

def node? (i : Nat) (net : Network) : Option Node := net.nodes[i]?

def modify (i : Nat) (change : Node → Node) (net : Network) : Network :=
  { net with nodes := net.nodes.modify i change }

/-- Changes one node and gives an answer; a missing node gives the fallback. -/
def access {α : Type} (i : Nat) (fallback : α) (use : Node → α × Node) (net : Network) :
    α × Network :=
  match net.node? i with
  | none => (fallback, net)
  | some node =>
    let r := use node
    (r.1, { net with nodes := net.nodes.set i r.2 })

/-- Adds a node with a port of its own and gives the number of the port. -/
def join (capacity : Nat) (net : Network) : Nat × Network :=
  let r := net.segment.attach net.nodes.length
  (r.1, { net with segment := r.2, nodes := net.nodes ++ [.create r.1 capacity] })

/-- Posts a command to a node. -/
def post (i : Nat) (command : Command) (net : Network) : Bool × Network :=
  net.access i false fun node =>
    let r := node.queue.post command
    (r.1, node.setQueue r.2)

/-- Posts a command to a node as soon as there is room. -/
def send (i : Nat) (command : Command) (net : Network) : Option Bool × Network :=
  net.access i (some false) fun node =>
    let r := node.queue.send command
    (r.1, node.setQueue r.2)

/-- Posts a frame to the nodes of the given ports and counts those that took it in. -/
def offer (frame : Bytes) : List Port → Network → Nat × Network
  | [], net => (0, net)
  | port :: ports, net =>
    let first := net.post port.node (.frame frame)
    let rest := offer frame ports first.2
    ((if first.1 then 1 else 0) + rest.1, rest.2)

/-- Transmits a frame from a port. It fails if the port is gone, or if no node took the frame in
and at least one would have. -/
def transmit (port : Nat) (frame : Bytes) (net : Network) :
    Except TransmitError Unit × Network :=
  if net.segment.isAttached port then
    let listeners := net.segment.listeners port frame
    let offered := net.offer frame listeners
    let delivered := offered.1
    let dropped := listeners.length - delivered
    (if delivered = 0 ∧ 0 < dropped then .error .queueFull else .ok (),
      { offered.2 with segment := offered.2.segment.count delivered dropped })
  else (.error .linkDown, net)

def install (port : Nat) (filter : FrameFilter) (net : Network) :
    Except SetupError Handle × Network :=
  let r := net.segment.install port filter
  (r.1, { net with segment := r.2 })

def uninstall (handle : Handle) (net : Network) : Network :=
  { net with segment := net.segment.uninstall handle }

def detach (port : Nat) (net : Network) : Network :=
  { net with segment := net.segment.detach port }

/-- The surroundings of the engine of node `i`, which has the given port and callbacks. -/
def host (i port : Nat) (callbacks : Callbacks) : Host Network where
  arm delay net :=
    net.access i (.ok ()) fun node =>
      let r := node.clock.arm net.time delay
      (r.1, node.setClock r.2)
  rearm delay net := net.modify i fun node => node.setClock (node.clock.rearm net.time delay)
  cancel net := net.modify i fun node => node.setClock node.clock.cancel
  now net :=
    match net.node? i with
    | some node => node.clock.now net.time
    | none => 0
  generation net :=
    match net.node? i with
    | some node => node.clock.generation
    | none => 0
  install filter net := net.install port filter
  uninstall handle net := net.uninstall handle
  transmit frame net := net.transmit port frame
  process header net :=
    net.access i (.error .notReady) fun node =>
      let r := node.pipeline.process header
      (r.1, node.setPipeline r.2)
  received header net :=
    net.modify i fun node => node.setPipeline (node.pipeline.receive header)
  connection :=
    if callbacks.connection then
      some fun peer net =>
        net.modify i fun node => node.setPipeline (node.pipeline.announce peer)
    else none
  deliver :=
    if callbacks.received then
      some fun block net =>
        net.modify i fun node => node.setPipeline (node.pipeline.deliver block)
    else none
  demand :=
    if callbacks.needed then
      some fun net =>
        net.access i none fun node =>
          let r := node.pipeline.ask
          (r.1, node.setPipeline r.2)
    else none

/-- The loop of a node, with the whole network as its world. -/
def loopOf (node : Node) (net : Network) : WorkLoop Network :=
  ⟨node.queue, node.engine, net, node.history, node.replies⟩

/-- Puts what a loop has done back into node `i`. A timer ends with its engine. -/
def putLoop (i : Nat) (l : WorkLoop Network) : Network :=
  l.world.modify i fun node =>
    { node with
      queue := l.queue
      engine := l.engine
      clock := if node.engine.isSome ∧ l.engine.isNone then node.clock.release else node.clock
      history := l.history
      replies := l.replies }

/-- Gives node `i` an engine, which starts on the commands that are already queued. -/
def spawn (i : Nat) (settings : Settings) (callbacks : Callbacks) (supply : Supply)
    (clock : Clockwork) (net : Network) : Network :=
  net.modify i fun node =>
    { node with
      queue := node.queue.attend
      clock := clock
      callbacks := callbacks
      pipeline := ⟨supply, .counter .initial⟩
      engine := some (.ofSettings settings) }

/-- Closes the queue of a node that will get no engine. -/
def abandon (i : Nat) (net : Network) : Network :=
  net.modify i fun node => node.setQueue node.queue.close

/-- The loop of node `i` carries out one command. -/
def step (i : Nat) (net : Network) : Network :=
  match net.node? i with
  | none => net
  | some node =>
    putLoop i ((net.loopOf node).step (host i node.port node.callbacks))

/-- The timer of node `i` reads its next message. -/
def timerRead (i : Nat) (net : Network) : Network :=
  net.modify i fun node =>
    match node.clock with
    | .thread timer => node.setClock (.thread timer.read)
    | .manual _ => node

/-- The deadline of the timer of node `i` passes. -/
def timerExpire (i : Nat) (net : Network) : Network :=
  net.modify i fun node =>
    match node.clock with
    | .thread timer => node.setClock (.thread (timer.expire net.time))
    | .manual _ => node

/-- The timer of node `i` tries to send its firing into the queue of the node. -/
def timerFire (i : Nat) (net : Network) : Network :=
  net.modify i fun node =>
    match node.clock with
    | .thread timer =>
      let r := timer.fire node.queue
      (node.setQueue r.1).setClock (.thread r.2)
    | .manual _ => node

/-- All timers do what is due. -/
def runTimers (net : Network) : Network :=
  { net with
    nodes := net.nodes.map fun node =>
      let r := node.clock.run net.time node.queue
      (node.setQueue r.1).setClock r.2 }

def due? (net : Network) : Option Nat := (net.nodes.filterMap fun node => node.clock.due?).min?

def busy? (net : Network) : Option Nat := net.nodes.findIdx? Node.isBusy

/-- Lets the loops work until all their queues are empty, for at most so many commands. -/
def settle : Nat → Network → Network
  | 0, net => net
  | fuel + 1, net =>
    match net.busy? with
    | none => net
    | some i => (net.step i).settle fuel

end Network

end AudioLink
