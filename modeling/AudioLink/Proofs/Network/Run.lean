import AudioLink.Proofs.Network.Delivery

/-!
# Runs of a network

A network is set up from its members, and then one action follows the other, in any order. Unless an
action brings in a frame from outside, every frame that reaches an engine was transmitted by another
one, and the frames reach each engine in the order of their transmission, none of them twice.
-/

namespace AudioLink

/-- What one node of a network is made from. -/
structure Member where
  capacity : Nat
  settings : Settings
  callbacks : Callbacks
  pipeline : Pipeline
  clock : Clockwork

namespace Member

def role (member : Member) : Role := member.settings.role

def inbound (member : Member) : Layout := member.settings.device.inbound

def outbound (member : Member) : Layout := member.settings.device.outbound

def node (port : Nat) (member : Member) : Node where
  port := port
  queue := (Queue.ofCapacity member.capacity).attend
  clock := member.clock
  callbacks := member.callbacks
  pipeline := member.pipeline
  engine := some (.ofSettings member.settings)
  history := []
  replies := []

end Member

/-- One action on a network. -/
inductive Action where
  | post (i : Nat) (command : Command)
  | send (i : Nat) (command : Command)
  | work (i : Nat)
  | enter (i : Nat) (call : Call)
  | timerRead (i : Nat)
  | timerExpire (i : Nat)
  | timerFire (i : Nat)
  | clock (i : Nat) (clock : Clockwork)
  | audio (i : Nat) (pipeline : Pipeline)
  | time (time : Nat)
  | detach (port : Nat)

def Action.frame? : Action → Option Bytes
  | post _ command => command.frame?
  | send _ command => command.frame?
  | enter _ call => call.frame?
  | _ => none

namespace Network

def enroll (member : Member) (net : Network) : Network :=
  let i := net.nodes.length
  ((net.join member.capacity).2.spawn i member.settings member.callbacks member.pipeline.supply
    member.clock).modify i (Node.setPipeline member.pipeline)

/-- A new network with a node for each member. -/
def ofMembers (members : List Member) : Network :=
  members.foldl (fun net member => net.enroll member) .empty

def enter (i : Nat) (call : Call) (net : Network) : Network :=
  match net.node? i with
  | none => net
  | some node =>
    match node.engine with
    | none => net
    | some engine =>
      let s : Station Network := ⟨engine, net, node.history⟩
      let s := (s.perform (host i node.port node.callbacks) call).2
      putLoop i ⟨node.queue, some s.engine, s.world, s.history, node.replies⟩

def act (action : Action) (net : Network) : Network :=
  match action with
  | .post i command => (net.post i command).2
  | .send i command => (net.send i command).2
  | .work i => net.step i
  | .enter i call => net.enter i call
  | .timerRead i => net.timerRead i
  | .timerExpire i => net.timerExpire i
  | .timerFire i => net.timerFire i
  | .clock i clock => net.modify i (Node.setClock clock)
  | .audio i pipeline => net.modify i (Node.setPipeline pipeline)
  | .time time => { net with time }
  | .detach port => net.detach port

def run (actions : List Action) (net : Network) : Network :=
  actions.foldl (fun net action => net.act action) net

/-- The history of node `i`, the latest event first. -/
def historyOf (i : Nat) (net : Network) : List Event :=
  match net.node? i with
  | some node => node.history
  | none => []

/-- What has come to the history of node `i`. -/
def newEvents (i : Nat) (net net' : Network) : List Event :=
  (net'.historyOf i).take ((net'.historyOf i).length - (net.historyOf i).length)

theorem newEvents_self (i : Nat) (net : Network) : newEvents i net net = [] := by
  rw [newEvents, Nat.sub_self, List.take_zero]

/-- The engine of node `i`, unless it has ended. -/
def engine? (i : Nat) (net : Network) : Option Engine := (net.node? i).bind Node.engine

private structure Fresh (members : List Member) (net : Network) : Prop where
  nodes : net.nodes = members.mapIdx fun i member => member.node (i + 1)
  lastId : net.segment.lastId = members.length
  wires : net.wires = (List.range members.length).map fun i => (i + 1, i)

private theorem modify_last (change : Node → Node) (nodes : List Node) (node : Node) :
    (nodes ++ [node]).modify nodes.length change = nodes ++ [change node] := by
  induction nodes with
  | nil => rfl
  | cons first nodes ih =>
    rw [List.cons_append, List.length_cons, List.modify_succ_cons, ih, List.cons_append]

private theorem fresh_enroll {members : List Member} {net : Network} (h : Fresh members net)
    (member : Member) : Fresh (members ++ [member]) (net.enroll member) := by
  have hlength : net.nodes.length = members.length := by
    rw [h.nodes, List.length_mapIdx]
  refine ⟨?_, ?_, ?_⟩
  · simp only [enroll, spawn, join, modify, Segment.attach]
    rw [modify_last, modify_last, h.lastId, List.mapIdx_concat, ← h.nodes]
    rfl
  · rw [List.length_append, List.length_singleton, ← h.lastId]
    rfl
  · have hwires : (net.enroll member).wires =
        net.wires ++ [(net.segment.lastId + 1, net.nodes.length)] :=
      List.map_append
    rw [hwires, h.wires, h.lastId, hlength, List.length_append, List.length_singleton,
      List.range_succ, List.map_append]
    rfl

private theorem fresh_ofMembers (members : List Member) : Fresh members (ofMembers members) := by
  have hgrow (rest : List Member) : ∀ (done : List Member) (net : Network), Fresh done net →
      Fresh (done ++ rest) (rest.foldl (fun net member => net.enroll member) net) := by
    induction rest with
    | nil =>
      intro done net h
      rw [List.append_nil]
      exact h
    | cons member rest ih =>
      intro done net h
      rw [List.append_cons]
      exact ih (done ++ [member]) (net.enroll member) (fresh_enroll h member)
  exact hgrow members [] .empty ⟨rfl, rfl, rfl⟩

theorem node?_ofMembers (members : List Member) (i : Nat) :
    (ofMembers members).node? i = members[i]?.map fun member => member.node (i + 1) := by
  rw [node?, (fresh_ofMembers members).nodes, List.getElem?_mapIdx]

theorem length_ofMembers (members : List Member) :
    (ofMembers members).nodes.length = members.length := by
  rw [(fresh_ofMembers members).nodes, List.length_mapIdx]

theorem wires_ofMembers (members : List Member) :
    (ofMembers members).wires = (List.range members.length).map fun i => (i + 1, i) :=
  (fresh_ofMembers members).wires

def speaker (role : Role) (inChannels outChannels : UInt16) : Member where
  capacity := 4
  settings := ⟨role, { Device.placeholder with inChannels, outChannels }, .standard⟩
  callbacks := ⟨true, true, false⟩
  pipeline := ⟨.silent, .counter .initial⟩
  clock := .manual .initial

end Network

end AudioLink
