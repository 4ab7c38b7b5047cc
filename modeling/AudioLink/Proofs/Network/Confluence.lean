import Mathlib.Logic.Relation
import AudioLink.Proofs.Network.Bench
import AudioLink.Proofs.Network.Draining
import AudioLink.Proofs.Network.Ports

/-!
# Orders of work on a point-to-point link

Two nodes on a segment disturb each other only through their queues, and a loop takes commands from
the front of its queue while the other one adds frames to the end. So a step of one loop and a step
of the other one can change places, and all orders in which the loops can work until both queues are
empty lead to the same network, provided that no frame is refused on the way.
-/

namespace AudioLink

/-- One side of a link: a node whose queue is empty, and the commands that wait for it. -/
structure Side where
  node : Node
  pending : List Command

/-- A point-to-point link, where it does not matter whether a command is buffered or handed over. -/
structure Link where
  segment : Segment
  sides : List Side
  time : Nat

private theorem Segment.carry_carry (m n : Nat) (segment : Segment) :
    (segment.carry m).carry n = segment.carry (m + n) := by
  simp only [carry, Nat.add_assoc]

namespace Link

/-- A link whose loop `i` has come this far: what is left to do for it, and what it has just sent to
the other side. -/
def worked (i : Nat) (own : Node) (rest : List Command) (other : Side) (sent : List Bytes)
    (link : Link) : Link where
  segment := link.segment.carry sent.length
  sides := pairAt i ⟨own, rest⟩ ⟨other.node, other.pending ++ sent.map Command.frame⟩
  time := link.time

/-- One of the two loops carries out the next command of its side. -/
inductive Step (link : Link) : Link → Prop where
  | work {i : Nat} {own : Node} {other : Side} {engine : Engine} {command : Command}
      {rest : List Command} {served : Node × List Bytes} (hi : i < 2)
      (hsides : link.sides = pairAt i ⟨own, command :: rest⟩ other)
      (hengine : own.engine = some engine)
      (hserved : own.serve link.time command engine = served) :
      Step link (link.worked i served.1 rest other served.2)

def Resting (link : Link) : Prop := ∀ side ∈ link.sides, side.pending = []

variable {link left right : Link}

private theorem worked_comm {i : Nat} (hi : i < 2) (own own' : Node) (rest rest' : List Command)
    (before before' : Node) (front front' : List Command) (sent sent' : List Bytes) :
    (link.worked i own rest ⟨before', front'⟩ sent).worked (1 - i) own'
        (rest' ++ sent.map Command.frame) ⟨own, rest⟩ sent' =
      (link.worked (1 - i) own' rest' ⟨before, front⟩ sent').worked i own
        (rest ++ sent'.map Command.frame) ⟨own', rest'⟩ sent := by
  simp only [worked, pairAt_swap hi, Segment.carry_carry, Nat.add_comm]

private theorem Step.diamond (hleft : link.Step left) (hright : link.Step right) :
    left = right ∨ ∃ join, left.Step join ∧ right.Step join := by
  obtain @⟨i, own, other, engine, command, rest, served, hi, hsides, hengine, hserved⟩ := hleft
  obtain @⟨j, own', other', engine', command', rest', served', hj, hsides', hengine', hserved'⟩ :=
    hright
  have hplace : j = i ∨ j = 1 - i := by omega
  rw [hsides] at hsides'
  rcases hplace with rfl | rfl
  · obtain ⟨hown, rfl⟩ := pairAt_inj.mp hsides'
    cases hown
    cases hengine.symm.trans hengine'
    cases hserved.symm.trans hserved'
    exact .inl rfl
  · rw [pairAt_swap hi] at hsides'
    obtain ⟨rfl, rfl⟩ := pairAt_inj.mp hsides'
    have hafterLeft : (link.worked i served.1 rest ⟨own', command' :: rest'⟩ served.2).Step
        ((link.worked i served.1 rest ⟨own', command' :: rest'⟩ served.2).worked (1 - i) served'.1
          (rest' ++ served.2.map Command.frame) ⟨served.1, rest⟩ served'.2) :=
      .work hj (pairAt_swap hi _ _).symm hengine' hserved'
    have hafterRight : (link.worked (1 - i) served'.1 rest' ⟨own, command :: rest⟩ served'.2).Step
        ((link.worked (1 - i) served'.1 rest' ⟨own, command :: rest⟩ served'.2).worked i served.1
          (rest ++ served'.2.map Command.frame) ⟨served'.1, rest'⟩ served.2) :=
      .work hi (pairAt_swap hi _ _) hengine hserved
    rw [← worked_comm hi] at hafterRight
    exact .inr ⟨_, hafterLeft, hafterRight⟩

private theorem Resting.final (h : link.Resting) : ¬link.Step left := by
  intro hstep
  obtain @⟨i, own, other, engine, command, rest, served, hi, hsides, hengine, hserved⟩ := hstep
  have hown : (⟨own, command :: rest⟩ : Side) ∈ link.sides := by
    rw [hsides]
    exact List.mem_of_getElem? (getElem?_pairAt hi _ _).1
  cases h _ hown

private theorem eq_of_resting (hleft : Relation.ReflTransGen Step link left)
    (hright : Relation.ReflTransGen Step link right) (hleftRests : left.Resting)
    (hrightRests : right.Resting) : left = right := by
  have hconfluent (a b c : Link) (hab : a.Step b) (hac : a.Step c) :
      ∃ d, Relation.ReflGen Step b d ∧ Relation.ReflTransGen Step c d := by
    rcases hab.diamond hac with rfl | ⟨d, hbd, hcd⟩
    · exact ⟨b, .refl, .refl⟩
    · exact ⟨d, .single hbd, .single hcd⟩
  obtain ⟨join, hleftJoin, hrightJoin⟩ := Relation.church_rosser hconfluent hleft hright
  rw [Relation.reflTransGen_iff_eq fun _ => hleftRests.final] at hleftJoin
  rw [Relation.reflTransGen_iff_eq fun _ => hrightRests.final] at hrightJoin
  exact hleftJoin.symm.trans hrightJoin

end Link

/-- A node as one side of a link. -/
def Node.side (node : Node) : Side := ⟨node.setQueue node.queue.emptied, node.queue.pending⟩

/-- The loop of the node has only firings and frames to carry out. -/
structure Node.Engaged (node : Node) : Prop where
  bounded : node.queue.Bounded
  manned : node.engine.isSome
  inputs : ∀ command ∈ node.queue.pending, command.isInput = true

namespace Node

variable {node : Node} {command : Command} {queue : Queue} {sent : List Bytes}

theorem Engaged.serve (h : node.Engaged) (htake : node.queue.take? = some (command, queue))
    (time : Nat) (engine : Engine) :
    ((node.serve time command engine).1.setQueue queue).Engaged where
  bounded := Queue.bounded_take? htake h.bounded
  manned := rfl
  inputs := by
    intro later hlater
    apply h.inputs
    rw [Queue.pending_take? htake]
    exact List.mem_cons_of_mem command hlater

private theorem Engaged.extend (h : node.Engaged)
    (hextends : node.queue.Extends (sent.map Command.frame) queue) :
    (node.setQueue queue).Engaged where
  bounded := hextends.bounded
  manned := h.manned
  inputs := by
    intro command hcommand
    have hpending : command ∈ node.queue.pending ++ sent.map Command.frame :=
      hextends.pending ▸ hcommand
    rcases List.mem_append.mp hpending with hbefore | hsent
    · exact h.inputs command hbefore
    · obtain ⟨frame, -, rfl⟩ := List.mem_map.mp hsent
      rfl

private theorem side_serve (htake : node.queue.take? = some (command, queue)) (time : Nat)
    (engine : Engine) :
    ((node.serve time command engine).1.setQueue queue).side =
      ⟨(node.side.node.serve time command engine).1, queue.pending⟩ := by
  have hemptied := Queue.emptied_take? htake
  simp only [side, setQueue, serve, fromBench, hemptied]

private theorem side_extend (h : node.queue.Extends (sent.map Command.frame) queue) :
    (node.setQueue queue).side =
      ⟨node.side.node, node.side.pending ++ sent.map Command.frame⟩ := by
  simp only [side, setQueue, h.pending, h.emptied]

private theorem side_of_pending (h : node.queue.pending = []) : node.side = ⟨node, []⟩ := by
  rw [side, h, Queue.emptied_of_pending h, setQueue]

end Node

namespace Network

/-- Two engines face each other: each of them has a port of its own with its hook on it, and there
is nothing but firings and frames in the queues. -/
structure PointToPoint (net : Network) : Prop where
  size : net.nodes.length = 2
  ports : net.segment.ports =
    (net.nodes.map Node.port).mapIdx fun i port => ⟨port, i, some Frame.hasDiscriminator⟩
  distinct : (net.nodes.map Node.port).Nodup
  engaged : ∀ node ∈ net.nodes, node.Engaged

def link (net : Network) : Link := ⟨net.segment, net.nodes.map Node.side, net.time⟩

variable {net : Network} {i time : Nat} {own other : Node} {segment : Segment}

private theorem PointToPoint.reaches (hi : i < 2)
    (h : (⟨segment, pairAt i own other, time⟩ : Network).PointToPoint) :
    Reaches i own.port segment := by
  obtain ⟨-, hports, hdistinct, -⟩ := h
  dsimp only at hports hdistinct
  rcases eq_zero_or_one hi with rfl | rfl
  · have hne : other.port ≠ own.port := by
      simpa [pairAt, eq_comm] using hdistinct
    refine ⟨?_, fun header block => ⟨⟨other.port, 1, some Frame.hasDiscriminator⟩, rfl, ?_⟩⟩
    · simp [Segment.isAttached, hports, pairAt]
    · simp [Segment.listeners, Port.accepts, hports, pairAt, hne]
  · have hne : other.port ≠ own.port := by
      simpa [pairAt] using hdistinct
    refine ⟨?_, fun header block => ⟨⟨other.port, 0, some Frame.hasDiscriminator⟩, rfl, ?_⟩⟩
    · simp [Segment.isAttached, hports, pairAt]
    · simp [Segment.listeners, Port.accepts, hports, pairAt, hne]

private theorem PointToPoint.replace
    (h : (⟨segment, pairAt i own other, time⟩ : Network).PointToPoint) {own' other' : Node}
    (n : Nat) (hown : own'.Engaged) (hother : other'.Engaged)
    (hport : own'.port = own.port) (hport' : other'.port = other.port) :
    (⟨segment.carry n, pairAt i own' other', time⟩ : Network).PointToPoint := by
  have hsame : (pairAt i own' other').map Node.port = (pairAt i own other).map Node.port := by
    rw [map_pairAt, map_pairAt, hport, hport']
  constructor
  · exact length_pairAt i own' other'
  · rw [hsame]
    exact h.ports
  · rw [hsame]
    exact h.distinct
  · exact forall_mem_pairAt.mpr ⟨hown, hother⟩

private theorem link_pairAt :
    (⟨segment, pairAt i own other, time⟩ : Network).link =
      ⟨segment, pairAt i own.side other.side, time⟩ := by
  rw [link, map_pairAt]

/-- A step of a loop is a step of the link, unless a frame is dropped. -/
theorem PointToPoint.step (h : net.PointToPoint) (i : Nat) :
    net.segment.dropped < (net.step i).segment.dropped ∨
      (net.step i).PointToPoint ∧ Relation.ReflTransGen Link.Step net.link (net.step i).link := by
  cases hbusy : net.isBusyAt i with
  | false =>
    rw [step_of_idle hbusy]
    exact .inr ⟨h, .refl⟩
  | true =>
    obtain ⟨own, engine, hnode, hengine, hpending⟩ := isBusyAt_iff.mp hbusy
    obtain ⟨command, queue, htake⟩ := Queue.exists_take? hpending
    obtain ⟨segment, nodes, time⟩ := net
    have hi : i < 2 := h.size ▸ (List.getElem?_eq_some_iff.mp hnode).1
    obtain ⟨node, other, rfl⟩ := exists_pairAt hi h.size
    cases (getElem?_pairAt hi node other).1.symm.trans hnode
    obtain ⟨hown, hother⟩ := forall_mem_pairAt.mp h.engaged
    have hcommand : command.isInput = true := by
      apply hown.inputs
      rw [Queue.pending_take? htake]
      exact List.mem_cons_self
    rcases step_pairAt hi (h.reaches hi) hother.bounded hengine htake hcommand with
      hdropped | ⟨queue', hextends, hstep⟩
    · exact .inl hdropped
    · refine .inr ?_
      rw [hstep]
      constructor
      · exact h.replace _ (hown.serve htake time engine) (hother.extend hextends) rfl rfl
      · have hsides : (⟨segment, pairAt i own other, time⟩ : Network).link.sides =
            pairAt i ⟨own.side.node, command :: queue.pending⟩ other.side := by
          rw [link_pairAt, ← Queue.pending_take? htake]
          rfl
        apply Relation.ReflTransGen.single
        convert Link.Step.work hi hsides hengine rfl using 1
        rw [link_pairAt, Node.side_serve htake, Node.side_extend hextends]
        rfl

private theorem dropped_does {port : Nat} {callbacks : Callbacks} {event : Event} {net' : Network}
    (h : (host i port callbacks).Does event net net') :
    net.segment.dropped ≤ net'.segment.dropped := by
  cases deed_of_does h with
  | transmit frame =>
    unfold transmit
    split
    · dsimp only
      rw [segment_offer]
      exact Nat.le_add_right _ _
    · exact Nat.le_refl _
  | install =>
    unfold install Segment.install
    split
    · exact Nat.le_refl _
    · split <;> exact Nat.le_refl _
  | _ => exact Nat.le_refl _

private theorem dropped_trace {port : Nat} {callbacks : Callbacks} {events : List Event}
    {net' : Network} (h : (host i port callbacks).Trace events net net') :
    net.segment.dropped ≤ net'.segment.dropped := by
  induction h with
  | nil net => exact Nat.le_refl _
  | cons _ hdoes ih => exact ih.trans (dropped_does hdoes)

private theorem dropped_step (net : Network) (i : Nat) :
    net.segment.dropped ≤ (net.step i).segment.dropped := by
  unfold step
  split
  · exact Nat.le_refl _
  · rename_i node _
    obtain ⟨events, htrace⟩ :=
      WorkLoop.trace_step (host i node.port node.callbacks) (net.loopOf node)
    have hle : net.segment.dropped ≤
        ((net.loopOf node).step (host i node.port node.callbacks)).world.segment.dropped :=
      dropped_trace htrace
    exact hle

private theorem run_work (net : Network) (i : Nat) (order : List Nat) :
    net.run ((i :: order).map .work) = (net.step i).run (order.map .work) := rfl

theorem dropped_run (net : Network) (order : List Nat) :
    net.segment.dropped ≤ (net.run (order.map .work)).segment.dropped := by
  induction order generalizing net with
  | nil => exact Nat.le_refl _
  | cons i order ih => exact (dropped_step net i).trans (ih (net.step i))

/-- Either a frame is dropped while the loops work, or they do what the link does. -/
theorem PointToPoint.run (h : net.PointToPoint) (order : List Nat) :
    net.segment.dropped < (net.run (order.map .work)).segment.dropped ∨
      (net.run (order.map .work)).PointToPoint ∧
        Relation.ReflTransGen Link.Step net.link (net.run (order.map .work)).link := by
  induction order generalizing net with
  | nil => exact .inr ⟨h, .refl⟩
  | cons i order ih =>
    rw [run_work]
    rcases h.step i with hdropped | ⟨hnext, hstep⟩
    · exact .inl (hdropped.trans_le (dropped_run _ order))
    rcases ih hnext with hdropped | ⟨hlast, hrun⟩
    · exact .inl ((dropped_step net i).trans_lt hdropped)
    · exact .inr ⟨hlast, hstep.trans hrun⟩

theorem PointToPoint.pending (h : net.PointToPoint) (hdrained : net.Drained) :
    ∀ node ∈ net.nodes, node.queue.pending = [] := by
  intro node hnode
  obtain ⟨i, hi⟩ := List.mem_iff_getElem?.mp hnode
  exact hdrained i node hi (h.engaged node hnode).manned

private theorem link_of_pending (h : ∀ node ∈ net.nodes, node.queue.pending = []) :
    net.link = ⟨net.segment, net.nodes.map fun node => ⟨node, []⟩, net.time⟩ := by
  rw [link, List.map_congr_left fun node hnode => Node.side_of_pending (h node hnode)]

private theorem eq_of_link {net' : Network} (h : ∀ node ∈ net.nodes, node.queue.pending = [])
    (h' : ∀ node ∈ net'.nodes, node.queue.pending = []) (hlink : net.link = net'.link) :
    net = net' := by
  rw [link_of_pending h, link_of_pending h'] at hlink
  injection hlink with hsegment hsides htime
  have hnodes := congrArg (List.map Side.node) hsides
  simp only [List.map_map, Function.comp_def, List.map_id'] at hnodes
  obtain ⟨segment, nodes, time⟩ := net
  cases hsegment
  cases hnodes
  cases htime
  rfl

private theorem resting_link (h : ∀ node ∈ net.nodes, node.queue.pending = []) :
    net.link.Resting := by
  rw [link_of_pending h]
  intro side hside
  obtain ⟨node, -, rfl⟩ := List.mem_map.mp hside
  rfl

/-- All orders in which the two loops of a point-to-point link can work through their queues, one
command at a time, lead to the same network if no frame is refused: the engines with their counters,
the calls that each of them has made, and the counters of the segment are the same. What an engine
sends may depend on all that its pipeline has been told before. -/
theorem orders_agree (hlink : net.PointToPoint) (first second : List Nat)
    (hfirst : (net.run (first.map .work)).Drained)
    (hsecond : (net.run (second.map .work)).Drained)
    (hroom : (net.run (first.map .work)).segment.dropped = net.segment.dropped)
    (hroom' : (net.run (second.map .work)).segment.dropped = net.segment.dropped) :
    net.run (first.map .work) = net.run (second.map .work) := by
  obtain ⟨hendFirst, hfirstRun⟩ := (hlink.run first).resolve_left hroom.not_gt
  obtain ⟨hendSecond, hsecondRun⟩ := (hlink.run second).resolve_left hroom'.not_gt
  have hpending := hendFirst.pending hfirst
  have hpending' := hendSecond.pending hsecond
  apply eq_of_link hpending hpending'
  exact Link.eq_of_resting hfirstRun hsecondRun (resting_link hpending) (resting_link hpending')

/-- A slave that sends back the header and the block that it was told last. -/
def echo : Member :=
  { speaker .slave 1 1 with
    callbacks := ⟨true, true, true⟩
    pipeline :=
      ⟨.responsive (fun heard => heard.findSome? fun
          | .block block => some block
          | _ => none) [],
        .responsive (fun heard _ =>
          (heard.findSome? fun
            | .header header => some (.ok header)
            | _ => none).getD (.error .notReady)) []⟩ }

def caller : Member :=
  { speaker .master 1 1 with
    callbacks := ⟨true, true, true⟩
    pipeline :=
      ⟨.scripted (fun n => some (List.replicate 36 (UInt8.ofNat n))) 1, .counter .initial⟩ }

def facing : Network :=
  (ofMembers [caller, echo]).run
    [.post 0 (.start 0), .work 0, .post 1 (.start 0), .work 1,
      .post 0 (.fire 1), .post 0 (.fire 1), .post 1 (.fire 1)]

/-- In the one order the master is done with its firings before the first answer comes, in the other
one it is not. The answers depend on what the slave has received. -/
theorem orders_agree_facing :
    ((facing.nodes.filterMap Node.engine).map fun engine => (engine.role, engine.started)) =
        [(.master, true), (.slave, true)] ∧
      facing.PointToPoint ∧
      facing.run ([0, 0, 1, 1, 1, 0, 0].map .work) =
        facing.run ([1, 0, 1, 0, 1, 0, 0].map .work) ∧
      History.observed Event.carried? ((facing.run ([0, 0, 1, 1, 1, 0, 0].map .work)).historyOf 1) =
        [Frame.build (.ofCounter 0) (List.replicate 36 1),
          Frame.build (.ofCounter 1) (List.replicate 36 2)] := by
  have hengaged : ∀ node ∈ facing.nodes, node.queue.waiting.length ≤ node.queue.capacity ∧
      node.engine.isSome ∧ ∀ command ∈ node.queue.pending, command.isInput = true := by
    decide +kernel
  have hlink : facing.PointToPoint := by
    refine ⟨rfl, rfl, by decide +kernel, ?_⟩
    intro node hnode
    obtain ⟨hbounded, hmanned, hinputs⟩ := hengaged node hnode
    exact ⟨hbounded, hmanned, hinputs⟩
  have hfirst : (facing.run ([0, 0, 1, 1, 1, 0, 0].map .work)).Drained := by
    rw [drained_iff_busy?]
    decide +kernel
  have hsecond : (facing.run ([1, 0, 1, 0, 1, 0, 0].map .work)).Drained := by
    rw [drained_iff_busy?]
    decide +kernel
  refine ⟨by decide +kernel, hlink, ?_, by decide +kernel⟩
  exact orders_agree hlink [0, 0, 1, 1, 1, 0, 0] [1, 0, 1, 0, 1, 0, 0] hfirst hsecond
    (by decide +kernel) (by decide +kernel)

end Network

end AudioLink
