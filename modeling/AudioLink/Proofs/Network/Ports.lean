import AudioLink.Proofs.Link.Sessions
import AudioLink.Proofs.Network.Dispatch
import AudioLink.Proofs.Network.Work

/-!
# Ports of a growing network

A network can be built up as it goes: nodes come with their ports, engines are given to nodes and
dropped again, ports are added and taken away. An engine touches no port but its own, and that one
only when it is started or stopped, so there are few things that an operation can do to the ports
and to the engines on them.
-/

namespace AudioLink

def Event.isHooking : Event → Bool
  | install _ _ | uninstall _ => true
  | _ => false

private theorem Event.isHooking_of_resourceCalls {events : List Event}
    (h : ∀ event ∈ resourceCalls events, event.isHooking = false) :
    ∀ event ∈ events, event.isHooking = false := by
  refine forall_of_resourceCalls (fun event hother => ?_) h
  cases event with
  | install _ _ | uninstall _ => cases hother
  | _ => rfl

namespace Segment

def refilter (id : Nat) (filter : Option FrameFilter) (ports : List Port) : List Port :=
  ports.map fun port => if port.id = id then { port with filter } else port

theorem ids_refilter (id : Nat) (filter : Option FrameFilter) (ports : List Port) :
    (refilter id filter ports).map Port.id = ports.map Port.id := by
  rw [refilter, List.map_map]
  refine List.map_congr_left fun port _ => ?_
  rw [Function.comp_apply]
  split <;> rfl

theorem mem_refilter {id : Nat} {filter : Option FrameFilter} {ports : List Port} {port : Port}
    (h : port ∈ refilter id filter ports) :
    port.id = id ∧ port.filter = filter ∨ port.id ≠ id ∧ port ∈ ports := by
  obtain ⟨before, hbefore, rfl⟩ := List.mem_map.mp h
  split
  · rename_i hid
    exact .inl ⟨hid, rfl⟩
  · rename_i hid
    exact .inr ⟨hid, hbefore⟩

theorem isAttached_iff {id : Nat} {segment : Segment} :
    segment.isAttached id = true ↔ id ∈ segment.ports.map Port.id := by
  simp [isAttached]

theorem refilter_of_detached {id : Nat} {segment : Segment} (h : segment.isAttached id = false)
    (filter : Option FrameFilter) : refilter id filter segment.ports = segment.ports := by
  refine (List.map_congr_left fun port hport => ?_).trans (List.map_id _)
  refine if_neg fun hid => ?_
  have hattached : segment.isAttached id = true :=
    isAttached_iff.mpr (hid ▸ List.mem_map_of_mem hport)
  rw [h] at hattached
  cases hattached

theorem install_of_detached {id : Nat} {segment : Segment} (h : segment.isAttached id = false)
    (filter : FrameFilter) :
    segment.install id filter =
      (.error (.hookUnavailable ("port " ++ toString id ++ " detached")), segment) := by
  have hnone : segment.port? id = none := by simpa [port?, isAttached] using h
  rw [install, hnone]

private theorem ports_install (id : Nat) (filter : FrameFilter) (segment : Segment) :
    (segment.install id filter).2.lastId = segment.lastId ∧
      (∀ handle, (segment.install id filter).1 = .ok handle → handle = id ∧
        (segment.install id filter).2.ports = refilter id (some filter) segment.ports) ∧
      ∀ cause, (segment.install id filter).1 = .error cause →
        (segment.install id filter).2.ports = segment.ports := by
  have hrefused (cause : SetupError) (handle : Handle) :
      (Except.error cause : Except SetupError Handle) ≠ .ok handle := nofun
  unfold install
  split
  · exact ⟨rfl, fun _ h => absurd h (hrefused _ _), fun _ _ => rfl⟩
  · split
    · exact ⟨rfl, fun _ h => absurd h (hrefused _ _), fun _ _ => rfl⟩
    · exact ⟨rfl, fun _ h => ⟨(Except.ok.inj h).symm, rfl⟩,
        fun _ h => absurd h.symm (hrefused _ _)⟩

end Segment

namespace Network

/-- The second network has the ports of the first one. -/
structure SamePorts (net net' : Network) : Prop where
  ports : net'.segment.ports = net.segment.ports
  lastId : net'.segment.lastId = net.segment.lastId

theorem SamePorts.trans {net net' net'' : Network} (h : SamePorts net net')
    (h' : SamePorts net' net'') : SamePorts net net'' :=
  ⟨h'.ports.trans h.ports, h'.lastId.trans h.lastId⟩

theorem segment_offer (frame : Bytes) (ports : List Port) (net : Network) :
    (net.offer frame ports).2.segment = net.segment := by
  induction ports generalizing net with
  | nil => rfl
  | cons port ports ih =>
    refine (ih (net.post port.node (.frame frame)).2).trans ?_
    rw [post, access_eq_modify]
    rfl

theorem samePorts_transmit (port : Nat) (frame : Bytes) (net : Network) :
    SamePorts net (net.transmit port frame).2 := by
  unfold transmit
  split
  · dsimp only
    rw [segment_offer]
    exact ⟨rfl, rfl⟩
  · exact ⟨rfl, rfl⟩

theorem samePorts_access {α : Type} (i : Nat) (fallback : α) (use : Node → α × Node)
    (net : Network) : SamePorts net (net.access i fallback use).2 := by
  rw [access_eq_modify]
  exact ⟨rfl, rfl⟩

section Calls

variable {i port : Nat} {callbacks : Callbacks} {net net' : Network}

theorem samePorts_does {event : Event} (h : (host i port callbacks).Does event net net')
    (hquiet : event.isHooking = false) : SamePorts net net' := by
  cases deed_of_does h with
  | transmit frame => exact samePorts_transmit port frame net
  | install | uninstall => cases hquiet
  | _ => exact ⟨rfl, rfl⟩

private theorem samePorts_trace {events : List Event}
    (h : (host i port callbacks).Trace events net net')
    (hquiet : ∀ event ∈ events, event.isHooking = false) : SamePorts net net' := by
  induction h with
  | nil net => exact ⟨rfl, rfl⟩
  | cons _ hdoes ih =>
    rw [List.forall_mem_cons] at hquiet
    exact (ih hquiet.2).trans (samePorts_does hdoes hquiet.1)

private theorem trace_around {event : Event} {first last : List Event}
    (h : (host i port callbacks).Trace (last ++ event :: first) net net')
    (hfirst : ∀ event ∈ first, event.isHooking = false)
    (hlast : ∀ event ∈ last, event.isHooking = false) :
    ∃ w w', SamePorts net w ∧ (host i port callbacks).Does event w w' ∧ SamePorts w' net' := by
  obtain ⟨w', hbefore, hafter⟩ := h.split
  obtain _ | @⟨_, _, _, w, _, hbefore, hdoes⟩ := hbefore
  exact ⟨w, w', samePorts_trace hbefore hfirst, hdoes, samePorts_trace hafter hlast⟩

private theorem trace_install {filter : FrameFilter} {result : Except SetupError Handle}
    (first last : List Event)
    (h : (host i port callbacks).Trace (last ++ .install filter result :: first) net net')
    (hfirst : ∀ event ∈ first, event.isHooking = false)
    (hlast : ∀ event ∈ last, event.isHooking = false) :
    net'.segment.lastId = net.segment.lastId ∧
      (∀ handle, result = .ok handle → handle = port ∧
        net'.segment.ports = Segment.refilter port (some filter) net.segment.ports) ∧
      ∀ cause, result = .error cause → net'.segment.ports = net.segment.ports := by
  obtain ⟨w, w', hbefore, hdoes, hafter⟩ := trace_around h hfirst hlast
  cases hdoes
  have hinstall := Segment.ports_install port Frame.hasDiscriminator w.segment
  rw [hafter.ports, hafter.lastId, ← hbefore.ports, ← hbefore.lastId]
  exact hinstall

private theorem trace_uninstall {handle : Handle} (first last : List Event)
    (h : (host i port callbacks).Trace (last ++ .uninstall handle :: first) net net')
    (hfirst : ∀ event ∈ first, event.isHooking = false)
    (hlast : ∀ event ∈ last, event.isHooking = false) :
    net'.segment.lastId = net.segment.lastId ∧
      net'.segment.ports = Segment.refilter handle none net.segment.ports := by
  obtain ⟨w, w', hbefore, hdoes, hafter⟩ := trace_around h hfirst hlast
  cases hdoes
  rw [hafter.ports, hafter.lastId, ← hbefore.ports, ← hbefore.lastId]
  exact ⟨rfl, rfl⟩

end Calls

/-- An engine that is started holds the hook of its port, and one that is not holds none. -/
def Holds (port : Nat) (engine : Engine) : Prop :=
  engine.hook = if engine.started then some port else none

/-- What an entry of the engine on a port does to the ports: nothing, or it changes the filter of
its own one together with its being started. -/
inductive Rehook (port : Nat) (s s' : Station Network) : Prop where
  | kept (hports : SamePorts s.world s'.world) (hstarted : s'.engine.started = s.engine.started)
      (hholds : Holds port s'.engine)
  | changed (filter : Option FrameFilter)
      (hports : s'.world.segment.ports = Segment.refilter port filter s.world.segment.ports)
      (hlastId : s'.world.segment.lastId = s.world.segment.lastId)
      (hfilter : filter.isSome = s'.engine.started) (hholds : Holds port s'.engine)

theorem perform_rehook (i : Nat) {port : Nat} (callbacks : Callbacks) (call : Call)
    (s : Station Network) (hholds : Holds port s.engine) :
    Rehook port s (s.perform (host i port callbacks) call).2 := by
  obtain ⟨events, engine, heffect, hengine, -, htrace⟩ :=
    Station.perform_trace (host i port callbacks) call s
  have hkept (hquiet : ∀ event ∈ events, event.isHooking = false)
      (hstarted : engine.started = s.engine.started) (hhook : engine.hook = s.engine.hook) :
      Rehook port s (s.perform (host i port callbacks) call).2 := by
    refine .kept (samePorts_trace htrace hquiet) (hengine ▸ hstarted) ?_
    rw [Holds, hengine, hstarted, hhook]
    exact hholds
  cases heffect with
  | ignored _ => exact hkept (by simp) rfl rfl
  | stale _ => exact hkept (by simp [Event.isHooking]) rfl rfl
  | malformed _ _ _ _ _ => exact hkept (by simp [Event.isHooking]) rfl rfl
  | packet _ _ _ hsent =>
    refine hkept (Event.isHooking_of_resourceCalls ?_) rfl rfl
    simp [Station.resourceCalls_packet _ hsent]
  | fired now _ _ hsent =>
    refine hkept (Event.isHooking_of_resourceCalls ?_) rfl rfl
    simp [Station.resourceCalls_fired _ _ now s hsent, Event.isHooking]
  | start hstart =>
    cases hstart with
    | already _ => exact hkept (by simp) rfl rfl
    | zeroPeriod _ _ => exact hkept (by simp [Event.isHooking]) rfl rfl
    | unarmed _ _ cause => exact hkept (by simp [Event.isHooking]) rfl rfl
    | unhooked h hperiod now cause =>
      obtain ⟨hlastId, -, hports⟩ := trace_install [_, _] [_, _] htrace
        (by simp [Event.isHooking]) (by simp [Event.isHooking])
      exact .kept ⟨hports cause rfl, hlastId⟩ (by rw [hengine])
        (by rw [Holds, hengine]; exact hholds)
    | begun h hperiod now handle =>
      obtain ⟨hlastId, hok, -⟩ := trace_install [_, _] [_] htrace
        (by simp [Event.isHooking]) (by simp [Event.isHooking])
      obtain ⟨rfl, hports⟩ := hok handle rfl
      exact .changed _ hports hlastId (by rw [hengine]; rfl) (by rw [Holds, hengine]; rfl)
  | stopped h =>
    have hhook : s.engine.hook = some port := by
      rw [Holds, h] at hholds
      exact hholds
    rw [hhook] at htrace
    have hparting : ∀ event ∈ s.partingEvents (host i port callbacks) ++ [.cancel],
        event.isHooking = false := by
      rw [List.forall_mem_append]
      refine ⟨Event.isHooking_of_resourceCalls ?_, by simp [Event.isHooking]⟩
      simp [resourceCalls_of_news (s.news_partingEvents _)]
    obtain ⟨hlastId, hports⟩ :=
      trace_uninstall _ [_] htrace hparting (by simp [Event.isHooking])
    exact .changed none hports hlastId (by rw [hengine]; rfl) (by rw [Holds, hengine]; rfl)

end Network

namespace Node

def seat (node : Node) : Nat × Option Engine := (node.port, node.engine)

def isStarted (node : Node) : Bool := node.engine.any Engine.started

end Node

/-- One thing that can happen to a network that is built up as it goes. -/
inductive Operation where
  | join (capacity : Nat)
  | attach (i : Nat)
  | spawn (i : Nat) (settings : Settings) (callbacks : Callbacks) (supply : Supply)
      (clock : Clockwork)
  | drop (i : Nat)
  | abandon (i : Nat)
  | transmit (port : Nat) (frame : Bytes)
  | act (action : Action)

namespace Network

def drop (i : Nat) (net : Network) : Network :=
  match net.node? i with
  | none => net
  | some node =>
    match node.engine with
    | none => net
    | some engine =>
      let s : Station Network := ⟨engine, net, node.history⟩
      let s := s.stop (host i node.port node.callbacks)
      putLoop i ⟨node.queue, none, s.world, s.history, node.replies⟩

def operate (net : Network) : Operation → Network
  | .join capacity => (net.join capacity).2
  | .attach i => { net with segment := (net.segment.attach i).2 }
  | .spawn i settings callbacks supply clock =>
    if (net.engine? i).isSome then net else net.spawn i settings callbacks supply clock
  | .drop i => net.drop i
  | .abandon i => net.abandon i
  | .transmit port frame => (net.transmit port frame).2
  | .act action => net.act action

def operateAll (operations : List Operation) (net : Network) : Network :=
  operations.foldl operate net

def seats (net : Network) : List (Nat × Option Engine) := net.nodes.map Node.seat

private theorem blind_seat : Blind Node.seat := ⟨fun _ _ => rfl, fun _ _ => rfl, fun _ _ => rfl⟩

/-- All that an operation can do to the ports of a segment and to the engines on them. -/
inductive Shift (net net' : Network) : Prop where
  | quiet (hports : SamePorts net net') (hseats : net'.seats = net.seats)
  | attached (i : Nat)
      (hports : net'.segment.ports = net.segment.ports ++ [⟨net.segment.lastId + 1, i, none⟩])
      (hlastId : net'.segment.lastId = net.segment.lastId + 1)
      (hseats : net'.seats = net.seats ∨
        net'.seats = net.seats ++ [(net.segment.lastId + 1, none)])
  | detached (id : Nat)
      (hports : net'.segment.ports = net.segment.ports.filter fun port => port.id ≠ id)
      (hlastId : net'.segment.lastId = net.segment.lastId) (hseats : net'.seats = net.seats)
  | reseated (i port : Nat) (before after : Option Engine)
      (hseat : net.seats[i]? = some (port, before)) (hports : SamePorts net net')
      (hseats : net'.seats = net.seats.set i (port, after))
      (hstarted : after.any Engine.started = before.any Engine.started)
      (hholds : ∀ engine, after = some engine → Holds port engine)
  | rehooked (i port : Nat) (before after : Option Engine) (filter : Option FrameFilter)
      (hseat : net.seats[i]? = some (port, before))
      (hports : net'.segment.ports = Segment.refilter port filter net.segment.ports)
      (hlastId : net'.segment.lastId = net.segment.lastId)
      (hseats : net'.seats = net.seats.set i (port, after))
      (hstarted : filter.isSome = after.any Engine.started)
      (hholds : ∀ engine, after = some engine → Holds port engine)

private theorem seats_modify (i : Nat) {change : Node → Node}
    (reseat : Nat × Option Engine → Nat × Option Engine)
    (h : ∀ node : Node, (change node).seat = reseat node.seat) {seat : Nat × Option Engine}
    {net : Network} (hseat : net.seats[i]? = some seat) :
    (net.modify i change).seats = net.seats.set i (reseat seat) := by
  apply List.ext_getElem?
  intro j
  rw [List.getElem?_set]
  split
  · rename_i hij
    subst hij
    rw [if_pos (List.getElem?_eq_some_iff.mp hseat).1]
    rw [seats, List.getElem?_map] at hseat ⊢
    obtain ⟨node, hnode, rfl⟩ := Option.map_eq_some_iff.mp hseat
    simp only [modify, List.getElem?_modify, if_pos, hnode]
    exact congrArg some (h node)
  · rename_i hij
    simp only [seats, modify, List.getElem?_map, List.getElem?_modify, if_neg hij]
    cases net.nodes[j]? <;> rfl

private theorem seat_of_node? {i : Nat} {node : Node} {net : Network}
    (h : net.node? i = some node) :
    net.seats[i]? = some node.seat := by
  rw [seats, List.getElem?_map, show net.nodes[i]? = some node from h]
  rfl

private theorem shift_modify (i : Nat) {change : Node → Node}
    (h : ∀ node, Node.seat (change node) = node.seat) (net : Network) :
    Shift net (net.modify i change) :=
  .quiet ⟨rfl, rfl⟩ (view_modify i h net)

private theorem shift_putLoop {i : Nat} {node : Node} {engine : Engine} {net : Network}
    {s : Station Network} {after : Option Engine} (hnode : net.node? i = some node)
    (hengine : node.engine = some engine)
    (hrehook : Rehook node.port ⟨engine, net, node.history⟩ s) (hseats : s.world.seats = net.seats)
    (hafter : after = some s.engine ∨ after = none ∧ s.engine.started = false) (queue : Queue)
    (replies : List (Nat × Reply)) :
    Shift net (putLoop i ⟨queue, after, s.world, s.history, replies⟩) := by
  have hseat := seat_of_node? hnode
  have hreseat : (putLoop i ⟨queue, after, s.world, s.history, replies⟩).seats =
      net.seats.set i (node.port, after) := by
    rw [← hseats] at hseat ⊢
    exact seats_modify i (fun seat => (seat.1, after)) (fun _ => rfl) hseat
  rw [Node.seat, hengine] at hseat
  have hstarted : after.any Engine.started = s.engine.started := by
    rcases hafter with rfl | ⟨rfl, hended⟩
    · rfl
    · rw [hended]
      rfl
  have hholds (hholds : Holds node.port s.engine) (engine : Engine) (h : after = some engine) :
      Holds node.port engine := by
    rcases hafter with rfl | ⟨rfl, -⟩
    · cases h
      exact hholds
    · cases h
  cases hrehook with
  | kept hports hsame hheld =>
    exact .reseated i node.port (some engine) after hseat ⟨hports.ports, hports.lastId⟩ hreseat
      (hstarted.trans hsame) (hholds hheld)
  | changed filter hports hlastId hfilter hheld =>
    exact .rehooked i node.port (some engine) after filter hseat hports hlastId hreseat
      (hfilter.trans hstarted.symm) (hholds hheld)

/-- Every engine holds the hook of its port while it is started. -/
def Held (net : Network) : Prop :=
  ∀ port engine, (port, some engine) ∈ net.seats → Holds port engine

theorem Held.of_node? {i : Nat} {node : Node} {engine : Engine} {net : Network} (h : net.Held)
    (hnode : net.node? i = some node) (hengine : node.engine = some engine) :
    Holds node.port engine := by
  refine h node.port engine ?_
  have hseat := seat_of_node? hnode
  rw [Node.seat, hengine] at hseat
  exact List.mem_of_getElem? hseat

private theorem seats_perform {i port : Nat} {callbacks : Callbacks} (call : Call)
    (s : Station Network) :
    (s.perform (host i port callbacks) call).2.world.seats = s.world.seats := by
  obtain ⟨events, -, -, -, -, htrace⟩ := Station.perform_trace (host i port callbacks) call s
  exact view_trace blind_seat htrace

private theorem shift_step {net : Network} (h : net.Held) (i : Nat) : Shift net (net.step i) := by
  cases hbusy : net.isBusyAt i with
  | false =>
    rw [step_of_idle hbusy]
    exact .quiet ⟨rfl, rfl⟩ rfl
  | true =>
    obtain ⟨node, engine, hnode, hengine, hpending⟩ := isBusyAt_iff.mp hbusy
    obtain ⟨command, queue, htake⟩ := Queue.exists_take? hpending
    have hholds := h.of_node? hnode hengine
    have hobey : Rehook node.port ⟨engine, net, node.history⟩
          (Station.obey (host i node.port node.callbacks) command ⟨engine, net, node.history⟩) ∧
        (Station.obey (host i node.port node.callbacks) command
          ⟨engine, net, node.history⟩).world.seats = net.seats := by
      unfold Station.obey
      split
      · exact ⟨perform_rehook i node.callbacks _ _ hholds, seats_perform _ _⟩
      · exact ⟨.kept ⟨rfl, rfl⟩ rfl hholds, rfl⟩
    unfold step
    rw [hnode]
    dsimp only
    rw [WorkLoop.step_of_take? (l := net.loopOf node) _ hengine htake]
    dsimp only [loopOf]
    refine shift_putLoop hnode hengine hobey.1 hobey.2 ?_ _ _
    split
    · rename_i hshutdown
      subst hshutdown
      exact .inr ⟨rfl, Station.started_stop _ _⟩
    · exact .inl rfl

private theorem shift_enter {net : Network} (h : net.Held) (i : Nat) (call : Call) :
    Shift net (net.enter i call) := by
  unfold enter
  split
  · exact .quiet ⟨rfl, rfl⟩ rfl
  rename_i node hnode
  split
  · exact .quiet ⟨rfl, rfl⟩ rfl
  rename_i engine hengine
  exact shift_putLoop hnode hengine
    (perform_rehook i node.callbacks call _ (h.of_node? hnode hengine)) (seats_perform call _)
    (.inl rfl) node.queue node.replies

private theorem shift_drop {net : Network} (h : net.Held) (i : Nat) : Shift net (net.drop i) := by
  unfold drop
  split
  · exact .quiet ⟨rfl, rfl⟩ rfl
  rename_i node hnode
  split
  · exact .quiet ⟨rfl, rfl⟩ rfl
  rename_i engine hengine
  exact shift_putLoop hnode hengine
    (perform_rehook i node.callbacks .stop _ (h.of_node? hnode hengine)) (seats_perform .stop _)
    (.inr ⟨rfl, Station.started_stop _ _⟩) node.queue node.replies

private theorem shift_act {net : Network} (h : net.Held) (action : Action) :
    Shift net (net.act action) := by
  cases action with
  | post i command =>
    rw [act, post, access_eq_modify]
    refine shift_modify i (fun node => ?_) net
    rfl
  | send i command =>
    rw [act, send, access_eq_modify]
    refine shift_modify i (fun node => ?_) net
    rfl
  | work i => exact shift_step h i
  | enter i call => exact shift_enter h i call
  | timerRead i | timerExpire i | timerFire i =>
    refine shift_modify i (fun node => ?_) net
    cases node.clock <;> rfl
  | clock i _ | audio i _ =>
    refine shift_modify i (fun node => ?_) net
    rfl
  | time time => exact .quiet ⟨rfl, rfl⟩ rfl
  | detach port => exact .detached port rfl rfl rfl

private theorem shift_spawn {net : Network} {i : Nat} (hnone : net.engine? i = none)
    (settings : Settings) (callbacks : Callbacks) (supply : Supply) (clock : Clockwork) :
    Shift net (net.spawn i settings callbacks supply clock) := by
  cases hnode : net.node? i with
  | none =>
    have hsame : net.spawn i settings callbacks supply clock = net := by
      rw [spawn, modify, List.modify_eq_self (List.getElem?_eq_none_iff.mp hnode)]
    rw [hsame]
    exact .quiet ⟨rfl, rfl⟩ rfl
  | some node =>
    have hseat := seat_of_node? hnode
    have hengine : node.engine = none := by simpa [engine?, hnode] using hnone
    rw [Node.seat, hengine] at hseat
    refine .reseated i node.port none (some (.ofSettings settings)) hseat ⟨rfl, rfl⟩ ?_ rfl ?_
    · exact seats_modify i (fun seat => (seat.1, some (.ofSettings settings))) (fun _ => rfl) hseat
    · intro engine h
      cases h
      rfl

theorem operate_shift {net : Network} (h : net.Held) (operation : Operation) :
    Shift net (net.operate operation) := by
  cases operation with
  | join capacity =>
    refine .attached net.nodes.length rfl rfl (.inr ?_)
    simp only [operate, join, seats, List.map_append]
    rfl
  | attach i => exact .attached i rfl rfl (.inl rfl)
  | spawn i settings callbacks supply clock =>
    rw [operate]
    split
    · exact .quiet ⟨rfl, rfl⟩ rfl
    · rename_i hengine
      exact shift_spawn (by simpa using hengine) settings callbacks supply clock
  | drop i => exact shift_drop h i
  | abandon i =>
    refine shift_modify i (fun node => ?_) net
    rfl
  | transmit port frame =>
    refine .quiet (samePorts_transmit port frame net) ?_
    simp only [operate, transmit]
    split
    · exact view_offer blind_seat.post frame _ net
    · rfl
  | act action => exact shift_act h action

end Network

end AudioLink
