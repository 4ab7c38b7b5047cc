import AudioLink.Proofs.Link.Sessions
import AudioLink.Proofs.Network.Dispatch

/-!
# Calls to the timer of a node

An engine uses its timer through three calls: it arms, rearms and cancels. A command leads to at
most two of them, and they say whether the engine is started afterwards. The timer of the node takes
these calls and no others, whatever else the engine does to the network at the same time, and what
happens elsewhere on the network reaches a node only as frames behind the commands that it has.
-/

namespace AudioLink

def Event.isTimer : Event → Bool
  | arm _ _ | rearm _ | cancel => true
  | _ => false

private theorem isTimer_of_isAudio {event : Event} (h : event.isAudio = true) :
    event.isTimer = false := by
  cases event <;> simp_all [Event.isAudio, Event.isTimer]

namespace History

def timerCalls (history : List Event) : List Event := history.filter Event.isTimer

@[simp] theorem timerCalls_nil : timerCalls [] = [] := rfl

private theorem timerCalls_append (events history : List Event) :
    timerCalls (events ++ history) = timerCalls events ++ timerCalls history :=
  List.filter_append ..

private theorem timerCalls_eq (history : List Event) :
    timerCalls history = ((resourceCalls history).filter Event.isTimer).reverse := by
  rw [resourceCalls, List.filter_reverse, List.reverse_reverse, List.filter_filter, timerCalls]
  refine List.filter_congr fun event _ => ?_
  cases event <;> rfl

private theorem timerCalls_of_resourceCalls {history calls : List Event}
    (h : resourceCalls history = calls) :
    timerCalls history = (calls.filter Event.isTimer).reverse := by
  rw [timerCalls_eq, h]

end History

open History

namespace Station

variable {W : Type} (host : Host W)

/-- The calls to the timer that a command leads to, the latest first, and whether the engine is
started afterwards. -/
inductive Timekeeping (s : Station W) : Command → List Event → Bool → Prop where
  | untouched {command : Command}
      (h : command = .fire (host.generation s.world) → s.engine.started = false) :
      Timekeeping s command [] s.engine.started
  | unarmed {command : Command} (h : s.engine.started = false) (delay : Nanos)
      (cause : SetupError) : Timekeeping s command [.arm delay (.error cause)] false
  | withdrawn {command : Command} (h : s.engine.started = false) (delay : Nanos) :
      Timekeeping s command [.cancel, .arm delay (.ok ())] false
  | begun {command : Command} (h : s.engine.started = false) (delay : Nanos) :
      Timekeeping s command [.arm delay (.ok ())] true
  | ended {command : Command} (h : s.engine.started = true) : Timekeeping s command [.cancel] false
  | fired (h : s.engine.started = true) (delay : Nanos) :
      Timekeeping s (.fire (host.generation s.world)) [.rearm delay] true

variable {host}

theorem Starting.timekeeping {s : Station W} {outcome : Except SetupError Unit}
    {events : List Event} {engine : Engine} (ticket : Nat) (h : Starting s.engine outcome events engine) :
    Timekeeping host s (.start ticket) (timerCalls events) engine.started := by
  cases h with
  | already h => exact .untouched nofun
  | zeroPeriod h hperiod => exact .untouched nofun
  | unarmed h hperiod cause =>
    rw [h]
    exact .unarmed h _ cause
  | unhooked h hperiod now cause =>
    dsimp only
    rw [h]
    exact .withdrawn h _
  | begun h hperiod now handle => exact .begun h _

theorem Effect.timekeeping {s : Station W} {command : Command} {call : Call} {events : List Event}
    {engine : Engine} (hcall : callOf? command = some call) (h : s.Effect host call events engine) :
    Timekeeping host s command (timerCalls events) engine.started := by
  cases h with
  | ignored h =>
    refine .untouched fun hcommand => ?_
    subst hcommand
    cases hcall
    exact h
  | start h =>
    cases command with
    | start ticket => exact Starting.timekeeping ticket h
    | _ => cases hcall
  | stopped h =>
    have hcalls : timerCalls (.note (.stopped s.role) ::
        ((s.engine.hook.map Event.uninstall).toList ++ (s.partingEvents host ++ [.cancel]))) =
        [.cancel] := by
      rw [← List.singleton_append, timerCalls_append, timerCalls_append, timerCalls_append,
        timerCalls_of_resourceCalls (resourceCalls_of_news (s.news_partingEvents host))]
      cases s.engine.hook <;> rfl
    rw [hcalls]
    exact .ended h
  | fired now h hfiring hsent =>
    have hcommand : command = .fire (host.generation s.world) := by
      cases command with
      | fire generation =>
        cases hcall
        rcases hfiring with hfiring | hfiring <;> cases hfiring
        rfl
      | _ => rcases hfiring with hfiring | hfiring <;> subst hfiring <;> cases hcall
    subst hcommand
    rw [timerCalls_of_resourceCalls (resourceCalls_fired host _ now s hsent)]
    dsimp only
    rw [h]
    exact .fired h _
  | stale h =>
    refine .untouched fun hcommand => ?_
    subst hcommand
    cases hcall
    exact absurd rfl h
  | malformed cause h hrole hframe hdecode =>
    refine .untouched fun hcommand => ?_
    subst hcommand
    cases hcall
  | packet h hrole hcontent hsent =>
    rw [timerCalls_of_resourceCalls (resourceCalls_packet host hsent _ _ _ _)]
    refine .untouched fun hcommand => ?_
    subst hcommand
    cases hcall

/-- What a command does to the surroundings, and to the timer among them. -/
theorem obey_timekeeping (host : Host W) (command : Command) (s : Station W) :
    ∃ events, host.Trace events s.world (s.obey host command).world ∧
      Timekeeping host s command (timerCalls events) (s.obey host command).engine.started := by
  unfold obey
  cases hcall : callOf? command with
  | none => exact ⟨[], .nil s.world, .untouched fun hcommand => by subst hcommand; cases hcall⟩
  | some call =>
    obtain ⟨events, engine, heffect, hengine, -, htrace⟩ := perform_trace host call s
    dsimp only
    rw [hengine]
    exact ⟨events, htrace, heffect.timekeeping hcall⟩

end Station

namespace Clockwork

/-- One call to a timer, with its answer, and what it makes of the timer. Other events leave it
alone. -/
inductive Does : Event → Clockwork → Clockwork → Prop where
  | arm (time : Nat) (delay : Nanos) (clock : Clockwork) :
      Does (.arm delay (clock.arm time delay).1) clock (clock.arm time delay).2
  | rearm (time : Nat) (delay : Nanos) (clock : Clockwork) :
      Does (.rearm delay) clock (clock.rearm time delay)
  | cancel (clock : Clockwork) : Does .cancel clock clock.cancel
  | other {event : Event} (h : event.isTimer = false) (clock : Clockwork) : Does event clock clock

theorem Does.of_arm {delay : Nanos} {result : Except SetupError Unit} {clock clock' : Clockwork}
    (h : Does (.arm delay result) clock clock') :
    ∃ time, result = (clock.arm time delay).1 ∧ clock' = (clock.arm time delay).2 := by
  cases h with
  | arm time _ _ => exact ⟨time, rfl, rfl⟩
  | other h _ => cases h

theorem Does.of_rearm {delay : Nanos} {clock clock' : Clockwork}
    (h : Does (.rearm delay) clock clock') : ∃ time, clock' = clock.rearm time delay := by
  cases h with
  | rearm time _ _ => exact ⟨time, rfl⟩
  | other h _ => cases h

theorem Does.of_cancel {clock clock' : Clockwork} (h : Does .cancel clock clock') :
    clock' = clock.cancel := by
  cases h with
  | cancel _ => rfl
  | other h _ => cases h

/-- A series of calls, the latest first, and what it makes of a timer. -/
inductive Trace : List Event → Clockwork → Clockwork → Prop where
  | nil (clock : Clockwork) : Trace [] clock clock
  | cons {event : Event} {events : List Event} {clock clock' clock'' : Clockwork}
      (h : Trace events clock clock') (hdoes : Does event clock' clock'') :
      Trace (event :: events) clock clock''

theorem Trace.timerCalls {events : List Event} {clock clock' : Clockwork}
    (h : Trace events clock clock') : Trace (timerCalls events) clock clock' := by
  induction h with
  | nil clock => exact .nil clock
  | @cons event events _ _ _ _ hdoes ih =>
    cases htimer : event.isTimer with
    | true =>
      rw [History.timerCalls, List.filter_cons_of_pos htimer]
      exact .cons ih hdoes
    | false =>
      rw [History.timerCalls, List.filter_cons_of_neg (Bool.eq_false_iff.mp htimer)]
      cases hdoes with
      | other _ clock => exact ih
      | _ => cases htimer

end Clockwork

namespace Queue

/-- The second queue holds what the first one does and, behind it, some more commands, none of which
is a firing. -/
structure Grows (queue queue' : Queue) : Prop where
  capacity : queue'.capacity = queue.capacity
  isOpen : queue'.isOpen = queue.isOpen
  bounded : queue.Bounded → queue'.Bounded
  pending : queue.Bounded → ∃ taken : List Command,
    queue'.pending = queue.pending ++ taken ∧ ∀ generation, .fire generation ∉ taken

variable {queue queue' queue'' : Queue}

theorem Grows.refl (queue : Queue) : Grows queue queue :=
  ⟨rfl, rfl, id, fun _ => ⟨[], (List.append_nil _).symm, fun _ => List.not_mem_nil⟩⟩

theorem Grows.trans (h : Grows queue queue') (h' : Grows queue' queue'') : Grows queue queue'' where
  capacity := h'.capacity.trans h.capacity
  isOpen := h'.isOpen.trans h.isOpen
  bounded hbounded := h'.bounded (h.bounded hbounded)
  pending hbounded := by
    obtain ⟨first, hfirst, hnone⟩ := h.pending hbounded
    obtain ⟨second, hsecond, hnone'⟩ := h'.pending (h.bounded hbounded)
    refine ⟨first ++ second, ?_, fun generation hmem => ?_⟩
    · rw [hsecond, hfirst, List.append_assoc]
    · rcases List.mem_append.mp hmem with hmem | hmem
      · exact hnone generation hmem
      · exact hnone' generation hmem

private theorem grows_of_accepts {command : Command}
    (hcommand : ∀ generation, command ≠ .fire generation) (h : queue.Accepts command queue') :
    Grows queue queue' where
  capacity := h.fixed.1
  isOpen := h.fixed.2.2.1
  bounded := h.bounded
  pending hbounded :=
    ⟨[command], h.pending hbounded, fun generation hmem =>
      hcommand generation (List.mem_singleton.mp hmem).symm⟩

theorem grows_post {command : Command} (hcommand : ∀ generation, command ≠ .fire generation)
    (queue : Queue) : Grows queue (queue.post command).2 := by
  cases haccepted : (queue.post command).1 with
  | true => exact grows_of_accepts hcommand (accepts_of_post haccepted).2
  | false =>
    rw [post_of_refused haccepted]
    exact ⟨rfl, rfl, id, fun _ => ⟨[], (List.append_nil _).symm, fun _ => List.not_mem_nil⟩⟩

theorem grows_send {command : Command} (hcommand : ∀ generation, command ≠ .fire generation)
    (queue : Queue) : Grows queue (queue.send command).2 := by
  by_cases haccepted : (queue.send command).1 = some true
  · exact grows_of_accepts hcommand (accepts_of_send haccepted).2
  · rw [send_of_refused haccepted]
    exact .refl queue

end Queue

/-- The second node has the engine and the timer of the first one, and a queue that has taken in no
firing. -/
structure Node.Keeps (node node' : Node) : Prop where
  engine : node'.engine = node.engine
  clock : node'.clock = node.clock
  queue : node.queue.Grows node'.queue

theorem Node.Keeps.refl (node : Node) : node.Keeps node := ⟨rfl, rfl, .refl node.queue⟩

theorem Node.Keeps.trans {node node' node'' : Node} (h : node.Keeps node')
    (h' : node'.Keeps node'') : node.Keeps node'' :=
  ⟨h'.engine.trans h.engine, h'.clock.trans h.clock, h.queue.trans h'.queue⟩

theorem Node.keeps_setQueue (node : Node) {queue : Queue} (h : node.queue.Grows queue) :
    node.Keeps (node.setQueue queue) := ⟨rfl, rfl, h⟩

namespace Network

/-- Node `i` keeps its engine and its timer, and gets no firing. -/
def Keeps (i : Nat) (net net' : Network) : Prop :=
  ∀ node, net.node? i = some node → ∃ node', net'.node? i = some node' ∧ node.Keeps node'

variable {i j port : Nat} {callbacks : Callbacks} {net net' net'' : Network}

theorem Keeps.refl (i : Nat) (net : Network) : Keeps i net net :=
  fun node hnode => ⟨node, hnode, .refl node⟩

theorem Keeps.trans (h : Keeps i net net') (h' : Keeps i net' net'') : Keeps i net net'' := by
  intro node hnode
  obtain ⟨node', hnode', hkeeps⟩ := h node hnode
  obtain ⟨node'', hnode'', hkeeps'⟩ := h' node' hnode'
  exact ⟨node'', hnode'', hkeeps.trans hkeeps'⟩

theorem keeps_of_nodes (h : net'.nodes = net.nodes) : Keeps i net net' := by
  intro node hnode
  refine ⟨node, ?_, .refl node⟩
  rw [node?, h]
  exact hnode

theorem keeps_modify (change : Node → Node) (h : j = i → ∀ node : Node, node.Keeps (change node))
    (net : Network) : Keeps i net (net.modify j change) := by
  intro node hnode
  rw [node?_modify]
  split
  · rename_i hj
    exact ⟨change node, by rw [hnode]; rfl, h hj node⟩
  · exact ⟨node, hnode, .refl node⟩

private theorem keeps_offer (frame : Bytes) (ports : List Port) (net : Network) :
    Keeps i net (net.offer frame ports).2 := by
  induction ports generalizing net with
  | nil => exact .refl i net
  | cons port ports ih =>
    have hpost : Keeps i net (net.post port.node (.frame frame)).2 := by
      rw [post, access_eq_modify]
      exact keeps_modify _
        (fun _ node => node.keeps_setQueue (Queue.grows_post (fun _ h => by cases h) _)) net
    exact hpost.trans (ih _)

private theorem keeps_transmit (port : Nat) (frame : Bytes) (net : Network) :
    Keeps i net (net.transmit port frame).2 := by
  unfold transmit
  split
  · exact (keeps_offer frame _ net).trans (keeps_of_nodes rfl)
  · exact .refl i net

private theorem keeps_does {event : Event} (hj : j ≠ i)
    (h : (host j port callbacks).Does event net net') :
    Keeps i net net' := by
  have hmodify (change : Node → Node) : Keeps i net (net.modify j change) :=
    keeps_modify change (fun h => absurd h hj) net
  cases deed_of_does h with
  | arm | rearm | cancel | audio => exact hmodify _
  | transmit frame => exact keeps_transmit port frame net
  | install | uninstall => exact keeps_of_nodes rfl
  | clock | note => exact .refl i net

private theorem keeps_trace {events : List Event} (hj : j ≠ i)
    (h : (host j port callbacks).Trace events net net') : Keeps i net net' := by
  induction h with
  | nil net => exact .refl i net
  | cons _ hdoes ih => exact ih.trans (keeps_does hj hdoes)

private theorem keeps_putLoop {events : List Event} {l : WorkLoop Network} (hj : j ≠ i)
    (h : (host j port callbacks).Trace events net l.world) : Keeps i net (putLoop j l) :=
  (keeps_trace hj h).trans (keeps_modify _ (fun h => absurd h hj) l.world)

theorem keeps_step (hj : j ≠ i) (net : Network) : Keeps i net (net.step j) := by
  unfold step
  split
  · exact .refl i net
  · rename_i node _
    obtain ⟨events, htrace⟩ :=
      WorkLoop.trace_step (host j node.port node.callbacks) (net.loopOf node)
    exact keeps_putLoop hj htrace

theorem keeps_enter (hj : j ≠ i) (call : Call) (net : Network) :
    Keeps i net (net.enter j call) := by
  unfold enter
  split
  · exact .refl i net
  · split
    · exact .refl i net
    · rename_i node _ _ engine _
      obtain ⟨events, -, -, -, -, htrace⟩ := Station.perform_trace
        (host j node.port node.callbacks) call ⟨engine, net, node.history⟩
      exact keeps_putLoop hj htrace

private theorem clock_does {event : Event} (h : (host i port callbacks).Does event net net')
    {node : Node} (hnode : net.node? i = some node) :
    ∃ node', net'.node? i = some node' ∧ node'.engine = node.engine ∧
      Clockwork.Does event node.clock node'.clock := by
  have hmodify (change : Node → Node) :
      (net.modify i change).node? i = some (change node) := by
    rw [node?_modify, if_pos rfl, hnode]
    rfl
  cases deed_of_does h with
  | arm delay =>
    refine ⟨node.setClock (node.clock.arm net.time delay).2, hmodify _, rfl, ?_⟩
    simp only [host, access, hnode]
    exact .arm net.time delay node.clock
  | rearm delay =>
    exact ⟨node.setClock (node.clock.rearm net.time delay), hmodify _, rfl, .rearm _ delay _⟩
  | cancel => exact ⟨node.setClock node.clock.cancel, hmodify _, rfl, .cancel node.clock⟩
  | audio haudio => exact ⟨_, hmodify _, rfl, .other (isTimer_of_isAudio haudio) node.clock⟩
  | transmit frame =>
    obtain ⟨node', hnode', hkeeps⟩ := keeps_transmit port frame net node hnode
    refine ⟨node', hnode', hkeeps.engine, ?_⟩
    rw [hkeeps.clock]
    exact .other rfl node.clock
  | install | uninstall | clock | note =>
    exact ⟨node, hnode, rfl, .other rfl node.clock⟩

theorem clock_trace {events : List Event} (h : (host i port callbacks).Trace events net net')
    {node : Node} (hnode : net.node? i = some node) :
    ∃ node', net'.node? i = some node' ∧ node'.engine = node.engine ∧
      Clockwork.Trace events node.clock node'.clock := by
  induction h with
  | nil net => exact ⟨node, hnode, rfl, .nil node.clock⟩
  | cons _ hdoes ih =>
    obtain ⟨middle, hmiddle, hsame, htrace⟩ := ih hnode
    obtain ⟨node', hnode', hsame', hlast⟩ := clock_does hdoes hmiddle
    exact ⟨node', hnode', hsame'.trans hsame, .cons htrace hlast⟩

end Network

end AudioLink
