import AudioLink.Proofs.Network.Run

/-!
# What went over a segment

The log of a run has all transmissions in their order, each with the node it came from. What the
engine of a node was handed, followed by what waits in its queue, is part of what the log holds of
the other nodes, in the same order. So every packet goes back to a transmission, and no transmission
is used twice.
-/

namespace AudioLink

/-- The frames in a log that a node sent. -/
def framesFrom (i : Nat) (log : List (Nat × Bytes)) : List Bytes :=
  (log.filter fun entry => entry.1 = i).map Prod.snd

/-- The frames in a log that came from other nodes. -/
def framesToward (i : Nat) (log : List (Nat × Bytes)) : List Bytes :=
  (log.filter fun entry => entry.1 ≠ i).map Prod.snd

private theorem framesFrom_append (i j : Nat) (log : List (Nat × Bytes)) (frames : List Bytes) :
    framesFrom j (log ++ frames.map fun frame => (i, frame)) =
      framesFrom j log ++ if j = i then frames else [] := by
  unfold framesFrom
  rw [List.filter_append, List.map_append, List.filter_map]
  by_cases hij : j = i
  · simp [hij, Function.comp_def]
  · simp [hij, Ne.symm hij, Function.comp_def]

private theorem framesToward_append (i j : Nat) (log : List (Nat × Bytes)) (frames : List Bytes) :
    framesToward j (log ++ frames.map fun frame => (i, frame)) =
      framesToward j log ++ if j = i then [] else frames := by
  unfold framesToward
  rw [List.filter_append, List.map_append, List.filter_map]
  by_cases hij : j = i
  · simp [hij, Function.comp_def]
  · simp [hij, Ne.symm hij, Function.comp_def]

namespace Station

variable {W : Type} {host : Host W} {settings : Settings} {callbacks : Callbacks}
  {fed : List Bytes} {s : Station W}

private theorem perform_books (hserves : host.Serves callbacks) (call : Call)
    (hledger : Ledger settings callbacks fed s.history)
    (haudit : Audit settings fed s.history s.engine) :
    ∃ events, (s.perform host call).2.history = events ++ s.history ∧
      host.Trace events s.world (s.perform host call).2.world ∧
      Ledger settings callbacks (fed ++ call.frame?.toList) (s.perform host call).2.history ∧
      Audit settings (fed ++ call.frame?.toList) (s.perform host call).2.history
        (s.perform host call).2.engine := by
  obtain ⟨events, engine, heffect, hengine, hhistory, htrace⟩ := perform_trace host call s
  rw [hengine, hhistory]
  exact ⟨events, rfl, htrace, heffect.books hserves hledger haudit⟩

private theorem execute_books (hserves : host.Serves callbacks) (dropped : Nat) (command : Command)
    (hledger : Ledger settings callbacks fed s.history)
    (haudit : Audit settings fed s.history s.engine) :
    ∃ events, (s.execute host dropped command).2.history = events ++ s.history ∧
      host.Trace events s.world (s.execute host dropped command).2.world ∧
      Ledger settings callbacks (fed ++ command.frame?.toList)
        (s.execute host dropped command).2.history ∧
      Audit settings (fed ++ command.frame?.toList) (s.execute host dropped command).2.history
        (s.execute host dropped command).2.engine := by
  cases command with
  | fire generation => exact perform_books hserves (.fireTagged generation) hledger haudit
  | frame frame => exact perform_books hserves (.inbound frame) hledger haudit
  | start ticket => exact perform_books hserves .start hledger haudit
  | stop ticket => exact perform_books hserves .stop hledger haudit
  | status ticket =>
    have hsame : fed ++ (Command.status ticket).frame?.toList = fed := List.append_nil fed
    rw [hsame]
    exact ⟨[], rfl, .nil s.world, hledger, haudit⟩
  | shutdown => exact perform_books hserves .stop hledger haudit

end Station

/-- The node whose engine does something in an action. -/
def Action.actor? : Action → Option Nat
  | work i | enter i _ => some i
  | _ => none

namespace Network

/-- The frames that an action puts on the segment, the first one first, each with its sender. -/
def broadcast (action : Action) (net : Network) : List (Nat × Bytes) :=
  match action.actor? with
  | some i =>
    (History.observed Event.carried? (newEvents i net (net.act action))).map fun frame => (i, frame)
  | none => []

/-- The frames that a run puts on the segment, one action after the other. -/
def broadcasts (net : Network) : List Action → List (Nat × Bytes)
  | [] => []
  | action :: actions => net.broadcast action ++ (net.act action).broadcasts actions

private theorem host_serves (i port : Nat) (callbacks : Callbacks) :
    (host i port callbacks).Serves callbacks := by
  refine ⟨?_, ?_⟩
  · cases h : callbacks.received <;> simp [host, h]
  · cases h : callbacks.needed <;> simp [host, h]

/-- The books of all nodes agree with each other, over a log of all transmissions and the frames
that each engine was handed. -/
structure Account (members : List Member) (log : List (Nat × Bytes)) (fed : Nat → List Bytes)
    (net : Network) : Prop where
  wired : net.Wired
  size : net.nodes.length = members.length
  books : ∀ i node, net.node? i = some node → ∃ member, members[i]? = some member ∧
    node.callbacks = member.callbacks ∧
    Ledger member.settings member.callbacks (fed i) node.history ∧
    ∀ engine, node.engine = some engine → Audit member.settings (fed i) node.history engine
  medium : ∀ i node, net.node? i = some node →
    (fed i ++ node.queue.frames).Sublist (framesToward i log)
  logged : ∀ i node, net.node? i = some node →
    framesFrom i log = History.observed Event.carried? node.history
  known : ∀ entry ∈ log, entry.1 < members.length

variable {members : List Member} {log : List (Nat × Bytes)} {fed : Nat → List Bytes}
  {net net' : Network}

private theorem Account.carries (h : Account members log fed net) {i : Nat}
    (hcarries : Carries i [] net net') : Account members log fed net' := by
  have hback (j : Nat) (node' : Node) (hnode' : net'.node? j = some node') :
      ∃ node, net.node? j = some node ∧ node.Gains [] node' := by
    obtain ⟨node, hnode, hgains⟩ := hcarries.nodes j node' hnode'
    refine ⟨node, hnode, hgains.mono ?_⟩
    unfold share
    split <;> exact .slnil
  refine ⟨hcarries.wired h.wired, hcarries.size.trans h.size, ?_, ?_, ?_, h.known⟩
  · intro j node' hnode'
    obtain ⟨node, hnode, hgains⟩ := hback j node' hnode'
    rw [hgains.callbacks, hgains.history, hgains.engine]
    exact h.books j node hnode
  · intro j node' hnode'
    obtain ⟨node, hnode, hgains⟩ := hback j node' hnode'
    obtain ⟨taken, htaken, hframes⟩ := hgains.queue.frames (h.wired.bounded j node hnode)
    rw [hframes, List.sublist_nil.mp htaken, List.append_nil]
    exact h.medium j node hnode
  · intro j node' hnode'
    obtain ⟨node, hnode, hgains⟩ := hback j node' hnode'
    rw [hgains.history]
    exact h.logged j node hnode

private theorem Account.stands (h : Account members log fed net) (i : Nat) :
    Account members
      (log ++ (History.observed Event.carried? (newEvents i net net)).map fun frame => (i, frame))
      fed net := by
  rw [newEvents_self, History.observed_nil, List.map_nil, List.append_nil]
  exact h

variable {i : Nat} {node : Node} {frames : List Bytes} {l : WorkLoop Network}

theorem putLoop_self (hwired : net.Wired) (hnode : net.node? i = some node)
    (hcarries : Carries i frames net l.world) {node' : Node}
    (hnode' : (putLoop i l).node? i = some node') :
    node'.port = i + 1 ∧ node'.callbacks = node.callbacks ∧ node'.queue = l.queue ∧
      node'.engine = l.engine ∧ node'.history = l.history := by
  rw [putLoop, node?_modify, if_pos rfl] at hnode'
  obtain ⟨left, hleft, rfl⟩ := Option.map_eq_some_iff.mp hnode'
  obtain ⟨before, hbefore, hgains⟩ := hcarries.nodes i left hleft
  rw [hnode] at hbefore
  cases hbefore
  exact ⟨hgains.port.trans (hwired.port i node hnode), hgains.callbacks, rfl, rfl, rfl⟩

private theorem newEvents_putLoop (hwired : net.Wired) (hnode : net.node? i = some node)
    (hcarries : Carries i frames net l.world) {events : List Event}
    (hhistory : l.history = events ++ node.history) : newEvents i net (putLoop i l) = events := by
  have hsize : i < (putLoop i l).nodes.length := by
    rw [putLoop, modify, List.length_modify, hcarries.size]
    exact (List.getElem?_eq_some_iff.mp hnode).1
  have hafter := List.getElem?_eq_getElem hsize
  obtain ⟨-, -, -, -, hlast⟩ := putLoop_self hwired hnode hcarries hafter
  have hnew : (putLoop i l).historyOf i = events ++ node.history := by
    rw [historyOf, node?, hafter, ← hhistory]
    exact hlast
  have hold : net.historyOf i = node.history := by rw [historyOf, hnode]
  rw [newEvents, hold, hnew, List.length_append, Nat.add_sub_cancel, List.take_left]

theorem putLoop_other (hcarries : Carries i frames net l.world) {j : Nat} (hj : j ≠ i)
    {node' : Node} (hnode' : (putLoop i l).node? j = some node') :
    ∃ before, net.node? j = some before ∧ before.Gains frames node' := by
  rw [putLoop, node?_modify, if_neg (Ne.symm hj)] at hnode'
  have hgains := hcarries.nodes j node' hnode'
  rw [share, if_neg hj] at hgains
  exact hgains

theorem wired_putLoop (hwired : net.Wired) (hnode : net.node? i = some node)
    (hcarries : Carries i frames net l.world) (hbounded : l.queue.Bounded) :
    (putLoop i l).Wired := by
  refine ⟨?_, ?_, (hcarries.wired hwired).wires, (hcarries.wired hwired).nodup⟩
  · intro j node' hnode'
    by_cases hj : j = i
    · subst hj
      exact (putLoop_self hwired hnode hcarries hnode').1
    · obtain ⟨before, hbefore, hgains⟩ := putLoop_other hcarries hj hnode'
      exact hgains.port.trans (hwired.port j before hbefore)
  · intro j node' hnode'
    by_cases hj : j = i
    · subst hj
      rw [(putLoop_self hwired hnode hcarries hnode').2.2.1]
      exact hbounded
    · obtain ⟨before, hbefore, hgains⟩ := putLoop_other hcarries hj hnode'
      exact hgains.queue.bounded (hwired.bounded j before hbefore)

/-- What the loop of node `i` has done while it was handed some frames goes into the account. -/
theorem Account.worked (h : Account members log fed net) (hnode : net.node? i = some node)
    {events : List Event} (hhistory : l.history = events ++ node.history)
    (htrace : (host i (i + 1) node.callbacks).Trace events net l.world)
    (hbounded : l.queue.Bounded)
    (hframes : (frames ++ l.queue.frames).Sublist node.queue.frames)
    {member : Member} (hmember : members[i]? = some member)
    (hcallbacks : node.callbacks = member.callbacks)
    (hledger : Ledger member.settings member.callbacks (fed i ++ frames) l.history)
    (haudit : ∀ engine, l.engine = some engine →
      Audit member.settings (fed i ++ frames) l.history engine) :
    Account members
      (log ++ (History.observed Event.carried? (newEvents i net (putLoop i l))).map
        fun frame => (i, frame))
      (fun j => if j = i then fed j ++ frames else fed j) (putLoop i l) := by
  have hcarries := trace_carries htrace h.wired
  rw [newEvents_putLoop h.wired hnode hcarries hhistory]
  refine ⟨wired_putLoop h.wired hnode hcarries hbounded, ?_, ?_, ?_, ?_, ?_⟩
  · exact (List.length_modify _ _ _).trans (hcarries.size.trans h.size)
  · intro j node' hnode'
    by_cases hj : j = i
    · subst hj
      obtain ⟨-, hsame, -, hengine, hlast⟩ := putLoop_self h.wired hnode hcarries hnode'
      refine ⟨member, hmember, hsame.trans hcallbacks, ?_⟩
      rw [if_pos rfl, hengine, hlast]
      exact ⟨hledger, haudit⟩
    · obtain ⟨before, hbefore, hgains⟩ := putLoop_other hcarries hj hnode'
      rw [if_neg hj, hgains.callbacks, hgains.history, hgains.engine]
      exact h.books j before hbefore
  · intro j node' hnode'
    rw [framesToward_append]
    by_cases hj : j = i
    · subst hj
      rw [if_pos rfl, if_pos rfl, List.append_nil, List.append_assoc,
        (putLoop_self h.wired hnode hcarries hnode').2.2.1]
      exact (hframes.append_left (fed j)).trans (h.medium j node hnode)
    · obtain ⟨before, hbefore, hgains⟩ := putLoop_other hcarries hj hnode'
      obtain ⟨taken, htaken, hqueue⟩ := hgains.queue.frames (h.wired.bounded j before hbefore)
      rw [if_neg hj, if_neg hj, hqueue, ← List.append_assoc]
      exact (h.medium j before hbefore).append htaken
  · intro j node' hnode'
    rw [framesFrom_append]
    by_cases hj : j = i
    · subst hj
      rw [if_pos rfl, (putLoop_self h.wired hnode hcarries hnode').2.2.2.2, hhistory,
        History.observed_append, h.logged j node hnode]
    · obtain ⟨before, hbefore, hgains⟩ := putLoop_other hcarries hj hnode'
      rw [if_neg hj, List.append_nil, hgains.history]
      exact h.logged j before hbefore
  · intro entry hentry
    rcases List.mem_append.mp hentry with hold | hnew
    · exact h.known entry hold
    · obtain ⟨frame, -, rfl⟩ := List.mem_map.mp hnew
      exact (List.getElem?_eq_some_iff.mp hmember).1

/-- There are frames for each engine under which the books agree over a log. -/
def Accounted (members : List Member) (log : List (Nat × Bytes)) (net : Network) : Prop :=
  ∃ fed, Account members log fed net

private theorem accounted_enter (h : Accounted members log net) (i : Nat) {call : Call}
    (hcall : call.frame? = none) :
    Accounted members (log ++ net.broadcast (.enter i call)) (net.enter i call) := by
  obtain ⟨fed, h⟩ := h
  simp only [broadcast, Action.actor?, act]
  unfold enter
  split
  · exact ⟨fed, h.stands i⟩
  rename_i node hnode
  split
  · exact ⟨fed, h.stands i⟩
  rename_i engine hengine
  obtain ⟨member, hmember, hcallbacks, hledger, haudit⟩ := h.books i node hnode
  have hserves := host_serves i (i + 1) member.callbacks
  obtain ⟨events, hhistory, htrace, hledger', haudit'⟩ :=
    Station.perform_books (s := ⟨engine, net, node.history⟩) hserves call hledger
      (haudit engine hengine)
  have hnone : call.frame?.toList = [] := by rw [hcall]; rfl
  rw [h.wired.port i node hnode, hcallbacks]
  refine ⟨_, h.worked hnode hhistory (hcallbacks ▸ htrace) (h.wired.bounded i node hnode)
    (hnone ▸ .refl _) hmember hcallbacks hledger' ?_⟩
  intro engine' hengine'
  cases hengine'
  exact haudit'

private theorem accounted_step (h : Accounted members log net) (i : Nat) :
    Accounted members (log ++ net.broadcast (.work i)) (net.step i) := by
  obtain ⟨fed, h⟩ := h
  simp only [broadcast, Action.actor?, act]
  unfold step
  split
  · exact ⟨fed, h.stands i⟩
  rename_i node hnode
  obtain ⟨member, hmember, hcallbacks, hledger, haudit⟩ := h.books i node hnode
  have hserves := host_serves i (i + 1) member.callbacks
  rw [h.wired.port i node hnode, hcallbacks]
  unfold WorkLoop.step loopOf
  dsimp only
  split
  · rename_i engine command queue hengine htake
    obtain ⟨events, hhistory, htrace, hledger', haudit'⟩ :=
      Station.execute_books (s := ⟨engine, net, node.history⟩) hserves queue.dropped command hledger
        (haudit engine hengine)
    have hframes := Queue.frames_take? htake
    have hbounded := Queue.bounded_take? htake (h.wired.bounded i node hnode)
    split
    · refine ⟨_, h.worked hnode hhistory (hcallbacks ▸ htrace) hbounded (hframes ▸ .refl _)
        hmember hcallbacks hledger' ?_⟩
      intro engine' hengine'
      cases hengine'
    · refine ⟨_, h.worked hnode hhistory (hcallbacks ▸ htrace) hbounded (hframes ▸ .refl _)
        hmember hcallbacks hledger' ?_⟩
      intro engine' hengine'
      cases hengine'
      exact haudit'
  · have hsame : fed i ++ [] = fed i := List.append_nil (fed i)
    rw [← hsame] at hledger haudit
    exact ⟨_, h.worked hnode (List.nil_append node.history).symm (.nil net)
      (h.wired.bounded i node hnode) (.refl _) hmember hcallbacks hledger haudit⟩

private theorem accounted_modify (h : Accounted members log net) (i : Nat) {change : Node → Node}
    (hchange : ∀ node : Node, node.Gains [] (change node)) :
    Accounted members log (net.modify i change) := by
  obtain ⟨fed, h⟩ := h
  exact ⟨fed, h.carries (carries_modify i i change net hchange)⟩

theorem gains_fire (timer : ThreadTimer) (queue : Queue) :
    queue.Gains [] (timer.fire queue).1 := by
  unfold ThreadTimer.fire
  split
  · rename_i generation _
    have hsend : queue.Gains [] (queue.send (.fire generation)).2 :=
      Queue.gains_send (.fire generation) queue
    dsimp only
    split <;> exact hsend
  · exact .refl [] queue

private theorem accounted_detach (h : Accounted members log net) (port : Nat) :
    Accounted members log (net.detach port) := by
  obtain ⟨fed, h⟩ := h
  have hsub : (net.detach port).wires.Sublist net.wires := List.filter_sublist.map _
  refine ⟨fed, ⟨h.wired.port, h.wired.bounded, ?_, ?_⟩, h.size, h.books, h.medium, h.logged,
    h.known⟩
  · intro wire hwire
    exact h.wired.wires wire (hsub.subset hwire)
  · exact h.wired.nodup.sublist (hsub.map _)

private theorem accounted_outside {action : Action} (hframe : action.frame? = none)
    (hactor : action.actor? = none) (h : Accounted members log net) :
    Accounted members log (net.act action) := by
  cases action with
  | work | enter => cases hactor
  | post i command =>
    rw [act, post, access_eq_modify]
    refine accounted_modify h i fun node => node.gains_setQueue ?_
    have hgains := Queue.gains_post command node.queue
    rw [show command.frame? = none from hframe] at hgains
    exact hgains
  | send i command =>
    rw [act, send, access_eq_modify]
    refine accounted_modify h i fun node => node.gains_setQueue ?_
    have hgains := Queue.gains_send command node.queue
    rw [show command.frame? = none from hframe] at hgains
    exact hgains
  | timerRead i =>
    refine accounted_modify h i fun node => ?_
    split
    · exact node.gains_setClock _
    · exact .refl [] node
  | timerExpire i =>
    refine accounted_modify h i fun node => ?_
    split
    · exact node.gains_setClock _
    · exact .refl [] node
  | timerFire i =>
    refine accounted_modify h i fun node => ?_
    split
    · rename_i timer _
      exact (node.gains_setQueue (gains_fire timer node.queue)).trans (Node.gains_setClock _ _)
    · exact .refl [] node
  | clock i clock => exact accounted_modify h i fun node => node.gains_setClock clock
  | audio i pipeline => exact accounted_modify h i fun node => node.gains_setPipeline pipeline
  | time time =>
    obtain ⟨fed, h⟩ := h
    exact ⟨fed, ⟨h.wired.port, h.wired.bounded, h.wired.wires, h.wired.nodup⟩, h.size,
      h.books, h.medium, h.logged, h.known⟩
  | detach port => exact accounted_detach h port

private theorem accounted_act {action : Action} (hframe : action.frame? = none)
    (h : Accounted members log net) :
    Accounted members (log ++ net.broadcast action) (net.act action) := by
  cases hactor : action.actor? with
  | some i =>
    cases action with
    | work i => exact accounted_step h i
    | enter i call => exact accounted_enter h i hframe
    | _ => cases hactor
  | none =>
    rw [broadcast, hactor, List.append_nil]
    exact accounted_outside hframe hactor h

theorem accounted_ofMembers (members : List Member) :
    Accounted members [] (ofMembers members) := by
  have hnode (i : Nat) (node : Node) (h : (ofMembers members).node? i = some node) :
      ∃ member, members[i]? = some member ∧ node = member.node (i + 1) := by
    rw [node?_ofMembers] at h
    obtain ⟨member, hmember, hnode⟩ := Option.map_eq_some_iff.mp h
    exact ⟨member, hmember, hnode.symm⟩
  refine ⟨fun _ => [], ⟨?_, ?_, ?_, ?_⟩, length_ofMembers members, ?_, ?_, ?_, ?_⟩
  · intro i node h
    obtain ⟨member, -, rfl⟩ := hnode i node h
    rfl
  · intro i node h
    obtain ⟨member, -, rfl⟩ := hnode i node h
    exact Nat.zero_le _
  · intro wire hwire
    rw [wires_ofMembers] at hwire
    obtain ⟨i, -, rfl⟩ := List.mem_map.mp hwire
    rfl
  · rw [wires_ofMembers, List.map_map]
    simpa [Function.comp_def] using List.nodup_range
  · intro i node h
    obtain ⟨member, hmember, rfl⟩ := hnode i node h
    refine ⟨member, hmember, rfl, .initial _ _, ?_⟩
    intro engine hengine
    cases hengine
    exact .initial _
  · intro i node h
    obtain ⟨member, -, rfl⟩ := hnode i node h
    exact .slnil
  · intro i node h
    obtain ⟨member, -, rfl⟩ := hnode i node h
    rfl
  · intro entry hentry
    cases hentry

/-- After every run that brings in no frame the books agree with what was transmitted. -/
theorem accounted_run (members : List Member) {actions : List Action}
    (hframes : ∀ action ∈ actions, action.frame? = none) :
    Accounted members ((ofMembers members).broadcasts actions)
      ((ofMembers members).run actions) := by
  have hrun (actions : List Action) : ∀ log net, Accounted members log net →
      (∀ action ∈ actions, action.frame? = none) →
        Accounted members (log ++ net.broadcasts actions) (net.run actions) := by
    induction actions with
    | nil =>
      intro log net h _
      rw [broadcasts, List.append_nil]
      exact h
    | cons action actions ih =>
      intro log net h hframes
      rw [List.forall_mem_cons] at hframes
      rw [broadcasts, ← List.append_assoc]
      exact ih _ (net.act action) (accounted_act hframes.1 h) hframes.2
  exact hrun actions [] _ (accounted_ofMembers members) hframes

end Network

end AudioLink
