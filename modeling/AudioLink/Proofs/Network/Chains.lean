import Mathlib.Data.List.Infix
import AudioLink.Proofs.Network.Tokens

/-!
# One chain of firings for each session

Each firing of a session is followed by the next one as long as its loop and its timer are left to
themselves, whatever came before the session, whatever other nodes send and however the steps of the
loop, of the thread of the timer and of the clock are interleaved. There is never a second chain
beside it, although firings and messages of earlier sessions may still be on their way.
-/

namespace AudioLink

/-- Whether an action leaves the engine of node `i` to its loop, and its firings to its timer. -/
def Action.spares (i : Nat) : Action → Prop
  | .post j command | .send j command => j = i → command.generation? = none
  | .enter j _ | .clock j _ => j ≠ i
  | _ => True

/-- The messages that the thread of a timer has not read. -/
def Clockwork.unread : Clockwork → List TimerControl
  | manual _ => []
  | thread timer => timer.control

/-- What holds of a node while its loop works, if no more messages are unread than given: the timer
runs on a thread, there is one chain of firings if the engine is started, and no firing in the queue
is older than the messages and the commands in front of it allow. -/
structure Node.Chained (most capacity : Nat) (node : Node) : Prop where
  bounded : node.queue.Bounded
  working : ∀ engine, node.engine = some engine →
    node.queue.isOpen = true ∧ node.queue.capacity = capacity ∧
      ∃ timer, node.clock = .thread timer ∧
        timer.Chained (fun p => most + 2 * (capacity - p)) engine.started node.queue

private theorem Queue.length_pending_le (queue : Queue) (hbounded : queue.Bounded) :
    queue.pending.length ≤ queue.capacity + 1 := by
  rw [Bounded] at hbounded
  rw [pending, List.length_append]
  cases queue.handed <;> simp <;> omega

private theorem Command.ne_fire {command : Command} (h : command.generation? = none)
    (generation : UInt64) :
    command ≠ .fire generation := by
  rintro rfl
  cases h

namespace Node.Chained

variable {most capacity : Nat} {node node' : Node}

private theorem keeps (h : node.Chained most capacity) (hkeeps : node.Keeps node') :
    node'.Chained most capacity := by
  refine ⟨hkeeps.queue.bounded h.bounded, fun engine hengine => ?_⟩
  obtain ⟨hopen, hcapacity, timer, hclock, hchained⟩ := h.working engine (hkeeps.engine ▸ hengine)
  exact ⟨hkeeps.queue.isOpen.trans hopen, hkeeps.queue.capacity.trans hcapacity, timer,
    hkeeps.clock.trans hclock, hchained.grows h.bounded hkeeps.queue⟩

/-- A step of the thread that leaves the queue alone. -/
theorem setClock (h : node.Chained most capacity) (step : ThreadTimer → ThreadTimer)
    (hstep : ∀ {limit started timer queue}, ThreadTimer.Chained limit started timer queue →
      ThreadTimer.Chained limit started (step timer) queue) :
    Node.Chained most capacity (match node.clock with
      | .thread timer => node.setClock (.thread (step timer))
      | .manual _ => node) := by
  cases hclock : node.clock with
  | manual timer => exact h
  | thread timer =>
    refine ⟨h.bounded, fun engine hengine => ?_⟩
    obtain ⟨hopen, hcapacity, timer', hclock', hchained⟩ := h.working engine hengine
    cases hclock.symm.trans hclock'
    exact ⟨hopen, hcapacity, _, rfl, hstep hchained⟩

theorem fire (h : node.Chained most capacity) (hroom : node.clock.unread.length ≤ most) :
    Node.Chained most capacity (match node.clock with
      | .thread timer =>
        let r := timer.fire node.queue
        (node.setQueue r.1).setClock (.thread r.2)
      | .manual _ => node) := by
  cases hclock : node.clock with
  | manual timer => exact h
  | thread timer =>
    refine ⟨(Network.gains_fire timer node.queue).bounded h.bounded, fun engine hengine => ?_⟩
    obtain ⟨hopen, hcapacity, timer', hclock', hchained⟩ := h.working engine hengine
    cases hclock.symm.trans hclock'
    rw [hclock] at hroom
    have hfixed := timer.fixed_fire node.queue
    exact ⟨hfixed.2.trans hopen, hfixed.1.trans hcapacity, _, rfl,
      hchained.fire hopen h.bounded fun p => Nat.le_add_right_of_le hroom⟩

end Node.Chained

namespace Network

variable {most capacity i : Nat} {net : Network}

private theorem chained_step {node : Node} (hnode : net.node? i = some node)
    (h : node.Chained most capacity) (hroom : node.clock.unread.length ≤ most)
    (hmost : most + 2 * (capacity + 1) < 2 ^ 64) :
    ∃ node', (net.step i).node? i = some node' ∧ node'.Chained most capacity := by
  cases hbusy : net.isBusyAt i with
  | false =>
    rw [step_of_idle hbusy]
    exact ⟨node, hnode, h⟩
  | true =>
    obtain ⟨node', engine, hnode', hengine, hpending⟩ := isBusyAt_iff.mp hbusy
    cases hnode.symm.trans hnode'
    obtain ⟨command, queue, htake⟩ := Queue.exists_take? hpending
    obtain ⟨hopen, hcapacity, timer, hclock, hchained⟩ := h.working engine hengine
    obtain ⟨hsame, -, hstill, -⟩ := Queue.fixed_take? htake
    have hbounded := Queue.bounded_take? htake h.bounded
    obtain ⟨events, htrace, htiming⟩ := Station.obey_timekeeping
      (host i node.port node.callbacks) command ⟨engine, net, node.history⟩
    obtain ⟨after, hafter, -, hcalls⟩ := clock_trace htrace hnode
    have hstep : net.step i =
        putLoop i ((net.loopOf node).step (host i node.port node.callbacks)) := by
      rw [step, hnode]
    rw [hstep, WorkLoop.step_of_take? _ hengine htake, putLoop, node?_modify, if_pos rfl]
    dsimp only [loopOf]
    rw [hafter]
    refine ⟨_, rfl, ?_⟩
    by_cases hend : command = .shutdown
    · simp only [if_pos hend]
      exact ⟨hbounded, fun engine' hengine' => by cases hengine'⟩
    · simp only [if_neg hend]
      refine ⟨hbounded, fun engine' hengine' => ?_⟩
      cases hengine'
      rw [hclock] at hroom hcalls
      have hgeneration : (host i node.port node.callbacks).generation net = timer.generation := by
        simp only [host, hnode, hclock]
        rfl
      obtain ⟨timer', hclock', hchained'⟩ := hchained.obey
        (s := ⟨engine, net, node.history⟩) htake hgeneration htiming hcalls.timerCalls
        (by simp only [Clockwork.unread] at hroom; omega) (fun p => by omega)
      refine ⟨hstill.trans hopen, hsame.trans hcapacity, timer', ?_, ?_⟩
      · simp only [Option.isNone_some, Bool.false_eq_true, and_false, if_false]
        exact hclock'
      · refine hchained'.mono fun p hp => ?_
        have hlength := Queue.length_pending_le node.queue h.bounded
        rw [Queue.pending_take? htake, List.length_cons, hcapacity] at hlength
        omega

private theorem chained_act {node : Node} (hnode : net.node? i = some node)
    (h : node.Chained most capacity) (hroom : node.clock.unread.length ≤ most)
    (hmost : most + 2 * (capacity + 1) < 2 ^ 64) {action : Action} (haction : action.spares i) :
    ∃ node', (net.act action).node? i = some node' ∧ node'.Chained most capacity := by
  have hkept {net' : Network} (hkeeps : Keeps i net net') :
      ∃ node', net'.node? i = some node' ∧ node'.Chained most capacity := by
    obtain ⟨node', hnode', hsame⟩ := hkeeps node hnode
    exact ⟨node', hnode', h.keeps hsame⟩
  have hmodify (j : Nat) {change : Node → Node}
      (hchange : (change node).Chained most capacity) :
      ∃ node', (net.modify j change).node? i = some node' ∧ node'.Chained most capacity := by
    rw [node?_modify, hnode]
    split
    · exact ⟨_, rfl, hchange⟩
    · exact ⟨node, rfl, h⟩
  cases action with
  | post j command =>
    rw [act, post, access_eq_modify]
    exact hkept (keeps_modify _ (fun hj node => node.keeps_setQueue
      (Queue.grows_post (Command.ne_fire (haction hj)) _)) net)
  | send j command =>
    rw [act, send, access_eq_modify]
    exact hkept (keeps_modify _ (fun hj node => node.keeps_setQueue
      (Queue.grows_send (Command.ne_fire (haction hj)) _)) net)
  | work j =>
    by_cases hj : j = i
    · subst hj
      exact chained_step hnode h hroom hmost
    · exact hkept (keeps_step hj net)
  | enter j call => exact hkept (keeps_enter haction call net)
  | timerRead j => exact hmodify j (h.setClock _ ThreadTimer.Chained.read)
  | timerExpire j => exact hmodify j (h.setClock _ fun hchained => hchained.expire net.time)
  | timerFire j => exact hmodify j (h.fire hroom)
  | clock j clock => exact hkept (keeps_modify _ (fun hj => absurd hj haction) net)
  | audio j pipeline =>
    exact hkept (keeps_modify (Node.setPipeline pipeline) (fun _ _ => ⟨rfl, rfl, .refl _⟩) net)
  | time time => exact hkept (keeps_of_nodes rfl)
  | detach port => exact hkept (keeps_of_nodes rfl)

/-- The number of messages that the thread of the timer of node `i` has not read. -/
def unread (i : Nat) (net : Network) : Nat :=
  match net.node? i with
  | some node => node.clock.unread.length
  | none => 0

theorem chained_run (actions : List Action) (hmost : most + 2 * (capacity + 1) < 2 ^ 64)
    (hactions : ∀ action ∈ actions, action.spares i)
    (hroom : ∀ done, done <+: actions → (net.run done).unread i ≤ most) {node : Node}
    (hnode : net.node? i = some node) (h : node.Chained most capacity) :
    ∃ node', (net.run actions).node? i = some node' ∧ node'.Chained most capacity := by
  induction actions generalizing net node with
  | nil => exact ⟨node, hnode, h⟩
  | cons action actions ih =>
    rw [List.forall_mem_cons] at hactions
    have hfirst := hroom [] (List.nil_prefix)
    simp only [run, List.foldl_nil, unread, hnode] at hfirst
    obtain ⟨node', hnode', h'⟩ := chained_act hnode h hfirst hmost hactions.1
    refine ih hactions.2 (fun done hdone => ?_) hnode' h'
    exact hroom (action :: done) ((List.prefix_cons_inj action).mpr hdone)

/-- A node has a timer on a thread, only its loop enters its engine, and only its timer posts
firings to it; apart from that anything may happen on the network, in any order. The thread never
has so many unread messages that the generations could come round. While the loop has not ended,
exactly one firing of the present generation is on its way or in the queue if the engine is started,
and none if it is not. If the engine is started, then either the thread has read all messages, or
the last of them is the one that this firing will come from; so no cancellation can take it away. -/
theorem one_chain_per_session (members : List Member) (actions : List Action) (i : Nat)
    (member : Member) (hmember : members[i]? = some member)
    (hclock : member.clock = .thread .initial)
    (hactions : ∀ action ∈ actions, action.spares i)
    (hroom : ∀ done, done <+: actions →
      ((ofMembers members).run done).unread i + 2 * (member.capacity + 1) < 2 ^ 64) :
    ∃ node, ((ofMembers members).run actions).node? i = some node ∧
      ∀ engine, node.engine = some engine →
        ∃ timer, node.clock = .thread timer ∧
          (timer.tokens node.queue).count timer.generation = (if engine.started then 1 else 0) ∧
          (engine.started = true → timer.control = [] ∨
            ∃ older due, timer.control = older ++ [.arm due timer.generation]) := by
  have hnode : (ofMembers members).node? i = some (member.node (i + 1)) := by
    rw [node?_ofMembers, hmember]
    rfl
  have hfresh : (member.node (i + 1)).Chained (2 ^ 64 - 1 - 2 * (member.capacity + 1))
      member.capacity := by
    refine ⟨Nat.zero_le _, fun engine hengine => ⟨rfl, rfl, .initial, hclock, ?_⟩⟩
    cases hengine
    exact ThreadTimer.chained_initial _ rfl
  have hstart := hroom [] List.nil_prefix
  obtain ⟨node, hlast, hchained⟩ := chained_run actions (by omega) hactions
    (fun done hdone => by have := hroom done hdone; omega) hnode hfresh
  refine ⟨node, hlast, fun engine hengine => ?_⟩
  obtain ⟨-, -, timer, htimer, htokens⟩ := hchained.working engine hengine
  exact ⟨timer, htimer, htokens.one, htokens.last⟩

/-- A slave that checks its connection by a timer on a thread. -/
def watchman : Member :=
  { speaker .slave 1 1 with settings := Station.shortSettings, clock := .thread .initial }

def restartedMidway : List Action :=
  [.post 0 (.start 0), .work 0, .timerRead 0, .time 400, .timerExpire 0, .post 0 (.stop 1), .work 0,
    .post 0 (.start 2), .work 0, .timerFire 0]

theorem one_chain_per_session_restarted :
    let net := (ofMembers [watchman]).run restartedMidway
    (∀ action ∈ restartedMidway, action.spares 0) ∧
    (∀ done, done <+: restartedMidway →
      ((ofMembers [watchman]).run done).unread 0 + 2 * (watchman.capacity + 1) < 2 ^ 64) ∧
    ∃ node timer, net.node? 0 = some node ∧ node.clock = .thread timer ∧
      timer.control = [.cancel, .arm 800 3] ∧ node.queue.pending = [.fire 1] ∧
      timer.generation = 3 ∧ (timer.tokens node.queue).count 3 = 1 := by
  intro net
  have hactions : ∀ action ∈ restartedMidway, action.spares 0 := by
    simp [restartedMidway, Action.spares, Command.generation?]
  have hroom : ∀ done, done <+: restartedMidway →
      ((ofMembers [watchman]).run done).unread 0 + 2 * (watchman.capacity + 1) < 2 ^ 64 := by
    intro done hdone
    have hall : ∀ done ∈ restartedMidway.inits,
        ((ofMembers [watchman]).run done).unread 0 + 2 * (watchman.capacity + 1) < 2 ^ 64 := by
      decide +kernel
    exact hall done ((List.mem_inits done restartedMidway).mpr hdone)
  have hstate : (net.node? 0).map (fun node => (node.engine.map Engine.started, node.clock,
      node.queue.pending)) =
      some (some true, .thread ⟨3, [.cancel, .arm 800 3], .waiting none⟩, [.fire 1]) := by
    decide +kernel
  obtain ⟨node, hnode, hone⟩ := one_chain_per_session [watchman] restartedMidway 0 watchman rfl rfl
    hactions hroom
  rw [show net.node? 0 = some node from hnode, Option.map_some, Option.some_inj, Prod.mk.injEq,
    Prod.mk.injEq, Option.map_eq_some_iff] at hstate
  obtain ⟨⟨engine, hengine, hstarted⟩, hclock, hpending⟩ := hstate
  obtain ⟨timer, htimer, hcount, -⟩ := hone engine hengine
  cases htimer.symm.trans hclock
  rw [hstarted] at hcount
  exact ⟨hactions, hroom, node, _, hnode, hclock, rfl, hpending, rfl, hcount⟩

end Network

end AudioLink
