import AudioLink.Proofs.Link.Generations
import AudioLink.Proofs.Network.TimerCalls

/-!
# Generations of the timers of nodes

Whether the timer of a node is driven by hand or runs on its thread, its generation moves on with
every arming and every cancellation of its engine, and with nothing else that happens on the
network. So a firing that has stayed in the queue of a node since an earlier session does nothing.
-/

namespace AudioLink

namespace ThreadTimer

@[simp] theorem generation_tell (message : TimerControl) (timer : ThreadTimer) :
    (timer.tell message).generation = timer.generation := by
  unfold tell
  split <;> rfl

@[simp] theorem generation_read (timer : ThreadTimer) :
    timer.read.generation = timer.generation := by
  unfold read
  split <;> rfl

@[simp] theorem generation_expire (now : Nat) (timer : ThreadTimer) :
    (timer.expire now).generation = timer.generation := by
  unfold expire
  split
  · split <;> rfl
  · rfl

@[simp] theorem generation_fire (queue : Queue) (timer : ThreadTimer) :
    (timer.fire queue).2.generation = timer.generation := by
  unfold fire
  split
  · dsimp only
    split <;> rfl
  · rfl

end ThreadTimer

namespace Clockwork

private theorem moves_arm (time : Nat) (delay : Nanos) (clock : Clockwork) :
    (Event.arm delay (clock.arm time delay).1).Moves clock.generation
      (clock.arm time delay).2.generation := by
  cases clock with
  | manual timer =>
    simp only [arm, ManualTimer.arm]
    cases timer.fault with
    | none => rfl
    | some cause => exact .inl rfl
  | thread timer =>
    simp only [arm, ThreadTimer.arm]
    cases timer.thread with
    | ended => exact .inr rfl
    | absent => rfl
    | waiting _ | sending _ => exact ThreadTimer.generation_tell _ _

private theorem generation_rearm (time : Nat) (delay : Nanos) (clock : Clockwork) :
    (clock.rearm time delay).generation = clock.generation := by
  cases clock with
  | manual timer => rfl
  | thread timer => exact ThreadTimer.generation_tell _ _

private theorem generation_cancel (clock : Clockwork) :
    clock.cancel.generation = clock.generation + 1 := by
  cases clock with
  | manual timer => rfl
  | thread timer => exact ThreadTimer.generation_tell _ _

end Clockwork

namespace Network

/-- The generation of the timer of node `i`. -/
def generation? (i : Nat) (net : Network) : Option UInt64 :=
  (net.node? i).map fun node => node.clock.generation

variable {i port : Nat} {callbacks : Callbacks} {net net' : Network}

private theorem generation_host (net : Network) :
    (host i port callbacks).generation net = (net.generation? i).getD 0 := by
  simp only [host, generation?]
  cases net.node? i <;> rfl

private theorem generation?_of_view
    (h : (net'.nodes.map fun node => node.clock.generation) =
      net.nodes.map fun node => node.clock.generation) :
    net'.generation? i = net.generation? i := by
  have hview := congrArg (fun generations => generations[i]?) h
  simp only [List.getElem?_map] at hview
  exact hview

private theorem generation?_modify_self (change : Node → Node) :
    (net.modify i change).generation? i =
      (net.node? i).map fun node => (change node).clock.generation := by
  rw [generation?, node?_modify, if_pos rfl, Option.map_map]
  rfl

private theorem generation?_modify (j : Nat) {change : Node → Node}
    (h : ∀ node, (change node).clock.generation = node.clock.generation) (net : Network) :
    (net.modify j change).generation? i = net.generation? i := by
  refine generation?_of_view (view_modify j ?_ net)
  exact h

private theorem generation?_thread (j : Nat) {change : Node → ThreadTimer → Node}
    (h : ∀ node timer, (change node timer).clock.generation = timer.generation) (net : Network) :
    (net.modify j fun node =>
      match node.clock with
      | .thread timer => change node timer
      | .manual _ => node).generation? i = net.generation? i := by
  refine generation?_modify j ?_ net
  intro node
  cases hclock : node.clock with
  | manual timer => rw [hclock]
  | thread timer => exact h node timer

private theorem generation?_does {event : Event} (h : (host i port callbacks).Does event net net')
    (huntimed : event.isTiming = false) : net'.generation? i = net.generation? i := by
  cases deed_of_does h with
  | arm | cancel => cases huntimed
  | rearm delay => exact generation?_modify i (fun node => node.clock.generation_rearm _ _) net
  | audio =>
    refine generation?_modify i ?_ net
    intro node
    rfl
  | transmit frame =>
    unfold transmit
    split
    · exact generation?_of_view (view_offer (fun _ _ => rfl) frame _ net)
    · rfl
  | install | uninstall | clock | note => rfl

private theorem isSome_generation? (net : Network) :
    (net.generation? i).isSome = (net.node? i).isSome := by
  rw [generation?, Option.isSome_map]

private theorem host_generational (i port : Nat) (callbacks : Callbacks) :
    (host i port callbacks).Generational fun net => (net.node? i).isSome = true := by
  refine ⟨?_, ?_⟩
  · intro event net net' hdoes hpresent
    rw [← isSome_generation?]
    cases htiming : event.isTiming with
    | false =>
      rw [generation?_does hdoes htiming, isSome_generation?]
      exact hpresent
    | true =>
      cases hdoes with
      | arm delay =>
        simp only [host, access_eq_modify]
        rw [generation?_modify_self, Option.isSome_map]
        exact hpresent
      | cancel =>
        simp only [host]
        rw [generation?_modify_self, Option.isSome_map]
        exact hpresent
      | _ => cases htiming
  · intro event net net' hdoes hpresent
    cases htiming : event.isTiming with
    | false =>
      rw [Event.moves_iff_of_untimed htiming, generation_host, generation_host,
        generation?_does hdoes htiming]
    | true =>
      obtain ⟨node, hnode⟩ := Option.isSome_iff_exists.mp hpresent
      have hbefore : (host i port callbacks).generation net = node.clock.generation := by
        rw [generation_host, generation?, hnode]
        rfl
      rw [hbefore, generation_host]
      cases hdoes with
      | arm delay =>
        have hanswer : ((host i port callbacks).arm delay net).1 =
            (node.clock.arm net.time delay).1 := by
          simp only [host, access, hnode]
        rw [hanswer]
        simp only [host, access_eq_modify, generation?_modify_self, hnode]
        exact Clockwork.moves_arm net.time delay node.clock
      | cancel =>
        simp only [host, generation?_modify_self, hnode]
        exact node.clock.generation_cancel
      | _ => cases htiming

end Network

/-- Whether an action neither enters the engine of node `i` nor sets its timer. -/
def Action.passesBy (i : Nat) : Action → Prop
  | work j | enter j _ | clock j _ => j ≠ i
  | _ => True

namespace Network

variable {i port : Nat} {callbacks : Callbacks} {net net' : Network}

theorem Keeps.generation? (h : Keeps i net net') (hpresent : (net.node? i).isSome = true) :
    net'.generation? i = net.generation? i := by
  obtain ⟨node, hnode⟩ := Option.isSome_iff_exists.mp hpresent
  obtain ⟨node', hnode', hkeeps⟩ := h node hnode
  rw [Network.generation?, Network.generation?, hnode, hnode', Option.map_some, Option.map_some,
    hkeeps.clock]

private theorem generation?_act {action : Action} (h : action.passesBy i)
    (hpresent : (net.node? i).isSome = true) :
    (net.act action).generation? i = net.generation? i := by
  cases action with
  | post j command =>
    rw [act, post, access_eq_modify]
    apply generation?_modify
    exact fun _ => rfl
  | send j command =>
    rw [act, send, access_eq_modify]
    apply generation?_modify
    exact fun _ => rfl
  | work j => exact (keeps_step h net).generation? hpresent
  | enter j call => exact (keeps_enter h call net).generation? hpresent
  | timerRead j =>
    apply generation?_thread
    exact fun _ timer => timer.generation_read
  | timerExpire j =>
    apply generation?_thread
    exact fun _ timer => timer.generation_expire _
  | timerFire j =>
    apply generation?_thread
    exact fun node timer => timer.generation_fire node.queue
  | clock j clock => exact (keeps_modify _ (fun hj => absurd hj h) net).generation? hpresent
  | audio j pipeline =>
    apply generation?_modify
    exact fun _ => rfl
  | time time => rfl
  | detach port => rfl

/-- Whatever else happens on a network, the timer of a node keeps its generation. -/
theorem spares_run {actions : List Action} (h : ∀ action ∈ actions, action.passesBy i) :
    (host i port callbacks).Spares (fun net => (net.node? i).isSome = true) (run actions) := by
  intro net hpresent
  dsimp only at hpresent ⊢
  have hrun : (net.run actions).generation? i = net.generation? i := by
    induction actions generalizing net with
    | nil => rfl
    | cons action actions ih =>
      rw [List.forall_mem_cons] at h
      have hfirst := generation?_act h.1 hpresent
      refine (ih h.2 (net.act action) ?_).trans hfirst
      rw [← isSome_generation?, hfirst, isSome_generation?]
      exact hpresent
  rw [generation_host, generation_host, ← isSome_generation?, hrun, isSome_generation?]
  exact ⟨hpresent, rfl⟩

/-- An entry of an engine, after all that happens on the network since the entry before. -/
def interlude (r : List Action × Call) : Turn Network := ⟨run r.1, r.2⟩

private theorem spares_interludes (port : Nat) (callbacks : Callbacks)
    {rounds : List (List Action × Call)} (h : ∀ r ∈ rounds, ∀ action ∈ r.1, action.passesBy i) :
    ∀ t ∈ rounds.map interlude,
      (host i port callbacks).Spares (fun net => (net.node? i).isSome = true) t.before := by
  intro t ht
  obtain ⟨r, hr, rfl⟩ := List.mem_map.mp ht
  exact spares_run (h r hr)

/-- The engine of a node makes its entries, and between them anything happens on the network but
that somebody enters it or sets its timer, which is driven by hand or runs on its thread. Then a
firing has an effect exactly if the engine is started and the firing was armed last. So one that has
stayed in the queue of the node since an earlier session does nothing whenever its turn comes, as
long as the generation has not come round. -/
theorem firings_of_node (port : Nat) (callbacks : Callbacks) (settings : Settings)
    (hpresent : (net.node? i).isSome = true) (past : List (List Action × Call))
    (hpast : ∀ r ∈ past, ∀ action ∈ r.1, action.passesBy i) :
    let host := host i port callbacks
    let first := Station.fresh settings net
    let s := first.run host (past.map interlude)
    let tags := Station.armings host (past.map interlude) first
    (∀ actions generation, (∀ action ∈ actions, action.passesBy i) →
      let found := s.meanwhile (run actions)
      ¬found.Unaffected (found.fireTagged host generation) ↔
        s.engine.started = true ∧ tags.getLast? = some generation) ∧
    ∀ generation ∈ tags, ∀ (more : List (List Action × Call)) actions,
      (∀ r ∈ more, ∀ action ∈ r.1, action.passesBy i) →
      (∀ action ∈ actions, action.passesBy i) →
      Station.advances host (past.map interlude) first +
        Station.advances host (more.map interlude) s < 2 ^ 64 →
      0 < Station.occurrences host Station.renews (more.map interlude) s →
      let found := (s.run host (more.map interlude)).meanwhile (run actions)
      found.Unaffected (found.fireTagged host generation) := by
  intro host first s tags
  have hhost := host_generational i port callbacks
  have hspares := spares_interludes port callbacks hpast
  refine ⟨?_, ?_⟩
  · intro actions generation hactions
    have hcurrent : Station.Current host tags s :=
      Station.current_run hhost _ [] first hpresent hspares fun h => by cases h
    have hlast := Station.present_run hhost _ first hpresent hspares
    exact (hcurrent.affected_iff hlast (spares_run hactions) generation).1
  · intro generation hmem more actions hmore hactions hfew hrenews
    exact Station.unaffected_of_renewed hhost hpresent hspares
      (spares_interludes port callbacks hmore) (spares_run hactions) hmem hfew hrenews

end Network

end AudioLink
