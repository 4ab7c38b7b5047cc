import AudioLink.Network.Handle
import AudioLink.Proofs.Network.Work

/-!
# Callers of a loop

A loop carries out one command after the other and answers those that ask for it, until it comes to
a shutdown. So a caller gets the answer of the loop if no shutdown stands before the command of the
caller in the queue. If there is one, then the caller is told that the loop is closed, provided that
the queue does not keep what it holds when its reader goes.
-/

namespace AudioLink

/-- The commands up to the first shutdown, and with it. -/
def untilShutdown : List Command → List Command
  | [] => []
  | command :: rest => if command = .shutdown then [command] else command :: untilShutdown rest

theorem untilShutdown_of_not_mem {commands : List Command} (h : .shutdown ∉ commands) :
    untilShutdown commands = commands := by
  induction commands with
  | nil => rfl
  | cons command rest ih =>
    rw [List.mem_cons, not_or] at h
    rw [untilShutdown, if_neg (Ne.symm h.1), ih h.2]

theorem untilShutdown_concat {front : List Command} (h : .shutdown ∉ front)
    (behind : List Command) :
    untilShutdown (front ++ .shutdown :: behind) = front ++ [.shutdown] := by
  induction front with
  | nil => rfl
  | cons command rest ih =>
    rw [List.mem_cons, not_or] at h
    rw [List.cons_append, untilShutdown, if_neg (Ne.symm h.1), ih h.2, List.cons_append]

namespace Queue

/-- A command comes to the end of the buffer, or to a reader that waits for it. -/
inductive Accepts (command : Command) (queue : Queue) : Queue → Prop
  | buffered (h : queue.waiting.length < queue.capacity) :
      Accepts command queue { queue with waiting := queue.waiting ++ [command] }
  | handed (hcapacity : queue.capacity = 0) (hattended : queue.attended = true)
      (hhanded : queue.handed = none) :
      Accepts command queue { queue with handed := some command }

section Accepts

variable {command : Command} {queue queue' : Queue}

private theorem accepts_of_accept? (h : queue.accept? command = some queue') :
    queue.Accepts command queue' := by
  unfold accept? at h
  split at h
  · rename_i hspace
    cases h
    exact .buffered (by simpa [hasSpace] using hspace)
  · split at h
    · rename_i hwaits
      cases h
      simp only [readerWaits, Bool.and_eq_true, beq_iff_eq, Option.isNone_iff_eq_none] at hwaits
      exact .handed hwaits.1.1 hwaits.1.2 hwaits.2
    · cases h

theorem accepts_of_post (h : (queue.post command).1 = true) :
    queue.isOpen = true ∧ queue.Accepts command (queue.post command).2 := by
  unfold post at h ⊢
  split
  · rename_i hopen
    cases haccept : queue.accept? command with
    | none => simp [hopen, haccept] at h
    | some queue' => exact ⟨hopen, accepts_of_accept? haccept⟩
  · rename_i hclosed
    simp [hclosed] at h

theorem accepts_of_send (h : (queue.send command).1 = some true) :
    queue.isOpen = true ∧ queue.Accepts command (queue.send command).2 := by
  unfold send at h ⊢
  split
  · rename_i hopen
    cases haccept : queue.accept? command with
    | none => simp [hopen, haccept] at h
    | some queue' => exact ⟨hopen, accepts_of_accept? haccept⟩
  · rename_i hclosed
    simp [hclosed] at h

theorem Accepts.bounded (h : queue.Accepts command queue') (hbounded : queue.Bounded) :
    queue'.Bounded := by
  cases h with
  | buffered hroom =>
    rw [Bounded, List.length_append, List.length_singleton]
    exact hroom
  | handed => exact hbounded

/-- Nothing else changes. -/
theorem Accepts.fixed (h : queue.Accepts command queue') :
    queue'.capacity = queue.capacity ∧ queue'.attended = queue.attended ∧
      queue'.isOpen = queue.isOpen ∧ queue'.dropped = queue.dropped := by
  cases h <;> exact ⟨rfl, rfl, rfl, rfl⟩

theorem Accepts.room (h : queue.Accepts command queue') :
    queue.waiting.length < queue.capacity ∨ queue.attended = true ∧ queue.handed = none := by
  cases h with
  | buffered hroom => exact .inl hroom
  | handed _ hattended hhanded => exact .inr ⟨hattended, hhanded⟩

/-- The command stands behind all others: a queue that has no buffer holds nothing else. -/
theorem Accepts.pending (h : queue.Accepts command queue') (hbounded : queue.Bounded) :
    queue'.pending = queue.pending ++ [command] := by
  cases h with
  | buffered hroom => simp [Queue.pending]
  | handed hcapacity hattended hhanded =>
    have hempty : queue.waiting = [] := by
      rw [Bounded, hcapacity] at hbounded
      exact List.length_eq_zero_iff.mp (Nat.le_zero.mp hbounded)
    simp [Queue.pending, hhanded, hempty]

/-- Without a buffer nothing is accepted while the reader does not wait. -/
theorem post_of_busy (hcapacity : queue.capacity = 0)
    (hbusy : queue.attended = false ∨ queue.handed.isSome) (command : Command) :
    (queue.post command).1 = false := by
  by_contra hposted
  rw [Bool.not_eq_false] at hposted
  obtain ⟨-, haccepts⟩ := accepts_of_post hposted
  rcases haccepts.room with hroom | ⟨hattended, hnone⟩
  · rw [hcapacity] at hroom
    exact absurd hroom (Nat.not_lt_zero _)
  · simp [hattended, hnone] at hbusy

end Accepts

/-- Taking a command changes nothing but what is pending. -/
theorem fixed_take? {command : Command} {queue queue' : Queue}
    (h : queue.take? = some (command, queue')) :
    queue'.capacity = queue.capacity ∧ queue'.attended = queue.attended ∧
      queue'.isOpen = queue.isOpen ∧ queue'.dropped = queue.dropped := by
  unfold take? at h
  split at h
  · cases h
    exact ⟨rfl, rfl, rfl, rfl⟩
  · split at h
    · cases h
    · cases h
      exact ⟨rfl, rfl, rfl, rfl⟩

theorem handed_take? {command : Command} {queue queue' : Queue}
    (h : queue.take? = some (command, queue')) : queue'.handed = none := by
  unfold take? at h
  split at h
  · cases h
    rfl
  · rename_i hnone
    split at h
    · cases h
    · cases h
      exact hnone

theorem isOpen_post (command : Command) (queue : Queue) :
    (queue.post command).2.isOpen = queue.isOpen := by
  unfold post
  split
  · split
    · rename_i haccept
      cases accepts_of_accept? haccept <;> rfl
    · rfl
  · rfl

private theorem send_of_pending {queue : Queue} (hopen : queue.isOpen = true)
    (hattended : queue.attended = true) (hempty : queue.pending = []) (command : Command) :
    (queue.send command).1 = some true := by
  obtain ⟨hhanded, hwaiting⟩ := List.append_eq_nil_iff.mp hempty
  rw [Option.toList_eq_nil_iff] at hhanded
  rcases Nat.eq_zero_or_pos queue.capacity with hcapacity | hcapacity
  · simp [send, accept?, hasSpace, readerWaits, hopen, hattended, hhanded, hcapacity]
  · simp [send, accept?, hasSpace, hopen, hwaiting, hcapacity]

end Queue

namespace Station

variable {W : Type} (host : Host W)

/-- Makes the call that a command stands for; a status command stands for none. -/
def obey (command : Command) (s : Station W) : Station W :=
  match callOf? command with
  | some call => (s.perform host call).2
  | none => s

/-- What is answered to a command: the result of a start, that a stop is done, or the state that a
status command finds. -/
def reply? (refused : Nat) (command : Command) (s : Station W) : Option (Nat × Reply) :=
  match command with
  | .start ticket => some (ticket, .started (s.start host).1)
  | .stop ticket => some (ticket, .stopped)
  | .status ticket =>
    some (ticket, .status ⟨s.engine.started, s.engine.connected, s.engine.stats, refused⟩)
  | .fire _ | .frame _ | .shutdown => none

private theorem execute_eq (refused : Nat) (command : Command) (s : Station W) :
    s.execute host refused command =
      ((s.reply? host refused command).toList, s.obey host command) := by
  cases command <;> rfl

theorem tickets_reply? (refused : Nat) (command : Command) (s : Station W) :
    (s.reply? host refused command).toList.map Prod.fst = [command].filterMap Command.ticket? := by
  cases command <;> rfl

theorem started_stop (s : Station W) : (s.stop host).engine.started = false := by
  cases h : s.engine.started with
  | true => rw [engine_stop host s h]
  | false => rw [stop_of_idle host s h, h]

private theorem lookup_reply? {command : Command} {ticket : Nat}
    (h : command.ticket? ≠ some ticket) (refused : Nat) (s : Station W) :
    (s.reply? host refused command).toList.lookup ticket = none := by
  rw [List.lookup_eq_none_iff]
  intro answer hanswer
  have hmem := List.mem_map_of_mem (f := Prod.fst) hanswer
  rw [tickets_reply?] at hmem
  have hother : ticket ≠ answer.1 := by
    rintro rfl
    simp [h] at hmem
  simpa using hother

/-- The engine at work in node `i` of its surroundings, with these commands before it. -/
def Mans (i : Nat) (pending : List Command) (host : Host Network) (refused : Nat)
    (s : Station Network) : Prop :=
  ∃ node, s.world.node? i = some node ∧ node.engine = some s.engine ∧ node.history = s.history ∧
    node.queue.pending = pending ∧ node.queue.dropped = refused ∧
    host = Network.host i node.port node.callbacks

end Station

namespace WorkLoop

variable {W : Type} {l : WorkLoop W} {engine : Engine} {command : Command} {queue : Queue}
  {ticket : Nat} {remainder : Remainder}

theorem receipt_of_answer {reply : Reply} (hanswer : l.replies.lookup ticket = some reply) :
    l.receipt remainder ticket = .answered reply := by
  rw [receipt, hanswer]

theorem receipt_of_open (hnone : l.replies.lookup ticket = none) (hopen : l.queue.isOpen = true)
    (hheld : ticket ∈ l.queue.pending.filterMap Command.ticket?) :
    l.receipt remainder ticket = .waiting := by
  rw [receipt, hnone, Queue.held, if_pos hopen]
  exact if_pos hheld

/-- Behind a loop that has ended a caller waits as long as the command is left over. -/
theorem receipt_of_closed (hnone : l.replies.lookup ticket = none)
    (hclosed : l.queue.isOpen = false) :
    l.receipt remainder ticket =
      if ticket ∈ (remainder l.queue.pending).filterMap Command.ticket? then .waiting
      else .disconnected := by
  rw [receipt, hnone, Queue.held, hclosed]
  rfl

theorem receipt_of_dropped (hnone : l.replies.lookup ticket = none)
    (hclosed : l.queue.isOpen = false) (hdropped : remainder.Dropped) :
    l.receipt remainder ticket = .disconnected := by
  rw [receipt_of_closed hnone hclosed, hdropped, List.filterMap_nil, if_neg List.not_mem_nil]

/-- A step makes the call of the next command; after a shutdown the loop has ended. -/
theorem step_of_take? (host : Host W) (hengine : l.engine = some engine)
    (htake : l.queue.take? = some (command, queue)) :
    l.step host =
      let s : Station W := ⟨engine, l.world, l.history⟩
      let s' := s.obey host command
      ⟨if command = .shutdown then queue.close else queue,
        if command = .shutdown then none else some s'.engine, s'.world, s'.history,
        (s.reply? host queue.dropped command).toList ++ l.replies⟩ := by
  unfold step
  rw [hengine, htake]
  simp only [Station.execute_eq]
  cases command <;> rfl

theorem trace_step (host : Host W) (l : WorkLoop W) :
    ∃ events, host.Trace events l.world (l.step host).world := by
  unfold step
  split
  · rename_i engine command queue hengine htake
    obtain ⟨events, htrace, -⟩ :=
      Station.execute_replies host queue.dropped command ⟨engine, l.world, l.history⟩
    dsimp only
    split <;> exact ⟨events, htrace⟩
  · exact ⟨[], .nil l.world⟩

end WorkLoop

namespace Network

/-- No command before a loop has the ticket, and no answer of the loop either. -/
def Unused (ticket : Nat) (pending : List Command) (replies : List (Nat × Reply)) : Prop :=
  ticket ∉ pending.filterMap Command.ticket? ∧ replies.lookup ticket = none

/-- The loop of node `i` is at work; these commands are there for it, and it has given these
answers, the latest first. -/
structure Running (i : Nat) (pending : List Command) (replies : List (Nat × Reply))
    (net : Network) : Prop where
  wired : net.Wired
  node : ∃ node engine, net.node? i = some node ∧ node.engine = some engine ∧
    node.queue.isOpen = true ∧ node.queue.attended = true ∧ node.queue.pending = pending ∧
    node.replies = replies

/-- The loop of node `i` has ended and has given these answers. -/
def Ended (i : Nat) (replies : List (Nat × Reply)) (net : Network) : Prop :=
  ∃ node, net.node? i = some node ∧ node.queue.isOpen = false ∧ node.replies = replies

/-- Node `i` comes to a command that is sent to it. It works until there is room for the command,
and then on all that stands before it. -/
structure Attends (i : Nat) (command : Command) (net : Network) (host : Host Network)
    (refused : Nat) (s : Station Network) : Prop where
  reached : ∃ m n, s.world =
    net.run (List.replicate m (.work i) ++ .send i command :: List.replicate n (.work i))
  next : s.Mans i [command] host refused

variable {α : Type} {i ticket : Nat} {net : Network} {command : Command}
  {pending left : List Command} {replies : List (Nat × Reply)} {remainder : Remainder}
  {read : Reply → Option (Except Error α)}

private theorem Unused.answer (h : Unused ticket (command :: pending) replies)
    (host : Host Network) (refused : Nat) (s : Station Network) :
    Unused ticket pending ((s.reply? host refused command).toList ++ replies) := by
  obtain ⟨hpending, hreplies⟩ := h
  rw [← List.singleton_append, List.filterMap_append, List.mem_append, not_or] at hpending
  have hother : command.ticket? ≠ some ticket := by
    intro hsame
    simp [hsame] at hpending
  refine ⟨hpending.2, ?_⟩
  rw [List.lookup_append, Station.lookup_reply? host hother, hreplies]
  rfl

private theorem node?_step {node : Node} (hnode : net.node? i = some node) :
    let l := (net.loopOf node).step (host i node.port node.callbacks)
    ∃ node', (net.step i).node? i = some node' ∧ node'.engine = l.engine ∧
      node'.queue = l.queue ∧ node'.replies = l.replies := by
  intro l
  obtain ⟨events, htrace⟩ := (net.loopOf node).trace_step (host i node.port node.callbacks)
  have hplace := congrArg (fun others => others[i]?) (view_trace blind_others htrace)
  simp only [List.getElem?_map] at hplace
  rw [show (net.loopOf node).world.nodes[i]? = some node from hnode, Option.map_some,
    Option.map_eq_some_iff] at hplace
  obtain ⟨after, hafter, -⟩ := hplace
  have hstep : net.step i = putLoop i l := by rw [step, hnode]
  rw [hstep, putLoop, node?_modify, if_pos rfl, show l.world.node? i = some after from hafter]
  exact ⟨_, rfl, rfl, rfl, rfl⟩

private theorem Running.step (h : net.Running i (command :: pending) replies) :
    ∃ host refused, ∃ s : Station Network,
      s.world = net ∧ s.Mans i (command :: pending) host refused ∧
      let answers := (s.reply? host refused command).toList ++ replies
      if command = .shutdown then (net.step i).Ended i answers
      else (net.step i).Running i pending answers := by
  obtain ⟨hwired, node, engine, hnode, hengine, hopen, hattended, hpending, rfl⟩ := h
  obtain ⟨first, queue, htake⟩ := Queue.exists_take? (hpending ▸ List.cons_ne_nil _ _)
  obtain ⟨-, hattended', hopen', hrefused⟩ := Queue.fixed_take? htake
  obtain ⟨rfl, hrest⟩ := List.cons_eq_cons.mp ((Queue.pending_take? htake).symm.trans hpending)
  obtain ⟨node', hnode', hengine', hqueue', hreplies'⟩ := node?_step hnode
  rw [WorkLoop.step_of_take? _ hengine htake] at hengine' hqueue' hreplies'
  refine ⟨host i node.port node.callbacks, queue.dropped, ⟨engine, net, node.history⟩, rfl,
    ⟨node, hnode, hengine, rfl, hpending, hrefused.symm, rfl⟩, ?_⟩
  dsimp only at hengine' hqueue' hreplies' ⊢
  split
  · rename_i hend
    rw [if_pos hend] at hqueue'
    exact ⟨node', hnode', by rw [hqueue']; rfl, hreplies'⟩
  · rename_i hgoes
    rw [if_neg hgoes] at hengine' hqueue'
    refine ⟨wired_act hwired (.work i), node', _, hnode', hengine', ?_, ?_, ?_, hreplies'⟩
    · rw [hqueue', hopen']
      exact hopen
    · rw [hqueue', hattended']
      exact hattended
    · rw [hqueue']
      exact hrest

private theorem Running.send (h : net.Running i pending replies) (command : Command) :
    (net.send i command = (some true, net.act (.send i command)) ∧
        (net.act (.send i command)).Running i (pending ++ [command]) replies) ∨
      (net.send i command).1 = none ∧ pending ≠ [] := by
  obtain ⟨hwired, node, engine, hnode, hengine, hopen, hattended, rfl, hreplies⟩ := h
  have hsent : (net.send i command).1 = (node.queue.send command).1 := by
    rw [Network.send, access, hnode]
  cases hanswer : (node.queue.send command).1 with
  | none =>
    refine .inr ⟨hsent.trans hanswer, ?_⟩
    intro hempty
    rw [Queue.send_of_pending hopen hattended hempty] at hanswer
    cases hanswer
  | some accepted =>
    have haccepted : accepted = true := by
      unfold Queue.send at hanswer
      rw [if_pos hopen] at hanswer
      split at hanswer <;> cases hanswer
      rfl
    subst haccepted
    obtain ⟨-, haccepts⟩ := Queue.accepts_of_send hanswer
    obtain ⟨-, hattended', hopen', -⟩ := haccepts.fixed
    refine .inl ⟨Prod.ext (hsent.trans hanswer) rfl, wired_act hwired _, ?_⟩
    have hnode' : (net.act (.send i command)).node? i =
        some (node.setQueue (node.queue.send command).2) := by
      rw [act, Network.send, access_eq_modify, node?_modify, if_pos rfl, hnode]
      rfl
    exact ⟨_, engine, hnode', hengine, hopen'.trans hopen, hattended'.trans hattended,
      haccepts.pending (hwired.bounded i node hnode), hreplies⟩

private theorem Running.receipt (h : net.Running i (left ++ [command]) replies)
    (hticket : command.ticket? = some ticket) (hnone : replies.lookup ticket = none) :
    net.receipt remainder i ticket = .waiting := by
  obtain ⟨-, node, engine, hnode, -, hopen, -, hpending, rfl⟩ := h
  rw [Network.receipt, hnode]
  refine WorkLoop.receipt_of_open hnone hopen ?_
  change ticket ∈ node.queue.pending.filterMap Command.ticket?
  rw [hpending, List.filterMap_append]
  simp [hticket]

private theorem workUntil_of_some {β : Type} [Nonempty β] {result? : Network → Option β}
    {result : β} (h : result? net = some result) : net.workUntil i result? = (result, net) := by
  rw [workUntil, repeatM_eq_of_monadTail]
  simp only [repeatM.body, h]
  rfl

private theorem workUntil_of_none {β : Type} [Nonempty β] {result? : Network → Option β}
    (h : result? net = none) : net.workUntil i result? = (net.step i).workUntil i result? := by
  rw [workUntil, repeatM_eq_of_monadTail]
  simp only [repeatM.body, h]
  rfl

private theorem await_of_waiting (h : net.receipt remainder i ticket = .waiting) :
    net.await remainder read i ticket = (net.step i).await remainder read i ticket :=
  workUntil_of_none (by rw [h, Receipt.result?])

private theorem await_of_result {result : Except Error α}
    (h : (net.receipt remainder i ticket).result? read = some result) :
    net.await remainder read i ticket = (result, net) :=
  workUntil_of_some h

private theorem Running.await_answer (h : net.Running i (left ++ [command]) replies)
    (remainder : Remainder) (read : Reply → Option (Except Error α))
    (hticket : command.ticket? = some ticket) (hunused : Unused ticket left replies)
    (hend : .shutdown ∉ left) :
    ∃ n host refused, ∃ s : Station Network, s.world = net.run (List.replicate n (.work i)) ∧
      s.Mans i [command] host refused ∧
      ∀ reply result, s.reply? host refused command = some (ticket, reply) →
        read reply = some result →
          net.await remainder read i ticket = (result, s.world.step i) := by
  induction left generalizing net replies with
  | nil =>
    obtain ⟨host, refused, s, hworld, hmans, hnext⟩ := h.step
    have hgoes : command ≠ .shutdown := by
      rintro rfl
      cases hticket
    dsimp only at hnext
    rw [if_neg hgoes] at hnext
    refine ⟨0, host, refused, s, hworld, hmans, ?_⟩
    intro reply result hreply hread
    rw [await_of_waiting (h.receipt hticket hunused.2), hworld]
    apply await_of_result
    obtain ⟨-, node, engine, hnode, -, -, -, -, hreplies⟩ := hnext
    rw [hreply] at hreplies
    rw [Network.receipt, hnode]
    dsimp only
    rw [WorkLoop.receipt_of_answer (l := (net.step i).loopOf node)
      (show node.replies.lookup ticket = some reply by simp [hreplies])]
    exact hread
  | cons first left ih =>
    rw [List.mem_cons, not_or] at hend
    obtain ⟨host, refused, s, hworld, -, hnext⟩ := h.step
    dsimp only at hnext
    rw [if_neg (Ne.symm hend.1)] at hnext
    obtain ⟨n, host', refused', s', hworld', hmans', hresult⟩ :=
      ih hnext (hunused.answer host refused s) hend.2
    refine ⟨n + 1, host', refused', s', hworld', hmans', ?_⟩
    rw [await_of_waiting (h.receipt hticket hunused.2)]
    exact hresult

private theorem Running.await_end (h : net.Running i (left ++ [command]) replies)
    (hticket : command.ticket? = some ticket) (hunused : Unused ticket left replies)
    (hend : .shutdown ∈ left) (hdropped : remainder.Dropped) :
    (net.await remainder read i ticket).1 = .error .loopClosed := by
  induction left generalizing net replies with
  | nil => exact absurd hend List.not_mem_nil
  | cons first left ih =>
    obtain ⟨host, refused, s, hworld, -, hnext⟩ := h.step
    have hunused' := hunused.answer host refused s
    rw [await_of_waiting (h.receipt hticket hunused.2)]
    dsimp only at hnext
    split at hnext
    · obtain ⟨node, hnode, hclosed, hreplies⟩ := hnext
      have hnone : node.replies.lookup ticket = none := by
        rw [hreplies]
        exact hunused'.2
      have hreceipt : ((net.step i).receipt remainder i ticket).result? read =
          some (.error .loopClosed) := by
        rw [Network.receipt, hnode]
        dsimp only
        rw [WorkLoop.receipt_of_dropped (l := (net.step i).loopOf node) hnone hclosed hdropped]
        rfl
      rw [await_of_result hreceipt]
    · rename_i hgoes
      exact ih hnext hunused' ((List.mem_cons.mp hend).resolve_left (Ne.symm hgoes))

private theorem submit_of_sent {accepted : Bool} {net' : Network}
    (h : net.send i command = (some accepted, net')) :
    net.submit i command = (accepted, net') := by
  rw [submit, workUntil_of_some (congrArg Prod.fst h), h]

private theorem submit_of_full (h : (net.send i command).1 = none) :
    net.submit i command = (net.step i).submit i command := by
  rw [submit, workUntil_of_none h]
  rfl

private theorem Ended.submit (h : net.Ended i replies) (command : Command) :
    (net.submit i command).1 = false := by
  obtain ⟨node, hnode, hclosed, -⟩ := h
  have hsent : (net.send i command).1 = some false := by
    rw [Network.send, access, hnode]
    simp [Queue.send, hclosed]
  rw [submit_of_sent (Prod.ext hsent rfl)]

private theorem Running.submit (h : net.Running i pending replies)
    (hunused : Unused ticket pending replies) (command : Command) :
    (∃ m left answers,
      let net' := net.run (List.replicate m (.work i) ++ [.send i command])
      net.submit i command = (true, net') ∧ net'.Running i (left ++ [command]) answers ∧
        Unused ticket left answers ∧ (.shutdown ∈ left ↔ .shutdown ∈ pending)) ∨
      .shutdown ∈ pending ∧ (net.submit i command).1 = false := by
  induction pending generalizing net replies with
  | nil =>
    obtain ⟨hsent, hrunning⟩ := (h.send command).resolve_right fun hfull => hfull.2 rfl
    exact .inl ⟨0, [], replies, submit_of_sent hsent, hrunning, hunused, .rfl⟩
  | cons first pending ih =>
    rcases h.send command with ⟨hsent, hrunning⟩ | ⟨hfull, -⟩
    · exact .inl ⟨0, first :: pending, replies, submit_of_sent hsent, hrunning, hunused, .rfl⟩
    · obtain ⟨host, refused, s, -, -, hnext⟩ := h.step
      rw [submit_of_full hfull]
      dsimp only at hnext
      split at hnext
      · rename_i hend
        exact .inr ⟨hend ▸ List.mem_cons_self, hnext.submit command⟩
      · rename_i hgoes
        have hmem : .shutdown ∈ first :: pending ↔ .shutdown ∈ pending := by
          rw [List.mem_cons, or_iff_right (Ne.symm hgoes)]
        rw [hmem]
        refine (ih hnext (hunused.answer host refused s)).imp ?_ id
        rintro ⟨m, left, answers, hsubmit⟩
        exact ⟨m + 1, left, answers, hsubmit⟩

private theorem Running.call_answer (h : net.Running i pending replies) (remainder : Remainder)
    (read : Reply → Option (Except Error α)) (command : Command)
    (hticket : command.ticket? = some ticket) (hunused : Unused ticket pending replies)
    (hend : .shutdown ∉ pending) :
    ∃ host refused s, net.Attends i command host refused s ∧
      ∀ reply result, s.reply? host refused command = some (ticket, reply) →
        read reply = some result →
          net.call remainder read command i ticket = (result, s.world.step i) := by
  obtain ⟨m, left, answers, hsubmit, hrunning, hunused', hmem⟩ :=
    (h.submit hunused command).resolve_right fun hrefused => hend hrefused.1
  obtain ⟨n, host, refused, s, hworld, hmans, hresult⟩ :=
    hrunning.await_answer remainder read hticket hunused' (mt hmem.mp hend)
  refine ⟨host, refused, s, ⟨⟨m, n, ?_⟩, hmans⟩, ?_⟩
  · rw [hworld, run, run, run, ← List.foldl_append, List.append_assoc]
    rfl
  · intro reply result hreply hread
    rw [call, hsubmit]
    exact hresult reply result hreply hread

private theorem Running.call_end (h : net.Running i pending replies)
    (hticket : command.ticket? = some ticket) (hunused : Unused ticket pending replies)
    (hend : .shutdown ∈ pending) (hdropped : remainder.Dropped) :
    (net.call remainder read command i ticket).1 = .error .loopClosed := by
  rw [call]
  rcases h.submit hunused command with
    ⟨m, left, answers, hsubmit, hrunning, hunused', hmem⟩ | hrefused
  · rw [hsubmit]
    exact hrunning.await_end hticket hunused' (hmem.mpr hend) hdropped
  · simp [hrefused.2]

theorem Ended.call (h : net.Ended i replies) :
    (net.call remainder read command i ticket).1 = .error .loopClosed := by
  simp [Network.call, h.submit command]

/-- The three calls of a handle return what the engine itself makes of them, in the state in which
the loop finds it. -/
def AnswersCalls (fuel i ticket : Nat) (remainder : Remainder) (net : Network) : Prop :=
  (∃ host refused s, (net.settle fuel).Attends i (.start ticket) host refused s ∧
    net.start fuel i ticket remainder = ((s.start host).1.mapError .setup, s.world.step i)) ∧
  (∃ host refused s, (net.settle fuel).Attends i (.stop ticket) host refused s ∧
    net.stop fuel i ticket remainder = (.ok (), s.world.step i)) ∧
  ∃ host refused s, (net.settle fuel).Attends i (.status ticket) host refused s ∧
    net.status fuel i ticket remainder = (.ok (s.status refused), s.world.step i)

def RefusesCalls (fuel i ticket : Nat) (remainder : Remainder) (net : Network) : Prop :=
  (net.start fuel i ticket remainder).1 = .error .loopClosed ∧
    (net.stop fuel i ticket remainder).1 = .error .loopClosed ∧
    (net.status fuel i ticket remainder).1 = .error .loopClosed

variable {fuel : Nat}

theorem Running.answersCalls (h : (net.settle fuel).Running i pending replies)
    (hunused : Unused ticket pending replies) (hend : .shutdown ∉ pending) (remainder : Remainder) :
    net.AnswersCalls fuel i ticket remainder := by
  refine ⟨?_, ?_, ?_⟩
  · obtain ⟨host, refused, s, hattends, hresult⟩ :=
      h.call_answer remainder Reply.startResult? (.start ticket) rfl hunused hend
    exact ⟨host, refused, s, hattends, hresult _ _ rfl rfl⟩
  · obtain ⟨host, refused, s, hattends, hresult⟩ :=
      h.call_answer remainder Reply.stopResult? (.stop ticket) rfl hunused hend
    exact ⟨host, refused, s, hattends, hresult _ _ rfl rfl⟩
  · obtain ⟨host, refused, s, hattends, hresult⟩ :=
      h.call_answer remainder Reply.statusResult? (.status ticket) rfl hunused hend
    exact ⟨host, refused, s, hattends, hresult _ _ rfl rfl⟩

theorem Running.refusesCalls (h : (net.settle fuel).Running i pending replies)
    (hunused : Unused ticket pending replies) (hend : .shutdown ∈ pending)
    (hdropped : remainder.Dropped) : net.RefusesCalls fuel i ticket remainder :=
  ⟨h.call_end rfl hunused hend hdropped, h.call_end rfl hunused hend hdropped,
    h.call_end rfl hunused hend hdropped⟩

theorem Ended.refusesCalls (h : (net.settle fuel).Ended i replies) (ticket : Nat)
    (remainder : Remainder) : net.RefusesCalls fuel i ticket remainder :=
  ⟨h.call, h.call, h.call⟩

end Network

end AudioLink
