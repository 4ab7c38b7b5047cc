import AudioLink.Proofs.Network.TimerCalls

/-!
# Firings on their way

A firing on its way is a token of the generation that its timer was armed under. The token is an
unread message to the thread of the timer, then the deadline of the thread, then a firing that the
thread is sending, and last a command in the queue. While an engine is started there is one token of
the present generation and no message behind it that could take it away, and all other tokens are
older: every move of the generation puts a message behind those that are there, and a command in the
queue does not outlast the commands in front of it.
-/

namespace AudioLink

/-- The generation of the firing that a message asks for. -/
def TimerControl.generation? : TimerControl → Option UInt64
  | arm _ generation => some generation
  | cancel => none

/-- The generation of the firing that a thread is waiting for or sending. -/
def TimerThread.generation? : TimerThread → Option UInt64
  | waiting (some (_, generation)) | sending generation => some generation
  | absent | waiting none | ended => none

def Command.generation? : Command → Option UInt64
  | fire generation => some generation
  | _ => none

/-- The generations of all firings that are on their way or wait in the queue. -/
def ThreadTimer.tokens (queue : Queue) (timer : ThreadTimer) : List UInt64 :=
  timer.control.filterMap TimerControl.generation? ++
    (timer.thread.generation?.toList ++ queue.pending.filterMap Command.generation?)

/-- A generation that was the present one at most so many moves ago. -/
def Recent (moves : Nat) (present generation : UInt64) : Prop :=
  ∃ n ≤ moves, present = generation + UInt64.ofNat n

namespace Recent

variable {moves more : Nat} {present generation : UInt64}

theorem refl (moves : Nat) (present : UInt64) : Recent moves present present :=
  ⟨0, Nat.zero_le moves, (UInt64.add_zero present).symm⟩

theorem mono (h : Recent moves present generation) (hle : moves ≤ more) :
    Recent more present generation := by
  obtain ⟨n, hn, hpresent⟩ := h
  exact ⟨n, hn.trans hle, hpresent⟩

theorem advance (h : Recent moves present generation) (n : Nat) :
    Recent (moves + n) (present + UInt64.ofNat n) generation := by
  obtain ⟨m, hm, rfl⟩ := h
  refine ⟨m + n, Nat.add_le_add_right hm n, ?_⟩
  rw [UInt64.add_assoc, UInt64.ofNat_add]

private theorem ne_next (h : Recent moves present generation) (hmoves : moves + 1 < 2 ^ 64) :
    generation ≠ present + 1 := by
  obtain ⟨n, hn, rfl⟩ := h
  intro hsame
  have hzero : UInt64.ofNat (n + 1) = 0 := by
    rw [UInt64.add_assoc, show (1 : UInt64) = UInt64.ofNat 1 from rfl, ← UInt64.ofNat_add] at hsame
    exact UInt64.left_eq_add.mp hsame
  have hvalue := congrArg UInt64.toNat hzero
  rw [UInt64.toNat_ofNat_of_lt' (by omega : n + 1 < 2 ^ 64)] at hvalue
  exact absurd hvalue (Nat.succ_ne_zero n)

end Recent

namespace ThreadTimer

variable {limit : Nat → Nat} {timer : ThreadTimer} {queue queue' : Queue} {started : Bool}

/-- How old the tokens of a timer may be: no older than there are messages behind them, and in the
queue as the limit for their place says. -/
structure Tracked (limit : Nat → Nat) (timer : ThreadTimer) (queue : Queue) : Prop where
  alive : timer.thread ≠ .ended
  absent : timer.thread = .absent → timer.control = []
  control : ∀ before due generation after,
    timer.control = before ++ .arm due generation :: after →
      Recent after.length timer.generation generation
  thread : ∀ generation, timer.thread.generation? = some generation →
    Recent timer.control.length timer.generation generation
  pending : ∀ p generation, queue.pending[p]? = some (.fire generation) →
    Recent (limit p) timer.generation generation

/-- One token of the present generation if the engine is started, none if it is not; and as long as
it is among the messages, it is the last of them. -/
structure Chained (limit : Nat → Nat) (started : Bool) (timer : ThreadTimer) (queue : Queue) :
    Prop where
  tracked : Tracked limit timer queue
  one : (timer.tokens queue).count timer.generation = if started then 1 else 0
  running : started = true → timer.thread ≠ .absent
  last : started = true →
    timer.control = [] ∨ ∃ older due, timer.control = older ++ [.arm due timer.generation]

private theorem tracked_initial (limit : Nat → Nat) (h : queue.pending = []) :
    Tracked limit .initial queue := by
  refine ⟨nofun, fun _ => rfl, ?_, ?_, ?_⟩
  · intro before due generation after hcontrol
    simp [initial] at hcontrol
  · intro generation hthread
    cases hthread
  · intro p generation hpending
    simp [h] at hpending

theorem chained_initial (limit : Nat → Nat) (h : queue.pending = []) :
    Chained limit false .initial queue :=
  ⟨tracked_initial limit h, by simp [tokens, initial, TimerThread.generation?, h], nofun, nofun⟩

theorem Tracked.mono {limit' : Nat → Nat} (h : Tracked limit timer queue)
    (hle : ∀ p < queue.pending.length, limit p ≤ limit' p) : Tracked limit' timer queue where
  alive := h.alive
  absent := h.absent
  control := h.control
  thread := h.thread
  pending p generation hpending :=
    (h.pending p generation hpending).mono (hle p (List.getElem?_eq_some_iff.mp hpending).1)

theorem Chained.mono {limit' : Nat → Nat} (h : Chained limit started timer queue)
    (hle : ∀ p < queue.pending.length, limit p ≤ limit' p) : Chained limit' started timer queue :=
  ⟨h.tracked.mono hle, h.one, h.running, h.last⟩

private theorem Tracked.count_next (h : Tracked limit timer queue)
    (hcontrol : timer.control.length + 1 < 2 ^ 64) (hlimit : ∀ p, limit p + 1 < 2 ^ 64) :
    (timer.tokens queue).count (timer.generation + 1) = 0 := by
  rw [List.count_eq_zero, tokens, List.mem_append, List.mem_append]
  rintro (hmem | hmem | hmem)
  · obtain ⟨message, hmessage, htoken⟩ := List.mem_filterMap.mp hmem
    cases message with
    | cancel => cases htoken
    | arm due generation =>
      cases htoken
      obtain ⟨before, after, hsplit⟩ := List.append_of_mem hmessage
      have hshort : after.length + 1 < 2 ^ 64 := by
        rw [hsplit, List.length_append, List.length_cons] at hcontrol
        omega
      exact (h.control before due _ after hsplit).ne_next hshort rfl
  · exact (h.thread _ (Option.mem_toList.mp hmem)).ne_next hcontrol rfl
  · obtain ⟨command, hcommand, htoken⟩ := List.mem_filterMap.mp hmem
    cases command with
    | fire generation =>
      cases htoken
      obtain ⟨p, hp⟩ := List.mem_iff_getElem?.mp hcommand
      exact (h.pending p _ hp).ne_next (hlimit p) rfl
    | _ => cases htoken

private theorem count_write (generation token : UInt64) (message : TimerControl) :
    (tokens queue ⟨generation, timer.control ++ [message], timer.thread⟩).count token =
      (timer.tokens queue).count token + message.generation?.toList.count token := by
  have hmessage : [message].filterMap TimerControl.generation? = message.generation?.toList := by
    cases message <;> rfl
  simp only [tokens, List.filterMap_append, List.count_append, hmessage]
  omega

private theorem Tracked.write (h : Tracked limit timer queue) (hrunning : timer.thread ≠ .absent)
    {moves : Nat} (hmoves : moves ≤ 1) (message : TimerControl)
    (hmessage : ∀ token, message.generation? = some token →
      token = timer.generation + UInt64.ofNat moves) :
    Tracked (fun p => limit p + moves)
      ⟨timer.generation + UInt64.ofNat moves, timer.control ++ [message], timer.thread⟩ queue where
  alive := h.alive
  absent habsent := absurd habsent hrunning
  control := by
    intro before due generation after hsplit
    dsimp only at hsplit ⊢
    rcases List.eq_nil_or_concat after with rfl | ⟨after, last, rfl⟩
    · obtain ⟨-, hlast⟩ := List.append_inj' hsplit rfl
      cases hlast
      rw [hmessage generation rfl]
      exact .refl 0 _
    · have hsplit : timer.control ++ [message] =
          (before ++ .arm due generation :: after) ++ [last] := by
        rw [hsplit, List.append_assoc, List.cons_append, List.concat_eq_append]
      obtain ⟨hcontrol, -⟩ := List.append_inj' hsplit rfl
      refine ((h.control before due generation after hcontrol).advance moves).mono ?_
      rw [List.concat_eq_append, List.length_append, List.length_singleton]
      omega
  thread generation hthread := by
    refine ((h.thread generation hthread).advance moves).mono ?_
    rw [List.length_append, List.length_singleton]
    omega
  pending p generation hpending := (h.pending p generation hpending).advance moves

private theorem tell_of_running (hrunning : timer.thread ≠ .absent) (halive : timer.thread ≠ .ended)
    (message : TimerControl) :
    timer.tell message = { timer with control := timer.control ++ [message] } := by
  unfold tell
  split
  · exact absurd ‹_› hrunning
  · exact absurd ‹_› halive
  · rfl
  · rfl

/-- Arming starts the thread, if that has not been done, and puts a token of a new generation behind
all messages. -/
theorem Tracked.arm (h : Tracked limit timer queue) (now : Nat) (delay : Nanos)
    (hcontrol : timer.control.length + 1 < 2 ^ 64) (hlimit : ∀ p, limit p + 1 < 2 ^ 64) :
    (timer.arm now delay).1 = .ok () ∧
      (timer.arm now delay).2.control.length = timer.control.length + 1 ∧
      Chained (fun p => limit p + 1) true (timer.arm now delay).2 queue := by
  -- An absent thread has no messages and no token, and is as good as one that waits for nothing.
  have hstarted : ∃ running : ThreadTimer, running.generation = timer.generation ∧
      running.thread ≠ .absent ∧ running.control = timer.control ∧ Tracked limit running queue ∧
      timer.arm now delay =
        (.ok (), ⟨running.generation + 1,
          running.control ++ [.arm (now + delay.toNat) (running.generation + 1)],
          running.thread⟩) := by
    cases hthread : timer.thread with
    | absent =>
      have hempty := h.absent hthread
      refine ⟨{ timer with thread := .waiting none }, rfl, nofun, rfl,
        ⟨nofun, nofun, h.control, nofun, h.pending⟩, ?_⟩
      simp only [ThreadTimer.arm, hthread, hempty, List.nil_append]
    | ended => exact absurd hthread h.alive
    | waiting deadline =>
      refine ⟨timer, rfl, by simp [hthread], rfl, h, ?_⟩
      simp only [ThreadTimer.arm, hthread, tell]
    | sending generation =>
      refine ⟨timer, rfl, by simp [hthread], rfl, h, ?_⟩
      simp only [ThreadTimer.arm, hthread, tell]
  obtain ⟨running, -, hrunning, hsame, htracked, harm⟩ := hstarted
  rw [harm]
  have hnew := htracked.count_next (by rw [hsame]; exact hcontrol) hlimit
  refine ⟨rfl, by simp [hsame], ?_, ?_, fun _ => hrunning, fun _ => .inr ⟨_, _, rfl⟩⟩
  · exact htracked.write hrunning (Nat.le_refl 1) (.arm _ _) fun token htoken => by
      cases htoken
      rfl
  · rw [count_write, hnew]
    simp [TimerControl.generation?]

/-- Cancelling leaves no token of the present generation. -/
theorem Tracked.cancel (h : Tracked limit timer queue)
    (hcontrol : timer.control.length + 1 < 2 ^ 64) (hlimit : ∀ p, limit p + 1 < 2 ^ 64) :
    Chained (fun p => limit p + 1) false timer.cancel queue := by
  have hnew := h.count_next hcontrol hlimit
  by_cases habsent : timer.thread = .absent
  · have hcancel : timer.cancel = { timer with generation := timer.generation + 1 } := by
      simp only [ThreadTimer.cancel, tell, habsent]
    have hempty := h.absent habsent
    rw [hcancel]
    refine ⟨⟨h.alive, h.absent, ?_, ?_, fun p generation hpending =>
      (h.pending p generation hpending).advance 1⟩, hnew, nofun, nofun⟩
    · intro before due generation after hsplit
      simp [hempty] at hsplit
    · intro generation hthread
      simp [habsent, TimerThread.generation?] at hthread
  · have hcancel : timer.cancel =
        ⟨timer.generation + 1, timer.control ++ [.cancel], timer.thread⟩ :=
      @tell_of_running { timer with generation := timer.generation + 1 } habsent h.alive .cancel
    rw [hcancel]
    refine ⟨h.write habsent (Nat.le_refl 1) .cancel nofun, ?_, nofun, nofun⟩
    rw [count_write, hnew]
    rfl

/-- Rearming brings back the token of the present generation. -/
theorem Tracked.rearm (h : Tracked limit timer queue) (hrunning : timer.thread ≠ .absent)
    (hnone : (timer.tokens queue).count timer.generation = 0) (now : Nat) (delay : Nanos) :
    Chained limit true (timer.rearm now delay) queue := by
  have hrearm : timer.rearm now delay = ⟨timer.generation,
      timer.control ++ [.arm (now + delay.toNat) timer.generation], timer.thread⟩ :=
    tell_of_running hrunning h.alive _
  rw [hrearm]
  have hwritten := h.write hrunning (Nat.zero_le 1) (.arm (now + delay.toNat) timer.generation)
    fun token htoken => by
      cases htoken
      exact (UInt64.add_zero _).symm
  have hsame : timer.generation + UInt64.ofNat 0 = timer.generation := UInt64.add_zero _
  rw [hsame] at hwritten
  refine ⟨hwritten, ?_, fun _ => hrunning, fun _ => .inr ⟨_, _, rfl⟩⟩
  rw [count_write, hnone]
  simp [TimerControl.generation?]

private theorem count_tokens (token : UInt64) :
    (timer.tokens queue).count token =
      (timer.control.filterMap TimerControl.generation?).count token +
        (timer.thread.generation?.toList.count token +
          (queue.pending.filterMap Command.generation?).count token) := by
  rw [tokens, List.count_append, List.count_append]

private theorem Chained.thread_stale (h : Chained limit started timer queue)
    (hcontrol : timer.control ≠ []) :
    timer.thread.generation?.toList.count timer.generation = 0 := by
  have hone := h.one
  rw [count_tokens] at hone
  cases started with
  | false =>
    simp only [Bool.false_eq_true, if_false] at hone
    omega
  | true =>
    rcases h.last rfl with hempty | ⟨older, due, hlast⟩
    · exact absurd hempty hcontrol
    · have hmessage : 1 ≤
          (timer.control.filterMap TimerControl.generation?).count timer.generation := by
        rw [hlast, List.filterMap_append, List.count_append]
        simp [TimerControl.generation?]
      simp only [if_true] at hone
      omega

private theorem Chained.next (h : Chained limit started timer queue) {message : TimerControl}
    {rest : List TimerControl} {deadline : Option (Nat × UInt64)}
    (hcontrol : timer.control = message :: rest)
    (hdeadline : (TimerThread.waiting deadline).generation? = message.generation?) :
    Chained limit started ⟨timer.generation, rest, .waiting deadline⟩ queue := by
  refine ⟨⟨nofun, nofun, ?_, ?_, h.tracked.pending⟩, ?_, fun _ => nofun, ?_⟩
  · intro before due generation after hsplit
    have hsplit : rest = before ++ .arm due generation :: after := hsplit
    refine h.tracked.control (message :: before) due generation after ?_
    rw [hcontrol, hsplit, List.cons_append]
  · intro generation hthread
    have hgeneration : message.generation? = some generation := hdeadline ▸ hthread
    cases message with
    | cancel => cases hgeneration
    | arm due _ =>
      cases hgeneration
      exact h.tracked.control [] due generation rest hcontrol
  · have hstale := h.thread_stale (by rw [hcontrol]; exact List.cons_ne_nil _ _)
    have hfirst : (message :: rest).filterMap TimerControl.generation? =
        message.generation?.toList ++ rest.filterMap TimerControl.generation? := by
      cases message <;> rfl
    have hone := h.one
    rw [count_tokens, hstale, hcontrol, hfirst, List.count_append] at hone
    rw [count_tokens, hdeadline, ← hone]
    dsimp only
    omega
  · intro hstarted
    rcases h.last hstarted with hempty | ⟨older, due, hlast⟩
    · rw [hcontrol] at hempty
      cases hempty
    · cases older with
      | nil =>
        rw [hcontrol] at hlast
        cases hlast
        exact .inl rfl
      | cons first older =>
        rw [hcontrol] at hlast
        cases hlast
        exact .inr ⟨older, due, rfl⟩

theorem Chained.read (h : Chained limit started timer queue) :
    Chained limit started timer.read queue := by
  unfold ThreadTimer.read
  split
  · rename_i hcontrol
    exact h.next hcontrol rfl
  · rename_i hcontrol
    exact h.next hcontrol rfl
  · exact h

theorem Chained.expire (h : Chained limit started timer queue) (now : Nat) :
    Chained limit started (timer.expire now) queue := by
  unfold ThreadTimer.expire
  split
  · rename_i due generation hthread hcontrol
    split
    · have hsame : (TimerThread.sending generation).generation? = timer.thread.generation? := by
        rw [hthread]
        rfl
      refine ⟨⟨nofun, nofun, h.tracked.control, ?_, h.tracked.pending⟩, ?_, fun _ => nofun, h.last⟩
      · rw [hsame]
        exact h.tracked.thread
      · have hone := h.one
        rw [count_tokens] at hone
        rw [count_tokens, hsame, hone]
    · exact h
  · exact h

theorem fixed_fire (queue : Queue) (timer : ThreadTimer) :
    (timer.fire queue).1.capacity = queue.capacity ∧
      (timer.fire queue).1.isOpen = queue.isOpen := by
  unfold ThreadTimer.fire
  split
  · rename_i generation hthread
    have hsent : (queue.send (.fire generation)).2.capacity = queue.capacity ∧
        (queue.send (.fire generation)).2.isOpen = queue.isOpen := by
      by_cases haccepted : (queue.send (.fire generation)).1 = some true
      · obtain ⟨hcapacity, -, hopen, -⟩ := (Queue.accepts_of_send haccepted).2.fixed
        exact ⟨hcapacity, hopen⟩
      · rw [Queue.send_of_refused haccepted]
        exact ⟨rfl, rfl⟩
    dsimp only
    split <;> exact hsent
  · exact ⟨rfl, rfl⟩

/-- A firing that is accepted goes from the thread to the end of an open queue. -/
theorem Chained.fire (h : Chained limit started timer queue) (hopen : queue.isOpen = true)
    (hbounded : queue.Bounded) (hroom : ∀ p, timer.control.length ≤ limit p) :
    Chained limit started (timer.fire queue).2 (timer.fire queue).1 := by
  unfold ThreadTimer.fire
  split
  · rename_i generation hthread
    dsimp only
    by_cases haccepted : (queue.send (.fire generation)).1 = some true
    · have hpending := (Queue.accepts_of_send haccepted).2.pending hbounded
      rw [haccepted]
      dsimp only
      refine ⟨⟨nofun, nofun, h.tracked.control, nofun, ?_⟩, ?_, fun _ => nofun, h.last⟩
      · intro p generation' hp
        rw [hpending, List.getElem?_append] at hp
        split at hp
        · exact h.tracked.pending p generation' hp
        · have hsame : generation' = generation := by
            rw [List.getElem?_singleton] at hp
            split at hp
            · cases hp
              rfl
            · cases hp
          subst hsame
          refine (h.tracked.thread generation' ?_).mono (hroom p)
          rw [hthread]
          rfl
      · have hone := h.one
        rw [count_tokens, hthread] at hone
        rw [count_tokens, hpending, List.filterMap_append, List.count_append, ← hone]
        simp only [TimerThread.generation?, Command.generation?, List.filterMap_cons,
          List.filterMap_nil, Option.toList_none, Option.toList_some, List.count_nil]
        omega
    · have hwaits : (queue.send (.fire generation)).1 = none := by
        unfold Queue.send at haccepted ⊢
        rw [if_pos hopen] at haccepted ⊢
        split
        · rename_i hsome
          simp [hsome] at haccepted
        · rfl
      rw [Queue.send_of_refused haccepted, hwaits]
      exact h
  · exact h

/-- Other commands come behind those that are there. -/
theorem Chained.grows (h : Chained limit started timer queue) (hbounded : queue.Bounded)
    (hgrows : queue.Grows queue') : Chained limit started timer queue' := by
  obtain ⟨taken, hpending, hnone⟩ := hgrows.pending hbounded
  have htokens : taken.filterMap Command.generation? = [] := by
    rw [List.filterMap_eq_nil_iff]
    intro command hcommand
    cases command with
    | fire generation => exact absurd hcommand (hnone generation)
    | _ => rfl
  refine ⟨⟨h.tracked.alive, h.tracked.absent, h.tracked.control, h.tracked.thread, ?_⟩, ?_,
    h.running, h.last⟩
  · intro p generation hp
    rw [hpending, List.getElem?_append] at hp
    split at hp
    · exact h.tracked.pending p generation hp
    · exact absurd (List.mem_of_getElem? hp) (hnone generation)
  · have hone := h.one
    rw [count_tokens] at hone
    rw [count_tokens, hpending, List.filterMap_append, htokens, List.append_nil, hone]

variable {command : Command}

private theorem count_take? (htake : queue.take? = some (command, queue')) (token : UInt64) :
    (timer.tokens queue).count token =
      (timer.tokens queue').count token + command.generation?.toList.count token := by
  have hfirst : (command :: queue'.pending).filterMap Command.generation? =
      command.generation?.toList ++ queue'.pending.filterMap Command.generation? := by
    cases command <;> rfl
  rw [count_tokens, count_tokens, Queue.pending_take? htake, hfirst, List.count_append]
  omega

/-- The commands behind the one that is taken come one place forward. -/
theorem Tracked.take? (h : Tracked limit timer queue)
    (htake : queue.take? = some (command, queue')) :
    Tracked (fun p => limit (p + 1)) timer queue' where
  alive := h.alive
  absent := h.absent
  control := h.control
  thread := h.thread
  pending p generation hp := by
    refine h.pending (p + 1) generation ?_
    rw [Queue.pending_take? htake, List.getElem?_cons_succ]
    exact hp

private theorem Chained.count_untouched (h : Chained limit started timer queue)
    (htake : queue.take? = some (command, queue'))
    (hidle : command = .fire timer.generation → started = false) :
    (timer.tokens queue').count timer.generation = if started then 1 else 0 := by
  have hone := h.one
  rw [count_take? htake] at hone
  have hother : command.generation?.toList.count timer.generation = 0 := by
    rw [List.count_eq_zero, Option.mem_toList]
    intro htoken
    cases command with
    | fire generation =>
      cases htoken
      rw [hidle rfl] at hone
      simp [Command.generation?] at hone
    | _ => cases htoken
  rw [hother] at hone
  exact hone

/-- A command moves the generation on by two at most. A firing of the present generation takes away
the token and leads to a new one. -/
theorem Chained.obey {W : Type} {host : Host W} {s : Station W} {calls : List Event}
    {clock : Clockwork} (h : Chained limit s.engine.started timer queue)
    (htake : queue.take? = some (command, queue'))
    (hgeneration : host.generation s.world = timer.generation)
    (htiming : s.Timekeeping host command calls started)
    (htrace : Clockwork.Trace calls (.thread timer) clock)
    (hcontrol : timer.control.length + 2 < 2 ^ 64) (hlimit : ∀ p, limit p + 2 < 2 ^ 64) :
    ∃ timer', clock = .thread timer' ∧
      Chained (fun p => limit (p + 1) + 2) started timer' queue' := by
  have htaken := h.tracked.take? htake
  have hshort : timer.control.length + 1 < 2 ^ 64 := Nat.lt_of_succ_lt hcontrol
  have hyoung (p : Nat) : limit (p + 1) + 1 < 2 ^ 64 := Nat.lt_of_succ_lt (hlimit (p + 1))
  cases htiming with
  | untouched hfiring =>
    cases htrace
    refine ⟨timer, rfl, ?_, ?_, h.running, h.last⟩
    · exact htaken.mono fun p _ => Nat.le_add_right _ 2
    · exact h.count_untouched htake fun hfire => hfiring (by rw [hfire, hgeneration])
  | unarmed hidle delay cause =>
    obtain _ | ⟨htrace, harm⟩ := htrace
    cases htrace
    obtain ⟨time, hrefused, -⟩ := harm.of_arm
    obtain ⟨harmed, -⟩ := htaken.arm time delay hshort hyoung
    cases hrefused.trans harmed
  | withdrawn hidle delay =>
    obtain _ | ⟨_ | ⟨htrace, harm⟩, hcancel⟩ := htrace
    cases htrace
    obtain ⟨time, -, rfl⟩ := harm.of_arm
    obtain ⟨-, hlength, harmed⟩ := htaken.arm time delay hshort hyoung
    refine ⟨_, hcancel.of_cancel, harmed.tracked.cancel ?_ fun p => hlimit (p + 1)⟩
    rw [hlength]
    exact hcontrol
  | begun hidle delay =>
    obtain _ | ⟨htrace, harm⟩ := htrace
    cases htrace
    obtain ⟨time, -, rfl⟩ := harm.of_arm
    obtain ⟨-, -, harmed⟩ := htaken.arm time delay hshort hyoung
    exact ⟨_, rfl, harmed.mono fun p _ => Nat.le_succ _⟩
  | ended hstarted =>
    obtain _ | ⟨htrace, hcancel⟩ := htrace
    cases htrace
    have hcancelled := htaken.cancel hshort hyoung
    exact ⟨_, hcancel.of_cancel, hcancelled.mono fun p _ => Nat.le_succ _⟩
  | fired hstarted delay =>
    obtain _ | ⟨htrace, hrearm⟩ := htrace
    cases htrace
    obtain ⟨time, rfl⟩ := hrearm.of_rearm
    have hnone : (timer.tokens queue').count timer.generation = 0 := by
      have hone := h.one
      rw [count_take? htake, hstarted, hgeneration] at hone
      simp only [Command.generation?, Option.toList_some, List.count_singleton_self,
        if_true] at hone
      omega
    have hrearmed := htaken.rearm (h.running hstarted) hnone time delay
    exact ⟨_, rfl, hrearmed.mono fun p _ => Nat.le_add_right _ 2⟩

end ThreadTimer

end AudioLink
