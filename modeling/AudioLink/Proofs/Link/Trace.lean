import AudioLink.Proofs.Link.Effects

/-!
# Histories and surroundings

An engine changes its surroundings only through the calls of its history, one after the other, and
the answers in the history are those that the surroundings gave. So whatever is kept by every
single call is kept by a whole entry, and the calls of an entry say what became of the world.
-/

namespace AudioLink

def Event.isCall : Event → Bool
  | note _ => false
  | _ => true

def History.calls (history : List Event) : List Event := history.filter Event.isCall

theorem History.calls_append (events history : List Event) :
    History.calls (events ++ history) = History.calls events ++ History.calls history :=
  List.filter_append ..

/-- A callback that is there is the one that was installed. -/
theorem eq_of_ite_some {α : Type} {b : Bool} {f g : α}
    (h : (if b then some f else none) = some g) : g = f := by
  cases b <;> simp_all

namespace Host

variable {W : Type}

/-- One call, with the answer of the surroundings, and what it makes of them. -/
inductive Does (host : Host W) : Event → W → W → Prop where
  | arm (delay : Nanos) (w : W) : Does host (.arm delay (host.arm delay w).1) w (host.arm delay w).2
  | rearm (delay : Nanos) (w : W) : Does host (.rearm delay) w (host.rearm delay w)
  | cancel (w : W) : Does host .cancel w (host.cancel w)
  | clock (w : W) : Does host (.clock (host.now w)) w w
  | install (w : W) :
      Does host
        (.install Frame.hasDiscriminator (host.install Frame.hasDiscriminator w).1) w
        (host.install Frame.hasDiscriminator w).2
  | uninstall (handle : Handle) (w : W) :
      Does host (.uninstall handle) w (host.uninstall handle w)
  | transmit (frame : Bytes) (w : W) :
      Does host (.transmit frame (host.transmit frame w).1) w (host.transmit frame w).2
  | process (w : W) :
      Does host (.process Header.zero (host.process Header.zero w).1) w
        (host.process Header.zero w).2
  | received (header : Header) (w : W) :
      Does host (.received header) w (host.received header w)
  | connected (device : Device) (callback : Option Device → W → W) (w : W)
      (h : host.connection = some callback) :
      Does host (.connected device) w (callback (some device) w)
  | disconnected (callback : Option Device → W → W) (w : W)
      (h : host.connection = some callback) : Does host .disconnected w (callback none w)
  | delivered (block : Bytes) (callback : Bytes → W → W) (w : W)
      (h : host.deliver = some callback) : Does host (.delivered block) w (callback block w)
  | demanded (callback : W → Option Bytes × W) (w : W) (h : host.demand = some callback) :
      Does host (.demanded (callback w).1) w (callback w).2
  | note (notice : Notice) (w : W) : Does host (.note notice) w w

theorem Does.of_rearm {host : Host W} {delay : Nanos} {w w' : W}
    (h : host.Does (.rearm delay) w w') : w' = host.rearm delay w := by
  cases h
  rfl

theorem Does.of_clock {host : Host W} {now : Nanos} {w w' : W} (h : host.Does (.clock now) w w') :
    now = host.now w ∧ w' = w := by
  cases h
  exact ⟨rfl, rfl⟩

/-- A series of calls, the latest first, and what it makes of the surroundings. -/
inductive Trace (host : Host W) : List Event → W → W → Prop where
  | nil (w : W) : Trace host [] w w
  | cons {event : Event} {events : List Event} {w w' w'' : W} (h : Trace host events w w')
      (hdoes : host.Does event w' w'') : Trace host (event :: events) w w''

theorem Trace.append {host : Host W} {first second : List Event} {w w' w'' : W}
    (h : Trace host first w w') (h' : Trace host second w' w'') :
    Trace host (second ++ first) w w'' := by
  induction h' with
  | nil w => exact h
  | cons _ hdoes ih => exact .cons (ih h) hdoes

theorem Trace.split {host : Host W} {first second : List Event} {w w'' : W}
    (h : Trace host (second ++ first) w w'') :
    ∃ w', Trace host first w w' ∧ Trace host second w' w'' := by
  induction second generalizing w'' with
  | nil => exact ⟨w'', h, .nil w''⟩
  | cons event second ih =>
    cases h with
    | cons h hdoes =>
      obtain ⟨w', hfirst, hsecond⟩ := ih h
      exact ⟨w', hfirst, .cons hsecond hdoes⟩

end Host

namespace Station

variable {W : Type} (host : Host W)

/-- The second station comes from the first through calls that its history shows. -/
def Acts (s s' : Station W) : Prop :=
  ∃ events, s'.history = events ++ s.history ∧ host.Trace events s.world s'.world

variable {host}

theorem acts_of_same {s s' : Station W} (hhistory : s'.history = s.history)
    (hworld : s'.world = s.world) : Acts host s s' :=
  ⟨[], hhistory, by rw [hworld]; exact .nil s.world⟩

private theorem acts_of_does {s s' : Station W} {event : Event}
    (hhistory : s'.history = event :: s.history) (h : host.Does event s.world s'.world) :
    Acts host s s' :=
  ⟨[event], hhistory, .cons (.nil s.world) h⟩

theorem Acts.trans {s s' s'' : Station W} (h : Acts host s s') (h' : Acts host s' s'') :
    Acts host s s'' := by
  obtain ⟨first, hfirst, htrace⟩ := h
  obtain ⟨second, hsecond, htrace'⟩ := h'
  refine ⟨second ++ first, ?_, htrace.append htrace'⟩
  rw [hsecond, hfirst, List.append_assoc]

private theorem acts_note (notice : Notice) (s : Station W) : Acts host s (s.note notice) :=
  acts_of_does rfl (.note notice s.world)

private theorem acts_update (change : Engine → Engine) (s : Station W) :
    Acts host s (s.update change) :=
  acts_of_same rfl rfl

private theorem acts_tally (count : Stats → Stats) (s : Station W) : Acts host s (s.tally count) :=
  acts_update _ s

private theorem acts_announce (peer : Option Device) (s : Station W) :
    Acts host s (s.announce host peer) := by
  unfold announce
  split
  · exact acts_of_same rfl rfl
  · rename_i callback h
    cases peer with
    | none => exact acts_of_does rfl (.disconnected callback s.world h)
    | some device => exact acts_of_does rfl (.connected device callback s.world h)

private theorem acts_deliver (block : Bytes) (s : Station W) :
    Acts host s (s.deliver host block) := by
  unfold deliver
  split
  · exact acts_of_same rfl rfl
  · rename_i callback h
    exact acts_of_does rfl (.delivered block callback s.world h)

private theorem acts_demand (s : Station W) : Acts host s (s.demand host).2 := by
  unfold demand
  split
  · exact acts_of_same rfl rfl
  · rename_i callback h
    have hdemanded : Acts host s ⟨s.engine, (callback s.world).2,
        .demanded (callback s.world).1 :: s.history⟩ :=
      acts_of_does rfl (.demanded callback s.world h)
    dsimp only
    split
    · exact hdemanded
    · split
      · exact hdemanded
      · exact hdemanded.trans (acts_note _ _)

private theorem acts_sendFrame (header : Header) (samples : Option Bytes) (s : Station W) :
    Acts host s (s.sendFrame host header samples) := by
  unfold sendFrame
  split
  · exact (acts_tally _ s).trans (acts_note _ _)
  · rename_i frame _
    have htransmit : Acts host s (s.transmit host frame).2 :=
      acts_of_does rfl (.transmit frame s.world)
    split
    · rename_i h
      rw [h] at htransmit
      exact (htransmit.trans (acts_tally _ _)).trans (acts_note _ _)
    · rename_i h
      rw [h] at htransmit
      exact (htransmit.trans (acts_tally _ _)).trans (acts_note _ _)

private theorem acts_send (s : Station W) : Acts host s (s.send host) := by
  have hheader : Acts host (s.demand host).2 ((s.demand host).2.nextHeader host).2 :=
    acts_of_does rfl (.process _)
  have hfirst := (acts_demand s).trans hheader
  unfold send
  dsimp only
  split
  · rename_i h
    rw [h] at hfirst
    exact (hfirst.trans (acts_tally _ _)).trans (acts_note _ _)
  · rename_i h
    rw [h] at hfirst
    exact hfirst.trans (acts_sendFrame _ _ _)

private theorem acts_checkGap (counter : UInt16) (s : Station W) :
    Acts host s (s.checkGap counter) := by
  unfold checkGap
  split
  · exact acts_of_same rfl rfl
  · exact (acts_tally _ s).trans (acts_note _ _)

private theorem acts_track (counter : UInt16) (s : Station W) :
    Acts host s (s.track host counter) := by
  unfold track
  dsimp only
  split
  · exact (((acts_update _ s).trans (acts_tally _ _)).trans (acts_note _ _)).trans
      (acts_announce _ _)
  · exact acts_update _ s

private theorem acts_receive (frame : Bytes) (s : Station W) :
    Acts host s (s.receive host frame) := by
  unfold receive
  split
  · exact (acts_tally _ s).trans (acts_note _ _)
  · rename_i decoded _
    have hcount : Acts host s
        ((s.tally Stats.countReceived).note (.received decoded.header.counter)) :=
      (acts_tally _ s).trans (acts_note _ _)
    have htracked := (hcount.trans (acts_checkGap decoded.header.counter _)).trans
      (acts_track decoded.header.counter _)
    have hshown (s : Station W) : Acts host s (s.showHeader host decoded.header) :=
      acts_of_does rfl (.received decoded.header s.world)
    unfold accept
    dsimp only
    split
    · exact ((htracked.trans (acts_deliver _ _)).trans (hshown _)).trans (acts_send _)
    · exact (htracked.trans (hshown _)).trans (acts_send _)

private theorem acts_start (s : Station W) : Acts host s (s.start host).2 := by
  have harm (s : Station W) : Acts host s (s.arm host s.engine.settings.period).2 :=
    acts_of_does rfl (.arm _ s.world)
  have hcadence (s : Station W) : Acts host s (s.beginCadence host) :=
    acts_of_does rfl (.clock s.world)
  have hinstall (s : Station W) : Acts host s (s.install host).2 :=
    acts_of_does rfl (.install s.world)
  have hcancel (s : Station W) : Acts host s (s.cancel host) :=
    acts_of_does rfl (.cancel s.world)
  have harmed := harm s
  unfold start
  split
  · exact acts_of_same rfl rfl
  split
  · exact acts_note _ s
  split
  · rename_i h
    rw [h] at harmed
    exact harmed.trans (acts_note _ _)
  · rename_i armed h
    rw [h] at harmed
    have hhooked := (harmed.trans (hcadence armed)).trans (hinstall _)
    split
    · rename_i h
      rw [h] at hhooked
      exact (hhooked.trans (acts_note _ _)).trans (hcancel _)
    · rename_i h
      rw [h] at hhooked
      exact (hhooked.trans (acts_update _ _)).trans (acts_note _ _)

theorem acts_stop (s : Station W) : Acts host s (s.stop host) := by
  have hcancel : Acts host s (s.cancel host) := acts_of_does rfl (.cancel s.world)
  have hdisconnect (s : Station W) : Acts host s (s.disconnect host) := by
    unfold disconnect
    dsimp only
    split
    · exact ((acts_update _ s).trans (acts_tally _ _)).trans (acts_announce _ _)
    · exact acts_update _ s
  have huninstall (s : Station W) : Acts host s (s.uninstall host) := by
    unfold uninstall
    split
    · exact acts_of_same rfl rfl
    · rename_i handle _
      exact acts_of_does rfl (.uninstall handle s.world)
  unfold stop
  split
  · exact (((hcancel.trans (hdisconnect _)).trans (huninstall _)).trans (acts_update _ _)).trans
      (acts_note _ _)
  · exact acts_of_same rfl rfl

private theorem acts_fire (s : Station W) : Acts host s (s.fire host) := by
  have hcheck : Acts host s (s.checkLiveness host) := by
    unfold checkLiveness
    dsimp only
    split
    · exact (((acts_update _ s).trans (acts_tally _ _)).trans (acts_note _ _)).trans
        (acts_announce _ _)
    · exact acts_update _ s
    · exact acts_update _ s
  have hrearm (s : Station W) : Acts host s (s.rearm host) :=
    ⟨_, rfl, .cons (.cons (.nil s.world) (.clock s.world)) (.rearm _ s.world)⟩
  unfold fire
  split
  · dsimp only
    split
    · exact (hcheck.trans (acts_send _)).trans (hrearm _)
    · exact hcheck.trans (hrearm _)
  · exact acts_of_same rfl rfl

/-- Every entry acts through the calls of its history. -/
theorem acts_perform (call : Call) (s : Station W) : Acts host s (s.perform host call).2 := by
  cases call with
  | start => exact acts_start s
  | stop => exact acts_stop s
  | fire => exact acts_fire s
  | fireTagged generation =>
    change Acts host s (s.fireTagged host generation)
    unfold fireTagged
    split
    · exact acts_fire s
    · exact acts_note _ s
  | inbound frame =>
    change Acts host s (s.inbound host frame).2
    unfold inbound
    split
    · dsimp only
      split
      · exact acts_receive frame s
      · exact acts_of_same rfl rfl
    · exact acts_of_same rfl rfl

/-- The effect of an entry, together with what it makes of the surroundings. -/
theorem perform_trace (host : Host W) (call : Call) (s : Station W) :
    ∃ events engine, s.Effect host call events engine ∧
      (s.perform host call).2.engine = engine ∧
      (s.perform host call).2.history = events ++ s.history ∧
      host.Trace events s.world (s.perform host call).2.world := by
  obtain ⟨events, engine, heffect, hengine, hhistory⟩ := perform_effect host call s
  have hacts : Acts host s (s.perform host call).2 := acts_perform call s
  obtain ⟨events', hhistory', htrace⟩ := hacts
  have hsame : events' = events := List.append_cancel_right (hhistory'.symm.trans hhistory)
  exact ⟨events, engine, heffect, hengine, hhistory, hsame ▸ htrace⟩

end Station

end AudioLink
