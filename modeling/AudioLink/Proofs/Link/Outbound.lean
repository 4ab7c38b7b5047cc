import AudioLink.Proofs.Link.Independence
import AudioLink.Proofs.Link.Ledger
import AudioLink.Proofs.Link.Trace

/-!
# What an engine transmits

Each frame that goes to the transmitter is built at once from the header that the data stream has
just filled in and the block that the pipeline has just been asked for, with silence in the place of
a block that is missing or has the wrong size. So building never fails, and a block of the wrong
size is as good as none. If the data stream is a counter, it numbers all frames of an engine
through, over all its sessions.
-/

namespace AudioLink

namespace Event

def filled? : Event → Option Header
  | process _ (.ok header) => some header
  | _ => none

def isAsking : Event → Bool
  | demanded _ => true
  | note (.wrongBlockSize _ _) => true
  | _ => false

def isAside : Event → Bool
  | process _ (.ok _) => false
  | transmit _ _ => false
  | note (.buildFailed _) => false
  | _ => true

end Event

namespace History

variable {layout : Layout} {asks : Bool} {history : List Event}

/-- The frame is built from the header that was filled in last and the block that was asked for
just before that. -/
def Origin (layout : Layout) (asks : Bool) (frame : Bytes) (before : List Event) : Prop :=
  ∃ header asked rest block,
    before = .process Header.zero (.ok header) :: (asked ++ rest) ∧
      Asking layout asks asked block ∧ frame = Frame.build header block

/-- All frames have their origin right before they are transmitted, and there is one for each
header. -/
structure Outbound (layout : Layout) (asks : Bool) (history : List Event) : Prop where
  origin : ∀ frame result before, .transmit frame result :: before <:+ history →
    Origin layout asks frame before
  built : ∀ cause, .note (.buildFailed cause) ∉ history
  each : observed Event.attempted? history =
    (encoded layout asks history).map fun packet => Frame.build packet.1 packet.2

theorem outbound_nil (layout : Layout) (asks : Bool) : Outbound layout asks [] := by
  refine ⟨?_, ?_, rfl⟩
  · intro frame result before h
    simp at h
  · intro cause h
    simp at h

theorem Outbound.aside {event : Event} (h : Outbound layout asks history)
    (haside : event.isAside = true) : Outbound layout asks (event :: history) := by
  refine ⟨?_, ?_, ?_⟩
  · intro frame result before hsuffix
    rcases List.suffix_cons_iff.mp hsuffix with heq | hsuffix
    · cases heq
      cases haside
    · exact h.origin frame result before hsuffix
  · intro cause hmem
    rcases List.mem_cons.mp hmem with rfl | hmem
    · cases haside
    · exact h.built cause hmem
  · rw [observed_cons, h.each]
    cases event with
    | process given result =>
      cases result with
      | error cause => simp [Event.attempted?, encoded]
      | ok header => cases haside
    | transmit frame result => cases haside
    | _ => simp [Event.attempted?, encoded]

theorem Outbound.asides {events : List Event} (h : Outbound layout asks history)
    (haside : ∀ event ∈ events, event.isAside = true) :
    Outbound layout asks (events ++ history) := by
  induction events with
  | nil => exact h
  | cons event events ih =>
    rw [List.forall_mem_cons] at haside
    exact (ih haside.2).aside haside.1

theorem Outbound.transmit {asked : List Event} {block : Bytes} (h : Outbound layout asks history)
    (hasking : Asking layout asks asked block) (header : Header)
    (result : Except TransmitError Unit) :
    Outbound layout asks
      (.transmit (Frame.build header block) result :: .process Header.zero (.ok header) ::
        (asked ++ history)) := by
  have hasked : Outbound layout asks (asked ++ history) := by
    apply h.asides
    cases hasking <;> simp [Event.isAside]
  refine ⟨?_, ?_, ?_⟩
  · intro frame result' before hsuffix
    rcases List.suffix_cons_iff.mp hsuffix with heq | hsuffix
    · cases heq
      exact ⟨header, asked, history, block, rfl, hasking, rfl⟩
    · rcases List.suffix_cons_iff.mp hsuffix with heq | hsuffix
      · cases heq
      · exact hasked.origin frame result' before hsuffix
  · intro cause hmem
    simp only [List.mem_cons, reduceCtorEq, false_or] at hmem
    exact hasked.built cause hmem
  · simp [observed_cons, Event.attempted?, encoded, hasked.each, hasking.suppliedBlock]

theorem Outbound.sending {events : List Event} {count : Stats → Stats}
    (h : Outbound layout asks history) (hsending : Sending layout asks events count) :
    Outbound layout asks (events ++ history) := by
  cases hsending with
  | unready cause hasking =>
    refine Outbound.aside (Outbound.aside (h.asides ?_) rfl) rfl
    cases hasking <;> simp [Event.isAside]
  | refused header cause hasking => exact (h.transmit hasking header _).aside rfl
  | sent header hasking => exact (h.transmit hasking header _).aside rfl

private theorem map_fst_encoded (layout : Layout) (asks : Bool) (history : List Event) :
    (encoded layout asks history).map Prod.fst = observed Event.filled? history := by
  induction history with
  | nil => rfl
  | cons event history ih =>
    rw [observed_cons, ← ih]
    cases event with
    | process given result => cases result <;> simp [encoded, Event.filled?]
    | _ => simp [encoded, Event.filled?]

end History

open History

private theorem Host.aside_announcement {W : Type} (host : Host W) (peer : Option Device) :
    ∀ event ∈ host.announcement peer, event.isAside = true := by
  intro event hevent
  unfold announcement at hevent
  split at hevent
  · cases peer <;> simp_all [Event.isAside]
  · simp at hevent

theorem Starting.aside {engine engine' : Engine} {outcome : Except SetupError Unit}
    {events : List Event} (h : Starting engine outcome events engine') :
    ∀ event ∈ events, event.isAside = true := by
  cases h <;> simp [Event.isAside]

namespace Station

variable {W : Type} (host : Host W)

private theorem aside_arrivalEvents (device : Device) (tracker : Tracker) (counter : UInt16) :
    ∀ event ∈ arrivalEvents host device tracker counter, event.isAside = true := by
  unfold arrivalEvents
  rw [List.forall_mem_append, List.forall_mem_append]
  refine ⟨⟨?_, ?_⟩, by simp [Event.isAside]⟩
  · split
    · simp
    · rw [List.forall_mem_append]
      exact ⟨host.aside_announcement (some device), by simp [Event.isAside]⟩
  · split <;> simp [Event.isAside]

private theorem aside_lossEvents (s : Station W) :
    ∀ event ∈ s.lossEvents host, event.isAside = true := by
  unfold lossEvents
  split
  · rw [List.forall_mem_append]
    exact ⟨host.aside_announcement none, by simp [Event.isAside]⟩
  · simp

private theorem aside_partingEvents (s : Station W) :
    ∀ event ∈ s.partingEvents host, event.isAside = true := by
  unfold partingEvents
  split
  · exact host.aside_announcement none
  · simp

private theorem outbound_perform (call : Call) (s : Station W)
    (h : Outbound s.device.outbound host.demand.isSome s.history) :
    Outbound s.device.outbound host.demand.isSome (s.perform host call).2.history := by
  obtain ⟨events, engine, heffect, -, hhistory⟩ := perform_effect host call s
  rw [hhistory]
  cases heffect with
  | ignored _ => exact h
  | stale _ => exact h.aside rfl
  | malformed _ _ _ _ _ => exact h.aside rfl
  | start hstart => exact h.asides hstart.aside
  | stopped _ =>
    apply h.asides
    rw [List.forall_mem_cons, List.forall_mem_append, List.forall_mem_append]
    refine ⟨rfl, ?_, aside_partingEvents host s, by simp [Event.isAside]⟩
    cases s.engine.hook <;> simp [Event.isAside]
  | fired now _ _ hsent =>
    rw [List.cons_append, List.cons_append, List.append_assoc]
    have hlost := h.asides (aside_lossEvents host s)
    rcases hsent with ⟨-, hsent⟩ | ⟨-, rfl, -⟩
    · exact ((hlost.sending hsent).aside rfl).aside rfl
    · exact (hlost.aside rfl).aside rfl
  | @packet _ header block _ _ _ _ _ hsent =>
    rw [List.append_assoc]
    refine Outbound.sending (h.asides ?_) hsent
    rw [List.forall_mem_cons, List.forall_mem_append]
    refine ⟨rfl, ?_, aside_arrivalEvents host s.device s.engine.tracker header.counter⟩
    unfold Host.delivery
    split <;> simp [Event.isAside]

theorem outbound_run (turns : List (Turn W)) (s : Station W)
    (h : Outbound s.device.outbound host.demand.isSome s.history) :
    Outbound s.device.outbound host.demand.isSome (s.run host turns).history := by
  induction turns generalizing s with
  | nil => exact h
  | cons t turns ih =>
    have hdevice : (s.turn host t).device = s.device := device_perform host t.call _
    have hturn := outbound_perform host t.call (s.meanwhile t.before) h
    rw [run_cons, ← hdevice]
    apply ih
    rw [hdevice]
    exact hturn

end Station

/-- Everything in a history but the asking. -/
def History.unasked (history : List Event) : List Event :=
  history.filter fun event => !event.isAsking

private theorem History.unasked_cons (event : Event) {history history' : List Event}
    (h : unasked history' = unasked history) :
    unasked (event :: history') = unasked (event :: history) := by
  simp only [unasked, List.filter_cons] at h ⊢
  rw [h]

/-- The host with a pipeline that has no block where that of `host` has one of the wrong size. -/
def Host.fitting {W : Type} (layout : Layout) (host : Host W) : Host W :=
  { host with
    demand := host.demand.map fun callback w =>
      let answer := callback w
      (answer.1.filter fun block => block.length = layout.samplesLength, answer.2) }

namespace Station

variable {W : Type} {host : Host W} {s s' : Station W}

/-- Stations that differ at most in what they were told when they asked for blocks. -/
structure Agree (s s' : Station W) : Prop where
  engine : s'.engine = s.engine
  world : s'.world = s.world
  history : unasked s'.history = unasked s.history

theorem Agree.refl (s : Station W) : Agree s s := ⟨rfl, rfl, rfl⟩

theorem Agree.bare_eq (h : Agree s s') : s'.bare = s.bare := by
  rw [bare, h.engine, h.world, bare]

theorem Agree.atop (h : Agree s s') {life life' : Stats × List Event} (hstats : life'.1 = life.1)
    (hhistory : unasked life'.2 = unasked life.2) : Agree (s.atop life) (s'.atop life') := by
  refine ⟨?_, h.world, ?_⟩
  · simp only [Station.atop, h.engine, hstats]
  · simp only [unasked, Station.atop, List.filter_append] at hhistory ⊢
    rw [hhistory]
    exact congrArg (· ++ _) h.history

private theorem agree_demand (host : Host W) (s : Station W) :
    (s.demand (host.fitting s.device.outbound)).1 = (s.demand host).1 ∧
      Agree (s.demand host).2 (s.demand (host.fitting s.device.outbound)).2 := by
  unfold demand Host.fitting
  cases host.demand with
  | none => exact ⟨rfl, .refl s⟩
  | some callback =>
    dsimp only [Option.map_some]
    cases (callback s.world).1 with
    | none => exact ⟨rfl, rfl, rfl, rfl⟩
    | some block =>
      by_cases hsize : block.length = s.device.outbound.samplesLength
      · have hkept : (some block).filter (fun block : Bytes =>
            block.length = s.device.outbound.samplesLength) = some block := by simp [hsize]
        rw [hkept]
        exact ⟨rfl, .refl _⟩
      · have hgone : (some block).filter (fun block : Bytes =>
            block.length = s.device.outbound.samplesLength) = none := by simp [hsize]
        rw [hgone]
        dsimp only
        split
        · rename_i hfits
          exact absurd hfits hsize
        · exact ⟨rfl, rfl, rfl, rfl⟩

private theorem agree_sendFrame (host : Host W) (header : Header) (samples : Option Bytes)
    (h : Agree s s') :
    Agree (s.sendFrame host header samples) (s'.sendFrame host header samples) := by
  have hs := sendFrame_atop host (s.engine.stats, s.history) header samples s.bare
  have hs' := sendFrame_atop host (s'.engine.stats, s'.history) header samples s'.bare
  rw [atop_bare] at hs hs'
  rw [hs, hs', h.bare_eq]
  exact (Agree.refl _).atop (by rw [h.engine]) h.history

private theorem agree_send (host : Host W) (s : Station W) :
    Agree (s.send host) (s.send (host.fitting s.device.outbound)) := by
  obtain ⟨hsame, hasked⟩ := agree_demand host s
  have hprocess : (host.fitting s.device.outbound).process = host.process := rfl
  unfold send nextHeader
  dsimp only
  rw [hsame, hasked.world, hprocess]
  cases (host.process Header.zero (s.demand host).2.world).1 with
  | error cause =>
    refine ⟨?_, rfl, unasked_cons _ (unasked_cons _ hasked.history)⟩
    simp only [engine_note, engine_tally, hasked.engine]
  | ok header =>
    apply agree_sendFrame host header
    exact ⟨hasked.engine, rfl, unasked_cons _ hasked.history⟩

private theorem agree_rearm (layout : Layout) (h : Agree s s') :
    Agree (s.rearm host) (s'.rearm (host.fitting layout)) := by
  have hnow : (host.fitting layout).now s'.world = host.now s.world := by
    rw [h.world]
    rfl
  refine ⟨?_, ?_, ?_⟩
  · simp only [rearm, hnow, h.engine]
  · simp only [rearm, h.engine, h.world]
    rfl
  · simp only [rearm, hnow, h.engine]
    exact unasked_cons _ (unasked_cons _ h.history)

private theorem agree_fire (host : Host W) (s : Station W) :
    Agree (s.fire host) (s.fire (host.fitting s.device.outbound)) := by
  have hcheck : s.checkLiveness (host.fitting s.device.outbound) = s.checkLiveness host := rfl
  have hdevice : (s.checkLiveness host).device = s.device := by
    simp only [device, Engine.device, engine_checkLiveness]
  have hsend := agree_send host (s.checkLiveness host)
  rw [hdevice] at hsend
  unfold fire
  rw [hcheck]
  split
  · dsimp only
    split
    · exact agree_rearm _ hsend
    · exact agree_rearm _ (.refl _)
  · exact .refl s

private theorem agree_receive (host : Host W) (frame : Bytes) (s : Station W) :
    Agree (s.receive host frame) (s.receive (host.fitting s.device.outbound) frame) := by
  unfold receive
  cases Frame.decode frame s.device.inbound with
  | error cause => exact .refl _
  | ok decoded =>
    have hintake : s.intake (host.fitting s.device.outbound) frame decoded =
      s.intake host frame decoded := rfl
    have hdevice : (s.intake host frame decoded).device = s.device := by
      simp only [device, Engine.device, engine_intake]
    have hsend := agree_send host (s.intake host frame decoded)
    rw [hdevice] at hsend
    dsimp only
    rw [accept_eq_send, accept_eq_send, hintake]
    exact hsend

private theorem agree_entry (host : Host W) (call : Call) (s : Station W) :
    (s.perform (host.fitting s.device.outbound) call).1 = (s.perform host call).1 ∧
      Agree (s.perform host call).2 (s.perform (host.fitting s.device.outbound) call).2 := by
  cases call with
  | start => exact ⟨rfl, .refl _⟩
  | stop => exact ⟨rfl, .refl _⟩
  | fire => exact ⟨rfl, agree_fire host s⟩
  | fireTagged generation =>
    refine ⟨rfl, ?_⟩
    change Agree (s.fireTagged host generation) (s.fireTagged (host.fitting _) generation)
    by_cases h : generation = host.generation s.world
    · rw [fireTagged_of_current host _ s h, fireTagged_of_current (host.fitting _) _ s h]
      exact agree_fire host s
    · rw [fireTagged_of_stale host _ s h, fireTagged_of_stale (host.fitting _) _ s h]
      exact .refl _
  | inbound frame =>
    have hanswer : (s.perform (host.fitting s.device.outbound) (.inbound frame)).1 =
        (s.perform host (.inbound frame)).1 := by
      simp only [perform, inbound]
      split <;> rfl
    refine ⟨hanswer, ?_⟩
    change Agree (s.inbound host frame).2 (s.inbound (host.fitting _) frame).2
    by_cases h : Frame.hasDiscriminator frame = true ∧ s.engine.started = true ∧ s.role = .slave
    · obtain ⟨hframe, hstarted, hrole⟩ := h
      rw [inbound_of_heard host frame s hframe hstarted hrole,
        inbound_of_heard (host.fitting _) frame s hframe hstarted hrole]
      exact agree_receive host frame s
    · rw [inbound_of_ignored host frame s h, inbound_of_ignored (host.fitting _) frame s h]
      exact .refl s

private theorem agree_perform (host : Host W) (layout : Layout) (call : Call)
    (hlayout : s.device.outbound = layout) (h : Agree s s') :
    (s'.perform (host.fitting layout) call).1 = (s.perform host call).1 ∧
      Agree (s.perform host call).2 (s'.perform (host.fitting layout) call).2 := by
  have hs := perform_atop host (s.engine.stats, s.history) call s.bare
  have hs' := perform_atop (host.fitting layout) (s'.engine.stats, s'.history) call s'.bare
  rw [atop_bare] at hs hs'
  have hentry := agree_entry host call s.bare
  rw [show s.bare.device.outbound = layout from hlayout] at hentry
  rw [hs, hs', h.bare_eq]
  exact ⟨hentry.1, hentry.2.atop (by rw [h.engine]) h.history⟩

/-- With the fitting pipeline a run answers the same and differs at most in the asking. -/
theorem agree_run (host : Host W) (layout : Layout) (turns : List (Turn W)) (s s' : Station W)
    (hlayout : s.device.outbound = layout) (h : Agree s s') :
    outcomes (host.fitting layout) turns s' = outcomes host turns s ∧
      Agree (s.run host turns) (s'.run (host.fitting layout) turns) := by
  induction turns generalizing s s' with
  | nil => exact ⟨rfl, h⟩
  | cons t turns ih =>
    have hbefore : Agree (s.meanwhile t.before) (s'.meanwhile t.before) :=
      ⟨h.engine, congrArg t.before h.world, h.history⟩
    have hlayout' : (s.meanwhile t.before).device.outbound = layout := hlayout
    obtain ⟨hanswer, hafter⟩ := agree_perform host layout t.call hlayout' hbefore
    have hdevice : (s.turn host t).device.outbound = layout := by
      rw [← hlayout]
      exact congrArg Device.outbound (device_perform host t.call (s.meanwhile t.before))
    obtain ⟨hanswers, hagree⟩ := ih (s.turn host t) (s'.turn (host.fitting layout) t) hdevice hafter
    refine ⟨?_, hagree⟩
    rw [outcomes, outcomes, hanswer, hanswers]

end Station

/-- The surroundings with a counter for a data stream, which nothing else has a hold of. -/
def Host.counting {W : Type} (host : Host W) : Host (W × CounterStream) where
  arm delay w := ((host.arm delay w.1).1, (host.arm delay w.1).2, w.2)
  rearm delay w := (host.rearm delay w.1, w.2)
  cancel w := (host.cancel w.1, w.2)
  now w := host.now w.1
  generation w := host.generation w.1
  install filter w := ((host.install filter w.1).1, (host.install filter w.1).2, w.2)
  uninstall handle w := (host.uninstall handle w.1, w.2)
  transmit frame w := ((host.transmit frame w.1).1, (host.transmit frame w.1).2, w.2)
  process header w := (.ok (w.2.stamp header).1, w.1, (w.2.stamp header).2)
  received header w := (w.1, w.2.receive header)
  connection := host.connection.map fun callback peer w => (callback peer w.1, w.2)
  deliver := host.deliver.map fun callback block w => (callback block w.1, w.2)
  demand := host.demand.map fun callback w => ((callback w.1).1, (callback w.1).2, w.2)

def Turn.counting {W : Type} (t : Turn W) : Turn (W × CounterStream) :=
  ⟨fun w => (t.before w.1, w.2), t.call⟩

/-- The headers that have been filled in count from zero, and the stream goes on from there. -/
def CounterStream.Counted (history : List Event) (stream : CounterStream) : Prop :=
  ∃ n, stream.next = UInt16.ofNat n ∧
    observed Event.filled? history = (List.range n).map fun k => .ofCounter (UInt16.ofNat k)

namespace CounterStream

variable {history : List Event} {stream : CounterStream}

theorem Counted.aside {stream' : CounterStream} {event : Event} (h : stream.Counted history)
    (hnext : stream'.next = stream.next) (hevent : event.filled? = none) :
    stream'.Counted (event :: history) := by
  obtain ⟨n, hn, hheaders⟩ := h
  refine ⟨n, hnext.trans hn, ?_⟩
  simp [observed_cons, hevent, hheaders]

theorem Counted.stamp (h : stream.Counted history) :
    (stream.stamp Header.zero).2.Counted
      (.process Header.zero (.ok (stream.stamp Header.zero).1) :: history) := by
  obtain ⟨n, hn, hheaders⟩ := h
  have hheader : (stream.stamp Header.zero).1 = .ofCounter (UInt16.ofNat n) := by
    rw [← hn]
    rfl
  refine ⟨n + 1, ?_, ?_⟩
  · change stream.next + 1 = UInt16.ofNat (n + 1)
    rw [hn, UInt16.ofNat_add]
    rfl
  · simp [observed_cons, Event.filled?, hheaders, hheader, List.range_succ]

private theorem counted_does {W : Type} {host : Host W} {event : Event} {w w' : W × CounterStream}
    (hdoes : host.counting.Does event w w') (h : w.2.Counted history) :
    w'.2.Counted (event :: history) := by
  cases hdoes with
  | process => exact h.stamp
  | connected device callback _ hcallback =>
    obtain ⟨callback, -, rfl⟩ := Option.map_eq_some_iff.mp hcallback
    exact h.aside rfl rfl
  | disconnected callback _ hcallback =>
    obtain ⟨callback, -, rfl⟩ := Option.map_eq_some_iff.mp hcallback
    exact h.aside rfl rfl
  | delivered block callback _ hcallback =>
    obtain ⟨callback, -, rfl⟩ := Option.map_eq_some_iff.mp hcallback
    exact h.aside rfl rfl
  | demanded callback _ hcallback =>
    obtain ⟨callback, -, rfl⟩ := Option.map_eq_some_iff.mp hcallback
    exact h.aside rfl rfl
  | _ => exact h.aside rfl rfl

private theorem counted_trace {W : Type} {host : Host W} {events : List Event}
    {w w' : W × CounterStream} (htrace : host.counting.Trace events w w')
    (h : w.2.Counted history) :
    w'.2.Counted (events ++ history) := by
  induction htrace with
  | nil => exact h
  | cons _ hdoes ih => exact counted_does hdoes (ih h)

end CounterStream

/-- The frames are those of the headers that count from zero. -/
theorem History.Outbound.frame_of_counted {layout : Layout} {asks : Bool} {history : List Event}
    {stream : CounterStream} (h : Outbound layout asks history) (hstream : stream.Counted history)
    {k : Nat} {frame : Bytes} (hk : (observed Event.attempted? history)[k]? = some frame) :
    ∃ block, block.length = layout.samplesLength ∧
      frame = Frame.build (.ofCounter (UInt16.ofNat k)) block := by
  obtain ⟨n, -, hheaders⟩ := hstream
  rw [h.each, List.getElem?_map, Option.map_eq_some_iff] at hk
  obtain ⟨packet, hpacket, rfl⟩ := hk
  have hheader : (observed Event.filled? history)[k]? = some packet.1 := by
    rw [← map_fst_encoded layout asks, List.getElem?_map, hpacket]
    rfl
  rw [hheaders, List.getElem?_map, Option.map_eq_some_iff] at hheader
  obtain ⟨index, hindex, hheader⟩ := hheader
  obtain ⟨_, rfl⟩ := List.getElem?_eq_some_iff.mp hindex
  rw [List.getElem_range] at hheader
  exact ⟨packet.2, length_of_mem_encoded (List.mem_of_getElem? hpacket), by rw [hheader]⟩

namespace Station

variable {W : Type} (host : Host W)

theorem counted_run (turns : List (Turn W)) (s : Station (W × CounterStream))
    (h : s.world.2.Counted s.history) :
    (s.run host.counting (turns.map Turn.counting)).world.2.Counted
      (s.run host.counting (turns.map Turn.counting)).history := by
  induction turns generalizing s with
  | nil => exact h
  | cons t turns ih =>
    have hacts : Acts host.counting (s.meanwhile t.counting.before)
        (s.turn host.counting t.counting) := acts_perform t.call _
    obtain ⟨events, hhistory, htrace⟩ := hacts
    apply ih
    rw [hhistory]
    exact CounterStream.counted_trace htrace h

/-- Every frame that an engine hands to the transmitter, whether it is refused or not, can be read
under the outbound layout. Its header is what the data stream has made of the zero header in that
send, and its block is the one that the pipeline has supplied in that send, or silence if there is
none of the right size; so if the pipeline had none in the place of those of the wrong size, nothing
would change but what it says. A frame can always be built. With a counter for a data stream the
frames are numbered from zero, modulo 65536, in the order in which they are handed over. -/
theorem outbound_frames (settings : Settings) (world : W) (turns : List (Turn W)) :
    let layout := settings.device.outbound
    let s := (fresh settings world).run host turns
    let s' := (fresh settings world).run (host.fitting layout) turns
    let counted := (fresh settings (world, CounterStream.initial)).run host.counting
      (turns.map Turn.counting)
    (∀ frame result before, .transmit frame result :: before <:+ s.history →
      ∃ header asked rest block decoded,
        before = .process Header.zero (.ok header) :: (asked ++ rest) ∧
        Asking layout host.demand.isSome asked block ∧
        Frame.decode frame layout = .ok decoded ∧ decoded.header = header ∧
        decoded.samples frame = some block) ∧
    (∀ cause, .note (.buildFailed cause) ∉ s.history) ∧
    (outcomes (host.fitting layout) turns (fresh settings world) =
        outcomes host turns (fresh settings world) ∧
      s'.engine = s.engine ∧ s'.world = s.world ∧ unasked s'.history = unasked s.history) ∧
    ∀ k frame, (observed Event.attempted? counted.history)[k]? = some frame →
      ∃ decoded, Frame.decode frame layout = .ok decoded ∧
        decoded.header.counter.toNat = k % 65536 ∧
        decoded.header.kind = Vector.replicate 2 0 ∧
        decoded.header.data = Vector.replicate 32 0 := by
  intro layout s s' counted
  have hout : Outbound layout host.demand.isSome s.history :=
    outbound_run host turns (fresh settings world) (outbound_nil _ _)
  have hcounted : Outbound layout host.counting.demand.isSome counted.history :=
    outbound_run host.counting _ (fresh settings (world, CounterStream.initial)) (outbound_nil _ _)
  have hstream : counted.world.2.Counted counted.history :=
    counted_run host turns (fresh settings (world, CounterStream.initial)) ⟨0, rfl, rfl⟩
  obtain ⟨hanswers, hagree⟩ := agree_run host layout turns (fresh settings world)
    (fresh settings world) rfl (.refl _)
  refine ⟨?_, hout.built, ⟨hanswers, hagree.engine, hagree.world, hagree.history⟩, ?_⟩
  · intro frame result before hsuffix
    obtain ⟨header, asked, rest, block, hbefore, hasking, rfl⟩ :=
      hout.origin frame result before hsuffix
    have hsize := hasking.length_block
    exact ⟨header, asked, rest, block, _, hbefore, hasking,
      Frame.decode_build header block layout hsize, rfl,
      Frame.samples_build header block layout hsize⟩
  · intro k frame hk
    obtain ⟨block, hsize, rfl⟩ := hcounted.frame_of_counted hstream hk
    exact ⟨_, Frame.decode_build _ block layout hsize, UInt16.toNat_ofNat, rfl, rfl⟩

def loudHost : Host ScriptedHost := ScriptedHost.operations ⟨true, true, true⟩ true

/-- The first block has the wrong size, the second one the right size, and no others come. -/
def loudWorld : ScriptedHost :=
  .ofPipeline ⟨.scripted (fun n => [[5], List.replicate 36 5][n]?) 0, .counter .initial⟩ 0

def loudTurns : List (Turn ScriptedHost) :=
  [⟨id, .start⟩, ⟨id, .fire⟩, ⟨fun world => { world with transmitFault := some .linkDown }, .fire⟩,
    ⟨fun world => { world with transmitFault := none }, .stop⟩, ⟨id, .start⟩, ⟨id, .fire⟩]

def loudFrame : Bytes := Frame.build (.ofCounter 1) (List.replicate 36 5)

theorem outbound_frames_refused :
    let s := (fresh masterSettings loudWorld).run loudHost loudTurns
    let s' := (fresh masterSettings loudWorld).run (loudHost.fitting ⟨1⟩) loudTurns
    let counted := (fresh masterSettings (loudWorld, CounterStream.initial)).run loudHost.counting
      (loudTurns.map Turn.counting)
    .transmit loudFrame (.error .linkDown) :: s.history.drop 17 <:+ s.history ∧
    (∃ header block decoded, (s.history.drop 17).head? = some (.process Header.zero (.ok header)) ∧
      Frame.decode loudFrame ⟨1⟩ = .ok decoded ∧ decoded.header = header ∧
      decoded.samples loudFrame = some block) ∧
    s'.engine = s.engine ∧ s.engine.stats.sendFailures = 1 ∧
    ∃ frame decoded, (observed Event.attempted? counted.history)[2]? = some frame ∧
      Frame.decode frame ⟨1⟩ = .ok decoded ∧ decoded.header.counter.toNat = 2 := by
  intro s s' counted
  have hsuffix : .transmit loudFrame (.error .linkDown) :: s.history.drop 17 <:+ s.history :=
    ⟨s.history.take 16, rfl⟩
  have hthree : 2 < (observed Event.attempted? counted.history).length := by decide +kernel
  obtain ⟨hframes, -, hfitting, hcount⟩ :=
    outbound_frames loudHost masterSettings loudWorld loudTurns
  obtain ⟨header, asked, rest, block, decoded, hbefore, -, hdecode, hheader, hblock⟩ :=
    hframes _ _ _ hsuffix
  obtain ⟨decoded', hdecode', htwo, -⟩ := hcount 2 _ (List.getElem?_eq_getElem hthree)
  exact ⟨hsuffix, ⟨header, block, decoded, by rw [hbefore]; rfl, hdecode, hheader, hblock⟩,
    hfitting.2.1, by decide +kernel, _, decoded', List.getElem?_eq_getElem hthree, hdecode', htwo⟩

end Station

end AudioLink
