import AudioLink.Proofs.Link.Accounts
import AudioLink.Proofs.Link.Trace
import AudioLink.Proofs.Wire.Exactness

/-!
# One packet from end to end

A packet that a started slave can read passes the tracker, the pipeline and the data stream, and is
answered. What it does on its way in depends on the engine and on the packet alone. The answer may
fail at every one of its steps, and then only the counters of what was sent tell of it.
-/

namespace AudioLink

/-- What the surroundings contribute to one outbound packet. -/
structure Answer where
  /-- The block of the pipeline, if the pipeline was asked for one. -/
  asked : Option (Option Bytes)
  /-- The header of the data stream and what became of the frame, or why there was no header. -/
  result : Except StreamError (Header × Except TransmitError Unit)

namespace Answer

def block (layout : Layout) (answer : Answer) : Bytes :=
  match answer.asked with
  | some (some block) =>
    if block.length = layout.samplesLength then block else Frame.silence layout
  | _ => Frame.silence layout

def calls (layout : Layout) (answer : Answer) : List Event :=
  (answer.asked.map Event.demanded).toList ++
    match answer.result with
    | .error cause => [.process Header.zero (.error cause)]
    | .ok (header, sent) =>
      [.process Header.zero (.ok header),
        .transmit (Frame.build header (answer.block layout)) sent]

def isSent (answer : Answer) : Bool :=
  match answer.result with
  | .ok (_, .ok ()) => true
  | _ => false

end Answer

/-- Whether an event is a call that tells of the peer or hands on what came from it. -/
def Event.isInward : Event → Bool
  | connected _ | disconnected | delivered _ | received _ => true
  | _ => false

private theorem Answer.inward_calls (layout : Layout) (answer : Answer) :
    (answer.calls layout).filter Event.isInward = [] := by
  obtain ⟨asked, result⟩ := answer
  cases asked <;> cases result <;> rfl

theorem Asking.answer {layout : Layout} {asks : Bool} {events : List Event} {block : Bytes}
    (h : Asking layout asks events block) :
    ∃ asked : Option (Option Bytes), asked.isSome = asks ∧
      History.calls events = (asked.map Event.demanded).toList ∧
      ∀ result, (Answer.mk asked result).block layout = block := by
  cases h with
  | absent => exact ⟨none, rfl, rfl, fun _ => rfl⟩
  | empty => exact ⟨some none, rfl, rfl, fun _ => rfl⟩
  | fitting _ h => exact ⟨some (some block), rfl, rfl, fun _ => if_pos h⟩
  | unfit offered h => exact ⟨some (some offered), rfl, rfl, fun _ => if_neg h⟩

/-- The calls of a packet that is sent, or is not, are those of an answer. -/
theorem Sending.answer {layout : Layout} {asks : Bool} {events : List Event}
    {count : Stats → Stats} (h : Sending layout asks events count) :
    ∃ answer : Answer, answer.asked.isSome = asks ∧
      (History.calls events).reverse = answer.calls layout ∧
      ∀ stats : Stats, count stats =
        { stats with
          sent := stats.sent + answer.isSent.toNat
          sendFailures := stats.sendFailures + (!answer.isSent).toNat } := by
  have hreverse {asked : Option (Option Bytes)} {events : List Event}
      (h : History.calls events = (asked.map Event.demanded).toList) :
      (History.calls events).reverse = (asked.map Event.demanded).toList := by
    rw [h]
    cases asked <;> rfl
  cases h with
  | @unready asked _ cause hasking =>
    obtain ⟨offered, hasks, hcalls, -⟩ := hasking.answer
    refine ⟨⟨offered, .error cause⟩, hasks, ?_, fun _ => rfl⟩
    change (.process Header.zero (.error cause) :: History.calls asked).reverse = _
    rw [List.reverse_cons, hreverse hcalls]
    rfl
  | @refused asked block header cause hasking =>
    obtain ⟨offered, hasks, hcalls, hblock⟩ := hasking.answer
    refine ⟨⟨offered, .ok (header, .error cause)⟩, hasks, ?_, fun _ => rfl⟩
    change (.transmit (Frame.build header block) (.error cause) ::
      .process Header.zero (.ok header) :: History.calls asked).reverse = _
    rw [List.reverse_cons, List.reverse_cons, hreverse hcalls, ← hblock, List.append_assoc]
    rfl
  | @sent asked block header hasking =>
    obtain ⟨offered, hasks, hcalls, hblock⟩ := hasking.answer
    refine ⟨⟨offered, .ok (header, .ok ())⟩, hasks, ?_, fun _ => rfl⟩
    change (.transmit (Frame.build header block) (.ok ()) ::
      .process Header.zero (.ok header) :: History.calls asked).reverse = _
    rw [List.reverse_cons, List.reverse_cons, hreverse hcalls, ← hblock, List.append_assoc]
    rfl

private theorem Frame.samples_eq_of_decode {frame : Bytes} {layout : Layout} {decoded : Decoded}
    (h : decode frame layout = .ok decoded) :
    decoded.samples frame =
        some ((frame.drop layout.samplesOffset).take layout.samplesLength) ∧
      ((frame.drop layout.samplesOffset).take layout.samplesLength).length =
        layout.samplesLength := by
  have hreading := decode_reading frame layout
  obtain ⟨block, hblock, hlength⟩ := samples_of_decode h
  rw [h] at hreading
  cases hreading with
  | whole header _ _ _ =>
    have hsame : block = (frame.drop layout.samplesOffset).take layout.samplesLength := by
      unfold Decoded.samples at hblock
      split at hblock
      · exact (Option.some.inj hblock).symm
      · cases hblock
    exact ⟨hsame ▸ hblock, hsame ▸ hlength⟩

private theorem isSome_gap? (counter : UInt16) (tracker : Tracker) :
    (tracker.gap? counter).isSome =
      (tracker.connected && counter != tracker.lastSequence + 1) := by
  unfold Tracker.gap? isSuccessor
  cases tracker.connected with
  | false => rfl
  | true =>
    by_cases h : tracker.lastSequence + 1 = counter
    · subst h
      simp
    · have h' : counter ≠ tracker.lastSequence + 1 := Ne.symm h
      simp [h, h']

namespace Host

variable {W : Type} (host : Host W)

private theorem calls_announcement (peer : Option Device) :
    History.calls (host.announcement peer) = host.announcement peer := by
  unfold announcement
  cases host.connection <;> cases peer <;> rfl

private theorem calls_delivery (block : Bytes) :
    History.calls (host.delivery block) = host.delivery block := by
  unfold delivery
  cases host.deliver <;> rfl

private theorem reverse_announcement (peer : Option Device) :
    (host.announcement peer).reverse = host.announcement peer := by
  unfold announcement
  cases host.connection <;> rfl

private theorem reverse_delivery (block : Bytes) :
    (host.delivery block).reverse = host.delivery block := by
  unfold delivery
  cases host.deliver <;> rfl

end Host

namespace Station

variable {W W' : Type} (host : Host W)

/-- The calls that a packet makes before it is answered, the first one first. -/
def intakeCalls (header : Header) (block : Bytes) (s : Station W) : List Event :=
  (if s.engine.connected then [] else host.announcement (some s.device)) ++
    (host.delivery block ++ [.received header])

private theorem inward_intakeCalls (header : Header) (block : Bytes) (s : Station W) :
    (s.intakeCalls host header block).filter Event.isInward =
      s.intakeCalls host header block := by
  unfold intakeCalls Host.announcement Host.delivery
  cases s.engine.connected <;> cases host.connection <;> cases host.deliver <;> rfl

private theorem intakeCalls_eq {host : Host W} {host' : Host W'} {s : Station W} {s' : Station W'}
    (hengine : s'.engine = s.engine)
    (hconnection : host'.connection.isSome = host.connection.isSome)
    (hdeliver : host'.deliver.isSome = host.deliver.isSome) (header : Header) (block : Bytes) :
    s'.intakeCalls host' header block = s.intakeCalls host header block := by
  unfold intakeCalls Host.announcement Host.delivery device
  rw [hengine, hconnection, hdeliver]

private theorem calls_arrivalEvents (device : Device) (tracker : Tracker) (counter : UInt16) :
    History.calls (arrivalEvents host device tracker counter) =
      if tracker.connected then [] else host.announcement (some device) := by
  have hnote (events : List Event) (notice : Notice) :
      History.calls (events ++ [.note notice]) = History.calls events := by
    rw [History.calls_append]
    exact List.append_nil _
  unfold arrivalEvents
  rw [hnote]
  have hcalls : History.calls (if tracker.connected then []
      else host.announcement (some device) ++ [.note (.connected device)]) =
      if tracker.connected then [] else host.announcement (some device) := by
    split
    · rfl
    · rw [hnote, host.calls_announcement]
  cases tracker.gap? counter with
  | none => rw [List.append_nil, hcalls]
  | some gap => rw [hnote, hcalls]

private theorem calls_packet {block : Bytes} {header : Header} {sent : List Event} (s : Station W) :
    (History.calls (sent ++ .received header :: (host.delivery block ++
      arrivalEvents host s.device s.engine.tracker header.counter))).reverse =
      s.intakeCalls host header block ++ (History.calls sent).reverse := by
  have hreceived (events : List Event) :
      History.calls (.received header :: events) = .received header :: History.calls events := rfl
  have hnews : (History.calls (arrivalEvents host s.device s.engine.tracker header.counter)).reverse
      = if s.engine.connected then [] else host.announcement (some s.device) := by
    rw [calls_arrivalEvents, Engine.connected]
    split
    · rfl
    · exact host.reverse_announcement (some s.device)
  rw [History.calls_append, hreceived, History.calls_append, host.calls_delivery,
    List.reverse_append, List.reverse_cons, List.reverse_append, hnews, host.reverse_delivery,
    intakeCalls]
  simp only [List.append_assoc]

private theorem inbound_packet {s : Station W} {frame : Bytes} {decoded : Frame.Decoded}
    (hstarted : s.engine.started = true) (hrole : s.role = .slave)
    (hframe : Frame.hasDiscriminator frame = true)
    (hdecode : Frame.decode frame s.device.inbound = .ok decoded) :
    let block :=
      (frame.drop s.device.inbound.samplesOffset).take s.device.inbound.samplesLength
    let tracker := s.engine.tracker
    let stats := s.engine.stats
    let counter := decoded.header.counter
    ∃ events answer,
      (s.inbound host frame).2.history = events ++ s.history ∧
      host.Trace events s.world (s.inbound host frame).2.world ∧
      (History.calls events).reverse =
        s.intakeCalls host decoded.header block ++ Answer.calls s.device.outbound answer ∧
      answer.asked.isSome = host.demand.isSome ∧
      (s.inbound host frame).2.engine =
        { s.engine with
          tracker := ⟨tracker.tick, tracker.tick, counter, true⟩
          stats :=
            { stats with
              sent := stats.sent + answer.isSent.toNat
              received := stats.received + 1
              gaps := stats.gaps +
                (if tracker.connected ∧ counter ≠ tracker.lastSequence + 1 then 1 else 0)
              sendFailures := stats.sendFailures + (!answer.isSent).toNat
              connects := stats.connects + (if tracker.connected then 0 else 1) } } := by
  obtain ⟨events, engine, heffect, hengine, hhistory, htrace⟩ :=
    perform_trace host (.inbound frame) s
  have hcontent := Frame.content?_of_decode hdecode hframe (Frame.samples_eq_of_decode hdecode).1
  cases heffect with
  | ignored h => exact absurd ⟨hframe, hstarted, hrole⟩ h
  | fired _ _ hcall => simp at hcall
  | malformed cause _ _ _ herror =>
    rw [hdecode] at herror
    cases herror
  | packet _ _ hpacket hsent =>
    rw [hcontent] at hpacket
    cases hpacket
    obtain ⟨answer, hasks, hcalls, hcount⟩ := hsent.answer
    refine ⟨_, answer, hhistory, htrace, ?_, hasks, hengine.trans ?_⟩
    · rw [calls_packet, hcalls]
    · rw [hcount, arrivalStats_eq, isSome_gap?]
      cases s.engine.tracker.connected <;>
        by_cases hnext : decoded.header.counter = s.engine.tracker.lastSequence + 1 <;>
          simp [Tracker.connect, Tracker.record, hnext]

private theorem inward_of_calls {s : Station W} {events : List Event} {answer : Answer}
    {header : Header} {block : Bytes} {layout : Layout}
    (h : (History.calls events).reverse =
      s.intakeCalls host header block ++ answer.calls layout) :
    events.filter Event.isInward = (s.intakeCalls host header block).reverse := by
  have hfilter : (History.calls events).filter Event.isInward = events.filter Event.isInward := by
    rw [History.calls, List.filter_filter]
    refine List.filter_congr fun event _ => ?_
    cases event <;> rfl
  rw [← hfilter, ← List.reverse_reverse (History.calls events), h, List.filter_reverse,
    List.filter_append, inward_intakeCalls, answer.inward_calls, List.append_nil]

/-- A started slave handles every frame of the protocol that it can read by the following calls and
no others, where callbacks that are not installed are left out: the announcement of the peer, if it
was not connected, the block of the frame for the pipeline, its header for the data stream, the
question for a block, the question for a header, and, if there is a header, one transmission. It is
connected then, has seen the packet at the present tick and under its counter, and counts it, a new
connection, and a gap if it was connected and the counter is not the next one. Neither the answer
nor anything else in the surroundings has an influence on what it does with the packet itself. -/
theorem packet_end_to_end (s : Station W) (frame : Bytes) (decoded : Frame.Decoded)
    (hstarted : s.engine.started = true) (hrole : s.role = .slave)
    (hframe : Frame.hasDiscriminator frame = true)
    (hdecode : Frame.decode frame s.device.inbound = .ok decoded) :
    let block :=
      (frame.drop s.device.inbound.samplesOffset).take s.device.inbound.samplesLength
    let tracker := s.engine.tracker
    let stats := s.engine.stats
    let counter := decoded.header.counter
    let t := (s.inbound host frame).2
    (s.inbound host frame).1 = .handled ∧
    block.length = s.device.inbound.samplesLength ∧
    (∃ events answer,
      t.history = events ++ s.history ∧ host.Trace events s.world t.world ∧
      (History.calls events).reverse =
        (if tracker.connected then [] else host.announcement (some s.device)) ++
          (host.delivery block ++ [.received decoded.header]) ++
          Answer.calls s.device.outbound answer ∧
      answer.asked.isSome = host.demand.isSome ∧
      t.engine =
        { s.engine with
          tracker := ⟨tracker.tick, tracker.tick, counter, true⟩
          stats :=
            { stats with
              sent := stats.sent + answer.isSent.toNat
              received := stats.received + 1
              gaps := stats.gaps +
                (if tracker.connected ∧ counter ≠ tracker.lastSequence + 1 then 1 else 0)
              sendFailures := stats.sendFailures + (!answer.isSent).toNat
              connects := stats.connects + (if tracker.connected then 0 else 1) } }) ∧
    ∀ (W' : Type) (host' : Host W') (s' : Station W'), s'.engine = s.engine →
      host'.connection.isSome = host.connection.isSome →
      host'.deliver.isSome = host.deliver.isSome →
      let t' := (s'.inbound host' frame).2
      t'.engine =
        { t.engine with
          stats :=
            { t.engine.stats with
              sent := t'.engine.stats.sent
              sendFailures := t'.engine.stats.sendFailures } } ∧
      ∃ events events', t.history = events ++ s.history ∧ t'.history = events' ++ s'.history ∧
        events'.filter Event.isInward = events.filter Event.isInward := by
  intro block tracker stats counter t
  obtain ⟨events, answer, hhistory, htrace, hcalls, hasked, hengine⟩ :=
    inbound_packet host hstarted hrole hframe hdecode
  refine ⟨?_, (Frame.samples_eq_of_decode hdecode).2,
    ⟨events, answer, hhistory, htrace, hcalls, hasked, hengine⟩, ?_⟩
  · unfold inbound
    rw [if_pos hframe]
  intro W' host' s' hsame hconnection hdeliver t'
  have hdevice : s'.device = s.device := by rw [device, hsame, device]
  obtain ⟨events', answer', hhistory', -, hcalls', -, hengine'⟩ :=
    inbound_packet (s := s') host' (by rw [hsame, hstarted]) (by rw [role, hsame]; exact hrole)
      hframe (by rw [hdevice, hdecode])
  refine ⟨?_, events, events', hhistory, hhistory', ?_⟩
  · change (s'.inbound host' frame).2.engine = _
    rw [hengine', show t.engine = _ from hengine, hsame]
  · rw [hdevice] at hcalls'
    rw [inward_of_calls host hcalls, inward_of_calls host' hcalls',
      intakeCalls_eq hsame hconnection hdeliver]

/-- A slave that has heard the counter 9 and fired once, when the link goes down. -/
def cutOff : Station ScriptedHost :=
  ((fresh shortSettings shortWorld).run shortHost shortPast).meanwhile fun world =>
    { world with transmitFault := some .linkDown }

/-- The packet after two that were lost is taken in, although the answer does not go out. -/
theorem packet_end_to_end_while_cut_off :
    let frame := silentFrame 12
    let t := (cutOff.inbound shortHost frame).2
    cutOff.engine.started = true ∧ cutOff.role = .slave ∧
    Frame.hasDiscriminator frame = true ∧
    Frame.decode frame cutOff.device.inbound = .ok ⟨.ofCounter 12, 50, 36⟩ ∧
    t.engine.tracker = ⟨1, 1, 12, true⟩ ∧ t.engine.stats.received = 2 ∧
    t.engine.stats.gaps = 1 ∧ t.engine.stats.connects = 1 ∧
    ∃ events answer, t.history = events ++ cutOff.history ∧
      (History.calls events).reverse =
        [.delivered (Frame.silence ⟨1⟩), .received (.ofCounter 12)] ++
          Answer.calls ⟨1⟩ answer ∧
      answer.asked = none ∧ answer.isSent = false := by
  intro frame t
  have hstarted : cutOff.engine.started = true := by decide +kernel
  have hdecode : Frame.decode frame cutOff.device.inbound = .ok ⟨.ofCounter 12, 50, 36⟩ :=
    Frame.decode_build (.ofCounter 12) (Frame.silence ⟨1⟩) ⟨1⟩ (Frame.length_silence ⟨1⟩)
  have hframe : Frame.hasDiscriminator frame = true := Frame.hasDiscriminator_build _ _
  have hengine : cutOff.engine.tracker = ⟨1, 0, 9, true⟩ ∧
      cutOff.engine.stats = ⟨1, 1, 0, 0, 0, 1, 0⟩ := by decide +kernel
  have hunsent : t.engine.stats.sent = 1 := by decide +kernel
  obtain ⟨-, -, ⟨events, answer, hhistory, -, hcalls, hasked, hafter⟩, -⟩ :=
    packet_end_to_end shortHost cutOff frame _ hstarted rfl hframe hdecode
  have hafter : t.engine = _ := hafter
  rw [hengine.1] at hcalls
  rw [hengine.1, hengine.2] at hafter
  refine ⟨hstarted, rfl, hframe, hdecode, ?_, ?_, ?_, ?_, events, answer, hhistory, hcalls, ?_, ?_⟩
  · rw [hafter]
    rfl
  · rw [hafter]
  · rw [hafter]
    rfl
  · rw [hafter]
    rfl
  · exact Option.not_isSome_iff_eq_none.mp (by rw [hasked]; decide)
  · rw [hafter] at hunsent
    cases hsent : answer.isSent with
    | false => rfl
    | true => simp [hsent] at hunsent

end Station

end AudioLink
