import AudioLink.Link.Pipeline
import AudioLink.Proofs.Link.Effects

/-!
# What a history accounts for

The packets that an engine took in, encoded and transmitted can be read off its history. They agree
with its counters, and each of them comes from somewhere: a packet that was taken in from a frame
that was handed to the engine, a frame that was transmitted from a packet that was encoded, and the
packet of a slave from one that it answers.
-/

namespace AudioLink

namespace Event

/-- The frame of a transmission that did not fail. -/
def carried? : Event → Option Bytes
  | transmit frame (.ok ()) => some frame
  | _ => none

def attempted? : Event → Option Bytes
  | transmit frame _ => some frame
  | _ => none

def header? : Event → Option Header
  | received header => some header
  | _ => none

def block? : Event → Option Bytes
  | delivered block => some block
  | _ => none

def isExchange : Event → Bool
  | received _ => true
  | transmit _ _ => true
  | _ => false

/-- Whether the event has no part in what becomes of a packet. -/
def isQuiet : Event → Bool
  | received _ => false
  | delivered _ => false
  | transmit _ _ => false
  | process _ _ => false
  | _ => true

end Event

namespace History

/-- What can be seen of a history through a view, the first event first. -/
def observed {α : Type} (view : Event → Option α) (history : List Event) : List α :=
  history.reverse.filterMap view

/-- The block under a header that the data stream has just filled in: the one that the pipeline
was asked for, if it was asked and the block fits, and silence otherwise. -/
def suppliedBlock (layout : Layout) (asks : Bool) : List Event → Bytes
  | .demanded (some block) :: _ =>
    if asks ∧ block.length = layout.samplesLength then block else Frame.silence layout
  | _ => Frame.silence layout

/-- The packets that were encoded, the first one first. -/
def encoded (layout : Layout) (asks : Bool) : List Event → List (Header × Bytes)
  | [] => []
  | .process _ (.ok header) :: events =>
    encoded layout asks events ++ [(header, suppliedBlock layout asks events)]
  | _ :: events => encoded layout asks events

/-- Every transmission answers a packet that was taken in just before it; the latest event comes
first. -/
inductive Answering : List Event → Prop where
  | nil : Answering []
  | heard {events : List Event} (header : Header) (h : Answering events) :
      Answering (.received header :: events)
  | answered {events : List Event} (header : Header) (frame : Bytes)
      (result : Except TransmitError Unit) (h : Answering events) :
      Answering (.transmit frame result :: .received header :: events)

@[simp] theorem observed_nil {α : Type} (view : Event → Option α) : observed view [] = [] := rfl

theorem observed_append {α : Type} (view : Event → Option α) (events history : List Event) :
    observed view (events ++ history) = observed view history ++ observed view events := by
  simp [observed]

theorem observed_cons {α : Type} (view : Event → Option α) (event : Event)
    (history : List Event) :
    observed view (event :: history) = observed view history ++ (view event).toList := by
  cases h : view event <;> simp [observed, h]

private theorem observed_filter {α : Type} {view : Event → Option α}
    (hview : ∀ event, event.isExchange = false → view event = none) (history : List Event) :
    observed view (history.filter Event.isExchange) = observed view history := by
  induction history with
  | nil => rfl
  | cons event history ih =>
    cases h : event.isExchange with
    | false =>
      rw [List.filter_cons_of_neg (by simp [h]), ih, observed_cons, hview event h]
      simp
    | true => rw [List.filter_cons_of_pos h, observed_cons, observed_cons, ih]

theorem observed_of_quiet {α : Type} {view : Event → Option α} {events : List Event}
    (hview : ∀ event, event.isQuiet = true → view event = none)
    (h : ∀ event ∈ events, event.isQuiet = true) : observed view events = [] := by
  unfold observed
  rw [List.filterMap_eq_nil_iff]
  intro event hevent
  exact hview event (h event (List.mem_reverse.mp hevent))

theorem carried?_of_quiet (event : Event) (h : event.isQuiet = true) : event.carried? = none := by
  cases event <;> simp_all [Event.isQuiet, Event.carried?]

private theorem header?_of_quiet (event : Event) (h : event.isQuiet = true) :
    event.header? = none := by
  cases event <;> simp_all [Event.isQuiet, Event.header?]

private theorem block?_of_quiet (event : Event) (h : event.isQuiet = true) :
    event.block? = none := by
  cases event <;> simp_all [Event.isQuiet, Event.block?]

private theorem filter_of_quiet {events : List Event} (h : ∀ event ∈ events, event.isQuiet = true) :
    events.filter Event.isExchange = [] := by
  rw [List.filter_eq_nil_iff]
  intro event hevent
  have hquiet := h event hevent
  cases event <;> simp_all [Event.isQuiet, Event.isExchange]

theorem quiet_of_news {events : List Event} (h : ∀ event ∈ events, event.isNews = true) :
    ∀ event ∈ events, event.isQuiet = true := by
  intro event hevent
  have hnews := h event hevent
  cases event <;> simp_all [Event.isNews, Event.isQuiet]

private theorem encoded_of_quiet (layout : Layout) (asks : Bool) {events : List Event}
    (h : ∀ event ∈ events, event.isQuiet = true) (history : List Event) :
    encoded layout asks (events ++ history) = encoded layout asks history := by
  induction events with
  | nil => rfl
  | cons event events ih =>
    have hevent := h event List.mem_cons_self
    have hrest := ih fun other hother => h other (List.mem_cons_of_mem event hother)
    cases event <;> simp_all [Event.isQuiet, encoded]

private theorem length_suppliedBlock (layout : Layout) (asks : Bool) (events : List Event) :
    (suppliedBlock layout asks events).length = layout.samplesLength := by
  unfold suppliedBlock
  split
  · split
    · rename_i h
      exact h.2
    · exact Frame.length_silence layout
  · exact Frame.length_silence layout

/-- Every packet that was encoded has a block of the right size. -/
theorem length_of_mem_encoded {layout : Layout} {asks : Bool} {history : List Event}
    {packet : Header × Bytes} (h : packet ∈ encoded layout asks history) :
    packet.2.length = layout.samplesLength := by
  induction history with
  | nil => simp [encoded] at h
  | cons event events ih =>
    unfold encoded at h
    split at h
    · simp at *
    · rename_i hcons
      obtain ⟨rfl, rfl⟩ := List.cons.inj hcons
      rcases List.mem_append.mp h with h | h
      · exact ih h
      · rw [List.mem_singleton.mp h]
        exact length_suppliedBlock layout asks _
    · rename_i hcons
      obtain ⟨rfl, rfl⟩ := List.cons.inj hcons
      exact ih h

theorem Answering.answer {events : List Event} {header : Header}
    (h : Answering (.received header :: events)) (frame : Bytes)
    (result : Except TransmitError Unit) :
    Answering (.transmit frame result :: .received header :: events) := by
  cases h with
  | heard _ h => exact .answered header frame result h

theorem Answering.length_le {history : List Event}
    (h : Answering (history.filter Event.isExchange)) :
    (observed Event.attempted? history).length ≤ (observed Event.header? history).length := by
  have hattempted (event : Event) (h : event.isExchange = false) : event.attempted? = none := by
    cases event <;> simp_all [Event.isExchange, Event.attempted?]
  have hheader (event : Event) (h : event.isExchange = false) : event.header? = none := by
    cases event <;> simp_all [Event.isExchange, Event.header?]
  rw [← observed_filter hattempted, ← observed_filter hheader]
  generalize history.filter Event.isExchange = events at h
  induction h with
  | nil => exact Nat.le_refl 0
  | heard header _ ih =>
    simp only [observed_cons, List.length_append, Event.attempted?, Event.header?,
      Option.toList_none, Option.toList_some, List.length_nil, List.length_singleton]
    omega
  | answered header frame result _ ih =>
    simp only [observed_cons, List.length_append, Event.attempted?, Event.header?,
      Option.toList_none, Option.toList_some, List.length_nil, List.length_singleton]
    omega

end History

open History

theorem Asking.suppliedBlock {layout : Layout} {asks : Bool} {asked : List Event} {block : Bytes}
    (h : Asking layout asks asked block) (history : List Event) :
    History.suppliedBlock layout asks (asked ++ history) = block := by
  cases h with
  | absent =>
    unfold History.suppliedBlock
    split <;> simp
  | empty => rfl
  | fitting block h => simp [History.suppliedBlock, h]
  | unfit block h => rfl

theorem Asking.quiet {layout : Layout} {asks : Bool} {asked : List Event} {block : Bytes}
    (h : Asking layout asks asked block) : ∀ event ∈ asked, event.isQuiet = true := by
  cases h <;> simp [Event.isQuiet]

theorem Asking.length_block {layout : Layout} {asks : Bool} {asked : List Event} {block : Bytes}
    (h : Asking layout asks asked block) : block.length = layout.samplesLength := by
  cases h with
  | fitting _ h => exact h
  | _ => exact Frame.length_silence layout

namespace Sending

variable {layout : Layout} {asks : Bool} {events : List Event} {count : Stats → Stats}

private theorem views (h : Sending layout asks events count) :
    observed Event.header? events = [] ∧ observed Event.block? events = [] := by
  cases h with
  | unready cause h =>
    simp [observed_cons, Event.header?, Event.block?, observed_of_quiet header?_of_quiet h.quiet,
      observed_of_quiet block?_of_quiet h.quiet]
  | refused header cause h =>
    simp [observed_cons, Event.header?, Event.block?, observed_of_quiet header?_of_quiet h.quiet,
      observed_of_quiet block?_of_quiet h.quiet]
  | sent header h =>
    simp [observed_cons, Event.header?, Event.block?, observed_of_quiet header?_of_quiet h.quiet,
      observed_of_quiet block?_of_quiet h.quiet]

/-- At most one packet is encoded, and only that one is transmitted. -/
theorem encoded (h : Sending layout asks events count) (history : List Event) :
    ∃ coded carried : List (Header × Bytes),
      History.encoded layout asks (events ++ history) =
        History.encoded layout asks history ++ coded ∧
      carried.Sublist coded ∧
      observed Event.carried? events = carried.map fun packet => Frame.build packet.1 packet.2 := by
  cases h with
  | unready cause h =>
    refine ⟨[], [], ?_, .slnil, ?_⟩
    · simp [History.encoded, encoded_of_quiet layout asks h.quiet]
    · simp [observed_cons, Event.carried?, observed_of_quiet carried?_of_quiet h.quiet]
  | @refused asked block header cause h =>
    refine ⟨[(header, block)], [], ?_, List.nil_sublist _, ?_⟩
    · simp [History.encoded, encoded_of_quiet layout asks h.quiet, h.suppliedBlock]
    · simp [observed_cons, Event.carried?, observed_of_quiet carried?_of_quiet h.quiet]
  | @sent asked block header h =>
    refine ⟨[(header, block)], [(header, block)], ?_, .refl _, ?_⟩
    · simp [History.encoded, encoded_of_quiet layout asks h.quiet, h.suppliedBlock]
    · simp [observed_cons, Event.carried?, observed_of_quiet carried?_of_quiet h.quiet]

private theorem exchange (h : Sending layout asks events count) :
    events.filter Event.isExchange = [] ∨
      ∃ frame result, events.filter Event.isExchange = [.transmit frame result] := by
  cases h with
  | unready cause h => exact .inl (by simp [Event.isExchange, filter_of_quiet h.quiet])
  | @refused asked block header cause h =>
    refine .inr ⟨Frame.build header block, .error cause, ?_⟩
    simp [List.filter_cons, Event.isExchange, filter_of_quiet h.quiet]
  | @sent asked block header h =>
    refine .inr ⟨Frame.build header block, .ok (), ?_⟩
    simp [List.filter_cons, Event.isExchange, filter_of_quiet h.quiet]

theorem stats (h : Sending layout asks events count) (stats : Stats) :
    (count stats).sent = stats.sent + (observed Event.carried? events).length ∧
      (count stats).received = stats.received ∧ (count stats).malformed = stats.malformed := by
  cases h with
  | unready cause h =>
    simp [observed_cons, Event.carried?, observed_of_quiet carried?_of_quiet h.quiet,
      Stats.countSendFailure]
  | refused header cause h =>
    simp [observed_cons, Event.carried?, observed_of_quiet carried?_of_quiet h.quiet,
      Stats.countSendFailure]
  | sent header h =>
    simp [observed_cons, Event.carried?, observed_of_quiet carried?_of_quiet h.quiet,
      Stats.countSent]

end Sending

/-- What a history owes to the frames that were handed to the engine, and to its own packets. -/
structure Ledger (settings : Settings) (callbacks : Callbacks) (fed : List Bytes)
    (history : List Event) : Prop where
  taken : ∃ packets : List (Header × Bytes),
    packets.Sublist (fed.filterMap (Frame.content? settings.device.inbound)) ∧
    observed Event.header? history = packets.map Prod.fst ∧
    observed Event.block? history = if callbacks.received then packets.map Prod.snd else []
  sent : ∃ packets : List (Header × Bytes),
    packets.Sublist (encoded settings.device.outbound callbacks.needed history) ∧
    observed Event.carried? history = packets.map fun packet => Frame.build packet.1 packet.2
  answers : settings.role = .slave → Answering (history.filter Event.isExchange)

/-- The counters of an engine agree with its history, and it found fault with no frame that can be
read. -/
structure Audit (settings : Settings) (fed : List Bytes) (history : List Event)
    (engine : Engine) : Prop where
  same : engine.settings = settings
  sent : engine.stats.sent = (observed Event.carried? history).length
  received : engine.stats.received = (observed Event.header? history).length
  malformed : engine.stats.malformed ≤
    fed.countP fun frame => (Frame.content? settings.device.inbound frame).isNone

namespace Ledger

variable {settings : Settings} {callbacks : Callbacks} {fed : List Bytes} {history : List Event}

theorem initial (settings : Settings) (callbacks : Callbacks) :
    Ledger settings callbacks [] [] where
  taken := ⟨[], .slnil, rfl, by simp⟩
  sent := ⟨[], .slnil, rfl⟩
  answers _ := .nil

private theorem feed (h : Ledger settings callbacks fed history) (frames : List Bytes) :
    Ledger settings callbacks (fed ++ frames) history := by
  obtain ⟨packets, htaken, hheaders, hblocks⟩ := h.taken
  refine ⟨⟨packets, ?_, hheaders, hblocks⟩, h.sent, h.answers⟩
  rw [List.filterMap_append]
  exact htaken.trans (List.sublist_append_left _ _)

theorem quiet (h : Ledger settings callbacks fed history) {events : List Event}
    (hquiet : ∀ event ∈ events, event.isQuiet = true) :
    Ledger settings callbacks fed (events ++ history) := by
  refine ⟨?_, ?_, ?_⟩
  · rw [observed_append, observed_append, observed_of_quiet header?_of_quiet hquiet,
      observed_of_quiet block?_of_quiet hquiet, List.append_nil, List.append_nil]
    exact h.taken
  · rw [observed_append, observed_of_quiet carried?_of_quiet hquiet, List.append_nil,
      encoded_of_quiet _ _ hquiet]
    exact h.sent
  · rw [List.filter_append, filter_of_quiet hquiet]
    exact h.answers

/-- The last packet goes through one encoding, and at most one transmission. -/
theorem sending (h : Ledger settings callbacks fed history) {events : List Event}
    {count : Stats → Stats}
    (hsent : Sending settings.device.outbound callbacks.needed events count)
    (hanswers : settings.role = .slave → ∀ frame result,
      Answering (.transmit frame result :: history.filter Event.isExchange)) :
    Ledger settings callbacks fed (events ++ history) := by
  have hviews := hsent.views
  obtain ⟨packets, hpackets, hcarried⟩ := h.sent
  obtain ⟨coded, carried, hencoded, hcoded, hnew⟩ := hsent.encoded history
  refine ⟨?_, ⟨packets ++ carried, ?_, ?_⟩, ?_⟩
  · rw [observed_append, observed_append, hviews.1, hviews.2, List.append_nil, List.append_nil]
    exact h.taken
  · rw [hencoded]
    exact hpackets.append hcoded
  · rw [observed_append, hcarried, hnew, List.map_append]
  · intro hrole
    rw [List.filter_append]
    rcases hsent.exchange with hexchange | ⟨frame, result, hexchange⟩
    · rw [hexchange]
      exact h.answers hrole
    · rw [hexchange]
      exact hanswers hrole frame result

/-- A frame that can be read is one more packet; it is delivered if anyone takes it. -/
theorem packet (h : Ledger settings callbacks fed history) {frame block : Bytes} {header : Header}
    (hcontent : Frame.content? settings.device.inbound frame = some (header, block)) :
    Ledger settings callbacks (fed ++ [frame])
      (.received header ::
        ((if callbacks.received then [.delivered block] else []) ++ history)) := by
  obtain ⟨packets, hpackets, hheaders, hblocks⟩ := h.taken
  refine ⟨⟨packets ++ [(header, block)], ?_, ?_, ?_⟩, ?_, ?_⟩
  · rw [List.filterMap_append]
    refine hpackets.append ?_
    simp [hcontent]
  · cases callbacks.received <;>
      simp [observed_cons, Event.header?, hheaders]
  · cases hreceived : callbacks.received <;>
      simp [observed_cons, Event.block?, hblocks, hreceived]
  · cases callbacks.received <;>
      simpa [observed_cons, Event.carried?, encoded] using h.sent
  · intro hrole
    have hexchange := h.answers hrole
    cases callbacks.received <;>
      simpa [List.filter_cons, Event.isExchange] using Answering.heard header hexchange

end Ledger

/-- The counters keep agreeing if they count what the events show. -/
theorem Audit.next {settings : Settings} {fed frames : List Bytes} {history events : List Event}
    {engine engine' : Engine} (h : Audit settings fed history engine)
    (hsame : engine'.settings = engine.settings)
    (hsent : engine'.stats.sent =
      engine.stats.sent + (observed Event.carried? events).length)
    (hreceived : engine'.stats.received =
      engine.stats.received + (observed Event.header? events).length)
    (hmalformed : engine'.stats.malformed ≤ engine.stats.malformed +
      frames.countP fun frame => (Frame.content? settings.device.inbound frame).isNone) :
    Audit settings (fed ++ frames) (events ++ history) engine' where
  same := hsame.trans h.same
  sent := by
    rw [hsent, h.sent, observed_append, List.length_append]
  received := by
    rw [hreceived, h.received, observed_append, List.length_append]
  malformed := by
    have := h.malformed
    rw [List.countP_append]
    omega

theorem Audit.initial (settings : Settings) : Audit settings [] [] (.ofSettings settings) where
  same := rfl
  sent := rfl
  received := rfl
  malformed := Nat.le_refl 0

def Call.frame? : Call → Option Bytes
  | inbound frame => some frame
  | _ => none

theorem Starting.quiet {engine engine' : Engine} {outcome : Except SetupError Unit}
    {events : List Event} (h : Starting engine outcome events engine') :
    ∀ event ∈ events, event.isQuiet = true := by
  cases h <;> simp [Event.isQuiet]

theorem Starting.engine {engine engine' : Engine} {outcome : Except SetupError Unit}
    {events : List Event} (h : Starting engine outcome events engine') :
    engine'.settings = engine.settings ∧ engine'.stats = engine.stats := by
  cases h <;> exact ⟨rfl, rfl⟩

namespace Host

variable {W : Type}

/-- The host has the callbacks of the pipeline. -/
structure Serves (host : Host W) (callbacks : Callbacks) : Prop where
  deliver : host.deliver.isSome = callbacks.received
  demand : host.demand.isSome = callbacks.needed

end Host

namespace Station

variable {W : Type} {host : Host W}

private theorem stats_lostStats (lost : Bool) (stats : Stats) :
    (lostStats lost stats).sent = stats.sent ∧ (lostStats lost stats).received = stats.received ∧
      (lostStats lost stats).malformed = stats.malformed := by
  cases lost <;> exact ⟨rfl, rfl, rfl⟩

private theorem stats_arrivalStats (tracker : Tracker) (counter : UInt16) (stats : Stats) :
    (arrivalStats tracker counter stats).sent = stats.sent ∧
      (arrivalStats tracker counter stats).received = stats.received + 1 ∧
      (arrivalStats tracker counter stats).malformed = stats.malformed := by
  unfold arrivalStats
  cases tracker.connected <;> cases (tracker.gap? counter).isSome <;> exact ⟨rfl, rfl, rfl⟩

variable {settings : Settings} {callbacks : Callbacks} {fed : List Bytes} {s : Station W}

private theorem books_quiet {events : List Event} {engine : Engine} (frames : List Bytes)
    (hquiet : ∀ event ∈ events, event.isQuiet = true) (hsame : engine.settings = s.engine.settings)
    (hsent : engine.stats.sent = s.engine.stats.sent)
    (hreceived : engine.stats.received = s.engine.stats.received)
    (hmalformed : engine.stats.malformed ≤ s.engine.stats.malformed +
      frames.countP fun frame => (Frame.content? settings.device.inbound frame).isNone)
    (hledger : Ledger settings callbacks fed s.history)
    (haudit : Audit settings fed s.history s.engine) :
    Ledger settings callbacks (fed ++ frames) (events ++ s.history) ∧
      Audit settings (fed ++ frames) (events ++ s.history) engine := by
  refine ⟨(hledger.quiet hquiet).feed frames, haudit.next hsame ?_ ?_ hmalformed⟩
  · rw [hsent, observed_of_quiet carried?_of_quiet hquiet]
    rfl
  · rw [hreceived, observed_of_quiet header?_of_quiet hquiet]
    rfl

private theorem books_fired {sent : List Event} {count : Stats → Stats} (now : Nanos)
    (tracker : Tracker) (cadence : Cadence)
    (hsent : Sending settings.device.outbound callbacks.needed sent count)
    (hmaster : settings.role = .master)
    (hledger : Ledger settings callbacks fed s.history)
    (haudit : Audit settings fed s.history s.engine) :
    Ledger settings callbacks fed
        (.rearm (s.engine.cadence.delay now) :: .clock now :: (sent ++ s.lossEvents host) ++
          s.history) ∧
      Audit settings fed
        (.rearm (s.engine.cadence.delay now) :: .clock now :: (sent ++ s.lossEvents host) ++
          s.history)
        { s.engine with tracker, cadence, stats := count (lostStats s.losing s.engine.stats) } := by
  have hquiet := quiet_of_news (s.news_lossEvents host)
  have hlost := stats_lostStats s.losing s.engine.stats
  have hviews := hsent.views
  have hstats := hsent.stats (lostStats s.losing s.engine.stats)
  have hspoken : Ledger settings callbacks fed (sent ++ (s.lossEvents host ++ s.history)) := by
    apply (hledger.quiet hquiet).sending hsent
    intro hslave
    rw [hmaster] at hslave
    cases hslave
  have hrearmed : Ledger settings callbacks fed
      ([.rearm (s.engine.cadence.delay now), .clock now] ++
        (sent ++ (s.lossEvents host ++ s.history))) :=
    hspoken.quiet (by simp [Event.isQuiet])
  have hnone : fed = fed ++ [] := (List.append_nil fed).symm
  refine ⟨?_, ?_⟩
  · rw [List.cons_append, List.cons_append, List.append_assoc]
    exact hrearmed
  · rw [hnone]
    refine haudit.next rfl ?_ ?_ ?_
    · rw [hstats.1, hlost.1, observed_cons, observed_cons, observed_append,
        observed_of_quiet carried?_of_quiet hquiet]
      simp [Event.carried?]
    · rw [hstats.2.1, hlost.2.1, observed_cons, observed_cons, observed_append,
        observed_of_quiet header?_of_quiet hquiet, hviews.1]
      simp [Event.header?]
    · rw [hstats.2.2, hlost.2.2]
      exact Nat.le_add_right _ _

private theorem books_packet {frame block : Bytes} {header : Header} {sent : List Event}
    {count : Stats → Stats} (tracker : Tracker) (hserves : host.Serves callbacks)
    (hcontent : Frame.content? settings.device.inbound frame = some (header, block))
    (hsent : Sending settings.device.outbound callbacks.needed sent count)
    (hledger : Ledger settings callbacks fed s.history)
    (haudit : Audit settings fed s.history s.engine) :
    Ledger settings callbacks (fed ++ [frame])
        (sent ++ .received header :: (host.delivery block ++
          arrivalEvents host s.device s.engine.tracker header.counter) ++ s.history) ∧
      Audit settings (fed ++ [frame])
        (sent ++ .received header :: (host.delivery block ++
          arrivalEvents host s.device s.engine.tracker header.counter) ++ s.history)
        { s.engine with
          tracker
          stats := count (arrivalStats s.engine.tracker header.counter s.engine.stats) } := by
  have hquiet :=
    quiet_of_news (news_arrivalEvents host s.device s.engine.tracker header.counter)
  have harrival := stats_arrivalStats s.engine.tracker header.counter s.engine.stats
  have hviews := hsent.views
  have hstats := hsent.stats (arrivalStats s.engine.tracker header.counter s.engine.stats)
  have hheard := (hledger.quiet hquiet).packet hcontent
  have hanswered := hheard.sending hsent fun hrole reply result =>
    (hheard.answers hrole).answer reply result
  have hdelivery : host.delivery block =
      if callbacks.received then [.delivered block] else [] := by
    rw [Host.delivery, hserves.deliver]
  refine ⟨?_, haudit.next rfl ?_ ?_ ?_⟩
  · rw [hdelivery, List.append_assoc, List.cons_append, List.append_assoc]
    exact hanswered
  · rw [hstats.1, harrival.1, observed_append, observed_cons, observed_append,
      observed_of_quiet carried?_of_quiet hquiet, hdelivery]
    cases callbacks.received <;> simp [observed_cons, Event.carried?]
  · rw [hstats.2.1, harrival.2.1, observed_append, observed_cons, observed_append,
      observed_of_quiet header?_of_quiet hquiet, hviews.1, hdelivery]
    cases callbacks.received <;> simp [observed_cons, Event.header?]
  · rw [hstats.2.2, harrival.2.2]
    exact Nat.le_add_right _ _

/-- Every entry keeps the books. -/
theorem Effect.books {call : Call} {events : List Event} {engine : Engine}
    (heffect : s.Effect host call events engine) (hserves : host.Serves callbacks)
    (hledger : Ledger settings callbacks fed s.history)
    (haudit : Audit settings fed s.history s.engine) :
    Ledger settings callbacks (fed ++ call.frame?.toList) (events ++ s.history) ∧
      Audit settings (fed ++ call.frame?.toList) (events ++ s.history) engine := by
  have hrole : s.role = settings.role := congrArg Settings.role haudit.same
  have hdevice : s.device = settings.device := congrArg Settings.device haudit.same
  cases heffect with
  | ignored h => exact books_quiet _ (by simp) rfl rfl rfl (Nat.le_add_right _ _) hledger haudit
  | start h =>
    have hengine := h.engine
    refine books_quiet _ h.quiet hengine.1 ?_ ?_ ?_ hledger haudit
    · rw [hengine.2]
    · rw [hengine.2]
    · rw [hengine.2]
      exact Nat.le_add_right _ _
  | stopped h =>
    have hstats := stats_lostStats s.engine.connected s.engine.stats
    have hquiet : ∀ event ∈ Event.note (.stopped s.role) ::
        ((s.engine.hook.map Event.uninstall).toList ++ (s.partingEvents host ++ [.cancel])),
        event.isQuiet = true := by
      rw [List.forall_mem_cons, List.forall_mem_append, List.forall_mem_append]
      refine ⟨rfl, ?_, quiet_of_news (s.news_partingEvents host), by simp [Event.isQuiet]⟩
      cases s.engine.hook <;> simp [Event.isQuiet]
    exact books_quiet _ hquiet rfl hstats.1 hstats.2.1
      (Nat.le_trans (Nat.le_of_eq hstats.2.2) (Nat.le_add_right _ _)) hledger haudit
  | stale h =>
    exact books_quiet _ (by simp [Event.isQuiet]) rfl rfl rfl (Nat.le_add_right _ _) hledger haudit
  | malformed cause h hslave hframe hdecode =>
    rw [hdevice] at hdecode
    refine books_quiet _ (by simp [Event.isQuiet]) rfl rfl rfl ?_ hledger haudit
    simp [Call.frame?, Frame.content?_of_error hdecode, Stats.countMalformed]
  | fired now h hcall hsent =>
    have hnone : call.frame?.toList = [] := by
      rcases hcall with rfl | rfl <;> rfl
    rw [hnone]
    rcases hsent with ⟨hmaster, hsent⟩ | ⟨-, rfl, rfl⟩
    · rw [hdevice, hserves.demand] at hsent
      rw [List.append_nil]
      exact books_fired now _ _ hsent (hrole.symm.trans hmaster) hledger haudit
    · have hlost := stats_lostStats s.losing s.engine.stats
      have hidle : ∀ event ∈ Event.rearm (s.engine.cadence.delay now) :: .clock now ::
          ([] ++ s.lossEvents host), event.isQuiet = true := by
        rw [List.forall_mem_cons, List.forall_mem_cons]
        exact ⟨rfl, rfl, quiet_of_news (s.news_lossEvents host)⟩
      exact books_quiet [] hidle rfl hlost.1 hlost.2.1
        (Nat.le_trans (Nat.le_of_eq hlost.2.2) (Nat.le_add_right _ _)) hledger haudit
  | packet h hslave hcontent hsent =>
    rw [hdevice] at hcontent hsent
    rw [hserves.demand] at hsent
    exact books_packet _ hserves hcontent hsent hledger haudit

end Station

end AudioLink
