import AudioLink.Proofs.Link.Outbound

/-!
# Tones on a link

A tone always has the next block, and every block has the size of the layout. So an engine whose
pipeline is a tone never sends silence in the place of a block, and if its data stream is a counter,
which never fails, then each frame carries one block of the tone, in the order of the tone.
-/

namespace AudioLink

namespace Tone

def after (tone : Tone) : Nat → Tone
  | 0 => tone
  | count + 1 => (tone.after count).nextBlock.2

def block (tone : Tone) (count : Nat) : Bytes := (tone.after count).nextBlock.1

/-- One value on every channel. -/
def spread (layout : Layout) (value : Vector UInt8 3) : Bytes :=
  (List.replicate layout.channels.toNat value.toList).flatten

private theorem length_spread (layout : Layout) (value : Vector UInt8 3) :
    (spread layout value).length = 3 * layout.channels.toNat := by
  simp [spread, Nat.mul_comm]

private theorem frame_eq_spread (tone : Tone) : ∃ value, tone.frame = spread tone.layout value :=
  ⟨⟨(Pcm.pack tone.sample).toArray, rfl⟩, rfl⟩

private theorem layout_frames (count : Nat) (tone : Tone) :
    (frames count tone).2.layout = tone.layout := by
  induction count generalizing tone with
  | zero => rfl
  | succ count ih => exact ih tone.advance

private theorem frames_eq_spread (count : Nat) (tone : Tone) :
    ∃ values : Vector (Vector UInt8 3) count,
      (frames count tone).1 = values.toList.map (spread tone.layout) := by
  induction count generalizing tone with
  | zero => exact ⟨#v[], rfl⟩
  | succ count ih =>
    obtain ⟨value, hvalue⟩ := tone.frame_eq_spread
    obtain ⟨values, hvalues⟩ := ih tone.advance
    refine ⟨⟨(value :: values.toList).toArray, by simp⟩, ?_⟩
    change tone.frame :: (frames count tone.advance).1 = _
    rw [hvalues, hvalue]
    rfl

private theorem layout_after (tone : Tone) (count : Nat) :
    (tone.after count).layout = tone.layout := by
  induction count with
  | zero => rfl
  | succ count ih => exact (layout_frames samplesPerPacket _).trans ih

private theorem block_eq_spread (tone : Tone) (count : Nat) :
    ∃ values : Vector (Vector UInt8 3) samplesPerPacket,
      tone.block count = values.toList.flatMap (spread tone.layout) := by
  obtain ⟨values, hvalues⟩ := frames_eq_spread samplesPerPacket (tone.after count)
  rw [layout_after] at hvalues
  refine ⟨values, ?_⟩
  change (frames samplesPerPacket (tone.after count)).1.flatten = _
  rw [hvalues, List.flatMap_def]

theorem length_block (tone : Tone) (count : Nat) :
    (tone.block count).length = tone.layout.samplesLength := by
  obtain ⟨values, hvalues⟩ := tone.block_eq_spread count
  rw [hvalues, List.length_flatMap, List.map_congr_left fun value _ => length_spread _ value,
    List.map_const', List.sum_replicate_nat, Vector.length_toList, Layout.samplesLength_eq]
  simp only [samplesPerPacket]
  omega

end Tone

/-- The answer of the pipeline when it was asked for a block. -/
def Event.asked? : Event → Option (Option Bytes)
  | demanded answer => some answer
  | _ => none

/-- Whether the event has no part in making up a packet. -/
def Event.isApart : Event → Bool
  | demanded _ => false
  | process _ _ => false
  | _ => true

open History

variable {layout : Layout} {events history : List Event}

/-- Whenever the pipeline was asked it had a block of the right size. -/
def History.WellFed (layout : Layout) (history : List Event) : Prop :=
  ∀ answer, .demanded answer ∈ history →
    ∃ block, answer = some block ∧ block.length = layout.samplesLength

private theorem Event.apart_of_news {events : List Event}
    (h : ∀ event ∈ events, event.isNews = true) :
    ∀ event ∈ events, event.isApart = true := by
  intro event hevent
  have hnews := h event hevent
  cases event <;> simp_all [Event.isNews, Event.isApart]

theorem Starting.apart {engine engine' : Engine} {outcome : Except SetupError Unit}
    {events : List Event} (h : Starting engine outcome events engine') :
    ∀ event ∈ events, event.isApart = true := by
  cases h <;> simp [Event.isApart]

/-- Every block that the pipeline was asked for has gone into a packet, and no packet has any other
one. -/
def History.Voiced (layout : Layout) (history : List Event) : Prop :=
  (encoded layout true history).map (fun packet => some packet.2) = observed Event.asked? history

private theorem Asking.eq_demanded {asked : List Event} {block : Bytes}
    (h : Asking layout true asked block) (hfed : WellFed layout asked) :
    asked = [.demanded (some block)] := by
  cases h with
  | empty =>
    obtain ⟨block, hnone, -⟩ := hfed none List.mem_cons_self
    cases hnone
  | fitting block _ => rfl
  | unfit block hsize =>
    obtain ⟨block', hsome, hsize'⟩ := hfed (some block) (by simp)
    cases hsome
    exact absurd hsize' hsize

theorem History.Voiced.aside {event : Event} (h : Voiced layout history)
    (hevent : event.isApart = true) : Voiced layout (event :: history) := by
  unfold Voiced at h ⊢
  rw [observed_cons, ← h]
  cases event <;> simp_all [Event.isApart, Event.asked?, encoded]

theorem History.Voiced.asides (h : Voiced layout history)
    (hevents : ∀ event ∈ events, event.isApart = true) : Voiced layout (events ++ history) := by
  induction events with
  | nil => exact h
  | cons event events ih =>
    rw [List.forall_mem_cons] at hevents
    exact (ih hevents.2).aside hevents.1

theorem History.Voiced.packet {block : Bytes} (h : Voiced layout history)
    (hsize : block.length = layout.samplesLength) (header : Header) :
    Voiced layout (.process Header.zero (.ok header) :: .demanded (some block) :: history) := by
  have hblock : suppliedBlock layout true (.demanded (some block) :: history) = block :=
    (Asking.fitting block hsize).suppliedBlock history
  unfold Voiced at h ⊢
  rw [encoded, hblock, observed_cons, observed_cons, ← h]
  simp [encoded, Event.asked?]

/-- If the data stream does not fail, each block that was asked for goes into its packet. -/
theorem History.Voiced.sending {count : Stats → Stats} (h : Voiced layout history)
    (hsending : Sending layout true events count) (hfed : WellFed layout events)
    (hready : ∀ given cause, .process given (.error cause) ∉ events) :
    Voiced layout (events ++ history) := by
  have hasked {asked : List Event} {block : Bytes} (hasking : Asking layout true asked block)
      (hsuffix : asked <:+ events) : asked = [.demanded (some block)] :=
    hasking.eq_demanded fun answer hmem => hfed answer (hsuffix.subset hmem)
  cases hsending with
  | unready cause _ => exact absurd (by simp) (hready Header.zero cause)
  | refused header cause hasking =>
    rw [hasked hasking (List.suffix_append [_, _, _] _)]
    exact ((h.packet hasking.length_block header).aside rfl).aside rfl
  | sent header hasking =>
    rw [hasked hasking (List.suffix_append [_, _, _] _)]
    exact ((h.packet hasking.length_block header).aside rfl).aside rfl

private theorem History.Outbound.block_of_voiced (h : Outbound layout true history)
    (hvoiced : Voiced layout history) {k : Nat} {frame : Bytes}
    (hk : (observed Event.attempted? history)[k]? = some frame) :
    ∃ header block, frame = Frame.build header block ∧
      (observed Event.asked? history)[k]? = some (some block) := by
  rw [h.each, List.getElem?_map, Option.map_eq_some_iff] at hk
  obtain ⟨packet, hpacket, rfl⟩ := hk
  refine ⟨packet.1, packet.2, rfl, ?_⟩
  rw [← hvoiced, List.getElem?_map, hpacket]
  rfl

/-- The surroundings with a supply of blocks for the pipeline, which nothing else has a hold of. -/
def Host.supplied {W : Type} (host : Host W) : Host (W × Supply) where
  arm delay w := ((host.arm delay w.1).1, (host.arm delay w.1).2, w.2)
  rearm delay w := (host.rearm delay w.1, w.2)
  cancel w := (host.cancel w.1, w.2)
  now w := host.now w.1
  generation w := host.generation w.1
  install filter w := ((host.install filter w.1).1, (host.install filter w.1).2, w.2)
  uninstall handle w := (host.uninstall handle w.1, w.2)
  transmit frame w := ((host.transmit frame w.1).1, (host.transmit frame w.1).2, w.2)
  process header w := ((host.process header w.1).1, (host.process header w.1).2, w.2)
  received header w := (host.received header w.1, w.2)
  connection := host.connection.map fun callback peer w => (callback peer w.1, w.2)
  deliver := host.deliver.map fun callback block w => (callback block w.1, w.2)
  demand := some fun w => (w.2.next.1, w.1, w.2.next.2)

def Turn.supplied {W : Type} (t : Turn W) : Turn (W × Supply) :=
  ⟨fun w => (t.before w.1, w.2), t.call⟩

/-- The pipeline was asked for the first blocks of a tone, and the supply goes on from there. -/
def Supply.Plays (tone : Tone) (history : List Event) (supply : Supply) : Prop :=
  ∃ n, supply = .tone (tone.after n) ∧
    observed Event.asked? history = (List.range n).map fun k => some (tone.block k)

namespace Supply

variable {tone : Tone} {supply supply' : Supply}

theorem Plays.aside {event : Event} (h : supply.Plays tone history) (hsame : supply' = supply)
    (hevent : event.asked? = none) : supply'.Plays tone (event :: history) := by
  obtain ⟨n, hsupply, hasked⟩ := h
  refine ⟨n, hsame.trans hsupply, ?_⟩
  rw [observed_cons, hevent, hasked]
  exact List.append_nil _

theorem Plays.next (h : supply.Plays tone history) :
    supply.next.2.Plays tone (.demanded supply.next.1 :: history) := by
  obtain ⟨n, rfl, hasked⟩ := h
  refine ⟨n + 1, rfl, ?_⟩
  rw [observed_cons, hasked, List.range_succ, List.map_append]
  rfl

private theorem Plays.wellFed (h : supply.Plays tone history) : WellFed tone.layout history := by
  obtain ⟨n, -, hasked⟩ := h
  intro answer hmem
  have hanswer : answer ∈ observed Event.asked? history :=
    List.mem_filterMap.mpr ⟨_, List.mem_reverse.mpr hmem, rfl⟩
  rw [hasked] at hanswer
  obtain ⟨k, -, rfl⟩ := List.mem_map.mp hanswer
  exact ⟨tone.block k, rfl, tone.length_block k⟩

private theorem Plays.eq_block (h : supply.Plays tone history) {k : Nat} {answer : Option Bytes}
    (hk : (observed Event.asked? history)[k]? = some answer) : answer = some (tone.block k) := by
  obtain ⟨n, -, hasked⟩ := h
  rw [hasked, List.getElem?_map, Option.map_eq_some_iff] at hk
  obtain ⟨index, hindex, rfl⟩ := hk
  obtain ⟨_, rfl⟩ := List.getElem?_eq_some_iff.mp hindex
  rw [List.getElem_range]

private theorem plays_does {W : Type} {host : Host W} {event : Event} {w w' : W × Supply}
    (hdoes : host.supplied.Does event w w') (h : w.2.Plays tone history) :
    w'.2.Plays tone (event :: history) := by
  cases hdoes with
  | demanded callback _ hcallback =>
    cases hcallback
    exact h.next
  | connected device callback _ hcallback =>
    obtain ⟨callback, -, rfl⟩ := Option.map_eq_some_iff.mp hcallback
    exact h.aside rfl rfl
  | disconnected callback _ hcallback =>
    obtain ⟨callback, -, rfl⟩ := Option.map_eq_some_iff.mp hcallback
    exact h.aside rfl rfl
  | delivered block callback _ hcallback =>
    obtain ⟨callback, -, rfl⟩ := Option.map_eq_some_iff.mp hcallback
    exact h.aside rfl rfl
  | _ => exact h.aside rfl rfl

private theorem plays_trace {W : Type} {host : Host W} {w w' : W × Supply}
    (htrace : host.supplied.Trace events w w') (h : w.2.Plays tone history) :
    w'.2.Plays tone (events ++ history) := by
  induction htrace with
  | nil => exact h
  | cons _ hdoes ih => exact plays_does hdoes (ih h)

end Supply

namespace Station

variable {W : Type} (host : Host W) {tone : Tone}

/-- The pipeline of an engine is a tone of its outbound layout. -/
structure Sounding (tone : Tone) (s : Station (W × Supply)) : Prop where
  layout : s.device.outbound = tone.layout
  plays : s.world.2.Plays tone s.history

private theorem sounding_turn (t : Turn W) (s : Station (W × Supply)) (h : Sounding tone s) :
    Sounding tone (s.turn host.supplied t.supplied) := by
  have hdevice : (s.turn host.supplied t.supplied).device = s.device :=
    device_perform host.supplied t.call (s.meanwhile t.supplied.before)
  have hacts : Acts host.supplied (s.meanwhile t.supplied.before)
      (s.turn host.supplied t.supplied) := acts_perform t.call _
  obtain ⟨events, hhistory, htrace⟩ := hacts
  refine ⟨(congrArg Device.outbound hdevice).trans h.layout, ?_⟩
  rw [hhistory]
  exact Supply.plays_trace htrace h.plays

private theorem run_supplied {P : Station (W × Supply) → Prop}
    (hturn : ∀ (t : Turn W) s, P s → P (s.turn host.supplied t.supplied)) (turns : List (Turn W))
    (s : Station (W × Supply)) (h : P s) : P (s.run host.supplied (turns.map Turn.supplied)) := by
  induction turns generalizing s with
  | nil => exact h
  | cons t turns ih => exact ih _ (hturn t s h)

private theorem voiced_perform (hasks : host.demand.isSome = true) (call : Call) (s : Station W)
    (hfed : WellFed s.device.outbound (s.perform host call).2.history)
    (hready : ∀ given cause, .process given (.error cause) ∉ (s.perform host call).2.history)
    (h : Voiced s.device.outbound s.history) :
    Voiced s.device.outbound (s.perform host call).2.history := by
  obtain ⟨events, engine, heffect, -, hhistory⟩ := perform_effect host call s
  rw [hhistory] at hfed hready ⊢
  cases heffect with
  | ignored _ => exact h
  | stale _ => exact h.aside rfl
  | malformed _ _ _ _ _ => exact h.aside rfl
  | start hstart => exact h.asides hstart.apart
  | stopped _ =>
    apply h.asides
    rw [List.forall_mem_cons, List.forall_mem_append, List.forall_mem_append]
    refine ⟨rfl, ?_, Event.apart_of_news (news_partingEvents host s), by simp [Event.isApart]⟩
    cases s.engine.hook <;> simp [Event.isApart]
  | fired now _ _ hsent =>
    have hlost := h.asides (Event.apart_of_news (news_lossEvents host s))
    rcases hsent with ⟨-, hsent⟩ | ⟨-, rfl, -⟩
    · rw [hasks] at hsent
      have hspoken := hlost.sending hsent (fun answer hmem => hfed answer (by simp [hmem]))
        fun given cause hmem => hready given cause (by simp [hmem])
      rw [List.cons_append, List.cons_append, List.append_assoc]
      exact (hspoken.aside rfl).aside rfl
    · exact (hlost.aside rfl).aside rfl
  | @packet _ header block _ _ _ _ _ hsent =>
    rw [hasks] at hsent
    rw [List.append_assoc]
    refine (h.asides ?_).sending hsent (fun answer hmem => hfed answer (by simp [hmem]))
      fun given cause hmem => hready given cause (by simp [hmem])
    rw [List.forall_mem_cons, List.forall_mem_append]
    refine ⟨rfl, ?_, Event.apart_of_news
      (news_arrivalEvents host s.device s.engine.tracker header.counter)⟩
    unfold Host.delivery
    split <;> simp [Event.isApart]

private theorem ready_does {event : Event} {w w' : (W × CounterStream) × Supply}
    (hdoes : host.counting.supplied.Does event w w') (given : Header) (cause : StreamError) :
    event ≠ .process given (.error cause) := by
  intro hevent
  cases hdoes <;> cases hevent

private theorem ready_trace {events : List Event} {w w' : (W × CounterStream) × Supply}
    (htrace : host.counting.supplied.Trace events w w') (given : Header) (cause : StreamError) :
    .process given (.error cause) ∉ events := by
  induction htrace with
  | nil => exact List.not_mem_nil
  | cons _ hdoes ih =>
    rw [List.mem_cons, not_or]
    exact ⟨(ready_does host hdoes given cause).symm, ih⟩

/-- The pipeline of an engine is a tone, and its data stream a counter. -/
structure Steady (tone : Tone) (s : Station ((W × CounterStream) × Supply)) : Prop where
  sounding : Sounding tone s
  ready : ∀ given cause, .process given (.error cause) ∉ s.history
  voiced : Voiced tone.layout s.history

private theorem steady_turn (t : Turn (W × CounterStream))
    (s : Station ((W × CounterStream) × Supply)) (h : Steady tone s) :
    Steady tone (s.turn host.counting.supplied t.supplied) := by
  have hsounding := sounding_turn host.counting t s h.sounding
  have hacts : Acts host.counting.supplied (s.meanwhile t.supplied.before)
      (s.turn host.counting.supplied t.supplied) := acts_perform t.call _
  obtain ⟨events, hhistory, htrace⟩ := hacts
  have hready : ∀ given cause, .process given (.error cause) ∉
      (s.turn host.counting.supplied t.supplied).history := by
    intro given cause
    rw [hhistory, List.mem_append, not_or]
    exact ⟨ready_trace host htrace given cause, h.ready given cause⟩
  refine ⟨hsounding, hready, ?_⟩
  have hfed := hsounding.plays.wellFed
  have hvoiced := h.voiced
  rw [← h.sounding.layout] at hfed hvoiced ⊢
  exact voiced_perform host.counting.supplied rfl t.call _ hfed hready hvoiced

/-- The blocks of a tone have the size of its layout, each of them twelve sample frames of one value
on every channel. So a frame of an engine whose pipeline is a tone of the outbound layout never
carries silence in the place of a block: its block is the one that the tone has supplied in that
send, and what the tone supplies are its blocks in their order. With a counter for a data stream the
frames carry the blocks of the tone one after the other, over all sessions and whether they are
refused or not. Nothing is assumed of the frequency, the amplitude and the sine. -/
theorem frames_carry_tone (settings : Settings) (frequency amplitude : Float32) (world : W)
    (turns : List (Turn W)) :
    let layout := settings.device.outbound
    let tone := Tone.create layout frequency amplitude
    let s := (fresh settings (world, Supply.tone tone)).run host.supplied
      (turns.map Turn.supplied)
    let counted := (fresh settings ((world, CounterStream.initial), Supply.tone tone)).run
      host.counting.supplied ((turns.map Turn.counting).map Turn.supplied)
    (∀ k, (tone.block k).length = layout.samplesLength ∧
      ∃ values : Vector (Vector UInt8 3) 12, tone.block k = values.toList.flatMap fun value =>
        (List.replicate layout.channels.toNat value.toList).flatten) ∧
    (∀ frame result before, .transmit frame result :: before <:+ s.history →
      ∃ header block rest decoded,
        before = .process Header.zero (.ok header) :: .demanded (some block) :: rest ∧
        Frame.decode frame layout = .ok decoded ∧ decoded.samples frame = some block) ∧
    (∀ k answer, (observed Event.asked? s.history)[k]? = some answer →
      answer = some (tone.block k)) ∧
    ∀ k frame, (observed Event.attempted? counted.history)[k]? = some frame →
      ∃ decoded, Frame.decode frame layout = .ok decoded ∧
        decoded.samples frame = some (tone.block k) := by
  intro layout tone s counted
  have hbegin : Supply.Plays tone [] (.tone tone) := ⟨0, rfl, rfl⟩
  have hsounding : Sounding tone s := run_supplied host (sounding_turn host) turns _ ⟨rfl, hbegin⟩
  have hout : Outbound layout true s.history :=
    outbound_run host.supplied _ (fresh settings (world, Supply.tone tone)) (outbound_nil _ _)
  have hcounted : Steady tone counted :=
    run_supplied host.counting (steady_turn host) _ _
      ⟨⟨rfl, hbegin⟩, fun _ _ => List.not_mem_nil, rfl⟩
  have hcountedOut : Outbound layout true counted.history :=
    outbound_run host.counting.supplied _
      (fresh settings ((world, CounterStream.initial), Supply.tone tone)) (outbound_nil _ _)
  refine ⟨?_, ?_, ?_, ?_⟩
  · intro k
    exact ⟨tone.length_block k, tone.block_eq_spread k⟩
  · intro frame result before hsuffix
    obtain ⟨header, asked, rest, block, rfl, hasking, rfl⟩ :=
      hout.origin frame result before hsuffix
    have hasked : asked = [.demanded (some block)] := by
      apply hasking.eq_demanded
      intro answer hmem
      exact hsounding.plays.wellFed answer (hsuffix.subset (by simp [hmem]))
    subst hasked
    exact ⟨header, block, rest, _, rfl, Frame.decode_build header block layout hasking.length_block,
      Frame.samples_build header block layout hasking.length_block⟩
  · intro k answer hk
    exact hsounding.plays.eq_block hk
  · intro k frame hk
    obtain ⟨header, block, rfl, hasked⟩ :=
      hcountedOut.block_of_voiced hcounted.voiced hk
    have hblock := hcounted.sounding.plays.eq_block hasked
    cases hblock
    exact ⟨_, Frame.decode_build header _ layout (tone.length_block k),
      Frame.samples_build header _ layout (tone.length_block k)⟩

/-- A master with two channels to its peer. -/
def toneSettings : Settings := { masterSettings with device := ⟨.broadcast, 1, 2⟩ }

def oddTone : Tone := .create ⟨2⟩ 1000 (Float32.ofBits 0x7fc00000)

def secondFrame : Bytes := Frame.build (.ofCounter 1) (oddTone.block 1)

theorem frames_carry_tone_of_new_session :
    let s := (fresh toneSettings (shortWorld, Supply.tone oddTone)).run shortHost.supplied
      (loudTurns.map Turn.supplied)
    let counted :=
      (fresh toneSettings ((shortWorld, CounterStream.initial), Supply.tone oddTone)).run
        shortHost.counting.supplied ((loudTurns.map Turn.counting).map Turn.supplied)
    (oddTone.block 2).length = 72 ∧
    .transmit secondFrame (.error .linkDown) :: s.history.drop 17 <:+ s.history ∧
    (∃ block decoded, (s.history.drop 17)[1]? = some (.demanded (some block)) ∧
      Frame.decode secondFrame ⟨2⟩ = .ok decoded ∧ decoded.samples secondFrame = some block) ∧
    (observed Event.asked? s.history)[1]? = some (some (oddTone.block 1)) ∧
    ∃ frame decoded, (observed Event.attempted? counted.history)[2]? = some frame ∧
      Frame.decode frame ⟨2⟩ = .ok decoded ∧ decoded.samples frame = some (oddTone.block 2) := by
  intro s counted
  have hsuffix : .transmit secondFrame (.error .linkDown) :: s.history.drop 17 <:+ s.history :=
    ⟨s.history.take 16, rfl⟩
  have hone : 1 < (observed Event.asked? s.history).length := by decide +kernel
  have htwo : 2 < (observed Event.attempted? counted.history).length := by decide +kernel
  obtain ⟨hblocks, hframes, hasked, hcounted⟩ := frames_carry_tone shortHost toneSettings 1000
    (Float32.ofBits 0x7fc00000) shortWorld loudTurns
  obtain ⟨header, block, rest, decoded, hbefore, hdecode, hblock⟩ := hframes _ _ _ hsuffix
  obtain ⟨decoded', hdecode', hblock'⟩ := hcounted 2 _ (List.getElem?_eq_getElem htwo)
  have hfirst := hasked 1 _ (List.getElem?_eq_getElem hone)
  refine ⟨(hblocks 2).1, hsuffix, ⟨block, decoded, by rw [hbefore]; rfl, hdecode, hblock⟩, ?_,
    _, decoded', List.getElem?_eq_getElem htwo, hdecode', hblock'⟩
  rw [List.getElem?_eq_getElem hone, hfirst]
  rfl

end Station

end AudioLink
