import AudioLink.Proofs.Wire.Exactness
import AudioLink.Link.Call

/-!
# Surroundings that answer alike

An engine knows its surroundings by their answers only. If two hosts give the same answers as long
as nothing breaks in the surroundings of the first one, then a firing or a frame does the same on
both of them, or something has broken.
-/

namespace AudioLink

section Mirrors

variable {W W' : Type}

/-- The first host answers like the second one in related surroundings, but for a transmission that
breaks something. -/
structure Host.Mirrors (host : Host W) (host' : Host W') (related : W → W' → Prop)
    (broken : W → Prop) : Prop where
  now : ∀ {w w'}, related w w' → host.now w = host'.now w'
  generation : ∀ {w w'}, related w w' → host.generation w = host'.generation w'
  rearm : ∀ {w w'} (delay : Nanos), related w w' →
    related (host.rearm delay w) (host'.rearm delay w')
  stays : ∀ {w} (delay : Nanos), broken w → broken (host.rearm delay w)
  transmit : ∀ {w w'} (header : Header) (block : Bytes), related w w' →
    broken (host.transmit (Frame.build header block) w).2 ∨
      (host.transmit (Frame.build header block) w).1 =
          (host'.transmit (Frame.build header block) w').1 ∧
        related (host.transmit (Frame.build header block) w).2
          (host'.transmit (Frame.build header block) w').2
  process : ∀ {w w'} (header : Header), related w w' →
    (host.process header w).1 = (host'.process header w').1 ∧
      related (host.process header w).2 (host'.process header w').2
  received : ∀ {w w'} (header : Header), related w w' →
    related (host.received header w) (host'.received header w')
  connection : Option.Rel
    (fun callback callback' => ∀ peer w w', related w w' →
      related (callback peer w) (callback' peer w'))
    host.connection host'.connection
  deliver : Option.Rel
    (fun callback callback' => ∀ block w w', related w w' →
      related (callback block w) (callback' block w'))
    host.deliver host'.deliver
  demand : Option.Rel
    (fun callback callback' => ∀ w w', related w w' →
      (callback w).1 = (callback' w').1 ∧ related (callback w).2 (callback' w').2)
    host.demand host'.demand

namespace Station

/-- Two stations have come to the same state through the same calls. -/
structure Matched (related : W → W' → Prop) (s : Station W) (t : Station W') : Prop where
  engine : s.engine = t.engine
  history : s.history = t.history
  world : related s.world t.world

/-- Two stations match, or something has broken around the first one. -/
def Mirrored (related : W → W' → Prop) (broken : W → Prop) (s : Station W) (t : Station W') :
    Prop :=
  broken s.world ∨ Matched related s t

variable {host : Host W} {host' : Host W'} {related : W → W' → Prop} {broken : W → Prop}
  {s : Station W} {t : Station W'}

namespace Matched

private theorem mirrored (h : Matched related s t) : Mirrored related broken s t := .inr h

theorem device (h : Matched related s t) : s.device = t.device := congrArg Engine.device h.engine

theorem role (h : Matched related s t) : s.role = t.role := congrArg Engine.role h.engine

theorem note (h : Matched related s t) (notice : Notice) :
    Matched related (s.note notice) (t.note notice) :=
  ⟨h.engine, congrArg (_ :: ·) h.history, h.world⟩

theorem update (h : Matched related s t) (change : Engine → Engine) :
    Matched related (s.update change) (t.update change) :=
  ⟨congrArg change h.engine, h.history, h.world⟩

theorem tally (h : Matched related s t) (count : Stats → Stats) :
    Matched related (s.tally count) (t.tally count) := h.update _

theorem checkGap (h : Matched related s t) (counter : UInt16) :
    Matched related (s.checkGap counter) (t.checkGap counter) := by
  unfold Station.checkGap
  rw [h.engine]
  split
  · exact h
  · exact (h.tally _).note _

variable (hhost : host.Mirrors host' related broken)

include hhost

theorem announce (h : Matched related s t) (peer : Option Device) :
    Matched related (s.announce host peer) (t.announce host' peer) := by
  have hconnection := hhost.connection
  unfold Station.announce
  generalize host.connection = callback at hconnection ⊢
  generalize host'.connection = callback' at hconnection ⊢
  cases hconnection with
  | none => exact h
  | some hsame => exact ⟨h.engine, congrArg (_ :: ·) h.history, hsame peer _ _ h.world⟩

theorem deliver (h : Matched related s t) (block : Bytes) :
    Matched related (s.deliver host block) (t.deliver host' block) := by
  have hdeliver := hhost.deliver
  unfold Station.deliver
  generalize host.deliver = callback at hdeliver ⊢
  generalize host'.deliver = callback' at hdeliver ⊢
  cases hdeliver with
  | none => exact h
  | some hsame => exact ⟨h.engine, congrArg (_ :: ·) h.history, hsame block _ _ h.world⟩

theorem showHeader (h : Matched related s t) (header : Header) :
    Matched related (s.showHeader host header) (t.showHeader host' header) :=
  ⟨h.engine, congrArg (_ :: ·) h.history, hhost.received header h.world⟩

theorem nextHeader (h : Matched related s t) :
    (s.nextHeader host).1 = (t.nextHeader host').1 ∧
      Matched related (s.nextHeader host).2 (t.nextHeader host').2 := by
  obtain ⟨hanswer, hworld⟩ := hhost.process Header.zero h.world
  refine ⟨hanswer, h.engine, ?_, hworld⟩
  simp only [Station.nextHeader, hanswer, h.history]

theorem demand (h : Matched related s t) :
    (s.demand host).1 = (t.demand host').1 ∧
      Matched related (s.demand host).2 (t.demand host').2 := by
  have hdemand := hhost.demand
  unfold Station.demand
  generalize host.demand = callback at hdemand ⊢
  generalize host'.demand = callback' at hdemand ⊢
  cases hdemand with
  | none => exact ⟨rfl, h⟩
  | @some callback callback' hsame =>
    obtain ⟨hanswer, hworld⟩ := hsame _ _ h.world
    have hasked : Matched related
        ⟨s.engine, (callback s.world).2, .demanded (callback s.world).1 :: s.history⟩
        ⟨t.engine, (callback' t.world).2, .demanded (callback' t.world).1 :: t.history⟩ :=
      ⟨h.engine, by rw [hanswer, h.history], hworld⟩
    dsimp only
    rw [← hanswer] at hasked ⊢
    generalize (callback s.world).1 = answer at hasked ⊢
    cases answer with
    | none => exact ⟨rfl, hasked⟩
    | some block =>
      dsimp only
      rw [hasked.device]
      split
      · exact ⟨rfl, hasked⟩
      · exact ⟨rfl, hasked.note _⟩

theorem track (h : Matched related s t) (counter : UInt16) :
    Matched related (s.track host counter) (t.track host' counter) := by
  unfold Station.track
  dsimp only
  rw [h.engine]
  have hupdated := h.update fun engine =>
    { engine with tracker := t.engine.tracker.connect.2.record counter }
  split
  · rw [hupdated.device]
    exact ((hupdated.tally _).note _).announce hhost _
  · exact hupdated

theorem checkLiveness (h : Matched related s t) :
    Matched related (s.checkLiveness host) (t.checkLiveness host') := by
  unfold Station.checkLiveness
  dsimp only
  rw [h.engine]
  have hupdated := h.update fun engine =>
    { engine with
      tracker := (t.engine.tracker.onTick t.engine.settings.period t.engine.settings.timeout).2 }
  split
  · rw [hupdated.device]
    exact ((hupdated.tally _).note _).announce hhost none
  · exact hupdated
  · exact hupdated

theorem sendFrame (h : Matched related s t) (header : Header) (samples : Option Bytes) :
    Mirrored related broken (s.sendFrame host header samples)
      (t.sendFrame host' header samples) := by
  unfold Station.sendFrame
  rw [h.device]
  cases hencode : Frame.encode header samples t.device.outbound with
  | error cause => exact .inr ((h.tally _).note _)
  | ok frame =>
    have htransmit :=
      hhost.transmit header (samples.getD (Frame.silence t.device.outbound)) h.world
    rw [← (Frame.build_of_encode hencode).1] at htransmit
    dsimp only [Station.transmit]
    generalize host.transmit frame s.world = sent at htransmit ⊢
    generalize host'.transmit frame t.world = sent' at htransmit ⊢
    obtain ⟨answer, w⟩ := sent
    obtain ⟨answer', w'⟩ := sent'
    rcases htransmit with hbroken | ⟨hanswer, hworld⟩
    · cases answer <;> exact .inl hbroken
    · cases hanswer
      have hsent : Matched related
          ⟨s.engine, w, .transmit frame answer :: s.history⟩
          ⟨t.engine, w', .transmit frame answer :: t.history⟩ :=
        ⟨h.engine, congrArg (_ :: ·) h.history, hworld⟩
      cases answer <;> exact .inr ((hsent.tally _).note _)

theorem send (h : Matched related s t) :
    Mirrored related broken (s.send host) (t.send host') := by
  obtain ⟨hasked, hdemand⟩ := h.demand hhost
  obtain ⟨hanswer, hfilled⟩ := hdemand.nextHeader hhost
  unfold Station.send
  dsimp only
  generalize (s.demand host).2.nextHeader host = filled at hanswer hfilled
  generalize (t.demand host').2.nextHeader host' = filled' at hanswer hfilled
  obtain ⟨answer, s'⟩ := filled
  obtain ⟨answer', t'⟩ := filled'
  subst hanswer
  cases answer with
  | error cause => exact .inr ((hfilled.tally _).note _)
  | ok header =>
    rw [hasked]
    exact hfilled.sendFrame hhost header _

theorem receive (h : Matched related s t) (frame : Bytes) :
    Mirrored related broken (s.receive host frame) (t.receive host' frame) := by
  unfold Station.receive
  rw [h.device]
  cases Frame.decode frame t.device.inbound with
  | error cause => exact .inr ((h.tally _).note _)
  | ok decoded =>
    have htracked := ((((h.tally Stats.countReceived).note
      (.received decoded.header.counter)).checkGap decoded.header.counter).track hhost
        decoded.header.counter)
    dsimp only [Station.accept]
    cases decoded.samples frame with
    | none => exact (htracked.showHeader hhost _).send hhost
    | some block => exact ((htracked.deliver hhost block).showHeader hhost _).send hhost

end Matched

variable (hhost : host.Mirrors host' related broken)

include hhost

theorem Mirrored.rearm (h : Mirrored related broken s t) :
    Mirrored related broken (s.rearm host) (t.rearm host') := by
  rcases h with hbroken | h
  · exact .inl (hhost.stays _ hbroken)
  · refine .inr ?_
    unfold Station.rearm
    rw [hhost.now h.world, h.engine]
    exact ⟨rfl, congrArg (_ :: _ :: ·) h.history, hhost.rearm _ h.world⟩

theorem Matched.fire (h : Matched related s t) :
    Mirrored related broken (s.fire host) (t.fire host') := by
  have hchecked := h.checkLiveness hhost
  unfold Station.fire
  rw [h.engine]
  split
  · dsimp only
    rw [hchecked.role]
    split
    · exact (hchecked.send hhost).rearm hhost
    · exact Mirrored.rearm hhost hchecked.mirrored
  · exact h.mirrored

theorem Matched.fireTagged (h : Matched related s t) (generation : UInt64) :
    Mirrored related broken (s.fireTagged host generation) (t.fireTagged host' generation) := by
  unfold Station.fireTagged
  rw [hhost.generation h.world]
  split
  · exact h.fire hhost
  · exact (h.note _).mirrored

/-- An engine does the same on a frame in surroundings that answer alike. -/
theorem Matched.inbound (h : Matched related s t) (frame : Bytes) :
    Mirrored related broken (s.inbound host frame).2 (t.inbound host' frame).2 := by
  unfold Station.inbound
  split
  · dsimp only
    rw [h.engine, h.role]
    split
    · exact h.receive hhost frame
    · exact h.mirrored
  · exact h.mirrored

end Station

end Mirrors

end AudioLink
