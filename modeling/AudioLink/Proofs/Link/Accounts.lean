import AudioLink.Proofs.Link.Ledger
import AudioLink.Proofs.Link.Liveness

/-!
# Accounts

Every packet that an engine owes is sent or fails to be sent, and is counted as the one or the
other. A master owes one for each firing that it accepts, a slave one for each packet that it takes
in, and it takes in every frame of the protocol that comes while it is started, unless the frame is
malformed. The callbacks and the data stream are called as often as the counters say.
-/

namespace AudioLink

namespace Event

@[simp] def isSent : Event → Bool
  | transmit _ (.ok _) => true
  | _ => false

@[simp] def isRefused : Event → Bool
  | transmit _ (.error _) => true
  | _ => false

@[simp] def isUnready : Event → Bool
  | process _ (.error _) => true
  | _ => false

@[simp] def isDemand : Event → Bool
  | demanded _ => true
  | _ => false

@[simp] def isReceived : Event → Bool
  | received _ => true
  | _ => false

@[simp] def isDelivery : Event → Bool
  | delivered _ => true
  | _ => false

private theorem plain_of_quiet {event : Event} (h : event.isQuiet = true) :
    event.isSent = false ∧ event.isRefused = false ∧ event.isUnready = false ∧
      event.isReceived = false ∧ event.isDelivery = false := by
  cases event with
  | received _ | delivered _ | transmit _ _ | process _ _ => cases h
  | _ => exact ⟨rfl, rfl, rfl, rfl, rfl⟩

end Event

/-- The events are those of so many packets sent, packets not sent and packets received. -/
structure Amounts {W : Type} (host : Host W) (events : List Event) (sent failed received : Nat) :
    Prop where
  transmitted : events.countP Event.isSent = sent
  missed : events.countP Event.isRefused + events.countP Event.isUnready = failed
  demanded : events.countP Event.isDemand = if host.demand.isSome then sent + failed else 0
  shown : events.countP Event.isReceived = received
  delivered : events.countP Event.isDelivery = if host.deliver.isSome then received else 0

namespace Amounts

variable {W : Type} {host : Host W} {first second events : List Event}
  {sent failed received sent' failed' received' : Nat}

theorem nil (host : Host W) : Amounts host [] 0 0 0 := by
  constructor <;> simp

theorem append (h : Amounts host first sent failed received)
    (h' : Amounts host second sent' failed' received') :
    Amounts host (first ++ second) (sent + sent') (failed + failed') (received + received') := by
  constructor
  · rw [List.countP_append, h.transmitted, h'.transmitted]
  · rw [List.countP_append, List.countP_append, ← h.missed, ← h'.missed]
    omega
  · rw [List.countP_append, h.demanded, h'.demanded]
    split <;> omega
  · rw [List.countP_append, h.shown, h'.shown]
  · rw [List.countP_append, h.delivered, h'.delivered]
    split <;> rfl

private theorem of_forall (h : ∀ event ∈ events, event.isQuiet = true ∧ event.isDemand = false) :
    Amounts host events 0 0 0 := by
  have hnone {p : Event → Bool} (hp : ∀ event, event.isQuiet = true → event.isDemand = false →
      p event = false) : events.countP p = 0 := by
    rw [List.countP_eq_zero]
    intro event hevent
    rw [hp event (h event hevent).1 (h event hevent).2]
    exact Bool.false_ne_true
  have hrefused : events.countP Event.isRefused = 0 :=
    hnone fun _ hquiet _ => (Event.plain_of_quiet hquiet).2.1
  have hunready : events.countP Event.isUnready = 0 :=
    hnone fun _ hquiet _ => (Event.plain_of_quiet hquiet).2.2.1
  have hdemanded : events.countP Event.isDemand = 0 := hnone fun _ _ hdemand => hdemand
  have hdelivered : events.countP Event.isDelivery = 0 :=
    hnone fun _ hquiet _ => (Event.plain_of_quiet hquiet).2.2.2.2
  constructor
  · exact hnone fun _ hquiet _ => (Event.plain_of_quiet hquiet).1
  · rw [hrefused, hunready]
  · rw [hdemanded]
    split <;> rfl
  · exact hnone fun _ hquiet _ => (Event.plain_of_quiet hquiet).2.2.2.1
  · rw [hdelivered]
    split <;> rfl

private theorem of_news (h : ∀ event ∈ events, event.isNews = true) :
    Amounts host events 0 0 0 := by
  refine of_forall fun event hevent => ⟨History.quiet_of_news h event hevent, ?_⟩
  have hnews := h event hevent
  cases event with
  | demanded _ => cases hnews
  | _ => rfl

end Amounts

private theorem Asking.amounts {layout : Layout} {asks : Bool} {asked : List Event} {block : Bytes}
    (h : Asking layout asks asked block) :
    asked.countP Event.isSent = 0 ∧ asked.countP Event.isRefused = 0 ∧
      asked.countP Event.isUnready = 0 ∧ asked.countP Event.isReceived = 0 ∧
      asked.countP Event.isDelivery = 0 ∧
      asked.countP Event.isDemand = if asks then 1 else 0 := by
  cases h <;> simp

private theorem Sending.amounts {W : Type} {host : Host W} {layout : Layout} {events : List Event}
    {count : Stats → Stats} (h : Sending layout host.demand.isSome events count) :
    ∃ sent failed, sent + failed = 1 ∧ Amounts host events sent failed 0 ∧
      ∀ stats : Stats, count stats =
        { stats with sent := stats.sent + sent, sendFailures := stats.sendFailures + failed } := by
  cases h with
  | unready cause h =>
    refine ⟨0, 1, rfl, ?_, fun _ => rfl⟩
    constructor <;> simp [List.countP_cons, h.amounts]
  | refused header cause h =>
    refine ⟨0, 1, rfl, ?_, fun _ => rfl⟩
    constructor <;> simp [List.countP_cons, h.amounts]
  | sent header h =>
    refine ⟨1, 0, rfl, ?_, fun _ => rfl⟩
    constructor <;> simp [List.countP_cons, h.amounts]

private theorem Starting.amounts {W : Type} {host : Host W} {engine engine' : Engine}
    {outcome : Except SetupError Unit} {events : List Event}
    (h : Starting engine outcome events engine') : Amounts host events 0 0 0 := by
  refine Amounts.of_forall ?_
  cases h <;> simp [Event.isQuiet]

namespace Station

variable {W : Type} (host : Host W)

/-- Whether an entry brings a frame of the protocol to a started engine. -/
def offers (s : Station W) (call : Call) : Bool :=
  s.engine.started && match call with
    | .inbound frame => Frame.hasDiscriminator frame
    | _ => false

/-- What an entry adds to the accounts, and that it is what the engine owes. -/
structure Settlement (s : Station W) (call : Call) (s' : Station W)
    (sent failed received malformed : Nat) : Prop where
  amounts : ∃ events, s'.history = events ++ s.history ∧ Amounts host events sent failed received
  transmitted : s'.engine.stats.sent = s.engine.stats.sent + sent
  missed : s'.engine.stats.sendFailures = s.engine.stats.sendFailures + failed
  shown : s'.engine.stats.received = s.engine.stats.received + received
  dropped : s'.engine.stats.malformed = s.engine.stats.malformed + malformed
  slave : s.role = .slave →
    received + malformed = (if s.offers call then 1 else 0) ∧ sent + failed = received
  master : s.role = .master →
    sent + failed = (if s.fires host call then 1 else 0) ∧ received = 0 ∧ malformed = 0 ∧
      s'.engine.stats.gaps = s.engine.stats.gaps ∧
      s'.engine.stats.connects = s.engine.stats.connects ∧
      s'.engine.stats.disconnects = s.engine.stats.disconnects

private theorem amounts_packet {block : Bytes} {header : Header} (device : Device)
    (tracker : Tracker) :
    Amounts host
      (.received header ::
        (host.delivery block ++ arrivalEvents host device tracker header.counter)) 0 0 1 := by
  have hfirst : Amounts host (.received header :: host.delivery block) 0 0 1 := by
    unfold Host.delivery
    cases h : host.deliver <;> constructor <;> simp [List.countP_cons, h]
  exact hfirst.append (.of_news (news_arrivalEvents host device tracker header.counter))

private theorem lostStats_eq (lost : Bool) (stats : Stats) :
    lostStats lost stats = { stats with disconnects := stats.disconnects + lost.toNat } := by
  cases lost <;> rfl

theorem arrivalStats_eq (tracker : Tracker) (counter : UInt16) (stats : Stats) :
    arrivalStats tracker counter stats =
      { stats with
        received := stats.received + 1
        gaps := stats.gaps + (tracker.gap? counter).isSome.toNat
        connects := stats.connects + (!tracker.connected).toNat } := by
  unfold arrivalStats
  cases (tracker.gap? counter).isSome <;> cases tracker.connected <;> rfl

private theorem losing_of_master {s : Station W} (hstill : s.Still) (hrole : s.role = .master) :
    s.engine.connected = false ∧ s.losing = false := by
  unfold losing Engine.connected
  rw [hstill (.inr hrole)]
  exact ⟨rfl, rfl⟩

private theorem settles_idle {s s' : Station W} {call : Call} {events : List Event} (lost : Bool)
    (hhistory : s'.history = events ++ s.history) (hamounts : Amounts host events 0 0 0)
    (hstats : s'.engine.stats = lostStats lost s.engine.stats)
    (hslave : s.role = .slave → s.offers call = false)
    (hmaster : s.role = .master → s.fires host call = false ∧ lost = false) :
    ∃ sent failed received malformed,
      Settlement host s call s' sent failed received malformed := by
  rw [lostStats_eq] at hstats
  refine ⟨0, 0, 0, 0, ⟨events, hhistory, hamounts⟩, ?_, ?_, ?_, ?_, ?_, ?_⟩
  · rw [hstats, Nat.add_zero]
  · rw [hstats, Nat.add_zero]
  · rw [hstats, Nat.add_zero]
  · rw [hstats, Nat.add_zero]
  · intro hrole
    simp [hslave hrole]
  · intro hrole
    obtain ⟨hfires, hlost⟩ := hmaster hrole
    simp [hstats, hfires, hlost]

private theorem perform_settles (call : Call) (s : Station W) (hstill : s.Still) :
    ∃ sent failed received malformed,
      Settlement host s call (s.perform host call).2 sent failed received malformed := by
  obtain ⟨events, engine, heffect, hengine, hhistory⟩ := perform_effect host call s
  have hstats : (s.perform host call).2.engine.stats = engine.stats := by rw [hengine]
  cases heffect with
  | @ignored call h =>
    refine settles_idle host false hhistory (.nil host) hstats ?_ ?_
    · intro hrole
      cases call with
      | inbound frame =>
        simp only [Ignores, not_and] at h
        cases hframe : Frame.hasDiscriminator frame with
        | false => simp [offers, hframe]
        | true =>
          cases hstarted : s.engine.started with
          | false => simp [offers, hstarted]
          | true => exact absurd hrole (h hframe hstarted)
      | _ => simp [offers]
    · intro _
      refine ⟨?_, rfl⟩
      cases call with
      | fire => simp [fires, show s.engine.started = false from h]
      | fireTagged generation => simp [fires, show s.engine.started = false from h]
      | _ => simp [fires]
  | stale h =>
    refine settles_idle host false hhistory (.of_news (by simp [Event.isNews])) hstats ?_ ?_
    · simp [offers]
    · simp [fires, h]
  | start h =>
    refine settles_idle host false hhistory h.amounts (hstats.trans h.engine.2) ?_ ?_
    · simp [offers]
    · simp [fires]
  | stopped h =>
    have hevents : Amounts host (.note (.stopped s.role) ::
        ((s.engine.hook.map Event.uninstall).toList ++ (s.partingEvents host ++ [.cancel])))
        0 0 0 := by
      have hhook : Amounts host (.note (.stopped s.role) ::
          (s.engine.hook.map Event.uninstall).toList) 0 0 0 := by
        cases s.engine.hook <;> exact .of_forall (by simp [Event.isQuiet])
      have hcancel : Amounts host [.cancel] 0 0 0 := .of_forall (by simp [Event.isQuiet])
      exact hhook.append ((Amounts.of_news (s.news_partingEvents host)).append hcancel)
    refine settles_idle host s.engine.connected hhistory hevents hstats ?_ ?_
    · simp [offers]
    · intro hrole
      exact ⟨by simp [fires], (losing_of_master hstill hrole).1⟩
  | malformed cause h hrole hframe hdecode =>
    refine ⟨0, 0, 0, 1, ⟨_, hhistory, .of_news (by simp [Event.isNews])⟩, ?_, ?_, ?_, ?_, ?_, ?_⟩
    · rw [hstats]; rfl
    · rw [hstats]; rfl
    · rw [hstats]; rfl
    · rw [hstats]; rfl
    · simp [offers, h, hframe]
    · simp [hrole]
  | packet h hrole hcontent hsent =>
    obtain ⟨sent, failed, hone, hamounts, hcount⟩ := hsent.amounts
    have hframe := Frame.hasDiscriminator_of_content? hcontent
    dsimp only at hstats
    rw [hcount, arrivalStats_eq] at hstats
    refine ⟨sent, failed, 1, 0, ⟨_, hhistory, hamounts.append (amounts_packet host _ _)⟩, ?_, ?_,
      ?_, ?_, ?_, ?_⟩
    · rw [hstats]
    · rw [hstats]
    · rw [hstats]
    · rw [hstats]; rfl
    · simp [offers, h, hframe, hone]
    · simp [hrole]
  | @fired call sent count now h hcall hsent =>
    have hlost : Amounts host (s.lossEvents host) 0 0 0 := .of_news (s.news_lossEvents host)
    have hrearm : Amounts host [.rearm (s.engine.cadence.delay now), .clock now] 0 0 0 :=
      .of_forall (by simp [Event.isQuiet])
    rcases hsent with ⟨hrole, hsent⟩ | ⟨hrole, rfl, rfl⟩
    · obtain ⟨sent', failed, hone, hamounts, hcount⟩ := hsent.amounts
      have hfires : s.fires host call = true := by
        rcases hcall with rfl | rfl <;> simp [fires, h]
      dsimp only at hstats
      rw [hcount, (losing_of_master hstill hrole).2] at hstats
      have hevents := hrearm.append (hamounts.append hlost)
      rw [Nat.zero_add, Nat.zero_add, Nat.zero_add] at hevents
      refine ⟨sent', failed, 0, 0, ⟨_, hhistory, hevents⟩, ?_, ?_, ?_, ?_, ?_, ?_⟩
      · rw [hstats]; rfl
      · rw [hstats]; rfl
      · rw [hstats]; rfl
      · rw [hstats]; rfl
      · simp [hrole]
      · intro _
        rw [hstats, hfires]
        exact ⟨hone, rfl, rfl, rfl, rfl, rfl⟩
    · refine settles_idle host s.losing hhistory (hrearm.append hlost) hstats ?_ ?_
      · rcases hcall with rfl | rfl <;> simp [offers]
      · simp [hrole]

/-- The calls of an engine are those that it has counted. -/
def Exact (s : Station W) : Prop :=
  Amounts host s.history s.engine.stats.sent s.engine.stats.sendFailures s.engine.stats.received

/-- The packets that a slave has taken in or refused, of `n` frames, are all answered. -/
structure SlaveAccounts (n : Nat) (s : Station W) : Prop where
  role : s.role = .slave
  still : s.Still
  exact : s.Exact host
  offered : s.engine.stats.received + s.engine.stats.malformed = n
  answered : s.engine.stats.sent + s.engine.stats.sendFailures = s.engine.stats.received

/-- A master has sent a packet, or failed to, on each of `n` firings, and received nothing. -/
structure MasterAccounts (n : Nat) (s : Station W) : Prop where
  role : s.role = .master
  still : s.Still
  exact : s.Exact host
  fired : s.engine.stats.sent + s.engine.stats.sendFailures = n
  deaf : s.engine.stats.received = 0 ∧ s.engine.stats.gaps = 0 ∧ s.engine.stats.malformed = 0 ∧
    s.engine.stats.connects = 0 ∧ s.engine.stats.disconnects = 0

variable {host} {s s' : Station W} {call : Call} {sent failed received malformed : Nat}

theorem Settlement.exact
    (h : Settlement host s call s' sent failed received malformed) (hexact : s.Exact host) :
    s'.Exact host := by
  obtain ⟨events, hhistory, hamounts⟩ := h.amounts
  have htotal := hamounts.append hexact
  unfold Exact
  rw [hhistory, h.transmitted, h.missed, h.shown, Nat.add_comm _ sent, Nat.add_comm _ failed,
    Nat.add_comm _ received]
  exact htotal

private theorem slaveAccounts_perform (call : Call) (n : Nat) (s : Station W)
    (h : SlaveAccounts host n s) :
    SlaveAccounts host (n + if s.offers call then 1 else 0) (s.perform host call).2 := by
  obtain ⟨sent, failed, received, malformed, hsettles⟩ := perform_settles host call s h.still
  obtain ⟨hoffered, hanswered⟩ := hsettles.slave h.role
  have ⟨hn, hpackets⟩ := (⟨h.offered, h.answered⟩ : _ ∧ _)
  refine ⟨(role_perform host call s).trans h.role, still_perform host call s h.still,
    hsettles.exact h.exact, ?_, ?_⟩
  · rw [hsettles.shown, hsettles.dropped]
    omega
  · rw [hsettles.transmitted, hsettles.missed, hsettles.shown]
    omega

private theorem masterAccounts_perform (call : Call) (n : Nat) (s : Station W)
    (h : MasterAccounts host n s) :
    MasterAccounts host (n + if s.fires host call then 1 else 0) (s.perform host call).2 := by
  obtain ⟨sent, failed, received, malformed, hsettles⟩ := perform_settles host call s h.still
  obtain ⟨hfired, hreceived, hmalformed, hgaps, hconnects, hdisconnects⟩ := hsettles.master h.role
  obtain ⟨hr, hg, hm, hc, hd⟩ := h.deaf
  have hn := h.fired
  refine ⟨(role_perform host call s).trans h.role, still_perform host call s h.still,
    hsettles.exact h.exact, ?_, ?_⟩
  · rw [hsettles.transmitted, hsettles.missed]
    omega
  · rw [hsettles.shown, hsettles.dropped, hgaps, hconnects, hdisconnects]
    exact ⟨by omega, hg, by omega, hc, hd⟩

variable (host)

theorem slaveAccounts_run (settings : Settings) (world : W) (turns : List (Turn W))
    (hrole : settings.role = .slave) :
    SlaveAccounts host (occurrences host offers turns (fresh settings world))
      ((fresh settings world).run host turns) := by
  have hfresh : SlaveAccounts host 0 (fresh settings world) :=
    ⟨hrole, still_fresh settings world, .nil host, rfl, rfl⟩
  have hrun := run_counted host (P := SlaveAccounts host) offers
    (fun _ _ _ h => ⟨h.role, h.still, h.exact, h.offered, h.answered⟩) slaveAccounts_perform
    turns 0 _ hfresh
  rwa [Nat.zero_add] at hrun

theorem masterAccounts_run (settings : Settings) (world : W) (turns : List (Turn W))
    (hrole : settings.role = .master) :
    MasterAccounts host (firings host turns (fresh settings world))
      ((fresh settings world).run host turns) := by
  have hfresh : MasterAccounts host 0 (fresh settings world) :=
    ⟨hrole, still_fresh settings world, .nil host, rfl, rfl, rfl, rfl, rfl, rfl⟩
  have hrun := run_counted host (P := MasterAccounts host) (fires host)
    (fun _ _ _ h => ⟨h.role, h.still, h.exact, h.fired, h.deaf⟩) masterAccounts_perform
    turns 0 _ hfresh
  rwa [Nat.zero_add, ← firings_eq_occurrences] at hrun

/-- Every frame of the protocol that a started slave is offered is received or malformed, and every
received one is answered or counted as a failure; a master sends or fails once a firing and receives
nothing. The counters are the numbers of the calls that were made: of the transmissions that went
well, of those and of the headers that failed, and of the callbacks, where they are installed. -/
theorem packet_accounts (settings : Settings) (world : W) (turns : List (Turn W)) :
    let s := (fresh settings world).run host turns
    let stats := s.engine.stats
    (match settings.role with
      | .slave =>
        stats.received + stats.malformed = occurrences host offers turns (fresh settings world) ∧
        stats.sent + stats.sendFailures = stats.received
      | .master =>
        stats.sent + stats.sendFailures = firings host turns (fresh settings world) ∧
        stats.received = 0 ∧ stats.gaps = 0 ∧ stats.malformed = 0 ∧ stats.connects = 0 ∧
        stats.disconnects = 0) ∧
    stats.sent = s.history.countP Event.isSent ∧
    stats.sendFailures = s.history.countP Event.isRefused + s.history.countP Event.isUnready ∧
    s.history.countP Event.isDemand =
      (if host.demand.isSome then stats.sent + stats.sendFailures else 0) ∧
    s.history.countP Event.isReceived = stats.received ∧
    s.history.countP Event.isDelivery =
      (if host.deliver.isSome then stats.received else 0) := by
  intro s stats
  have hcalls (h : s.Exact host) := And.intro h.transmitted.symm
    (And.intro h.missed.symm (And.intro h.demanded (And.intro h.shown h.delivered)))
  cases hrole : settings.role with
  | slave =>
    have h := slaveAccounts_run host settings world turns hrole
    exact ⟨⟨h.offered, h.answered⟩, hcalls h.exact⟩
  | master =>
    have h := masterAccounts_run host settings world turns hrole
    exact ⟨⟨h.fired, h.deaf⟩, hcalls h.exact⟩

end Station

end AudioLink
