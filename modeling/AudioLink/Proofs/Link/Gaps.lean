import Mathlib.Algebra.Order.BigOperators.Group.List
import Mathlib.Algebra.Order.Ring.Nat
import Mathlib.Data.Finset.Prod
import Mathlib.Data.List.Forall2
import Mathlib.Order.Interval.Finset.Nat
import AudioLink.Proofs.Link.Arrival
import AudioLink.Proofs.Link.Coherence
import AudioLink.Proofs.Link.Outbound

/-!
# Gaps are losses

A sender numbers its frames through and stamps each of them with its number modulo 65536. While a
slave is connected it finds a gap before a frame just if the number of frames that were lost right
before it is no multiple of 65536, and the gap says how many these were, modulo 65536. So the gaps
of a connection are the maximal runs of lost frames, and together they miss as many frames as were
lost, unless 65536 frames were lost in a row.
-/

namespace AudioLink

namespace Gap

/-- The gap between two packets that come one after the other. -/
def between? (last received : UInt16) : Option Gap :=
  if isSuccessor last received then none else some ⟨last, received⟩

private theorem missing_of_numbers {m n : Nat} (h : m < n) :
    (Gap.mk (UInt16.ofNat m) (UInt16.ofNat n)).missing.toNat = (n - m - 1) % 65536 := by
  have hone : (1 : UInt16) = UInt16.ofNat 1 := rfl
  rw [missing, hone, ← UInt16.ofNat_sub (by omega), ← UInt16.ofNat_sub (by omega),
    UInt16.toNat_ofNat']

private theorem missing_eq_zero_iff (last received : UInt16) :
    (Gap.mk last received).missing.toNat = 0 ↔ isSuccessor last received = true := by
  have hzero : (Gap.mk last received).missing.toNat = (0 : UInt16).toNat ↔
      received - last - 1 = 0 := UInt16.toNat_inj
  rw [UInt16.toNat_zero] at hzero
  rw [hzero, UInt16.sub_eq_iff_eq_add, UInt16.sub_eq_iff_eq_add, isSuccessor, beq_iff_eq,
    UInt16.zero_add, UInt16.add_comm, eq_comm]

private theorem between?_of_numbers {m n : Nat} (h : m < n) :
    ((between? (UInt16.ofNat m) (UInt16.ofNat n)).isSome ↔ (n - m - 1) % 65536 ≠ 0) ∧
    ∀ gap, between? (UInt16.ofNat m) (UInt16.ofNat n) = some gap →
      gap.missing.toNat = (n - m - 1) % 65536 := by
  rw [← missing_of_numbers h, ne_eq, missing_eq_zero_iff, between?]
  split
  · rename_i hnext
    simp [hnext]
  · rename_i hnext
    simp [hnext]

end Gap

private theorem Tracker.gap?_of_connected {tracker : Tracker} (h : tracker.connected = true)
    (received : UInt16) : tracker.gap? received = Gap.between? tracker.lastSequence received := by
  simp [gap?, Gap.between?, h]

/-- How many numbers are left out right before each number but the first one. -/
def losses : List Nat → List Nat
  | m :: n :: rest => (n - m - 1) :: losses (n :: rest)
  | _ => []

/-- The numbers that are left out between the first one and the last one. -/
def lostNumbers (first : Nat) (rest : List Nat) : Finset Nat :=
  (Finset.Ioo first ((first :: rest).getLast (List.cons_ne_nil first rest))).filter (· ∉ rest)

/-- The maximal runs of numbers in a set, by their ends. -/
def maximalRuns (numbers : Finset Nat) : Finset (Nat × Nat) :=
  (numbers ×ˢ numbers).filter fun run =>
    run.1 ≤ run.2 ∧ Finset.Icc run.1 run.2 ⊆ numbers ∧ run.1 - 1 ∉ numbers ∧ run.2 + 1 ∉ numbers

section Lost

variable {first second : Nat} {rest : List Nat}

private theorem lt_of_mem_lostNumbers {k : Nat} (h : k ∈ lostNumbers first rest) : first < k :=
  (Finset.mem_Ioo.mp (Finset.mem_filter.mp h).1).1

private theorem lostNumbers_cons (h : (first :: second :: rest).Pairwise (· < ·)) :
    lostNumbers first (second :: rest) =
      Finset.Ioo first second ∪ lostNumbers second rest := by
  obtain ⟨hfirst, hsecond, -⟩ := (List.pairwise_cons.mp h).imp_right List.pairwise_cons.mp
  have hlast : second ≤ (second :: rest).getLast (List.cons_ne_nil second rest) := by
    rcases List.mem_cons.mp (List.getLast_mem (List.cons_ne_nil second rest)) with hsame | hmem
    · exact hsame.ge
    · exact (hsecond _ hmem).le
  have hnext := hfirst second List.mem_cons_self
  ext k
  simp only [lostNumbers, Finset.mem_union, Finset.mem_filter, Finset.mem_Ioo, List.mem_cons,
    List.getLast_cons (List.cons_ne_nil second rest), not_or]
  constructor
  · rintro ⟨⟨hk, hend⟩, hne, hnot⟩
    rcases Nat.lt_or_gt_of_ne hne with hlt | hgt
    · exact .inl ⟨hk, hlt⟩
    · exact .inr ⟨⟨hgt, hend⟩, hnot⟩
  · rintro (⟨hk, hlt⟩ | ⟨⟨hgt, hend⟩, hnot⟩)
    · refine ⟨⟨hk, hlt.trans_le hlast⟩, hlt.ne, ?_⟩
      intro hmem
      exact absurd (hsecond k hmem) (Nat.lt_asymm hlt)
    · exact ⟨⟨hnext.trans hgt, hend⟩, hgt.ne', hnot⟩

private theorem mem_maximalRuns_union {lost : Finset Nat} (hnext : first < second)
    (hlost : ∀ k ∈ lost, second < k) {run : Nat × Nat} :
    run ∈ maximalRuns (Finset.Ioo first second ∪ lost) ↔
      (first + 1 < second ∧ run = (first + 1, second - 1)) ∨ run ∈ maximalRuns lost := by
  obtain ⟨a, b⟩ := run
  have hsecond : second ∉ lost := fun h => Nat.lt_irrefl second (hlost second h)
  simp only [maximalRuns, Finset.mem_filter, Finset.mem_product, Finset.mem_union, Finset.mem_Ioo,
    Finset.subset_iff, Finset.mem_Icc, Prod.mk.injEq]
  constructor
  · rintro ⟨⟨ha, hb⟩, hab, hall, hbefore, hafter⟩
    -- No run reaches over `second`, which is not lost.
    by_cases hside : second ≤ b
    · right
      have hbeyond : second < a := by
        by_contra hle
        rcases hall ⟨Nat.not_lt.mp hle, hside⟩ with ⟨-, hlt⟩ | hmem
        · exact Nat.lt_irrefl second hlt
        · exact hsecond hmem
      grind
    · left
      grind
  · rintro (⟨hskip, rfl, rfl⟩ | ⟨⟨ha, hb⟩, hab, hall, hbefore, hafter⟩)
    · grind
    · grind

private theorem card_lostNumbers (h : (first :: rest).Pairwise (· < ·)) :
    (lostNumbers first rest).card = (losses (first :: rest)).sum := by
  induction rest generalizing first with
  | nil => simp [lostNumbers, losses]
  | cons second rest ih =>
    have hdisjoint : Disjoint (Finset.Ioo first second) (lostNumbers second rest) := by
      rw [Finset.disjoint_left]
      intro k hk hmem
      exact Nat.lt_asymm (Finset.mem_Ioo.mp hk).2 (lt_of_mem_lostNumbers hmem)
    rw [lostNumbers_cons h, Finset.card_union_of_disjoint hdisjoint, Nat.card_Ioo,
      ih (List.pairwise_cons.mp h).2, losses, List.sum_cons]

private theorem mem_maximalRuns_cons (h : (first :: second :: rest).Pairwise (· < ·))
    {run : Nat × Nat} :
    run ∈ maximalRuns (lostNumbers first (second :: rest)) ↔
      (first + 1 < second ∧ run = (first + 1, second - 1)) ∨
        run ∈ maximalRuns (lostNumbers second rest) := by
  have hnext : first < second := (List.pairwise_cons.mp h).1 second List.mem_cons_self
  rw [lostNumbers_cons h, mem_maximalRuns_union hnext fun k hk => lt_of_mem_lostNumbers hk]

private theorem card_maximalRuns (h : (first :: rest).Pairwise (· < ·)) :
    (maximalRuns (lostNumbers first rest)).card = (losses (first :: rest)).countP (· ≠ 0) := by
  induction rest generalizing first with
  | nil => simp [lostNumbers, maximalRuns, losses]
  | cons second rest ih =>
    rw [losses, List.countP_cons, ← ih (List.pairwise_cons.mp h).2]
    by_cases hskip : first + 1 < second
    · have hruns : maximalRuns (lostNumbers first (second :: rest)) =
          insert (first + 1, second - 1) (maximalRuns (lostNumbers second rest)) := by
        ext run
        rw [mem_maximalRuns_cons h, Finset.mem_insert, and_iff_right hskip]
      have hnew : (first + 1, second - 1) ∉ maximalRuns (lostNumbers second rest) := by
        intro hmem
        have hlost := (Finset.mem_product.mp (Finset.mem_filter.mp hmem).1).1
        exact Nat.lt_asymm hskip (lt_of_mem_lostNumbers hlost)
      rw [hruns, Finset.card_insert_of_notMem hnew, if_pos]
      rw [decide_eq_true_iff]
      omega
    · have hruns : maximalRuns (lostNumbers first (second :: rest)) =
          maximalRuns (lostNumbers second rest) := by
        ext run
        rw [mem_maximalRuns_cons h]
        exact or_iff_right fun hrun => hskip hrun.1
      rw [hruns, if_neg, Nat.add_zero]
      rw [decide_eq_true_iff]
      omega

private theorem losses_lt {bound : Nat} (hbound : 0 < bound) (h : (first :: rest).Pairwise (· < ·))
    (hruns : ∀ run ∈ maximalRuns (lostNumbers first rest), run.2 + 1 - run.1 < bound) :
    ∀ loss ∈ losses (first :: rest), loss < bound := by
  induction rest generalizing first with
  | nil => simp [losses]
  | cons second rest ih =>
    rw [losses, List.forall_mem_cons]
    constructor
    · by_cases hskip : first + 1 < second
      · have hlength := hruns _ ((mem_maximalRuns_cons h).mpr (.inl ⟨hskip, rfl⟩))
        dsimp only at hlength
        omega
      · omega
    · apply ih (List.pairwise_cons.mp h).2
      intro run hrun
      exact hruns run ((mem_maximalRuns_cons h).mpr (.inr hrun))

end Lost

/-- A packet that was taken in, and the gap that it came after. -/
structure Arrival where
  frame : Bytes
  counter : UInt16
  gap : Option Gap
  deriving DecidableEq

namespace Arrival

/-- How many packets are missing before this one, as far as the gap tells. -/
def missing (arrival : Arrival) : Nat :=
  match arrival.gap with
  | none => 0
  | some gap => gap.missing.toNat

/-- The gap is the one between the two packets. -/
def Follows (before after : Arrival) : Prop :=
  after.gap = Gap.between? before.counter after.counter

/-- The gap tells of so many lost packets, modulo the range of the counter. -/
def Shows (arrival : Arrival) (loss : Nat) : Prop :=
  (arrival.gap.isSome ↔ loss % 65536 ≠ 0) ∧
    ∀ gap, arrival.gap = some gap → gap.missing.toNat = loss % 65536

private theorem Shows.missing_eq {arrival : Arrival} {loss : Nat} (h : arrival.Shows loss) :
    arrival.missing = loss % 65536 := by
  obtain ⟨hsome, hmissing⟩ := h
  unfold missing
  cases hgap : arrival.gap with
  | none => simpa [hgap, eq_comm] using hsome
  | some gap => exact hmissing gap hgap

private theorem shows_losses {numbers : List Nat} {arrivals : List Arrival}
    (hsorted : numbers.Pairwise (· < ·))
    (hcounters : arrivals.map Arrival.counter = numbers.map UInt16.ofNat)
    (hchain : arrivals.IsChain Follows) :
    List.Forall₂ Shows arrivals.tail (losses numbers) := by
  induction numbers generalizing arrivals with
  | nil =>
    rw [List.map_nil, List.map_eq_nil_iff] at hcounters
    rw [hcounters]
    exact .nil
  | cons m numbers ih =>
    obtain ⟨before, later, rfl, hm, hlater⟩ := List.map_eq_cons_iff.mp hcounters
    rw [List.tail_cons]
    cases numbers with
    | nil =>
      rw [List.map_nil, List.map_eq_nil_iff] at hlater
      rw [hlater]
      exact .nil
    | cons n rest =>
      have hshown := ih (List.pairwise_cons.mp hsorted).2 hlater hchain.tail
      obtain ⟨after, others, rfl, hn, -⟩ := List.map_eq_cons_iff.mp hlater
      rw [List.tail_cons] at hshown
      have hgap : after.gap = Gap.between? (UInt16.ofNat m) (UInt16.ofNat n) := by
        rw [← hm, ← hn]
        exact (List.isChain_cons_cons.mp hchain).1
      have hnext : m < n := (List.pairwise_cons.mp hsorted).1 n List.mem_cons_self
      apply List.Forall₂.cons _ hshown
      rw [Shows, hgap]
      exact Gap.between?_of_numbers hnext

private theorem countP_of_shows {arrivals : List Arrival} {losses : List Nat}
    (h : List.Forall₂ Shows arrivals losses) :
    (arrivals.countP fun arrival => arrival.gap.isSome) = losses.countP (· % 65536 ≠ 0) := by
  induction h with
  | nil => rfl
  | cons hshows _ ih =>
    rw [List.countP_cons, List.countP_cons, ih]
    simp only [hshows.1, decide_eq_true_eq]

private theorem sum_missing_of_shows {arrivals : List Arrival} {losses : List Nat}
    (h : List.Forall₂ Shows arrivals losses) :
    (arrivals.map missing).sum = (losses.map (· % 65536)).sum := by
  induction h with
  | nil => rfl
  | cons hshows _ ih => rw [List.map_cons, List.map_cons, List.sum_cons, List.sum_cons, ih,
      hshows.missing_eq]

end Arrival

namespace Station

variable {W : Type} (host : Host W)

/-- The packet that an entry brings to a started slave. -/
def arrival? (s : Station W) (call : Call) : Option Arrival :=
  match call with
  | .inbound frame =>
    (s.counter? call).map fun counter => ⟨frame, counter, s.engine.tracker.gap? counter⟩
  | _ => none

/-- The packets that a run brings to a started slave, the first one first. -/
def arrivals : List (Turn W) → Station W → List Arrival
  | [], _ => []
  | t :: turns, s =>
    ((s.meanwhile t.before).arrival? t.call).toList ++ arrivals turns (s.turn host t)

/-- What an entry does to the count of gaps and to the memory of the last counter. -/
inductive Uptake (s : Station W) (call : Call) (s' : Station W) : Prop where
  | none (harrival : s.arrival? call = none)
      (hgaps : s'.engine.stats.gaps = s.engine.stats.gaps)
      (hlast : s'.engine.connected = true →
        s.engine.connected = true ∧
          s'.engine.tracker.lastSequence = s.engine.tracker.lastSequence)
  | packet (arrival : Arrival) (harrival : s.arrival? call = some arrival)
      (hgap : arrival.gap = s.engine.tracker.gap? arrival.counter)
      (hgaps : s'.engine.stats.gaps = s.engine.stats.gaps + arrival.gap.isSome.toNat)
      (hlast : s'.engine.tracker.lastSequence = arrival.counter)

private theorem arrival?_of_counter {s : Station W} {call : Call} {counter : UInt16}
    (h : s.counter? call = some counter) :
    ∃ frame, s.arrival? call = some ⟨frame, counter, s.engine.tracker.gap? counter⟩ := by
  cases call with
  | inbound frame => exact ⟨frame, by simp [arrival?, h]⟩
  | _ => cases h

private theorem arrival?_of_no_counter {s : Station W} {call : Call} (h : s.counter? call = none) :
    s.arrival? call = none := by
  cases call with
  | inbound frame => simp [arrival?, h]
  | _ => rfl

private theorem connected_of_counter {s : Station W} {call : Call} {counter : UInt16}
    (h : s.counter? call = some counter) :
    (s.perform host call).2.engine.connected = true := by
  obtain ⟨events, engine, heffect, hengine, -⟩ := perform_effect host call s
  rw [hengine]
  cases heffect with
  | ignored hignored =>
    rw [counter?_of_ignored hignored] at h
    cases h
  | fired _ _ hcall _ => rcases hcall with rfl | rfl <;> cases h
  | malformed cause _ _ _ hdecode => simp [counter?, Frame.content?_of_error hdecode] at h
  | packet => rfl
  | _ => cases h

private theorem perform_uptake (call : Call) (s : Station W) :
    Uptake s call (s.perform host call).2 := by
  have hpassage := perform_passage host call s
  have hpacket {counter : UInt16} (h : s.counter? call = some counter) :=
    connected_of_counter host h
  generalize (s.perform host call).2 = s' at hpassage hpacket
  cases hpassage with
  | kept hcounter hconnected hlast hcontacts =>
    refine .none (arrival?_of_no_counter hcounter) (congrArg (fun c => c.2.1) hcontacts) ?_
    intro hafter
    rw [hconnected] at hafter
    exact ⟨hafter, hlast hafter⟩
  | lost hbefore hafter hcontacts =>
    have hcounter : s.counter? call = none := by
      cases hcounter : s.counter? call with
      | none => rfl
      | some counter =>
        rw [hpacket hcounter] at hafter
        cases hafter
    refine .none (arrival?_of_no_counter hcounter) (congrArg (fun c => c.2.1) hcontacts) ?_
    intro h
    rw [hafter] at h
    cases h
  | packet counter hcounter hafter hlast hcontacts =>
    obtain ⟨frame, harrival⟩ := arrival?_of_counter hcounter
    refine .packet _ harrival rfl ?_ hlast
    rw [arrivalStats_eq] at hcontacts
    exact congrArg (fun c => c.2.1) hcontacts

private theorem content?_of_arrival {s : Station W} {call : Call} {arrival : Arrival}
    (h : s.arrival? call = some arrival) :
    ∃ header block, Frame.content? s.device.inbound arrival.frame = some (header, block) ∧
      header.counter = arrival.counter := by
  cases call with
  | inbound frame =>
    obtain ⟨counter, hcounter, rfl⟩ := Option.map_eq_some_iff.mp h
    simp only [counter?] at hcounter
    split at hcounter
    · obtain ⟨packet, hpacket, hsame⟩ := Option.map_eq_some_iff.mp hcounter
      exact ⟨packet.1, packet.2, hpacket, hsame⟩
    · cases hcounter
  | _ => cases h

private theorem content?_of_mem_arrivals {turns : List (Turn W)} {s : Station W} {arrival : Arrival}
    (h : arrival ∈ arrivals host turns s) :
    ∃ layout header block, Frame.content? layout arrival.frame = some (header, block) ∧
      header.counter = arrival.counter := by
  induction turns generalizing s with
  | nil => cases h
  | cons t turns ih =>
    rw [arrivals, List.mem_append, Option.mem_toList] at h
    rcases h with harrival | hlater
    · exact ⟨_, content?_of_arrival harrival⟩
    · exact ih hlater

/-- Every gap before a packet is counted, and nothing else is. -/
theorem gaps_run (turns : List (Turn W)) (s : Station W) :
    (s.run host turns).engine.stats.gaps =
      s.engine.stats.gaps + (arrivals host turns s).countP fun arrival => arrival.gap.isSome := by
  induction turns generalizing s with
  | nil => rfl
  | cons t turns ih =>
    rw [run_cons, ih, arrivals]
    cases perform_uptake host t.call (s.meanwhile t.before) with
    | none harrival hgaps _ => rw [turn, hgaps, harrival, engine_meanwhile]; rfl
    | packet arrival harrival _ hgaps _ =>
      rw [turn, hgaps, harrival, engine_meanwhile, Option.toList_some, List.singleton_append,
        List.countP_cons, Nat.add_assoc, Nat.add_comm arrival.gap.isSome.toNat]
      cases arrival.gap <;> rfl

/-- Whether a slave is connected after each of the first entries of a run that brought packets. -/
def StaysConnected (turns : List (Turn W)) (s : Station W) : Prop :=
  ∀ k, arrivals host (turns.take k) s ≠ [] → (s.run host (turns.take k)).engine.connected = true

private theorem arrivals_follow_of_connected (turns : List (Turn W)) (s : Station W)
    (before : Arrival) (hlast : s.engine.tracker.lastSequence = before.counter)
    (hconnected : ∀ k, (s.run host (turns.take k)).engine.connected = true) :
    (before :: arrivals host turns s).IsChain Arrival.Follows := by
  induction turns generalizing s before with
  | nil => exact .singleton before
  | cons t turns ih =>
    have hnow : s.engine.connected = true := hconnected 0
    have hmore : ∀ k, ((s.turn host t).run host (turns.take k)).engine.connected = true :=
      fun k => hconnected (k + 1)
    rw [arrivals]
    cases perform_uptake host t.call (s.meanwhile t.before) with
    | none harrival _ hkept =>
      rw [harrival, Option.toList_none, List.nil_append]
      exact ih _ before ((hkept (hconnected 1)).2.trans hlast) hmore
    | packet arrival harrival hgap _ hsame =>
      rw [harrival, Option.toList_some, List.singleton_append, List.isChain_cons_cons]
      constructor
      · rw [Arrival.Follows, hgap, engine_meanwhile, Tracker.gap?_of_connected hnow, hlast]
      · exact ih _ arrival hsame hmore

private theorem arrivals_follow (turns : List (Turn W)) (s : Station W)
    (h : s.StaysConnected host turns) : (arrivals host turns s).IsChain Arrival.Follows := by
  induction turns generalizing s with
  | nil => exact .nil
  | cons t turns ih =>
    have hlater (k : Nat) : arrivals host ((t :: turns).take (k + 1)) s =
        ((s.meanwhile t.before).arrival? t.call).toList ++
          arrivals host (turns.take k) (s.turn host t) := rfl
    rw [arrivals]
    cases perform_uptake host t.call (s.meanwhile t.before) with
    | none harrival _ _ =>
      rw [harrival] at hlater ⊢
      apply ih
      intro k hk
      apply h (k + 1)
      rwa [hlater]
    | packet arrival harrival _ _ hlast =>
      rw [harrival] at hlater ⊢
      apply arrivals_follow_of_connected host turns _ arrival hlast
      intro k
      apply h (k + 1)
      rw [hlater]
      exact List.cons_ne_nil _ _

private theorem no_gap_before_first (turns : List (Turn W)) (s : Station W) {opening : Arrival}
    {later : List Arrival} (h : s.engine.connected = false)
    (harrivals : arrivals host turns s = opening :: later) : opening.gap = none := by
  induction turns generalizing s with
  | nil => cases harrivals
  | cons t turns ih =>
    rw [arrivals] at harrivals
    cases perform_uptake host t.call (s.meanwhile t.before) with
    | none hnone _ hkept =>
      rw [hnone] at harrivals
      refine ih _ ?_ harrivals
      rw [← Bool.not_eq_true]
      intro hconnected
      rw [engine_meanwhile, h] at hkept
      exact absurd (hkept hconnected).1 Bool.false_ne_true
    | packet arrival hsome hgap _ _ =>
      rw [hsome] at harrivals
      obtain ⟨rfl, -⟩ := List.cons.inj harrivals
      rw [hgap, engine_meanwhile]
      have htracker : s.engine.tracker.connected = false := h
      simp [Tracker.gap?, htracker]

/-- The frames that an engine with a counter for a data stream hands over, in the order of their
numbers. -/
def numberedFrames {V : Type} (sender : Host V) (settings : Settings) (world : V)
    (sending : List (Turn V)) : List Bytes :=
  History.observed Event.attempted?
    ((fresh settings (world, CounterStream.initial)).run sender.counting
      (sending.map Turn.counting)).history

private theorem counter_of_numbered {V : Type} {sender : Host V} {settings : Settings} {world : V}
    {sending : List (Turn V)} {n : Nat} {frame block : Bytes} {layout : Layout} {header : Header}
    (hframe : (numberedFrames sender settings world sending)[n]? = some frame)
    (hcontent : Frame.content? layout frame = some (header, block)) :
    header.counter = UInt16.ofNat n := by
  have hout := outbound_run sender.counting (sending.map Turn.counting)
    (fresh settings (world, CounterStream.initial)) (History.outbound_nil _ _)
  have hstream := counted_run sender sending (fresh settings (world, CounterStream.initial))
    ⟨0, rfl, rfl⟩
  obtain ⟨sent, -, rfl⟩ := hout.frame_of_counted hstream hframe
  by_cases hsize : sent.length = layout.samplesLength
  · rw [Frame.content?_build _ sent layout hsize] at hcontent
    cases hcontent
    rfl
  · rw [Frame.content?_build_of_ne _ sent layout hsize] at hcontent
    cases hcontent

private theorem counters_of_numbered {V : Type} {sender : Host V} {settings : Settings} {world : V}
    {sending : List (Turn V)} {numbers : List Nat} {heard : List Arrival}
    (hframes : (heard.map fun arrival => some arrival.frame) =
      numbers.map fun n => (numberedFrames sender settings world sending)[n]?)
    (hread : ∀ arrival ∈ heard, ∃ layout header block,
      Frame.content? layout arrival.frame = some (header, block) ∧
        header.counter = arrival.counter) :
    heard.map Arrival.counter = numbers.map UInt16.ofNat := by
  induction heard generalizing numbers with
  | nil =>
    rw [List.map_nil, eq_comm, List.map_eq_nil_iff] at hframes
    rw [hframes]
    rfl
  | cons arrival heard ih =>
    obtain ⟨n, numbers, rfl, hframe, hrest⟩ := List.map_eq_cons_iff.mp hframes.symm
    obtain ⟨hfirst, hothers⟩ := List.forall_mem_cons.mp hread
    obtain ⟨layout, header, block, hcontent, hcounter⟩ := hfirst
    rw [List.map_cons, List.map_cons, ih hrest.symm hothers, ← hcounter,
      counter_of_numbered hframe hcontent]

/-- A slave takes in the frames of a sender with the given numbers, in their order, and stays
connected from the first of them on, whatever else happens to both. Then every frame but the first
comes after a gap just if the number of frames lost right before it is no multiple of 65536; the gap
holds that many packets, modulo 65536, and each gap is counted. So if fewer than 65536 frames are
lost in a row, there are as many gaps as maximal runs of lost frames, and as many packets are
missing as frames were lost. The first packet after a time without a connection comes after no
gap. -/
theorem gaps_are_losses {V : Type} (sender : Host V) (settings : Settings) (world : V)
    (sending : List (Turn V)) (s : Station W) (turns : List (Turn W)) (first : Nat)
    (rest : List Nat) (hsorted : (first :: rest).Pairwise (· < ·))
    (hframes : ((arrivals host turns s).map fun arrival => some arrival.frame) =
      (first :: rest).map fun n => (numberedFrames sender settings world sending)[n]?)
    (hconnected : s.StaysConnected host turns) :
    let s' := s.run host turns
    let lost := lostNumbers first rest
    (∃ opening later, arrivals host turns s = opening :: later ∧
      List.Forall₂ Arrival.Shows later (losses (first :: rest)) ∧
      s'.engine.stats.gaps = s.engine.stats.gaps + opening.gap.isSome.toNat +
        (losses (first :: rest)).countP (· % 65536 ≠ 0) ∧
      ((∀ run ∈ maximalRuns lost, run.2 + 1 - run.1 < 65536) →
        s'.engine.stats.gaps = s.engine.stats.gaps + opening.gap.isSome.toNat +
          (maximalRuns lost).card ∧
        (later.map Arrival.missing).sum = lost.card)) ∧
    ∀ (more : List (Turn W)) (idle : Station W) (opening : Arrival) (later : List Arrival),
      idle.engine.connected = false → arrivals host more idle = opening :: later →
      opening.gap = none ∧
      (idle.run host more).engine.stats.gaps = idle.engine.stats.gaps +
        later.countP fun arrival => arrival.gap.isSome := by
  intro s' lost
  have hcounters := counters_of_numbered hframes fun _ => content?_of_mem_arrivals host
  have hshows := Arrival.shows_losses hsorted hcounters (arrivals_follow host turns s hconnected)
  have hgaps := gaps_run host turns s
  constructor
  · obtain ⟨opening, later, harrivals, -, -⟩ := List.map_eq_cons_iff.mp hcounters
    rw [harrivals, List.tail_cons] at hshows
    have hcount : s'.engine.stats.gaps = s.engine.stats.gaps + opening.gap.isSome.toNat +
        (losses (first :: rest)).countP (· % 65536 ≠ 0) := by
      rw [← Arrival.countP_of_shows hshows]
      change (s.run host turns).engine.stats.gaps = _
      rw [hgaps, harrivals, List.countP_cons]
      cases opening.gap <;> simp
      omega
    refine ⟨opening, later, harrivals, hshows, hcount, ?_⟩
    intro hruns
    have hsmall := losses_lt (by decide) hsorted hruns
    have hmod : ∀ loss ∈ losses (first :: rest), loss % 65536 = loss := by
      intro loss hloss
      exact Nat.mod_eq_of_lt (hsmall loss hloss)
    constructor
    · have hsame : (losses (first :: rest)).countP (· % 65536 ≠ 0) =
          (losses (first :: rest)).countP (· ≠ 0) := by
        apply List.countP_congr
        intro loss hloss
        rw [hmod loss hloss]
      rw [hcount, hsame, card_maximalRuns hsorted]
    · rw [Arrival.sum_missing_of_shows hshows, List.map_congr_left hmod, List.map_id',
        card_lostNumbers hsorted]
  · intro more idle opening later hidle harrivals
    have hnone := no_gap_before_first host more idle hidle harrivals
    refine ⟨hnone, ?_⟩
    rw [gaps_run, harrivals, List.countP_cons, hnone]
    rfl

private theorem staysConnected_of_lt {turns : List (Turn W)} {s : Station W}
    (h : ∀ k < turns.length + 1, arrivals host (turns.take k) s ≠ [] →
      (s.run host (turns.take k)).engine.connected = true) : s.StaysConnected host turns := by
  intro k
  by_cases hk : k < turns.length + 1
  · exact h k hk
  · have hall := h turns.length (Nat.lt_succ_self _)
    rw [List.take_length] at hall
    rwa [List.take_of_length_le (by omega)]

/-- Four frames are sent. -/
def fourFirings : List (Turn ScriptedHost) :=
  ⟨id, .start⟩ :: List.replicate 4 ⟨id, .fire⟩

def oneLost : List (Turn ScriptedHost) :=
  [⟨id, .start⟩, ⟨id, .inbound (silentFrame 0)⟩, ⟨id, .fire⟩,
    ⟨id, .inbound (silentFrame 2)⟩,
    ⟨id, .inbound (silentFrame 3)⟩]

theorem gaps_are_losses_one_lost :
    let s := fresh shortSettings shortWorld
    [0, 2, 3].Pairwise (· < ·) ∧
    ((arrivals shortHost oneLost s).map fun arrival => some arrival.frame) =
      [0, 2, 3].map (fun n => (numberedFrames loudHost masterSettings loudWorld fourFirings)[n]?) ∧
    s.StaysConnected shortHost oneLost ∧
    (s.run shortHost oneLost).engine.stats.gaps = 1 ∧
    (maximalRuns (lostNumbers 0 [2, 3])).card = 1 ∧
    ∃ opening later, arrivals shortHost oneLost s = opening :: later ∧ opening.gap = none ∧
      List.Forall₂ Arrival.Shows later [1, 0] ∧ (later.map Arrival.missing).sum = 1 := by
  intro s
  have hsorted : [0, 2, 3].Pairwise (· < ·) := by decide
  have hframes : ((arrivals shortHost oneLost s).map fun arrival => some arrival.frame) =
      [0, 2, 3].map fun n =>
        (numberedFrames loudHost masterSettings loudWorld fourFirings)[n]? := by decide +kernel
  have hconnected : s.StaysConnected shortHost oneLost :=
    staysConnected_of_lt shortHost (by decide +kernel)
  obtain ⟨⟨opening, later, harrivals, hshows, -, hexact⟩, hidle⟩ :=
    gaps_are_losses shortHost loudHost masterSettings loudWorld fourFirings s oneLost 0 [2, 3]
      hsorted hframes hconnected
  obtain ⟨hnone, -⟩ := hidle oneLost s opening later rfl harrivals
  have hruns : (maximalRuns (lostNumbers 0 [2, 3])).card = 1 := by
    rw [card_maximalRuns hsorted]
    decide
  have hshort : ∀ run ∈ maximalRuns (lostNumbers 0 [2, 3]), run.2 + 1 - run.1 < 65536 := by
    decide +kernel
  obtain ⟨hgaps, hmissing⟩ := hexact hshort
  have hnew : s.engine.stats.gaps = 0 := rfl
  rw [hruns, hnone, hnew] at hgaps
  rw [card_lostNumbers hsorted] at hmissing
  exact ⟨hsorted, hframes, hconnected, hgaps, hruns, opening, later, harrivals, hnone, hshows,
    hmissing⟩

end Station

end AudioLink
