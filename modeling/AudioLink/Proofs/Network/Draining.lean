import Mathlib.Algebra.BigOperators.Group.Finset.Basic
import Mathlib.Algebra.Order.BigOperators.Group.Finset
import Mathlib.Logic.Relation
import AudioLink.Proofs.Network.Reception
import AudioLink.Proofs.Network.Work

/-!
# Draining

An answer of a slave is a packet for the slaves whose inbound layout is its outbound one. Where
this relation has no cycle the loops run out of commands, in whatever order they work: each command
weighs more than all that its carrying out can put into the queues of the other nodes, since an
answer only comes to slaves from which fewer others can be reached.
-/

namespace AudioLink

namespace Network

/-- An answer of the slave of node `i` is a packet for the slave of node `j`. -/
def Provokes (net : Network) (i j : Nat) : Prop :=
  i ≠ j ∧ ∃ a ∈ net.settings? i, ∃ b ∈ net.settings? j,
    a.role = .slave ∧ b.role = .slave ∧ a.device.outChannels = b.device.inChannels

instance (net : Network) (i j : Nat) : Decidable (net.Provokes i j) :=
  inferInstanceAs (Decidable (_ ∧ _))

/-- No chain of answers leads back to a slave of the chain. -/
def Acyclic (net : Network) : Prop := ∀ i, ¬Relation.TransGen net.Provokes i i

open Classical in
/-- The nodes that an answer of node `i` can reach, over further answers too. -/
noncomputable def reachable (net : Network) (i : Nat) : Finset Nat :=
  (Finset.range net.nodes.length).filter fun j => Relation.TransGen net.Provokes i j

open Classical in
private theorem mem_reachable {net : Network} {i j : Nat} :
    j ∈ net.reachable i ↔ j < net.nodes.length ∧ Relation.TransGen net.Provokes i j := by
  rw [reachable, Finset.mem_filter, Finset.mem_range]

open Classical in
private theorem card_reachable_le (net : Network) (i : Nat) :
    (net.reachable i).card ≤ net.nodes.length :=
  (Finset.card_filter_le _ _).trans (Finset.card_range _).le

private theorem lt_of_settings? {net : Network} {i : Nat} {settings : Settings}
    (h : net.settings? i = some settings) : i < net.nodes.length := by
  obtain ⟨node, engine, hnode, -, -⟩ := settings?_eq_some.mp h
  exact (List.getElem?_eq_some_iff.mp hnode).1

private theorem card_reachable_lt {net : Network} (hacyclic : net.Acyclic) {i j : Nat}
    (h : net.Provokes i j) : (net.reachable j).card < (net.reachable i).card := by
  apply Finset.card_lt_card
  have hsub : net.reachable j ⊆ net.reachable i := by
    intro k hk
    obtain ⟨hrange, hreach⟩ := mem_reachable.mp hk
    exact mem_reachable.mpr ⟨hrange, .head h hreach⟩
  rw [Finset.ssubset_iff_of_subset hsub]
  obtain ⟨-, a, -, b, hb, -⟩ := id h
  refine ⟨j, mem_reachable.mpr ⟨lt_of_settings? hb, .single h⟩, ?_⟩
  intro hj
  exact hacyclic j (mem_reachable.mp hj).2

/-- How far the packets that node `i` sends can lead. -/
noncomputable def height (net : Network) (i : Nat) (settings : Settings) : Nat :=
  match settings.role with
  | .master => net.nodes.length + 2
  | .slave => (net.reachable i).card + 1

open Classical in
/-- How far a command in the queue of node `i` can lead. -/
noncomputable def rank (net : Network) (i : Nat) (command : Command) : Nat :=
  match net.settings? i with
  | some settings => if Prompts settings command then net.height i settings else 0
  | none => 0

noncomputable def weight (net : Network) (i : Nat) (command : Command) : Nat :=
  (net.nodes.length + 1) ^ net.rank i command

private theorem weight_pos (net : Network) (i : Nat) (command : Command) :
    0 < net.weight i command :=
  Nat.pow_pos (Nat.succ_pos _)

private theorem height_pos (net : Network) (i : Nat) (settings : Settings) :
    0 < net.height i settings := by
  unfold height
  split <;> exact Nat.succ_pos _

private theorem rank_lt {net : Network} (hacyclic : net.Acyclic) {i j : Nat} (hj : j ≠ i)
    {settings : Settings} (hpresent : net.settings? i = some settings) (header : Header)
    {block : Bytes} (hsize : block.length = settings.device.outbound.samplesLength) :
    net.rank j (.frame (Frame.build header block)) < net.height i settings := by
  unfold rank
  split
  · rename_i other hother
    split
    · rename_i hprompts
      cases hprompts with
      | frame hrole hcontent =>
        have hheight : net.height j other = (net.reachable j).card + 1 := by
          rw [height, hrole]
        rw [hheight, height]
        cases hsender : settings.role with
        | master =>
          have hcard := net.card_reachable_le j
          dsimp only
          omega
        | slave =>
          have hlayout : settings.device.outbound = other.device.inbound := by
            apply Layout.samplesLength_injective
            by_contra hne
            rw [Frame.content?_build_of_ne header block _ fun h => hne (hsize.symm.trans h)]
              at hcontent
            cases hcontent
          have hchannels := congrArg Layout.channels hlayout
          have hcard := card_reachable_lt hacyclic
            ⟨Ne.symm hj, settings, hpresent, other, hother, hsender, hrole, hchannels⟩
          exact Nat.succ_lt_succ hcard
    · exact net.height_pos i settings
  · exact net.height_pos i settings

private theorem exists_weight_bound {net : Network} (hacyclic : net.Acyclic) {i : Nat}
    {settings : Settings} (hpresent : net.settings? i = some settings) {command : Command}
    {sent : List Bytes}
    (hreplies : Replies settings command sent) :
    ∃ most, net.nodes.length * most < net.weight i command ∧
      ∀ j, j ≠ i → (sent.map fun frame => net.weight j (.frame frame)).sum ≤ most := by
  cases hreplies with
  | nothing => exact ⟨0, net.weight_pos i command, fun _ _ => Nat.le_refl 0⟩
  | packet header block hsize hprompts =>
    have hrank : net.rank i command = net.height i settings := by
      simp [rank, hpresent, hprompts]
    obtain ⟨h, hheight⟩ := Nat.exists_eq_succ_of_ne_zero (net.height_pos i settings).ne'
    refine ⟨(net.nodes.length + 1) ^ h, ?_, ?_⟩
    · rw [weight, hrank, hheight, Nat.pow_succ, Nat.mul_comm]
      exact Nat.mul_lt_mul_of_pos_left (Nat.lt_succ_self _) (Nat.pow_pos (Nat.succ_pos _))
    · intro j hj
      have hless := rank_lt hacyclic hj hpresent header hsize
      rw [hheight] at hless
      rw [List.map_singleton, List.sum_singleton]
      exact Nat.pow_le_pow_right (Nat.succ_pos _) (Nat.le_of_lt_succ hless)

/-- The weight of everything in the queues of `net`, as the engines of `start` would see it. -/
noncomputable def load (start net : Network) : Nat :=
  ∑ i ∈ Finset.range start.nodes.length, net.weighAt (start.weight i) i

/-- A network after some work of the loops of `start`. -/
structure Since (start net : Network) : Prop where
  wired : net.Wired
  size : net.nodes.length = start.nodes.length
  settings : ∀ i settings, net.settings? i = some settings → start.settings? i = some settings

private theorem sum_lt_of_moved {size i weight most : Nat} (hi : i < size)
    {before after : Nat → Nat} (hown : after i + weight ≤ before i)
    (hothers : ∀ j, j ≠ i → after j ≤ before j + most)
    (hmost : size * most < weight) :
    ∑ j ∈ Finset.range size, after j < ∑ j ∈ Finset.range size, before j := by
  have hmem : i ∈ Finset.range size := Finset.mem_range.mpr hi
  have hcard : ((Finset.range size).erase i).card ≤ size :=
    Finset.card_erase_le.trans (Finset.card_range size).le
  have hrest : ∑ j ∈ (Finset.range size).erase i, after j ≤
      ∑ j ∈ (Finset.range size).erase i, before j + size * most := by
    calc ∑ j ∈ (Finset.range size).erase i, after j
        ≤ ∑ j ∈ (Finset.range size).erase i, (before j + most) :=
          Finset.sum_le_sum fun j hj => hothers j (Finset.ne_of_mem_erase hj)
      _ = ∑ j ∈ (Finset.range size).erase i, before j +
            ((Finset.range size).erase i).card * most := by
          rw [Finset.sum_add_distrib, Finset.sum_const_nat fun _ _ => rfl]
      _ ≤ _ := Nat.add_le_add_left (Nat.mul_le_mul_right most hcard) _
  rw [← Finset.add_sum_erase _ after hmem, ← Finset.add_sum_erase _ before hmem]
  omega

variable {start net : Network} {i : Nat}

private theorem load_step (hacyclic : start.Acyclic) (h : Since start net)
    (hbusy : net.isBusyAt i = true) :
    Since start (net.step i) ∧ start.load (net.step i) < start.load net := by
  obtain ⟨settings, command, sent, hworked⟩ := step_worked h.wired hbusy
  have hpresent := h.settings i settings hworked.present
  obtain ⟨most, hmost, hsent⟩ := exists_weight_bound hacyclic hpresent hworked.replies
  refine ⟨⟨hworked.wired, hworked.size.trans h.size, ?_⟩, ?_⟩
  · intro j settings' hsettings'
    exact h.settings j settings' (hworked.settings j settings' hsettings')
  · refine sum_lt_of_moved (lt_of_settings? hpresent) (hworked.own _) ?_ hmost
    intro j hj
    exact (hworked.others j hj _).trans (Nat.add_le_add_left (hsent j hj) _)

/-- The network after so many steps of the loops, in the given order. -/
def after (order : Nat → Nat) (net : Network) : Nat → Network
  | 0 => net
  | n + 1 => (net.after order n).step (order n)

/-- How many of the first so many steps carry out a command. -/
def commandsDone (order : Nat → Nat) (net : Network) (n : Nat) : Nat :=
  (List.range n).countP fun k => (net.after order k).isBusyAt (order k)

/-- All queues with a loop are empty. -/
def Drained (net : Network) : Prop :=
  ∀ i node, net.node? i = some node → node.engine.isSome → node.queue.pending = []

private theorem drained_iff : net.Drained ↔ ∀ i, net.isBusyAt i = false := by
  constructor
  · intro h i
    rw [← Bool.not_eq_true, isBusyAt_iff]
    rintro ⟨node, engine, hnode, hengine, hpending⟩
    exact hpending (h i node hnode (hengine ▸ rfl))
  · intro h i node hnode hengine
    by_contra hpending
    obtain ⟨engine, hengine⟩ := Option.isSome_iff_exists.mp hengine
    have hbusy := isBusyAt_iff.mpr ⟨node, engine, hnode, hengine, hpending⟩
    rw [h i] at hbusy
    cases hbusy

private theorem isBusyAt_of_busy? (h : net.busy? = some i) : net.isBusyAt i = true := by
  obtain ⟨hsize, hbusy, -⟩ := List.findIdx?_eq_some_iff_getElem.mp h
  rw [isBusyAt, node?, List.getElem?_eq_getElem hsize]
  exact hbusy

theorem drained_iff_busy? : net.Drained ↔ net.busy? = none := by
  rw [drained_iff]
  constructor
  · intro h
    cases hbusy : net.busy? with
    | none => rfl
    | some i =>
      have hsome := isBusyAt_of_busy? hbusy
      rw [h i] at hsome
      cases hsome
  · intro h i
    rw [isBusyAt, node?]
    cases hnode : net.nodes[i]? with
    | none => rfl
    | some node => exact List.findIdx?_eq_none_iff.mp h node (List.mem_of_getElem? hnode)

private theorem load_after (hwired : net.Wired) (hacyclic : net.Acyclic) (order : Nat → Nat)
    (n : Nat) :
    Since net (net.after order n) ∧
      net.load (net.after order n) + net.commandsDone order n ≤ net.load net := by
  induction n with
  | zero => exact ⟨⟨hwired, rfl, fun _ _ h => h⟩, Nat.le_refl _⟩
  | succ n ih =>
    obtain ⟨hsince, hload⟩ := ih
    have hdone : net.commandsDone order (n + 1) = net.commandsDone order n +
        if (net.after order n).isBusyAt (order n) then 1 else 0 := by
      simp [commandsDone, List.range_succ, List.countP_append, List.countP_cons]
    rw [hdone, after]
    cases hbusy : (net.after order n).isBusyAt (order n) with
    | true =>
      obtain ⟨hnext, hless⟩ := load_step hacyclic hsince hbusy
      refine ⟨hnext, ?_⟩
      rw [if_pos rfl]
      omega
    | false =>
      rw [step_of_idle hbusy]
      exact ⟨hsince, hload⟩

private theorem after_of_drained {order : Nat → Nat} {n : Nat} (h : (net.after order n).Drained)
    {m : Nat} (hm : n ≤ m) : net.after order m = net.after order n := by
  induction m, hm using Nat.le_induction with
  | base => rfl
  | succ m _ ih =>
    rw [after, ih, step_of_idle (drained_iff.mp h (order m))]

private theorem commandsDone_of_undrained {order : Nat → Nat}
    (hworks : ∀ n, (net.after order n).Drained ∨ (net.after order n).isBusyAt (order n) = true)
    {n : Nat} (h : ∀ k < n, ¬(net.after order k).Drained) : net.commandsDone order n = n := by
  have hall : ∀ k ∈ List.range n, (net.after order k).isBusyAt (order k) = true := fun k hk =>
    (hworks k).resolve_left (h k (List.mem_range.mp hk))
  rw [commandsDone, List.countP_eq_length.mpr hall, List.length_range]

/-- Where no chain of answers closes, all loops together can carry out no more than a certain number
of commands, in whatever order they work; and if they work on as long as there are commands, then
all queues with a loop are empty after at most so many steps, and remain so. -/
theorem draining_ends (hwired : net.Wired) (hacyclic : net.Acyclic) :
    ∃ bound, ∀ order : Nat → Nat,
      (∀ n, net.commandsDone order n ≤ bound) ∧
      ((∀ n, (net.after order n).Drained ∨ (net.after order n).isBusyAt (order n) = true) →
        ∃ n ≤ bound, ∀ m, n ≤ m → (net.after order m).Drained) := by
  refine ⟨net.load net, fun order => ?_⟩
  have hbound (n : Nat) : net.commandsDone order n ≤ net.load net := by
    have hload := (load_after hwired hacyclic order n).2
    omega
  refine ⟨hbound, fun hworks => ?_⟩
  by_contra hnever
  have hundrained : ∀ k < net.load net + 1, ¬(net.after order k).Drained := by
    intro k hk hdrained
    refine hnever ⟨k, Nat.le_of_lt_succ hk, fun m hm => ?_⟩
    rw [after_of_drained hdrained hm]
    exact hdrained
  have hdone := commandsDone_of_undrained hworks hundrained
  have hmost := hbound (net.load net + 1)
  omega

/-- Working at the first busy loop again and again empties all queues, given enough fuel. -/
theorem drained_settle (hacyclic : start.Acyclic) {fuel : Nat} (h : Since start net)
    (hfuel : start.load net ≤ fuel) : (net.settle fuel).Drained := by
  induction fuel generalizing net with
  | zero =>
    rw [settle, drained_iff]
    intro i
    cases hbusy : net.isBusyAt i with
    | false => rfl
    | true =>
      have hless := (load_step hacyclic h hbusy).2
      omega
  | succ fuel ih =>
    rw [settle]
    cases hbusy : net.busy? with
    | none => exact drained_iff_busy?.mpr hbusy
    | some i =>
      obtain ⟨hsince, hless⟩ := load_step hacyclic h (isBusyAt_of_busy? hbusy)
      exact ih hsince (by omega)

private theorem acyclic_of_lt (h : ∀ i j, net.Provokes i j → i < j) : net.Acyclic := by
  have hpath {i j : Nat} (hpath : Relation.TransGen net.Provokes i j) : i < j := by
    induction hpath with
    | single hij => exact h _ _ hij
    | tail _ hjk ih => exact ih.trans (h _ _ hjk)
  exact fun i hcycle => Nat.lt_irrefl i (hpath hcycle)

/-- A master, a slave that answers it, and a slave that answers the first one. -/
def relay : List Member := [speaker .master 1 1, speaker .slave 1 2, speaker .slave 2 3]

def alarm : List Action :=
  [.post 0 (.start 0), .work 0, .post 1 (.start 0), .work 1, .post 2 (.start 0), .work 2,
    .post 0 (.fire 1)]

def relayOrder (n : Nat) : Nat := [0, 1, 2, 2, 0, 0, 1].getD n 0

theorem relay_drains :
    let net := (ofMembers relay).run alarm
    net.Wired ∧ net.Acyclic ∧ net.Provokes 1 2 ∧ ¬net.Drained ∧
      (∀ n, (net.after relayOrder n).Drained ∨
        (net.after relayOrder n).isBusyAt (relayOrder n) = true) ∧
      ∃ n, ∀ m, n ≤ m → (net.after relayOrder m).Drained := by
  intro net
  have hsize : net.nodes.length = 3 := by decide +kernel
  have hwired : net.Wired := wired_run relay alarm
  have hacyclic : net.Acyclic := by
    have hupward : ∀ i < 3, ∀ j < 3, net.Provokes i j → i < j := by decide +kernel
    refine acyclic_of_lt fun i j h => ?_
    obtain ⟨-, a, ha, b, hb, -⟩ := id h
    exact hupward i (hsize ▸ lt_of_settings? ha) j (hsize ▸ lt_of_settings? hb) h
  have hworks : ∀ n, (net.after relayOrder n).Drained ∨
      (net.after relayOrder n).isBusyAt (relayOrder n) = true := by
    have hbusy : ∀ n < 7, (net.after relayOrder n).isBusyAt (relayOrder n) = true := by
      decide +kernel
    have hend : (net.after relayOrder 7).Drained := by
      rw [drained_iff_busy?]
      decide +kernel
    intro n
    by_cases hn : n < 7
    · exact .inr (hbusy n hn)
    · left
      rw [after_of_drained hend (by omega)]
      exact hend
  have hfull : ¬net.Drained := by
    rw [drained_iff_busy?]
    decide +kernel
  obtain ⟨bound, hdrains⟩ := draining_ends hwired hacyclic
  obtain ⟨n, -, hempty⟩ := (hdrains relayOrder).2 hworks
  exact ⟨hwired, hacyclic, by decide +kernel, hfull, hworks, n, hempty⟩

end Network

end AudioLink
