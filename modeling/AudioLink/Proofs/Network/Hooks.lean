import Mathlib.Data.List.Nodup
import AudioLink.Proofs.Network.Ports
import AudioLink.Proofs.Network.Reception

/-!
# Hooks and engines

Every engine of a segment has a port of its own, and it puts its filter on that port while it is
started. So the ports with a filter are those of the started engines, whatever becomes of nodes,
ports and engines. A port that is taken away takes its filter along: its engine can still be
stopped, without touching another port, but it cannot be started again.
-/

namespace AudioLink

private theorem Clockwork.due?_cancel (clock : Clockwork) : clock.cancel.due? = none := by
  cases clock with
  | manual timer => rfl
  | thread timer =>
    obtain ⟨generation, control, thread⟩ := timer
    cases thread with
    | waiting deadline =>
      simp [cancel, due?, ThreadTimer.cancel, ThreadTimer.tell, ThreadTimer.due?]
    | _ => rfl

namespace Network

section Seats

private theorem nodup_concat {α : Type} {number : α → Nat} {items : List α} {new : α} {last : Nat}
    (hnodup : (items.map number).Nodup) (hlast : ∀ item ∈ items, number item ≤ last)
    (hnew : number new = last + 1) : ((items ++ [new]).map number).Nodup := by
  rw [List.map_append, List.nodup_append]
  refine ⟨hnodup, List.nodup_singleton _, ?_⟩
  intro n hn m hm hsame
  obtain ⟨item, hitem, rfl⟩ := List.mem_map.mp hn
  have hm : m = last + 1 := by simpa [hnew] using hm
  have hle : number item ≤ last := hlast item hitem
  omega

variable {β : Type} {seats : List (Nat × β)} {i port : Nat} {before after : β}

private theorem map_fst_set (hseat : seats[i]? = some (port, before)) :
    (seats.set i (port, after)).map Prod.fst = seats.map Prod.fst := by
  have hfst : (seats.map Prod.fst)[i]? = some port := by rw [List.getElem?_map, hseat]; rfl
  obtain ⟨hi, hport⟩ := List.getElem?_eq_some_iff.mp hfst
  rw [List.map_set, ← hport, List.set_getElem_self]

private theorem mem_set_iff (hnodup : (seats.map Prod.fst).Nodup)
    (hseat : seats[i]? = some (port, before)) {seat : Nat × β} :
    seat ∈ seats.set i (port, after) ↔ seat = (port, after) ∨ seat ∈ seats ∧ seat.1 ≠ port := by
  induction seats generalizing i with
  | nil => cases hseat
  | cons first seats ih =>
    rw [List.map_cons, List.nodup_cons] at hnodup
    have hapart {seat : Nat × β} (hmem : seat ∈ seats) : seat.1 ≠ first.1 := fun h =>
      hnodup.1 (h ▸ List.mem_map_of_mem hmem)
    cases i with
    | zero =>
      cases hseat
      rw [List.set_cons_zero, List.mem_cons, List.mem_cons]
      constructor
      · rintro (rfl | hmem)
        · exact .inl rfl
        · exact .inr ⟨.inr hmem, hapart hmem⟩
      · rintro (rfl | ⟨rfl | hmem, hother⟩)
        · exact .inl rfl
        · exact absurd rfl hother
        · exact .inr hmem
    | succ i =>
      have hfirst : first.1 ≠ port := (hapart (List.mem_of_getElem? hseat)).symm
      rw [List.set_cons_succ, List.mem_cons, List.mem_cons, ih hnodup.2 hseat]
      constructor
      · rintro (rfl | rfl | ⟨hmem, hother⟩)
        · exact .inr ⟨.inl rfl, hfirst⟩
        · exact .inl rfl
        · exact .inr ⟨.inr hmem, hother⟩
      · rintro (rfl | ⟨rfl | hmem, hother⟩)
        · exact .inr (.inl rfl)
        · exact .inl rfl
        · exact .inr (.inr ⟨hmem, hother⟩)

end Seats

/-- The ports have different numbers, which have all been given out, each node has a port of its
own, and the ports with a filter are those of the started engines. -/
structure Hooked (net : Network) : Prop where
  distinct : (net.segment.ports.map Port.id).Nodup
  issued : ∀ port ∈ net.segment.ports, port.id ≤ net.segment.lastId
  apart : (net.seats.map Prod.fst).Nodup
  placed : ∀ seat ∈ net.seats, seat.1 ≤ net.segment.lastId
  held : net.Held
  follows : ∀ port ∈ net.segment.ports, port.filter.isSome = true ↔
    ∃ seat ∈ net.seats, seat.1 = port.id ∧ seat.2.any Engine.started = true

private theorem hooked_empty : Hooked .empty where
  distinct := .nil
  issued := nofun
  apart := .nil
  placed := nofun
  held := nofun
  follows := nofun

variable {net net' : Network}

private theorem Hooked.isSome_filter (h : net.Hooked) {i id : Nat} {engine : Option Engine}
    (hseat : net.seats[i]? = some (id, engine)) {port : Port} (hport : port ∈ net.segment.ports)
    (hid : port.id = id) : port.filter.isSome = engine.any Engine.started := by
  have hmem := List.mem_of_getElem? hseat
  rw [Bool.eq_iff_iff, h.follows port hport]
  constructor
  · rintro ⟨seat, hseat', hsame, hstarted⟩
    have hown : seat = (id, engine) :=
      List.inj_on_of_nodup_map h.apart hseat' hmem (hsame.trans hid)
    rw [hown] at hstarted
    exact hstarted
  · intro hstarted
    exact ⟨_, hmem, hid.symm, hstarted⟩

/-- The engine of one node changes, and with it at most the filter of its port. -/
theorem Hooked.reseat (h : net.Hooked) {i id : Nat} {before after : Option Engine}
    (hseat : net.seats[i]? = some (id, before)) (hseats : net'.seats = net.seats.set i (id, after))
    (hlastId : net'.segment.lastId = net.segment.lastId)
    (hids : net'.segment.ports.map Port.id = net.segment.ports.map Port.id)
    (hports : ∀ port ∈ net'.segment.ports,
      port.id = id ∧ port.filter.isSome = after.any Engine.started ∨
        port.id ≠ id ∧ port ∈ net.segment.ports)
    (hholds : ∀ engine, after = some engine → Holds id engine) : net'.Hooked := by
  have hmem {seat : Nat × Option Engine} : seat ∈ net'.seats ↔
      seat = (id, after) ∨ seat ∈ net.seats ∧ seat.1 ≠ id := by
    rw [hseats]
    exact mem_set_iff h.apart hseat
  refine ⟨?_, ?_, ?_, ?_, ?_, ?_⟩
  · rw [hids]
    exact h.distinct
  · intro port hport
    have hid : port.id ∈ net.segment.ports.map Port.id := hids ▸ List.mem_map_of_mem hport
    obtain ⟨port', hport', hsame⟩ := List.mem_map.mp hid
    rw [hlastId, ← hsame]
    exact h.issued port' hport'
  · rw [hseats, map_fst_set hseat]
    exact h.apart
  · intro seat hseat'
    rw [hlastId]
    rcases hmem.mp hseat' with rfl | ⟨hold, -⟩
    · exact h.placed (id, before) (List.mem_of_getElem? hseat)
    · exact h.placed seat hold
  · intro port engine hseat'
    rcases hmem.mp hseat' with hsame | ⟨hold, -⟩
    · cases hsame
      exact hholds engine rfl
    · exact h.held port engine hold
  · intro port hport
    rcases hports port hport with ⟨rfl, hfilter⟩ | ⟨hother, hold⟩
    · rw [hfilter]
      constructor
      · exact fun hstarted => ⟨_, hmem.mpr (.inl rfl), rfl, hstarted⟩
      · rintro ⟨seat, hseat', hsame, hstarted⟩
        rcases hmem.mp hseat' with rfl | ⟨-, hother⟩
        · exact hstarted
        · exact absurd hsame hother
    · rw [h.follows port hold]
      constructor
      · rintro ⟨seat, hseat', hsame, hstarted⟩
        exact ⟨seat, hmem.mpr (.inr ⟨hseat', hsame ▸ hother⟩), hsame, hstarted⟩
      · rintro ⟨seat, hseat', hsame, hstarted⟩
        rcases hmem.mp hseat' with rfl | ⟨hold', -⟩
        · exact absurd hsame.symm hother
        · exact ⟨seat, hold', hsame, hstarted⟩

theorem Hooked.attached (h : net.Hooked) {i : Nat}
    (hports : net'.segment.ports = net.segment.ports ++ [⟨net.segment.lastId + 1, i, none⟩])
    (hlastId : net'.segment.lastId = net.segment.lastId + 1)
    (hseats : net'.seats = net.seats ∨
      net'.seats = net.seats ++ [(net.segment.lastId + 1, none)]) : net'.Hooked := by
  have hmem {seat : Nat × Option Engine} (hseat : seat ∈ net'.seats) :
      seat ∈ net.seats ∨ seat = (net.segment.lastId + 1, none) := by
    rcases hseats with hsame | hmore
    · exact .inl (hsame ▸ hseat)
    · rw [hmore, List.mem_append, List.mem_singleton] at hseat
      exact hseat
  have hsub {seat : Nat × Option Engine} (hseat : seat ∈ net.seats) : seat ∈ net'.seats := by
    rcases hseats with hsame | hmore
    · exact hsame ▸ hseat
    · exact hmore ▸ List.mem_append_left _ hseat
  have hport {port : Port} (hport : port ∈ net'.segment.ports) :
      port ∈ net.segment.ports ∨ port = ⟨net.segment.lastId + 1, i, none⟩ := by
    rw [hports, List.mem_append, List.mem_singleton] at hport
    exact hport
  refine ⟨?_, ?_, ?_, ?_, ?_, ?_⟩
  · rw [hports]
    exact nodup_concat h.distinct h.issued rfl
  · intro port hmem
    rw [hlastId]
    rcases hport hmem with hold | rfl
    · exact Nat.le_succ_of_le (h.issued port hold)
    · exact Nat.le_refl _
  · rcases hseats with hsame | hmore
    · rw [hsame]
      exact h.apart
    · rw [hmore]
      exact nodup_concat h.apart h.placed rfl
  · intro seat hseat
    rw [hlastId]
    rcases hmem hseat with hold | rfl
    · exact Nat.le_succ_of_le (h.placed seat hold)
    · exact Nat.le_refl _
  · intro port engine hseat
    rcases hmem hseat with hold | hnew
    · exact h.held port engine hold
    · cases hnew
  · intro port hnew
    rcases hport hnew with hold | rfl
    · rw [h.follows port hold]
      constructor
      · rintro ⟨seat, hseat, hsame⟩
        exact ⟨seat, hsub hseat, hsame⟩
      · rintro ⟨seat, hseat, hsame, hstarted⟩
        rcases hmem hseat with hseat | rfl
        · exact ⟨seat, hseat, hsame, hstarted⟩
        · cases hstarted
    · constructor
      · exact fun hfilter => by cases hfilter
      · rintro ⟨seat, hseat, hsame, hstarted⟩
        rcases hmem hseat with hseat | rfl
        · have hold : seat.1 ≤ net.segment.lastId := h.placed seat hseat
          have hnew : seat.1 = net.segment.lastId + 1 := hsame
          omega
        · cases hstarted

theorem Hooked.shift (h : net.Hooked) (hshift : Shift net net') : net'.Hooked := by
  cases hshift with
  | quiet hports hseats =>
    refine ⟨?_, ?_, ?_, ?_, ?_, ?_⟩
    · rw [hports.ports]; exact h.distinct
    · rw [hports.ports, hports.lastId]; exact h.issued
    · rw [hseats]; exact h.apart
    · rw [hseats, hports.lastId]; exact h.placed
    · rw [Held, hseats]; exact h.held
    · rw [hports.ports, hseats]; exact h.follows
  | attached i hports hlastId hseats => exact h.attached hports hlastId hseats
  | detached id hports hlastId hseats =>
    have hsub : net'.segment.ports.Sublist net.segment.ports := hports ▸ List.filter_sublist
    refine ⟨h.distinct.sublist (hsub.map _), ?_, ?_, ?_, ?_, ?_⟩
    · rw [hlastId]; exact fun port hport => h.issued port (hsub.subset hport)
    · rw [hseats]; exact h.apart
    · rw [hseats, hlastId]; exact h.placed
    · rw [Held, hseats]; exact h.held
    · rw [hseats]; exact fun port hport => h.follows port (hsub.subset hport)
  | reseated i id before after hseat hports hseats hstarted hholds =>
    refine h.reseat hseat hseats hports.lastId (congrArg _ hports.ports) ?_ hholds
    intro port hport
    rw [hports.ports] at hport
    by_cases hid : port.id = id
    · exact .inl ⟨hid, (h.isSome_filter hseat hport hid).trans hstarted.symm⟩
    · exact .inr ⟨hid, hport⟩
  | rehooked i id before after filter hseat hports hlastId hseats hstarted hholds =>
    refine h.reseat hseat hseats hlastId ?_ ?_ hholds
    · rw [hports, Segment.ids_refilter]
    · intro port hport
      rw [hports] at hport
      rcases Segment.mem_refilter hport with ⟨hid, rfl⟩ | hother
      · exact .inl ⟨hid, hstarted⟩
      · exact .inr hother

theorem Hooked.operateAll (h : net.Hooked) (operations : List Operation) :
    (net.operateAll operations).Hooked := by
  induction operations generalizing net with
  | nil => exact h
  | cons operation operations ih => exact ih (h.shift (operate_shift h.held operation))

/-- A number of a port that is no more. -/
def Retired (id : Nat) (net : Network) : Prop :=
  id ≤ net.segment.lastId ∧ net.segment.isAttached id = false

private theorem Retired.of_ids {id : Nat} (h : net.Retired id)
    (hlastId : net'.segment.lastId = net.segment.lastId)
    (hids : (net'.segment.ports.map Port.id).Sublist (net.segment.ports.map Port.id)) :
    net'.Retired id := by
  refine ⟨hlastId ▸ h.1, ?_⟩
  have hgone := h.2
  rw [← Bool.not_eq_true, Segment.isAttached_iff] at hgone ⊢
  exact fun hmem => hgone (hids.subset hmem)

theorem Retired.shift {id : Nat} (h : net.Retired id) (hshift : Shift net net') :
    net'.Retired id := by
  cases hshift with
  | quiet hports _ | reseated _ _ _ _ _ hports _ _ _ =>
    exact h.of_ids hports.lastId (by rw [hports.ports])
  | detached _ hports hlastId _ =>
    exact h.of_ids hlastId (hports ▸ List.filter_sublist.map _)
  | rehooked _ _ _ _ _ _ hports hlastId _ _ _ =>
    exact h.of_ids hlastId (by rw [hports, Segment.ids_refilter])
  | attached i hports hlastId _ =>
    have hgone := h.2
    refine ⟨hlastId ▸ Nat.le_succ_of_le h.1, ?_⟩
    rw [← Bool.not_eq_true, Segment.isAttached_iff] at hgone ⊢
    rw [hports, List.map_append, List.mem_append, not_or]
    refine ⟨hgone, ?_⟩
    have hold : id ≤ net.segment.lastId := h.1
    simp only [List.map_cons, List.map_nil, List.mem_singleton]
    omega

theorem Retired.operateAll {id : Nat} (h : net.Retired id) (hhooked : net.Hooked)
    (operations : List Operation) : (net.operateAll operations).Retired id := by
  induction operations generalizing net with
  | nil => exact h
  | cons operation operations ih =>
    have hshift := operate_shift hhooked.held operation
    exact ih (h.shift hshift) (hhooked.shift hshift)

private theorem retired_detach (hhooked : net.Hooked) {id : Nat}
    (h : net.segment.isAttached id = true) :
    (net.detach id).Retired id := by
  rw [Segment.isAttached_iff] at h
  obtain ⟨port, hport, rfl⟩ := List.mem_map.mp h
  exact ⟨hhooked.issued port hport, by simp [detach, Segment.detach, Segment.isAttached]⟩

private theorem Hooked.filter_iff (h : net.Hooked) {port : Port}
    (hport : port ∈ net.segment.ports) :
    port.filter.isSome = true ↔
      ∃ node ∈ net.nodes, node.port = port.id ∧ node.isStarted = true := by
  rw [h.follows port hport]
  constructor
  · rintro ⟨seat, hseat, hsame, hstarted⟩
    obtain ⟨node, hnode, rfl⟩ := List.mem_map.mp hseat
    exact ⟨node, hnode, hsame, hstarted⟩
  · rintro ⟨node, hnode, hsame, hstarted⟩
    exact ⟨node.seat, List.mem_map_of_mem hnode, hsame, hstarted⟩

private theorem Hooked.hooksInstalled_eq (h : net.Hooked) :
    net.segment.hooksInstalled =
      net.nodes.countP fun node => node.isStarted && net.segment.isAttached node.port := by
  have hports : (net.nodes.map Node.port).Nodup := by
    have happart := h.apart
    rw [seats, List.map_map] at happart
    exact happart
  -- Both sides count port numbers, which are the same ones and each of them once.
  rw [List.countP_eq_length_filter, Segment.hooksInstalled, ← List.length_map (f := Port.id),
    ← List.length_map (f := Node.port)]
  refine List.Perm.length_eq ((List.perm_ext_iff_of_nodup
    (h.distinct.sublist (List.filter_sublist.map _))
    (hports.sublist (List.filter_sublist.map _))).mpr fun id => ?_)
  simp only [List.mem_map, List.mem_filter, Bool.and_eq_true]
  constructor
  · rintro ⟨port, ⟨hport, hfilter⟩, rfl⟩
    obtain ⟨node, hnode, hsame, hstarted⟩ := (h.filter_iff hport).mp hfilter
    refine ⟨node, ⟨hnode, hstarted, ?_⟩, hsame⟩
    rw [Segment.isAttached_iff, hsame]
    exact List.mem_map_of_mem hport
  · rintro ⟨node, ⟨hnode, hstarted, hattached⟩, rfl⟩
    obtain ⟨port, hport, hsame⟩ := List.mem_map.mp (Segment.isAttached_iff.mp hattached)
    exact ⟨port, ⟨hport, (h.filter_iff hport).mpr ⟨node, hnode, hsame.symm, hstarted⟩⟩, hsame⟩

section Detached

variable {i : Nat} {node : Node} {engine : Engine}

private theorem stop_of_detached (hooked : net.Hooked) (hnode : net.node? i = some node)
    (hengine : node.engine = some engine) (hdetached : net.segment.isAttached node.port = false) :
    let s : Station Network := ⟨engine, net, node.history⟩
    let s' := s.stop (host i node.port node.callbacks)
    s'.engine.started = false ∧ s'.world.segment.ports = net.segment.ports := by
  intro s s'
  have hrehook : Rehook node.port s s' :=
    perform_rehook i node.callbacks .stop s (hooked.held.of_node? hnode hengine)
  refine ⟨Station.started_stop _ s, ?_⟩
  cases hrehook with
  | kept hports _ _ => exact hports.ports
  | changed filter hports _ _ _ =>
    exact hports.trans (Segment.refilter_of_detached hdetached filter)

private theorem start_of_detached (hdetached : net.segment.isAttached node.port = false)
    (hidle : engine.started = false) (hperiod : engine.settings.period ≠ 0) {w : Network}
    (harm : (host i node.port node.callbacks).arm engine.settings.period net = (.ok (), w)) :
    let s : Station Network := ⟨engine, net, node.history⟩
    let host := host i node.port node.callbacks
    (s.start host).1 =
        .error (.hookUnavailable ("port " ++ toString node.port ++ " detached")) ∧
      (s.start host).2.engine.started = false ∧ (s.start host).2.world = host.cancel w ∧
      ∀ node', (host.cancel w).node? i = some node' → node'.clock.due? = none := by
  intro s host
  have harms : host.Does (.arm engine.settings.period
      (host.arm engine.settings.period net).1) net _ := .arm _ net
  have hports : SamePorts net w := by
    have hsame := samePorts_does harms rfl
    rw [show host.arm engine.settings.period net = (.ok (), w) from harm] at hsame
    exact hsame
  have hinstall : host.install Frame.hasDiscriminator w =
      (.error (.hookUnavailable ("port " ++ toString node.port ++ " detached")), w) := by
    have hgone : w.segment.isAttached node.port = false := by
      rw [Segment.isAttached, hports.ports]
      exact hdetached
    change w.install node.port Frame.hasDiscriminator = _
    rw [Network.install, Segment.install_of_detached hgone]
  rw [Station.start_of_unhooked (s := s) host hidle hperiod harm hinstall]
  refine ⟨rfl, hidle, rfl, ?_⟩
  intro node' hnode'
  change (w.modify i fun node => node.setClock node.clock.cancel).node? i = some node' at hnode'
  rw [node?_modify, if_pos rfl, Option.map_eq_some_iff] at hnode'
  obtain ⟨before, -, rfl⟩ := hnode'
  exact before.clock.due?_cancel

end Detached

/-- However a network is built up and whatever its nodes do: its ports have different numbers, and
that of a port that has been taken away is not given out again; an attached port carries a filter
exactly if the engine on it is started, so that there are as many filters as started engines with
attached ports; and an engine whose port has been taken away stops without touching another port,
while no start of it succeeds: once the timer is armed the hook is refused, the engine is not
started and the timer is cancelled. -/
theorem hooks_follow_engines (operations : List Operation) :
    let net := Network.empty.operateAll operations
    (net.segment.ports.map Port.id).Nodup ∧
    (∀ id, net.segment.isAttached id = true → ∀ more i,
      let later := (net.detach id).operateAll more
      later.segment.isAttached id = false ∧ (later.segment.attach i).1 ≠ id) ∧
    (∀ port ∈ net.segment.ports, port.filter.isSome = true ↔
      ∃ node ∈ net.nodes, node.port = port.id ∧ node.isStarted = true) ∧
    net.segment.hooksInstalled =
      (net.nodes.countP fun node => node.isStarted && net.segment.isAttached node.port) ∧
    ∀ i node engine, net.node? i = some node → node.engine = some engine →
      net.segment.isAttached node.port = false →
      let s : Station Network := ⟨engine, net, node.history⟩
      let host := host i node.port node.callbacks
      ((s.stop host).engine.started = false ∧
        (s.stop host).world.segment.ports = net.segment.ports) ∧
      (engine.started = false → engine.settings.period ≠ 0 →
        ∀ w, host.arm engine.settings.period net = (.ok (), w) →
        (s.start host).1 =
            .error (.hookUnavailable ("port " ++ toString node.port ++ " detached")) ∧
          (s.start host).2.engine.started = false ∧ (s.start host).2.world = host.cancel w ∧
          ∀ node', (host.cancel w).node? i = some node' → node'.clock.due? = none) := by
  intro net
  have hooked : net.Hooked := hooked_empty.operateAll operations
  refine ⟨hooked.distinct, ?_, fun port hport => hooked.filter_iff hport,
    hooked.hooksInstalled_eq, ?_⟩
  · intro id hattached more i later
    have hgone : (net.detach id).Hooked := hooked.shift (.detached id rfl rfl rfl)
    obtain ⟨hissued, hdetached⟩ := (retired_detach hooked hattached).operateAll hgone more
    refine ⟨hdetached, fun hsame => ?_⟩
    have hnew : later.segment.lastId + 1 = id := hsame
    have hold : id ≤ later.segment.lastId := hissued
    omega
  · intro i node engine hnode hengine hdetached s host
    exact ⟨stop_of_detached hooked hnode hengine hdetached,
      fun hidle hperiod w harm => start_of_detached hdetached hidle hperiod harm⟩

/-- A master and a slave join and are started. -/
def opening : List Operation :=
  [.join 4, .join 4,
    .spawn 0 (speaker .master 1 1).settings ⟨true, true, false⟩ .silent (.manual .initial),
    .spawn 1 (speaker .slave 1 1).settings ⟨true, true, false⟩ .silent (.manual .initial),
    .act (.enter 0 .start), .act (.enter 1 .start)]

def parting : List Operation := [.act (.detach 1), .attach 0, .act (.enter 0 .stop)]

/-- The slave keeps its hook, and the master has lost its own for good. -/
theorem hooks_follow_engines_after_detaching :
    let net := Network.empty.operateAll opening
    let later := Network.empty.operateAll (opening ++ parting)
    net.segment.isAttached 1 = true ∧ net.segment.hooksInstalled = 2 ∧
      (net.detach 1).segment.isAttached 1 = false ∧ later.segment.hooksInstalled = 1 ∧
      ∃ node engine w, later.node? 0 = some node ∧ node.engine = some engine ∧
        later.segment.isAttached node.port = false ∧ engine.started = false ∧
        engine.settings.period ≠ 0 ∧
        (host 0 node.port node.callbacks).arm engine.settings.period later = (.ok (), w) ∧
        ((⟨engine, later, node.history⟩ : Station Network).start
          (host 0 node.port node.callbacks)).1 = .error (.hookUnavailable "port 1 detached") ∧
        ((⟨engine, later, node.history⟩ : Station Network).stop
          (host 0 node.port node.callbacks)).world.segment.ports = later.segment.ports := by
  intro net later
  have hattached : net.segment.isAttached 1 = true := by decide +kernel
  obtain ⟨-, hgone, -, hcount, -⟩ := hooks_follow_engines opening
  obtain ⟨-, -, -, hcount', hdetached⟩ := hooks_follow_engines (opening ++ parting)
  have hport : (later.node? 0).map Node.port = some 1 := by decide +kernel
  have hstate : (later.engine? 0).map (fun engine => (engine.settings, engine.started)) =
      some ((speaker .master 1 1).settings, false) := by decide +kernel
  have hclock : (later.node? 0).map Node.clock = some (.manual ⟨0, 2, none⟩) := by decide +kernel
  cases hnode : later.node? 0 with
  | none =>
    rw [hnode] at hport
    cases hport
  | some node =>
  rw [hnode] at hport hclock
  have hone : node.port = 1 := Option.some.inj hport
  rw [engine?, hnode] at hstate
  obtain ⟨engine, hengine, hsettings⟩ := Option.map_eq_some_iff.mp hstate
  have hengine : node.engine = some engine := hengine
  obtain ⟨hsettings, hidle⟩ := Prod.mk.inj hsettings
  have hperiod : engine.settings.period ≠ 0 := by
    rw [hsettings]
    decide +kernel
  have hlost : later.segment.isAttached node.port = false := by
    rw [hone]
    decide +kernel
  have harm : ((host 0 node.port node.callbacks).arm engine.settings.period later).1 = .ok () := by
    change (later.access 0 _ _).1 = _
    rw [access, hnode]
    change (node.clock.arm later.time engine.settings.period).1 = _
    rw [show node.clock = .manual ⟨0, 2, none⟩ from Option.some.inj hclock]
    rfl
  obtain ⟨hstop, hstart⟩ := hdetached 0 node engine hnode hengine hlost
  obtain ⟨hrefused, -⟩ := hstart hidle hperiod _ (Prod.ext harm rfl)
  rw [hone] at hrefused
  refine ⟨hattached, ?_, (hgone 1 hattached [] 0).1, ?_, node, engine, _, rfl, hengine, hlost,
    hidle, hperiod, Prod.ext harm rfl, ?_, hstop.2⟩
  · exact hcount.trans (by decide +kernel)
  · exact hcount'.trans (by decide +kernel)
  · rw [hone]
    exact hrefused

end Network

end AudioLink
