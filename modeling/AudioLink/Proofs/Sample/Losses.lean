import AudioLink.Sample.BlockQueue

/-!
# What becomes of the blocks of a queue

Every block that a queue has taken in is popped, evicted or still there, and blocks leave in the
order in which they came. The two counters of the queue tell what was lost on either side: blocks
that were refused or evicted, and pops that found nothing.
-/

namespace AudioLink

namespace BlockQueue

/-- One request to a queue. -/
inductive Request where
  | push (block : Bytes)
  | forcePush (block : Bytes)
  | pop

/-- What comes of a request. -/
inductive Response where
  | accepted (block : Bytes)
  | rejected (block : Bytes)
  | forced (block : Bytes) (evicted : Option Bytes)
  | popped (block : Bytes)
  | missed

namespace Response

def entered? : Response → Option Bytes
  | accepted block | forced block _ => some block
  | _ => none

def left? : Response → Option Bytes
  | popped block | forced _ (some block) => some block
  | _ => none

def popped? : Response → Option Bytes
  | popped block => some block
  | _ => none

def evicted? : Response → Option Bytes
  | forced _ evicted => evicted
  | _ => none

def isAccepted : Response → Bool
  | accepted _ => true
  | _ => false

def isRejected : Response → Bool
  | rejected _ => true
  | _ => false

def isForced : Response → Bool
  | forced _ _ => true
  | _ => false

def isMissed : Response → Bool
  | missed => true
  | _ => false

private theorem length_entered (answers : List Response) :
    (answers.filterMap entered?).length = answers.countP isAccepted + answers.countP isForced := by
  induction answers with
  | nil => rfl
  | cons answer answers ih =>
    rw [List.filterMap_cons, List.countP_cons, List.countP_cons]
    cases answer <;> simp [entered?, isAccepted, isForced, ih] <;> omega

private theorem perm_left (answers : List Response) :
    (answers.filterMap popped? ++ answers.filterMap evicted?).Perm (answers.filterMap left?) := by
  induction answers with
  | nil => exact .refl _
  | cons answer answers ih =>
    simp only [List.filterMap_cons]
    cases answer with
    | popped block => exact ih.cons block
    | forced block evicted =>
      cases evicted with
      | none => exact ih
      | some evicted => exact List.perm_middle.trans (ih.cons evicted)
    | _ => exact ih

private theorem popped_sublist_left (answers : List Response) :
    (answers.filterMap popped?).Sublist (answers.filterMap left?) := by
  induction answers with
  | nil => exact .slnil
  | cons answer answers ih =>
    simp only [List.filterMap_cons]
    cases answer with
    | popped block => exact ih.cons_cons block
    | forced block evicted =>
      cases evicted with
      | none => exact ih
      | some evicted => exact ih.cons evicted
    | _ => exact ih

end Response

open Response

/-- Meets one request. A forced push evicts if there is no room. -/
def serve (queue : BlockQueue) : Request → Response × BlockQueue
  | .push block =>
    let pushed := queue.push block
    (if pushed.1 then .accepted block else .rejected block, pushed.2)
  | .forcePush block =>
    (.forced block (if queue.size < queue.capacity then none else queue.blocks.head?),
      queue.forcePush block)
  | .pop =>
    let popped := queue.pop
    (match popped.1 with
      | some block => .popped block
      | none => .missed,
      popped.2)

/-- Meets requests one after the other. -/
def run (queue : BlockQueue) : List Request → List Response × BlockQueue
  | [] => ([], queue)
  | request :: requests =>
    let served := queue.serve request
    let rest := served.2.run requests
    (served.1 :: rest.1, rest.2)

/-- A queue has room for some blocks and holds no more than that. -/
structure Bounded (queue : BlockQueue) : Prop where
  room : 0 < queue.capacity
  size_le : queue.size ≤ queue.capacity

/-- The answers account for the difference between two states of a queue. -/
structure Accounts (queue : BlockQueue) (answers : List Response) (queue' : BlockQueue) : Prop where
  capacity : queue'.capacity = queue.capacity
  /-- The blocks that were there and have come since are those that have gone and are still there,
  in the same order. -/
  blocks : answers.filterMap left? ++ queue'.blocks = queue.blocks ++ answers.filterMap entered?
  overflows : queue'.overflows =
    queue.overflows + answers.countP isRejected + (answers.filterMap evicted?).length
  underruns : queue'.underruns = queue.underruns + answers.countP isMissed

variable {queue queue' queue'' : BlockQueue}

theorem Accounts.nil (queue : BlockQueue) : Accounts queue [] queue :=
  ⟨rfl, (List.append_nil _).symm, rfl, rfl⟩

theorem Accounts.trans {first second : List Response} (h : Accounts queue first queue')
    (h' : Accounts queue' second queue'') : Accounts queue (first ++ second) queue'' where
  capacity := h'.capacity.trans h.capacity
  blocks := by
    rw [List.filterMap_append, List.filterMap_append, List.append_assoc, h'.blocks,
      ← List.append_assoc, h.blocks, List.append_assoc]
  overflows := by
    rw [h'.overflows, h.overflows, List.countP_append, List.filterMap_append, List.length_append]
    omega
  underruns := by
    rw [h'.underruns, h.underruns, List.countP_append, Nat.add_assoc]

private theorem push_of_room (block : Bytes) (h : queue.size < queue.capacity) :
    queue.push block = (true, { queue with blocks := queue.blocks ++ [block] }) := if_pos h

private theorem push_of_full (block : Bytes) (h : ¬queue.size < queue.capacity) :
    queue.push block = (false, { queue with overflows := queue.overflows + 1 }) := if_neg h

private theorem forcePush_of_room (block : Bytes) (h : queue.size < queue.capacity) :
    queue.forcePush block = { queue with blocks := queue.blocks ++ [block] } := if_pos h

private theorem forcePush_of_full (block : Bytes) (h : ¬queue.size < queue.capacity) :
    queue.forcePush block =
      { queue with
        blocks := queue.blocks.drop 1 ++ [block]
        overflows := queue.overflows + 1 } := if_neg h

private theorem pop_of_empty (h : queue.blocks = []) :
    queue.pop = (none, { queue with underruns := queue.underruns + 1 }) := by
  unfold pop
  split
  · rfl
  · simp_all

private theorem pop_of_cons {oldest : Bytes} {rest : List Bytes}
    (h : queue.blocks = oldest :: rest) :
    queue.pop = (some oldest, { queue with blocks := rest }) := by
  unfold pop
  split <;> simp_all

/-- What becomes of a request: its answer, and the queue that it leaves behind. -/
inductive Served (queue : BlockQueue) : Request → Response → BlockQueue → Prop where
  | accepted (block : Bytes) (h : queue.size < queue.capacity) :
      Served queue (.push block) (.accepted block) { queue with blocks := queue.blocks ++ [block] }
  | rejected (block : Bytes) (h : queue.size = queue.capacity) :
      Served queue (.push block) (.rejected block) { queue with overflows := queue.overflows + 1 }
  | forced (block : Bytes) (h : queue.size < queue.capacity) :
      Served queue (.forcePush block) (.forced block none)
        { queue with blocks := queue.blocks ++ [block] }
  | evicting (block : Bytes) {oldest : Bytes} {rest : List Bytes}
      (h : queue.size = queue.capacity) (hblocks : queue.blocks = oldest :: rest) :
      Served queue (.forcePush block) (.forced block (some oldest))
        { queue with blocks := rest ++ [block], overflows := queue.overflows + 1 }
  | popped {oldest : Bytes} {rest : List Bytes} (hblocks : queue.blocks = oldest :: rest) :
      Served queue .pop (.popped oldest) { queue with blocks := rest }
  | missed (hblocks : queue.blocks = []) :
      Served queue .pop .missed { queue with underruns := queue.underruns + 1 }

theorem Bounded.served (h : queue.Bounded) (request : Request) :
    Served queue request (queue.serve request).1 (queue.serve request).2 := by
  have hroom := h.room
  have hsize := h.size_le
  cases request with
  | push block =>
    by_cases hless : queue.size < queue.capacity
    · rw [serve, push_of_room block hless]
      exact .accepted block hless
    · rw [serve, push_of_full block hless]
      exact .rejected block (by omega)
  | forcePush block =>
    by_cases hless : queue.size < queue.capacity
    · rw [serve, forcePush_of_room block hless, if_pos hless]
      exact .forced block hless
    · have hfull : queue.size = queue.capacity := by omega
      obtain ⟨oldest, rest, hblocks⟩ : ∃ oldest rest, queue.blocks = oldest :: rest := by
        apply List.exists_cons_of_length_pos
        rwa [← size, hfull]
      rw [serve, forcePush_of_full block hless, if_neg hless, hblocks]
      exact .evicting block hfull hblocks
  | pop =>
    cases hblocks : queue.blocks with
    | nil =>
      rw [serve, pop_of_empty hblocks]
      exact .missed hblocks
    | cons oldest rest =>
      rw [serve, pop_of_cons hblocks]
      exact .popped hblocks

private theorem Served.accounts {request : Request} {answer : Response}
    (h : Served queue request answer queue') : Accounts queue [answer] queue' := by
  cases h with
  | accepted block _ => exact ⟨rfl, rfl, rfl, rfl⟩
  | rejected block _ => exact ⟨rfl, (List.append_nil _).symm, rfl, rfl⟩
  | forced block _ => exact ⟨rfl, rfl, rfl, rfl⟩
  | evicting block _ hblocks => exact ⟨rfl, by rw [hblocks]; rfl, rfl, rfl⟩
  | popped hblocks => exact ⟨rfl, by rw [hblocks]; exact (List.append_nil _).symm, rfl, rfl⟩
  | missed hblocks => exact ⟨rfl, (List.append_nil _).symm, rfl, rfl⟩

theorem Served.bounded {request : Request} {answer : Response}
    (h : Served queue request answer queue') (hbounded : queue.Bounded) : queue'.Bounded := by
  have hsize := hbounded.size_le
  cases h with
  | accepted block h =>
    refine ⟨hbounded.room, ?_⟩
    simpa [size] using Nat.succ_le_of_lt h
  | rejected block _ => exact ⟨hbounded.room, hsize⟩
  | forced block h =>
    refine ⟨hbounded.room, ?_⟩
    simpa [size] using Nat.succ_le_of_lt h
  | evicting block _ hblocks =>
    refine ⟨hbounded.room, ?_⟩
    simpa [size, hblocks] using hsize
  | popped hblocks =>
    refine ⟨hbounded.room, ?_⟩
    simp only [size, hblocks, List.length_cons] at hsize
    exact Nat.le_of_succ_le hsize
  | missed _ => exact ⟨hbounded.room, hsize⟩

theorem Bounded.serve (h : queue.Bounded) (request : Request) :
    (queue.serve request).2.Bounded := (h.served request).bounded h

private theorem Bounded.push_eq_false_iff (h : queue.Bounded) (block : Bytes) :
    (queue.push block).1 = false ↔ queue.size = queue.capacity := by
  have := h.size_le
  by_cases hless : queue.size < queue.capacity
  · rw [push_of_room block hless]
    simp only [Bool.true_eq_false, false_iff]
    omega
  · rw [push_of_full block hless]
    simp only [true_iff]
    omega

private theorem blocks_of_refused (block : Bytes) (h : (queue.push block).1 = false) :
    (queue.push block).2.blocks = queue.blocks := by
  by_cases hless : queue.size < queue.capacity
  · rw [push_of_room block hless] at h
    cases h
  · rw [push_of_full block hless]

private theorem Bounded.blocks_forcePush (h : queue.Bounded) (block : Bytes) :
    (queue.forcePush block).blocks =
      (queue.blocks ++ [block]).drop (queue.size + 1 - queue.capacity) := by
  have hserved := h.served (.forcePush block)
  change (queue.serve (.forcePush block)).2.blocks = _
  generalize queue.serve (.forcePush block) = served at hserved
  obtain ⟨answer, queue'⟩ := served
  cases hserved with
  | forced _ hless => rw [Nat.sub_eq_zero_of_le hless, List.drop_zero]
  | evicting _ hfull hblocks =>
    have hone : queue.size + 1 - queue.capacity = 1 := by omega
    rw [hone, hblocks]
    rfl

theorem Bounded.run (h : queue.Bounded) (requests : List Request) :
    (queue.run requests).2.Bounded := by
  induction requests generalizing queue with
  | nil => exact h
  | cons request requests ih => exact ih (h.serve request)

/-- The answers of a run account for what it makes of a queue. -/
theorem Bounded.accounts_run (h : queue.Bounded) (requests : List Request) :
    Accounts queue (queue.run requests).1 (queue.run requests).2 := by
  induction requests generalizing queue with
  | nil => exact .nil queue
  | cons request requests ih => exact (h.served request).accounts.trans (ih (h.serve request))

private theorem Bounded.blocks_forced (h : queue.Bounded) (blocks : List Bytes) :
    (queue.run (blocks.map .forcePush)).2.blocks =
      (queue.blocks ++ blocks).drop (queue.size + blocks.length - queue.capacity) := by
  induction blocks generalizing queue with
  | nil =>
    have := h.size_le
    rw [List.append_nil, List.length_nil, Nat.sub_eq_zero_of_le (by omega)]
    rfl
  | cons block blocks ih =>
    have hforced : (queue.forcePush block).Bounded := h.serve (.forcePush block)
    have hcapacity : (queue.forcePush block).capacity = queue.capacity :=
      (h.served (.forcePush block)).accounts.capacity
    have hblocks := h.blocks_forcePush block
    have hsize : (queue.forcePush block).size =
        queue.size + 1 - (queue.size + 1 - queue.capacity) := by
      rw [size, hblocks, List.length_drop, List.length_append, List.length_singleton, size]
    have hkept : queue.size + 1 - queue.capacity ≤ (queue.blocks ++ [block]).length := by
      rw [List.length_append, List.length_singleton, ← size]
      exact Nat.sub_le _ _
    have hrun : (queue.run ((block :: blocks).map .forcePush)).2 =
        ((queue.forcePush block).run (blocks.map .forcePush)).2 := rfl
    rw [hrun, ih hforced, hcapacity, hsize, hblocks, ← List.drop_append_of_le_length hkept,
      List.drop_drop, List.append_assoc, List.singleton_append, List.length_cons]
    have := h.size_le
    have := h.room
    congr 1
    omega

private theorem bounded_empty {capacity : Nat} (h : 0 < capacity) : Bounded ⟨capacity, [], 0, 0⟩ :=
  ⟨h, Nat.zero_le capacity⟩

/-- A queue with room for some blocks never holds more of them, and refuses a block just if it is
full, which leaves the blocks as they are. The blocks that have gone, popped or evicted, and those
that are there are all that have come into it, each one once and in the same order, so that popped
blocks and those that are there have kept their order and only the oldest block is ever evicted. One
counter tells how many blocks were refused or evicted, the other one how many pops found nothing.
After some forced pushes in a row the queue ends with their blocks, as many of the last ones as
there is room for. -/
theorem blocks_accounted_for (capacity : Nat) (hcapacity : 0 < capacity)
    (requests : List Request) :
    ∃ empty, ofCapacity? capacity = some empty ∧
      let answers := (empty.run requests).1
      let queue := (empty.run requests).2
      let entered := answers.filterMap entered?
      let popped := answers.filterMap popped?
      let evicted := answers.filterMap evicted?
      queue.size ≤ capacity ∧
      (∀ block, ((queue.push block).1 = false ↔ queue.size = capacity) ∧
        ((queue.push block).1 = false → (queue.push block).2.blocks = queue.blocks)) ∧
      entered = answers.filterMap left? ++ queue.blocks ∧
      (popped ++ evicted ++ queue.blocks).Perm entered ∧
      (popped ++ queue.blocks).Sublist entered ∧
      answers.countP isAccepted + answers.countP isForced =
        popped.length + evicted.length + queue.size ∧
      queue.overflows = answers.countP isRejected + evicted.length ∧
      queue.underruns = answers.countP isMissed ∧
      ∀ blocks : List Bytes,
        blocks.drop (blocks.length - min blocks.length capacity) <:+
          (queue.run (blocks.map .forcePush)).2.blocks := by
  have hempty := bounded_empty hcapacity
  refine ⟨_, if_neg (Nat.pos_iff_ne_zero.mp hcapacity), ?_⟩
  intro answers queue entered popped evicted
  have hqueue : queue.Bounded := hempty.run requests
  have haccounts : Accounts ⟨capacity, [], 0, 0⟩ answers queue := hempty.accounts_run requests
  have hsame : queue.capacity = capacity := haccounts.capacity
  have horder : entered = answers.filterMap left? ++ queue.blocks := haccounts.blocks.symm
  have hperm : (popped ++ evicted ++ queue.blocks).Perm entered :=
    horder ▸ (perm_left answers).append_right queue.blocks
  refine ⟨hsame ▸ hqueue.size_le, ?_, horder, hperm, ?_, ?_, ?_, ?_, ?_⟩
  · intro block
    exact ⟨hsame ▸ hqueue.push_eq_false_iff block, blocks_of_refused block⟩
  · rw [horder]
    exact (popped_sublist_left answers).append_right queue.blocks
  · rw [← length_entered, ← List.length_append, size, ← List.length_append]
    exact hperm.length_eq.symm
  · simpa using haccounts.overflows
  · simpa using haccounts.underruns
  · intro blocks
    have hlatest : blocks.drop (blocks.length - min blocks.length capacity) =
        (queue.blocks ++ blocks).drop
          (queue.size + (blocks.length - min blocks.length capacity)) := by
      rw [size, List.drop_append, List.drop_eq_nil_of_le (Nat.le_add_right _ _),
        Nat.add_sub_cancel_left, List.nil_append]
    rw [hqueue.blocks_forced blocks, hsame, hlatest]
    apply List.drop_suffix_drop_left
    omega

/-- The third block is refused and the fourth one evicts the first; the third pop finds nothing; in
the end the queue is full again. -/
def mixedRequests : List Request :=
  [.push [1], .push [2], .push [3], .forcePush [4], .pop, .pop, .pop, .push [5], .push [6]]

theorem blocks_accounted_for_mixed :
    0 < 2 ∧ ∃ empty, ofCapacity? 2 = some empty ∧
      let answers := (empty.run mixedRequests).1
      let queue := (empty.run mixedRequests).2
      answers.filterMap left? = [[1], [2], [4]] ∧
      answers.filterMap entered? = answers.filterMap left? ++ queue.blocks ∧
      queue.overflows = 2 ∧ queue.underruns = 1 ∧
      (queue.push [7]).1 = false ∧ (queue.push [7]).2.blocks = queue.blocks ∧
      [[8], [9]] <:+ (queue.run [.forcePush [7], .forcePush [8], .forcePush [9]]).2.blocks := by
  obtain ⟨empty, hempty, -, hpush, horder, -, -, -, hoverflows, hunderruns, hforced⟩ :=
    blocks_accounted_for 2 (by decide) mixedRequests
  cases hempty
  exact ⟨by decide, _, rfl, by decide, horder, hoverflows.trans (by decide),
    hunderruns.trans (by decide), by decide, (hpush [7]).2 (by decide), hforced [[7], [8], [9]]⟩

end BlockQueue

end AudioLink
