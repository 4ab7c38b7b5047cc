import AudioLink.Wire.Bytes

/-!
# Block queues

A bounded queue of sample blocks between the audio pipeline and the link. A push into a full queue
either fails or evicts the oldest block; both count as an overflow. A pop from an empty queue
counts as an underrun.
-/

namespace AudioLink

/-- A bounded queue of sample blocks, oldest first, with its loss counters. -/
structure BlockQueue where
  capacity : Nat
  blocks : List Bytes
  overflows : Nat
  underruns : Nat

namespace BlockQueue

def defaultCapacity : Nat := 256

/-- An empty queue; there is none without room. -/
def ofCapacity? (capacity : Nat) : Option BlockQueue :=
  if capacity = 0 then none else some ⟨capacity, [], 0, 0⟩

def size (queue : BlockQueue) : Nat := queue.blocks.length

def isEmpty (queue : BlockQueue) : Bool := queue.blocks.isEmpty

/-- Adds a block if there is room, and says whether there was. -/
def push (block : Bytes) (queue : BlockQueue) : Bool × BlockQueue :=
  if queue.size < queue.capacity then
    (true, { queue with blocks := queue.blocks ++ [block] })
  else (false, { queue with overflows := queue.overflows + 1 })

/-- Adds a block, and drops the oldest one if there is no room. -/
def forcePush (block : Bytes) (queue : BlockQueue) : BlockQueue :=
  if queue.size < queue.capacity then { queue with blocks := queue.blocks ++ [block] }
  else
    { queue with
      blocks := queue.blocks.drop 1 ++ [block]
      overflows := queue.overflows + 1 }

/-- Takes the oldest block. -/
def pop (queue : BlockQueue) : Option Bytes × BlockQueue :=
  match queue.blocks with
  | [] => (none, { queue with underruns := queue.underruns + 1 })
  | block :: rest => (some block, { queue with blocks := rest })

/-- How full the queue is, between 0 and 1. -/
def fillLevel (queue : BlockQueue) : Float32 :=
  Float32.ofNat queue.size / Float32.ofNat queue.capacity

end BlockQueue

end AudioLink
