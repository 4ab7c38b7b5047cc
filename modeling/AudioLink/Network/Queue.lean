import AudioLink.Link.Engine

/-!
# Dispatch queues

A dispatch queue holds the commands for one engine, oldest first, up to its capacity. A queue of
capacity zero holds nothing: it passes a command on only while its reader waits for one. A post
into a full queue is refused and counted; a post into a closed queue is refused without being
counted. A sender can also wait for room instead.
-/

namespace AudioLink

/-- A work item for an engine. Each command that is answered carries the ticket of its answer. -/
inductive Command where
  | fire (generation : UInt64)
  | frame (frame : Bytes)
  | start (ticket : Nat)
  | stop (ticket : Nat)
  | status (ticket : Nat)
  | shutdown
  deriving DecidableEq

/-- The ticket of the answer, for a command that is answered. -/
def Command.ticket? : Command → Option Nat
  | start ticket | stop ticket | status ticket => some ticket
  | fire _ | frame _ | shutdown => none

/-- What a status command reports. -/
structure LoopStatus where
  started : Bool
  connected : Bool
  stats : Stats
  dropped : Nat
  deriving DecidableEq

/-- The answer to a command. -/
inductive Reply where
  | started (result : Except SetupError Unit)
  | stopped
  | status (status : LoopStatus)

/-- A bounded queue of commands. -/
structure Queue where
  capacity : Nat
  /-- What has been accepted and not yet taken, oldest first. -/
  waiting : List Command
  /-- A command passed directly to a waiting reader. -/
  handed : Option Command
  attended : Bool
  isOpen : Bool
  dropped : Nat
  deriving DecidableEq

namespace Queue

def defaultCapacity : Nat := 1024

def ofCapacity (capacity : Nat) : Queue := ⟨capacity, [], none, false, true, 0⟩

/-- Everything that the reader will take, in that order. -/
def pending (queue : Queue) : List Command := queue.handed.toList ++ queue.waiting

def hasSpace (queue : Queue) : Bool := queue.waiting.length < queue.capacity

/-- Whether the reader of a queue without buffer waits for a command. -/
def readerWaits (queue : Queue) : Bool :=
  queue.capacity == 0 && queue.attended && queue.handed.isNone

/-- Takes in a command, if that is possible without waiting. -/
def accept? (command : Command) (queue : Queue) : Option Queue :=
  if queue.hasSpace then some { queue with waiting := queue.waiting ++ [command] }
  else if queue.readerWaits then some { queue with handed := some command }
  else none

/-- Posts without waiting, and says whether the command was accepted. -/
def post (command : Command) (queue : Queue) : Bool × Queue :=
  if queue.isOpen then
    match queue.accept? command with
    | some queue => (true, queue)
    | none => (false, { queue with dropped := queue.dropped + 1 })
  else (false, queue)

/-- Posts as soon as there is room. The answer says whether the command was accepted; there is
none yet while the sender has to wait. -/
def send (command : Command) (queue : Queue) : Option Bool × Queue :=
  if queue.isOpen then
    match queue.accept? command with
    | some queue => (some true, queue)
    | none => (none, queue)
  else (some false, queue)

/-- Takes the oldest command. -/
def take? (queue : Queue) : Option (Command × Queue) :=
  match queue.handed with
  | some command => some (command, { queue with handed := none })
  | none =>
    match queue.waiting with
    | [] => none
    | command :: rest => some (command, { queue with waiting := rest })

/-- Has a reader take commands from now on. -/
def attend (queue : Queue) : Queue := { queue with attended := true }

/-- Closes the queue. What it holds is left where nobody takes it any more. -/
def close (queue : Queue) : Queue := { queue with attended := false, isOpen := false }

end Queue

end AudioLink
