import AudioLink.Network.Basic

/-!
# Loop handles

A caller outside the loops sends a command to a node as soon as there is room for it, and waits for
the answer. The command carries the only end through which the answer can come. So the caller waits
as long as the command is there, and a command that goes without an answer tells the caller that the
loop is closed. A call that is never answered nor refused does not return.
-/

namespace AudioLink

/-- What is left of the commands in a queue when its reader has gone. -/
abbrev Remainder := List Command → List Command

namespace Remainder

/-- The queue drops everything along with its reading end. -/
def nothing : Remainder := fun _ => []

/-- No command outlives the reader of its queue. -/
def Dropped (remainder : Remainder) : Prop := ∀ commands, remainder commands = []

end Remainder

/-- The commands of a queue that still exist. -/
def Queue.held (remainder : Remainder) (queue : Queue) : List Command :=
  if queue.isOpen then queue.pending else remainder queue.pending

/-- What a caller finds at the place where the answer is to come. -/
inductive Receipt where
  | answered (reply : Reply)
  /-- There is no answer, but the command for it is still there. -/
  | waiting
  /-- There is no answer, and nobody is left who could give one. -/
  | disconnected

def WorkLoop.receipt {W : Type} (remainder : Remainder) (ticket : Nat) (l : WorkLoop W) : Receipt :=
  match l.replies.lookup ticket with
  | some reply => .answered reply
  | none =>
    if ticket ∈ (l.queue.held remainder).filterMap Command.ticket? then .waiting
    else .disconnected

namespace Reply

def startResult? : Reply → Option (Except Error Unit)
  | started result => some (result.mapError .setup)
  | _ => none

def stopResult? : Reply → Option (Except Error Unit)
  | stopped => some (.ok ())
  | _ => none

def statusResult? : Reply → Option (Except Error LoopStatus)
  | status report => some (.ok report)
  | _ => none

end Reply

/-- What a call returns at this point, if it does not go on waiting. -/
def Receipt.result? {α : Type} (read : Reply → Option (Except Error α)) :
    Receipt → Option (Except Error α)
  | answered reply => read reply
  | waiting => none
  | disconnected => some (.error .loopClosed)

instance {α : Type} : Nonempty (Except Error α) := ⟨.error .loopClosed⟩

instance : Nonempty Network := ⟨.empty⟩

namespace Network

/-- The answer that node `i` has given under a ticket. -/
def reply? (i ticket : Nat) (net : Network) : Option Reply :=
  (net.node? i).bind fun node => node.replies.lookup ticket

def receipt (remainder : Remainder) (i ticket : Nat) (net : Network) : Receipt :=
  match net.node? i with
  | some node => (net.loopOf node).receipt remainder ticket
  | none => .disconnected

/-- Lets the loop of node `i` work until there is a result. -/
def workUntil {α : Type} [Nonempty α] (i : Nat) (result? : Network → Option α) (net : Network) :
    α × Network :=
  Id.run (repeatM (m := Id)
    (fun net =>
      match result? net with
      | some result => .inr (result, net)
      | none => .inl (net.step i))
    net)

/-- Sends a command to node `i` as soon as there is room for it; says whether it was accepted. -/
def submit (i : Nat) (command : Command) (net : Network) : Bool × Network :=
  let r := net.workUntil i fun net => (net.send i command).1
  (r.1, (r.2.send i command).2)

/-- Waits until the caller with the ticket has a result from node `i`. -/
def await {α : Type} (remainder : Remainder) (read : Reply → Option (Except Error α))
    (i ticket : Nat) (net : Network) : Except Error α × Network :=
  net.workUntil i fun net => (net.receipt remainder i ticket).result? read

/-- Waits until the loop of node `i` has ended. -/
def finish (i : Nat) (net : Network) : Network :=
  (net.workUntil i fun net =>
    if ((net.node? i).bind Node.engine).isSome then none else some ()).2

def call {α : Type} (remainder : Remainder) (read : Reply → Option (Except Error α))
    (command : Command) (i ticket : Nat) (net : Network) : Except Error α × Network :=
  let sent := net.submit i command
  if sent.1 then sent.2.await remainder read i ticket else (.error .loopClosed, sent.2)

/-- Starts the engine of a node, after all loops have carried out at most `fuel` commands. -/
def start (fuel i ticket : Nat) (net : Network) (remainder : Remainder := .nothing) :
    Except Error Unit × Network :=
  (net.settle fuel).call remainder Reply.startResult? (.start ticket) i ticket

def stop (fuel i ticket : Nat) (net : Network) (remainder : Remainder := .nothing) :
    Except Error Unit × Network :=
  (net.settle fuel).call remainder Reply.stopResult? (.stop ticket) i ticket

def status (fuel i ticket : Nat) (net : Network) (remainder : Remainder := .nothing) :
    Except Error LoopStatus × Network :=
  (net.settle fuel).call remainder Reply.statusResult? (.status ticket) i ticket

/-- Ends the loop of a node and waits until it has ended. -/
def shutdown (fuel i : Nat) (net : Network) : Network :=
  ((net.settle fuel).submit i .shutdown).2.finish i

end Network

end AudioLink
