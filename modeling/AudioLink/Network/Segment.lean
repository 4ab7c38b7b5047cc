import AudioLink.Error
import AudioLink.Link.Event

/-!
# Segments

A segment is a broadcast medium with numbered ports, each of which leads to one node. A port can
carry one frame filter; frames that the filter accepts are passed to the node of the port. Port
numbers are never used twice.
-/

namespace AudioLink

/-- One attachment to a segment. -/
structure Port where
  id : Nat
  node : Nat
  filter : Option FrameFilter

/-- Whether a frame goes to the node of the port. -/
def Port.accepts (frame : Bytes) (port : Port) : Bool :=
  match port.filter with
  | some filter => filter frame
  | none => false

/-- A broadcast medium, with counters for the frames that passed over it. -/
structure Segment where
  ports : List Port
  lastId : Nat
  transmitted : Nat
  delivered : Nat
  /-- Frames that the node of an accepting port could not take in. -/
  dropped : Nat

namespace Segment

def empty : Segment := ⟨[], 0, 0, 0, 0⟩

/-- Attaches a port to a node and gives its number. -/
def attach (node : Nat) (segment : Segment) : Nat × Segment :=
  let id := segment.lastId + 1
  (id, { segment with ports := segment.ports ++ [⟨id, node, none⟩], lastId := id })

def detach (id : Nat) (segment : Segment) : Segment :=
  { segment with ports := segment.ports.filter fun port => port.id ≠ id }

def isAttached (id : Nat) (segment : Segment) : Bool := segment.ports.any fun port => port.id = id

def port? (id : Nat) (segment : Segment) : Option Port :=
  segment.ports.find? fun port => port.id = id

def setFilter (id : Nat) (filter : Option FrameFilter) (segment : Segment) : Segment :=
  { segment with
    ports := segment.ports.map fun port => if port.id = id then { port with filter } else port }

/-- Puts a filter on a port; the handle is the number of the port. -/
def install (id : Nat) (filter : FrameFilter) (segment : Segment) :
    Except SetupError Handle × Segment :=
  match segment.port? id with
  | none => (.error (.hookUnavailable ("port " ++ toString id ++ " detached")), segment)
  | some port =>
    if port.filter.isSome then (.error .hookAlreadyInstalled, segment)
    else (.ok id, segment.setFilter id (some filter))

def uninstall (handle : Handle) (segment : Segment) : Segment := segment.setFilter handle none

def hooksInstalled (segment : Segment) : Nat :=
  (segment.ports.filter fun port => port.filter.isSome).length

/-- The ports, other than the sender's, that accept a frame. -/
def listeners (sender : Nat) (frame : Bytes) (segment : Segment) : List Port :=
  segment.ports.filter fun port => port.id ≠ sender && port.accepts frame

/-- Counts one frame that so many nodes took in and so many did not. -/
def count (delivered dropped : Nat) (segment : Segment) : Segment :=
  { segment with
    transmitted := segment.transmitted + 1
    delivered := segment.delivered + delivered
    dropped := segment.dropped + dropped }

end Segment

end AudioLink
