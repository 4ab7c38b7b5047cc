import AudioLink.Link.Host
import AudioLink.Link.ManualTimer
import AudioLink.Link.Pipeline

/-!
# Scripted hosts

A host without a network: the clock is set by hand, every part can be told to fail, and hooks get
the handles 1, 2, 3 and so on.
-/

namespace AudioLink

/-- The state of a scripted host. -/
structure ScriptedHost where
  timer : ManualTimer
  handles : Nat
  hookFault : Option SetupError
  transmitFault : Option TransmitError
  pipeline : Pipeline

namespace ScriptedHost

def ofPipeline (pipeline : Pipeline) (now : Nanos) : ScriptedHost :=
  ⟨{ ManualTimer.initial with now }, 0, none, none, pipeline⟩

def install (host : ScriptedHost) : Except SetupError Handle × ScriptedHost :=
  match host.hookFault with
  | some cause => (.error cause, host)
  | none => (.ok (host.handles + 1), { host with handles := host.handles + 1 })

/-- The operations of a scripted host with the given callbacks. Without generations every firing
counts as one of the present arming. -/
def operations (callbacks : Callbacks) (generations : Bool) : Host ScriptedHost where
  arm _ host :=
    let armed := host.timer.arm
    (armed.1, { host with timer := armed.2 })
  rearm _ host := host
  cancel host := { host with timer := host.timer.cancel }
  now host := host.timer.now
  generation host := if generations then host.timer.generation else 0
  install _ host := host.install
  uninstall _ host := host
  transmit _ host :=
    (match host.transmitFault with
      | some cause => .error cause
      | none => .ok (),
      host)
  process header host :=
    let processed := host.pipeline.process header
    (processed.1, { host with pipeline := processed.2 })
  received header host := { host with pipeline := host.pipeline.receive header }
  connection :=
    if callbacks.connection then
      some fun peer host => { host with pipeline := host.pipeline.announce peer }
    else none
  deliver :=
    if callbacks.received then
      some fun block host => { host with pipeline := host.pipeline.deliver block }
    else none
  demand :=
    if callbacks.needed then
      some fun host =>
        let asked := host.pipeline.ask
        (asked.1, { host with pipeline := asked.2 })
    else none

end ScriptedHost

end AudioLink
