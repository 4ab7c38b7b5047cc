import AudioLink.Link.Station
import AudioLink.Network.Queue

/-!
# Work loops

A work loop owns an engine and makes all its entries, one command of its queue after the other, so
that timers, frame hooks and callers never touch the engine themselves. A shutdown command closes
the queue, whose remaining commands are never carried out, and ends the engine after stopping it.
-/

namespace AudioLink

/-- A queue and the engine that works through it, if it has one. -/
structure WorkLoop (W : Type) where
  queue : Queue
  engine : Option Engine
  world : W
  history : List Event
  /-- The answers given so far by ticket, the latest first. -/
  replies : List (Nat × Reply)

namespace Station

variable {W : Type}

/-- What a status command reports, given the refusals of the queue. -/
def status (dropped : Nat) (s : Station W) : LoopStatus :=
  ⟨s.engine.started, s.engine.connected, s.engine.stats, dropped⟩

/-- Carries out a command, given the refusals of the queue. Shutting down stops the engine. -/
def execute (host : Host W) (dropped : Nat) (command : Command) (s : Station W) :
    List (Nat × Reply) × Station W :=
  match command with
  | .fire generation => ([], s.fireTagged host generation)
  | .frame frame => ([], (s.inbound host frame).2)
  | .start ticket =>
    let r := s.start host
    ([(ticket, .started r.1)], r.2)
  | .stop ticket => ([(ticket, .stopped)], s.stop host)
  | .status ticket => ([(ticket, .status (s.status dropped))], s)
  | .shutdown => ([], s.stop host)

end Station

namespace WorkLoop

variable {W : Type}

def spawn (engine : Engine) (l : WorkLoop W) : WorkLoop W :=
  { l with queue := l.queue.attend, engine := some engine }

def post (command : Command) (l : WorkLoop W) : Bool × WorkLoop W :=
  let r := l.queue.post command
  (r.1, { l with queue := r.2 })

def send (command : Command) (l : WorkLoop W) : Option Bool × WorkLoop W :=
  let r := l.queue.send command
  (r.1, { l with queue := r.2 })

/-- Takes one command and carries it out; without an engine or a command nothing happens. -/
def step (host : Host W) (l : WorkLoop W) : WorkLoop W :=
  match l.engine, l.queue.take? with
  | some engine, some (command, queue) =>
    let r := (⟨engine, l.world, l.history⟩ : Station W).execute host queue.dropped command
    match command with
    | .shutdown => ⟨queue.close, none, r.2.world, r.2.history, l.replies⟩
    | _ => ⟨queue, some r.2.engine, r.2.world, r.2.history, r.1 ++ l.replies⟩
  | _, _ => l

end WorkLoop

end AudioLink
