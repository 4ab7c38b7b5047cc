import AudioLink.Link.Station

/-!
# Calls

The entries of an engine as data, so that a run is a list of them.
-/

namespace AudioLink

/-- One entry into an engine. -/
inductive Call where
  | start
  | stop
  | fire
  | fireTagged (generation : UInt64)
  | inbound (frame : Bytes)
  deriving DecidableEq

/-- What an entry answers. -/
inductive Outcome where
  | done
  | started (result : Except SetupError Unit)
  | frame (disposition : Disposition)

namespace Station

variable {W : Type}

/-- Makes one entry. -/
def perform (host : Host W) (call : Call) (s : Station W) : Outcome × Station W :=
  match call with
  | .start => let r := s.start host; (.started r.1, r.2)
  | .stop => (.done, s.stop host)
  | .fire => (.done, s.fire host)
  | .fireTagged generation => (.done, s.fireTagged host generation)
  | .inbound frame => let r := s.inbound host frame; (.frame r.1, r.2)

end Station

end AudioLink
