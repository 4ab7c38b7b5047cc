/-!
# Link roles

A link has one master, which drives the packet cadence, and slaves, which answer every packet of
the master.
-/

namespace AudioLink

/-- The part an endpoint plays on a link. -/
inductive Role where
  | master
  | slave
  deriving DecidableEq

namespace Role

def name : Role → String
  | master => "master"
  | slave => "slave"

/-- Only the two names themselves are read. -/
def ofName? (text : String) : Option Role :=
  if text = "master" then some master
  else if text = "slave" then some slave
  else none

@[simp] theorem ofName?_name (role : Role) : ofName? role.name = some role := by
  cases role <;> rfl

end Role

end AudioLink
