import AudioLink.Wire.Layout

/-!
# Devices

The peer of a link: its address and the number of channels in each direction.
-/

namespace AudioLink

/-- The identity of a peer. -/
structure Device where
  mac : Mac
  inChannels : UInt16
  outChannels : UInt16
  deriving DecidableEq

namespace Device

/-- The peer assumed before any discovery. -/
def placeholder : Device :=
  ⟨⟨#v[0x00, 0x40, 0xab, 0xc4, 0x80, 0xf6]⟩, 16, 8⟩

def inbound (device : Device) : Layout := ⟨device.inChannels⟩

def outbound (device : Device) : Layout := ⟨device.outChannels⟩

end Device

end AudioLink
