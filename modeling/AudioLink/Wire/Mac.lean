import AudioLink.Wire.Bytes

/-!
# Hardware addresses

An address is six octets. Its text is six pairs of lower-case hexadecimal digits with colons
between them. Reading is more liberal than writing: it takes digits of either case, and a plus
sign in the place of the first digit of a pair.
-/

namespace AudioLink

/-- A hardware address. -/
structure Mac where
  octets : Vector UInt8 6
  deriving DecidableEq

namespace Mac

def broadcast : Mac := ⟨Vector.replicate 6 0xff⟩

/-- Six pairs of digits with colons between them. -/
def chars (mac : Mac) : List Char :=
  [':'].intercalate (mac.octets.toList.map Hex.pair)

def text (mac : Mac) : String := String.ofList mac.chars

/-- Reads exactly six groups between colons, each of them an octet. -/
def ofChars? (cs : List Char) : Option Mac :=
  match (cs.splitOn ':').map Hex.octet? with
  | [some a, some b, some c, some d, some e, some f] => some ⟨#v[a, b, c, d, e, f]⟩
  | _ => none

def ofText? (s : String) : Option Mac := ofChars? s.toList

end Mac

end AudioLink
