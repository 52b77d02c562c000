/-!
# UTF-16, the high octet first

One kind of text in a certificate is written in units of sixteen bits.  A unit
in `D800..DBFF` needs one in `DC00..DFFF` after it, and the two make one
character; such a unit anywhere else makes the text invalid.  An octet left over
at the end is a unit of its own.
-/

namespace DeviceGateway.Bytes.Utf16

/-- Two octets a unit, the high one first. -/
def units : List UInt8 → List Nat
  | hi :: lo :: rest => (hi.toNat * 256 + lo.toNat) :: units rest
  | [last] => [last.toNat]
  | [] => []

/-- The first half of a pair. -/
def isHigh (n : Nat) : Bool :=
  decide (0xD800 ≤ n ∧ n < 0xDC00)

/-- The second half of a pair. -/
def isLow (n : Nat) : Bool :=
  decide (0xDC00 ≤ n ∧ n < 0xE000)

/-- The characters of a list of units. -/
def decodeUnits : List Nat → Option (List Char)
  | [] => some []
  | [n] => if isHigh n || isLow n then none else some [Char.ofNat n]
  | n :: m :: rest =>
    if isHigh n && isLow m then
      (decodeUnits rest).map
        (Char.ofNat (0x10000 + (n - 0xD800) * 0x400 + (m - 0xDC00)) :: ·)
    else if isHigh n || isLow n then none
    else (decodeUnits (m :: rest)).map (Char.ofNat n :: ·)

/-- The characters of a list of octets. -/
def decode (bytes : List UInt8) : Option (List Char) :=
  decodeUnits (units bytes)

end DeviceGateway.Bytes.Utf16
