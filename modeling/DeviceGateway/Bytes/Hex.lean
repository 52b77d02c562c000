/-!
# Hexadecimal text

Certificate thumbprints and attribute values that are no text are shown in
upper-case hexadecimal, two digits an octet; the signature octet in a framing
error is shown in lower case.

## Main results

* `length_render`: two digits an octet.
-/

namespace DeviceGateway.Bytes.Hex

/-- The two cases a digit above nine may have. -/
inductive Case where
  | lower
  | upper
  deriving DecidableEq, Repr

/-- The digit of a value below sixteen. -/
def digit (case : Case) (n : Nat) : Char :=
  if n < 10 then Char.ofNat ('0'.toNat + n)
  else match case with
    | .lower => Char.ofNat ('a'.toNat + (n - 10))
    | .upper => Char.ofNat ('A'.toNat + (n - 10))

/-- The two digits of an octet, the high one first. -/
def octet (case : Case) (b : UInt8) : List Char :=
  [digit case (b.toNat / 16), digit case (b.toNat % 16)]

/-- The digits of a list of octets. -/
def render (case : Case) (bytes : List UInt8) : List Char :=
  bytes.flatMap (octet case)

/-- `render` as a string. -/
def toText (case : Case) (bytes : List UInt8) : String :=
  String.ofList (render case bytes)

theorem length_render (case : Case) (bytes : List UInt8) :
    (render case bytes).length = 2 * bytes.length := by
  induction bytes with
  | nil => rfl
  | cons b rest ih =>
    have hcons : render case (b :: rest) = octet case b ++ render case rest :=
      rfl
    rw [hcons, List.length_append, ih]
    simp only [octet, List.length_cons, List.length_nil]
    omega

end DeviceGateway.Bytes.Hex
