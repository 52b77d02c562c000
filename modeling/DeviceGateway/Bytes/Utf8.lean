/-!
# UTF-8 with the position of the first fault

Device ids, credentials and text lines must be UTF-8.  A text that is not is
refused, and the refusal names the place: the length of the longest valid
prefix, and how many octets of the broken sequence could still have started a
valid one.  A text that merely stops inside a sequence is told apart from one
that can no longer be completed.

The second octet of a sequence decides more than the others.  After `E0`, `ED`,
`F0` and `F4` its range is narrower than that of a continuation octet, which is
what keeps out over-long forms, surrogates and values above U+10FFFF.  `Lead`
records, for a first octet, how many octets follow and that range, so the
reader has a single rule.

## Main results

* `encode_append`: writing is a homomorphism, so lines and fields may be
  encoded piece by piece.
-/

namespace DeviceGateway.Bytes.Utf8

/-- Where and how a text fails to be UTF-8. -/
inductive Fault where
  /-- `length` octets at `index` start no sequence. -/
  | broken (length index : Nat)
  /-- The text ends inside the sequence that starts at `index`. -/
  | cut (index : Nat)
  deriving DecidableEq, Repr

/-- The wording of a fault. -/
def Fault.message : Fault → String
  | .broken length index =>
    s!"invalid utf-8 sequence of {length} bytes from index {index}"
  | .cut index => s!"incomplete utf-8 byte sequence from index {index}"

/-- What a first octet promises: how many octets follow it, the range of the
first of them, and the bits it contributes itself. -/
structure Lead where
  following : Nat
  low : UInt8
  high : UInt8
  bits : Nat
  deriving DecidableEq, Repr

/-- The first octets of sequences of two, three and four octets. -/
def lead? (b : UInt8) : Option Lead :=
  let n := b.toNat
  if n < 0xC2 then none
  else if n < 0xE0 then some ⟨1, 0x80, 0xBF, n - 0xC0⟩
  else if n == 0xE0 then some ⟨2, 0xA0, 0xBF, 0⟩
  else if n == 0xED then some ⟨2, 0x80, 0x9F, 0xD⟩
  else if n < 0xF0 then some ⟨2, 0x80, 0xBF, n - 0xE0⟩
  else if n == 0xF0 then some ⟨3, 0x90, 0xBF, 0⟩
  else if n < 0xF4 then some ⟨3, 0x80, 0xBF, n - 0xF0⟩
  else if n == 0xF4 then some ⟨3, 0x80, 0x8F, 4⟩
  else none

/-- The state between two octets. -/
inductive Scan where
  /-- Between two characters. -/
  | between
  /-- Inside a sequence: `taken` octets of it were read, `left` are to come, the
  next one lies between `low` and `high`, and `value` holds the bits so far. -/
  | inside (taken left : Nat) (low high : UInt8) (value : Nat)
  deriving DecidableEq, Repr

/-- Reads on from a state.  `index` is the start of the current sequence and
`done` holds the characters read so far, the last one first. -/
def decodeFrom (index : Nat) (done : List Char) :
    Scan → List UInt8 → Except Fault (List Char)
  | .between, [] => .ok done.reverse
  | .inside .., [] => .error (.cut index)
  | .between, b :: rest =>
    if b < 0x80 then decodeFrom (index + 1) (Char.ofNat b.toNat :: done)
      .between rest
    else
      match lead? b with
      | none => .error (.broken 1 index)
      | some l =>
        decodeFrom index done (.inside 1 l.following l.low l.high l.bits) rest
  | .inside taken left low high value, b :: rest =>
    if low ≤ b && b ≤ high then
      let value := value * 64 + (b.toNat - 0x80)
      if left ≤ 1 then
        decodeFrom (index + taken + 1) (Char.ofNat value :: done) .between rest
      else
        decodeFrom index done (.inside (taken + 1) (left - 1) 0x80 0xBF value)
          rest
    else .error (.broken taken index)

/-- The characters of a text, or its first fault. -/
def decode (bytes : List UInt8) : Except Fault (List Char) :=
  decodeFrom 0 [] .between bytes

/-- `decode` to a string. -/
def decodeString (bytes : List UInt8) : Except Fault String :=
  (decode bytes).map String.ofList

/-- The octets of a text. -/
def encode (text : List Char) : List UInt8 :=
  text.flatMap String.utf8EncodeChar

/-- `encode` of a string. -/
def encodeString (s : String) : List UInt8 :=
  encode s.toList

theorem encode_append (s t : List Char) :
    encode (s ++ t) = encode s ++ encode t := by
  simp [encode]

end DeviceGateway.Bytes.Utf8
