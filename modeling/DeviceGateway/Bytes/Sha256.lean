import DeviceGateway.Bytes.Hex

/-!
# SHA-256

The thumbprint of a certificate is the SHA-256 digest of its encoding.  The
words are `UInt32`, whose addition wraps as the algorithm asks, and the message
is padded to a whole number of sixty-four octet blocks with a single one bit,
zeros, and the length in bits as a sixty-four bit number.

## Main results

* `length_digest`: a digest has thirty-two octets.
* `length_thumbprint`: and a thumbprint sixty-four digits.
-/

namespace DeviceGateway.Bytes.Sha256

/-- The first thirty-two bits of the fractional parts of the cube roots of the
first sixty-four primes. -/
def roundConstants : List UInt32 :=
  [0x428a2f98, 0x71374491, 0xb5c0fbcf, 0xe9b5dba5, 0x3956c25b, 0x59f111f1,
   0x923f82a4, 0xab1c5ed5, 0xd807aa98, 0x12835b01, 0x243185be, 0x550c7dc3,
   0x72be5d74, 0x80deb1fe, 0x9bdc06a7, 0xc19bf174, 0xe49b69c1, 0xefbe4786,
   0x0fc19dc6, 0x240ca1cc, 0x2de92c6f, 0x4a7484aa, 0x5cb0a9dc, 0x76f988da,
   0x983e5152, 0xa831c66d, 0xb00327c8, 0xbf597fc7, 0xc6e00bf3, 0xd5a79147,
   0x06ca6351, 0x14292967, 0x27b70a85, 0x2e1b2138, 0x4d2c6dfc, 0x53380d13,
   0x650a7354, 0x766a0abb, 0x81c2c92e, 0x92722c85, 0xa2bfe8a1, 0xa81a664b,
   0xc24b8b70, 0xc76c51a3, 0xd192e819, 0xd6990624, 0xf40e3585, 0x106aa070,
   0x19a4c116, 0x1e376c08, 0x2748774c, 0x34b0bcb5, 0x391c0cb3, 0x4ed8aa4a,
   0x5b9cca4f, 0x682e6ff3, 0x748f82ee, 0x78a5636f, 0x84c87814, 0x8cc70208,
   0x90befffa, 0xa4506ceb, 0xbef9a3f7, 0xc67178f2]

/-- The eight working words of the compression. -/
structure Words where
  (a b c d e f g h : UInt32)
  deriving DecidableEq, Repr

/-- The first thirty-two bits of the fractional parts of the square roots of
the first eight primes. -/
def start : Words :=
  ⟨0x6a09e667, 0xbb67ae85, 0x3c6ef372, 0xa54ff53a, 0x510e527f, 0x9b05688c,
    0x1f83d9ab, 0x5be0cd19⟩

/-- Rotation to the right by `n` places, for `n` between one and thirty-one. -/
def rotate (x : UInt32) (n : UInt32) : UInt32 :=
  (x >>> n) ||| (x <<< (32 - n))

/-- One round with its constant and its message word. -/
def Words.round (w : Words) (constant word : UInt32) : Words :=
  let s1 := rotate w.e 6 ^^^ rotate w.e 11 ^^^ rotate w.e 25
  let choice := (w.e &&& w.f) ^^^ ((~~~ w.e) &&& w.g)
  let t1 := w.h + s1 + choice + constant + word
  let s0 := rotate w.a 2 ^^^ rotate w.a 13 ^^^ rotate w.a 22
  let majority := (w.a &&& w.b) ^^^ (w.a &&& w.c) ^^^ (w.b &&& w.c)
  ⟨t1 + (s0 + majority), w.a, w.b, w.c, w.d + t1, w.e, w.f, w.g⟩

/-- Wordwise sum. -/
def Words.add (x y : Words) : Words :=
  ⟨x.a + y.a, x.b + y.b, x.c + y.c, x.d + y.d, x.e + y.e, x.f + y.f, x.g + y.g,
    x.h + y.h⟩

/-- The message word that follows the sixteen words of a window. -/
def nextWord (window : List UInt32) : UInt32 :=
  let word (i : Nat) : UInt32 := window.getD i 0
  let s0 := rotate (word 1) 7 ^^^ rotate (word 1) 18 ^^^ (word 1 >>> 3)
  let s1 := rotate (word 14) 17 ^^^ rotate (word 14) 19 ^^^ (word 14 >>> 10)
  word 0 + s0 + word 9 + s1

/-- Runs the rounds of the remaining constants over a sliding window of sixteen
message words. -/
def rounds (w : Words) (window : List UInt32) : List UInt32 → Words
  | [] => w
  | constant :: rest =>
    rounds (w.round constant (window.headD 0))
      (window.tail ++ [nextWord window]) rest

/-- Four octets as a word, the highest first. -/
def wordsOf : List UInt8 → List UInt32
  | a :: b :: c :: d :: rest =>
    ((a.toUInt32 <<< 24) ||| (b.toUInt32 <<< 16) ||| (c.toUInt32 <<< 8) |||
      d.toUInt32) ::
      wordsOf rest
  | _ => []

/-- A word as four octets, the highest first. -/
def octetsOf (x : UInt32) : List UInt8 :=
  [(x >>> 24).toUInt8, (x >>> 16).toUInt8, (x >>> 8).toUInt8, x.toUInt8]

/-- The padded message. -/
def pad (message : List UInt8) : List UInt8 :=
  let size := message.length
  let zeros := (119 - size % 64) % 64
  let bits := size * 8
  message ++ 0x80 :: List.replicate zeros 0 ++
    (List.range 8).map fun i => UInt8.ofNat (bits / Nat.pow 256 (7 - i))

/-- Compresses the padded message block by block; `blocks` bounds their
number. -/
def absorb (blocks : Nat) (w : Words) (message : List UInt8) : Words :=
  match blocks with
  | 0 => w
  | blocks + 1 =>
    absorb blocks (w.add (rounds w (wordsOf (message.take 64)) roundConstants))
      (message.drop 64)

/-- The digest of a message. -/
def digest (message : List UInt8) : List UInt8 :=
  let padded := pad message
  let w := absorb (padded.length / 64) start padded
  octetsOf w.a ++ octetsOf w.b ++ octetsOf w.c ++ octetsOf w.d ++
    octetsOf w.e ++ octetsOf w.f ++ octetsOf w.g ++ octetsOf w.h

/-- The digest in upper-case hexadecimal. -/
def thumbprint (message : List UInt8) : String :=
  Hex.toText .upper (digest message)

theorem length_digest (message : List UInt8) : (digest message).length = 32 :=
  rfl

theorem length_thumbprint (message : List UInt8) :
    (thumbprint message).length = 64 := by
  simp [thumbprint, Hex.toText, Hex.length_render, length_digest]

end DeviceGateway.Bytes.Sha256
