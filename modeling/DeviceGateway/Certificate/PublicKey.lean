import DeviceGateway.Certificate.Distinguished
import DeviceGateway.Certificate.ObjectId

/-!
# Public keys

A certificate says which key belongs to a name.  The key is described by its
algorithm and by bits that only the algorithm gives a meaning to.  The gateway
knows the algorithms that it can sign with itself: RSA, two elliptic curves, and
Ed25519.

## Main results

* `KeyAlgorithm.ofContent?_content`: an algorithm is found by its own
  description.
-/

namespace DeviceGateway.Certificate

open Distinguished

/-- The elliptic curves that keys may be on. -/
inductive Curve where
  | p256
  | p384
  deriving DecidableEq, Repr

/-- All of them. -/
def Curve.all : List Curve :=
  [p256, p384]

/-- The number of octets of a coordinate. -/
def Curve.size : Curve → Nat
  | p256 => 32
  | p384 => 48

/-- The written form of an object identifier. -/
def ObjectId.write (id : ObjectId) : List UInt8 :=
  (Item.mk objectIdKind id.content).write

/-- The written form of the identifier of a curve. -/
def Curve.idOctets : Curve → List UInt8
  | p256 => (ObjectId.ofArcs [1, 2, 840, 10045, 3, 1, 7]).write
  | p384 => (ObjectId.ofArcs [1, 3, 132, 0, 34]).write

/-- What can be done with a key. -/
inductive KeyAlgorithm where
  | rsa
  | ellipticCurve (curve : Curve)
  | ed25519
  deriving DecidableEq, Repr

/-- All of them. -/
def KeyAlgorithm.all : List KeyAlgorithm :=
  rsa :: ed25519 :: Curve.all.map ellipticCurve

/-- The description of an algorithm: what it is, and what it needs besides.  RSA
needs nothing, and says so with an empty element. -/
def KeyAlgorithm.content : KeyAlgorithm → List UInt8
  | rsa => (ObjectId.ofArcs [1, 2, 840, 113549, 1, 1, 1]).write ++ [0x05, 0x00]
  | ellipticCurve curve =>
    (ObjectId.ofArcs [1, 2, 840, 10045, 2, 1]).write ++ curve.idOctets
  | ed25519 => (ObjectId.ofArcs [1, 3, 101, 112]).write

/-- The algorithm with a description. -/
def KeyAlgorithm.ofContent? (content : List UInt8) : Option KeyAlgorithm :=
  all.find? (·.content == content)

/-- A public key. -/
inductive PublicKey where
  | rsa (modulus exponent : Nat)
  | ellipticCurve (curve : Curve) (point : List UInt8)
  | ed25519 (point : List UInt8)
  deriving DecidableEq, Repr

/-- Reads the two numbers of an RSA key. -/
def readRsaNumbers : Reader PublicKey :=
  within sequenceKind do
    let modulus ← natural
    let exponent ← natural
    return .rsa modulus exponent

/-- The key that some bits stand for. -/
def PublicKey.ofBits? (algorithm : KeyAlgorithm) (bits : List UInt8) :
    Option PublicKey :=
  match algorithm with
  | .rsa => whole readRsaNumbers bits
  | .ellipticCurve curve => some (.ellipticCurve curve bits)
  | .ed25519 => some (.ed25519 bits)

/-- Reads the description of a key: its algorithm, and its bits. -/
def readKeyInfo : Reader (List UInt8 × List UInt8) := do
  let algorithm ← content sequenceKind
  let bits ← filledBits bitsKind
  return (algorithm, bits)

/-- The key with a description, if its algorithm is known. -/
def PublicKey.ofInfo? (info : List UInt8) : Option PublicKey := do
  let (algorithm, bits) ← whole readKeyInfo info
  ofBits? (← KeyAlgorithm.ofContent? algorithm) bits

/-- An algorithm is found by its own description. -/
theorem KeyAlgorithm.ofContent?_content (a : KeyAlgorithm) :
    ofContent? a.content = some a := by
  rcases a with _ | _ | _
  · decide +kernel
  · next curve => cases curve <;> decide +kernel
  · decide +kernel

end DeviceGateway.Certificate
