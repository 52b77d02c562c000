import DeviceGateway.Certificate.PublicKey
import DeviceGateway.Tls.Pem

/-!
# Private keys

A server proves that a certificate is its own by signing with the key that the
certificate names.  It can sign with RSA keys, with keys on two elliptic curves,
and with Ed25519 keys.  A key stands in a block of its own kind, or in a general
block that says which algorithm it is for.

An RSA key holds numbers that can be computed from each other.  They are there
to make signing fast, so a key in which they do not go together is refused, and
so is one that is too weak: its modulus fills 256 octets or more, in two primes
of one size, and its public exponent is 65537 or more.

## Main results

* `RsaKey.factors_of_isUsable`: the modulus of a key that can be used is the
  product of its primes, which have one of three sizes.
* `PrivateKey.eq_of_fits`: a key fits one public key at most, unless it is an
  Ed25519 key that does not hold its point.
-/

namespace DeviceGateway.Tls

open Certificate Certificate.Distinguished

/-! ## RSA keys -/

/-- The numbers of an RSA key. -/
structure RsaKey where
  modulus : Nat
  publicExponent : Nat
  privateExponent : Nat
  prime1 : Nat
  prime2 : Nat
  /-- The private exponent modulo one less than each of the primes. -/
  exponent1 : Nat
  exponent2 : Nat
  /-- The inverse of the second prime modulo the first. -/
  coefficient : Nat
  deriving DecidableEq, Repr

/-- The number of binary digits of a number. -/
def bitLength (n : Nat) : Nat :=
  if n = 0 then 0 else n.log2 + 1

/-- Whether the modulus fills 256 octets or more, and has 4096 bits at most. -/
def RsaKey.isSized (k : RsaKey) : Bool :=
  2040 < bitLength k.modulus && bitLength k.modulus ≤ 4096

/-- Whether the public exponent is odd, large enough, and below 2^33. -/
def RsaKey.isExponentSafe (k : RsaKey) : Bool :=
  65537 ≤ k.publicExponent && k.publicExponent < 1 <<< 33 &&
    k.publicExponent % 2 == 1

/-- Whether the modulus is the product of the primes, each of which has half as
many bits, and a multiple of 512. -/
def RsaKey.isFactored (k : RsaKey) : Bool :=
  let half := (bitLength k.modulus + 1) / 2
  bitLength k.prime1 == half && bitLength k.prime2 == half && half % 512 == 0 &&
    k.prime1 * k.prime2 == k.modulus

/-- Whether the numbers that signing needs are in range, and the coefficient is
the inverse that it should be. -/
def RsaKey.isSigning (k : RsaKey) : Bool :=
  let half := (bitLength k.modulus + 1) / 2
  half < bitLength k.privateExponent && k.privateExponent < k.modulus &&
    k.exponent1 < k.prime1 && k.exponent2 < k.prime2 &&
    [k.privateExponent, k.exponent1, k.exponent2].all (· % 2 == 1) &&
    k.coefficient < k.prime1 && k.coefficient * k.prime2 % k.prime1 == 1

/-- Whether a key can be used. -/
def RsaKey.isUsable (k : RsaKey) : Bool :=
  k.isSized && k.isExponentSafe && k.isFactored && k.isSigning

/-- Reads an RSA key of two primes. -/
def readRsaKey : Reader RsaKey :=
  within sequenceKind do
    guard ((← natural) = 0)
    return {
      modulus := ← natural
      publicExponent := ← natural
      privateExponent := ← natural
      prime1 := ← natural
      prime2 := ← natural
      exponent1 := ← natural
      exponent2 := ← natural
      coefficient := ← natural }

/-! ## Keys -/

/-- A key that a server can sign with. -/
inductive PrivateKey where
  | rsa (key : RsaKey)
  | ellipticCurve (curve : Curve) (secret point : List UInt8)
  | ed25519 (seed : List UInt8) (point : Option (List UInt8))
  deriving DecidableEq, Repr

/-- The first octet of a point that is given by both coordinates. -/
def bothCoordinates : UInt8 := 0x04

/-- Reads a key on a curve.  It may name the curve again, and its point has to
be there. -/
def readCurveKey (curve : Curve) : Reader PrivateKey :=
  within sequenceKind do
    guard ((← natural) = 1)
    let secret ← content octetsKind
    if ← isNext (partKind 0) then
      guard ((← content (partKind 0)) = curve.idOctets)
    let point ← within (partKind 1) (filledBits bitsKind)
    guard (secret.length = curve.size ∧ point.length = 2 * curve.size + 1 ∧
      point.head? = some bothCoordinates)
    return .ellipticCurve curve secret point

/-- The number of octets of an Ed25519 seed, and of the point it leads to. -/
def edwardsSize : Nat := 32

/-- A key of any algorithm, as a general block holds it. -/
structure General where
  algorithm : List UInt8
  secret : List UInt8
  point : Option (List UInt8)
  deriving DecidableEq, Repr

/-- The kind of the element that holds the point of a general block, without an
element of its own inside. -/
def pointKind : UInt8 := 0x81

/-- Reads the point of a general block. -/
def readPoint : Reader (List UInt8) := do
  if ← isNext (partKind 1) then within (partKind 1) (filledBits bitsKind)
  else filledBits pointKind

/-- Reads a general block.  Attributes are passed over, and a point is there in
the second version only. -/
def readGeneral : Reader General :=
  within sequenceKind do
    let version ← natural
    let algorithm ← content sequenceKind
    let secret ← content octetsKind
    if ← isNext (partKind 0) then
      let _ ← content (partKind 0)
    match version with
    | 0 => return ⟨algorithm, secret, none⟩
    | 1 => return ⟨algorithm, secret, some (← readPoint)⟩
    | _ => failure

/-- The RSA key in some octets, if it can be used. -/
def rsaKey? (octets : List UInt8) : Option PrivateKey :=
  ((whole readRsaKey octets).filter (·.isUsable)).map .rsa

/-- The Ed25519 key with a seed, and with a point if it is known. -/
def edwardsKey? (octets : List UInt8) (point : Option (List UInt8)) :
    Option PrivateKey := do
  let seed ← whole (content octetsKind) octets
  guard (seed.length = edwardsSize)
  return .ed25519 seed point

/-- The key in a general block. -/
def General.key? (g : General) : Option PrivateKey :=
  match KeyAlgorithm.ofContent? g.algorithm, g.point with
  | some .rsa, none => rsaKey? g.secret
  | some (.ellipticCurve curve), none => whole (readCurveKey curve) g.secret
  | some .ed25519, point => edwardsKey? g.secret point
  | _, _ => none

/-- The key in a block. -/
def PrivateKey.ofBlock? (block : Pem.Block) : Option PrivateKey :=
  match block.kind with
  | .rsaKey => rsaKey? block.content
  | .ecKey =>
    Curve.all.findSome? fun curve => whole (readCurveKey curve) block.content
  | .privateKey => (whole readGeneral block.content).bind (·.key?)
  | _ => none

/-- Whether a key belongs to a public key.  The point of an Ed25519 key that
does not hold it is taken on trust. -/
def PrivateKey.fits : PrivateKey → PublicKey → Bool
  | rsa key, .rsa modulus exponent =>
    key.modulus == modulus && key.publicExponent == exponent
  | ellipticCurve curve _ point, .ellipticCurve other shown =>
    curve == other && point == shown
  | ed25519 _ point, .ed25519 shown =>
    shown.length == edwardsSize && point.all (· == shown)
  | _, _ => false

theorem RsaKey.factors_of_isUsable {k : RsaKey} (h : k.isUsable = true) :
    k.modulus = k.prime1 * k.prime2 ∧
      bitLength k.prime1 = bitLength k.prime2 ∧
      bitLength k.prime1 ∈ [1024, 1536, 2048] := by
  simp only [isUsable, isSized, isFactored, Bool.and_eq_true, beq_iff_eq,
    decide_eq_true_eq] at h
  obtain ⟨⟨⟨⟨hlow, hhigh⟩, -⟩, ⟨⟨hfirst, hsecond⟩, hround⟩, hproduct⟩, -⟩ := h
  refine ⟨hproduct.symm, hfirst.trans hsecond.symm, ?_⟩
  simp only [List.mem_cons, List.not_mem_nil, or_false]
  omega

theorem PrivateKey.eq_of_fits {k : PrivateKey} {shown other : PublicKey}
    (hshown : k.fits shown = true) (hother : k.fits other = true) :
    shown = other ∨ ∃ seed, k = .ed25519 seed none := by
  cases k with
  | rsa key => cases shown <;> cases other <;> simp_all [fits]
  | ellipticCurve curve secret point =>
    cases shown <;> cases other <;> simp_all [fits]
  | ed25519 seed point =>
    cases point with
    | none => exact .inr ⟨seed, rfl⟩
    | some point => cases shown <;> cases other <;> simp_all [fits]

end DeviceGateway.Tls
