import DeviceGateway.Certificate.Name
import DeviceGateway.Certificate.Validity

/-!
# Certificates

A certificate is a signed statement that a key belongs to a name.  The gateway
asks it for that name only, but every part has to be there and in its place:
version, serial number, algorithm, issuer, period, subject, public key, two
optional identifiers and extensions, and outside the signed part the algorithm
again and the signature.  The signature is checked where the connection is made
secure, not here.

Octets after the certificate, and after the last part that is read inside an
element, are passed over.  The extensions are an exception: nothing may follow
them in the signed part, nor stand between them.
-/

namespace DeviceGateway

namespace Certificate

/-- A number from 0 to 2^32 - 1 in the fewest octets. -/
def isSmallNumber (content : List UInt8) : Bool :=
  match content with
  | [] => false
  | [b] => decide (b.toNat < 128)
  | b :: c :: rest =>
    if b.toNat = 0 then decide (128 ≤ c.toNat ∧ rest.length ≤ 3)
    else decide (b.toNat < 128 ∧ rest.length ≤ 2)

/-- A list of bits: how many bits of the last octet do not count, which are
zero, and the octets. -/
def isBits (content : List UInt8) : Bool :=
  match content with
  | [] => false
  | [unused] => unused == 0
  | unused :: octets =>
    unused.toNat ≤ 8 &&
      (octets.getLast?.getD 0).toNat % (1 <<< unused.toNat) == 0

/-- Reads a list of bits. -/
def readBits : Reader Unit := fun bytes =>
  match numbered bitsTag bytes with
  | none => none
  | some (e, rest) =>
    if !e.tag.constructed && isBits e.content then some ((), rest) else none

/-- Reads the version, if one is there. -/
def readVersion : Reader Unit := fun bytes =>
  match Element.read bytes with
  | none => none
  | some (e, rest) =>
    if e.tag.number ≠ 0 then some ((), bytes)
    else if e.tag.tagClass ≠ .context then none
    else match numbered integerTag e.content with
      | none => none
      | some (n, _) =>
        if !n.tag.constructed && isSmallNumber n.content then some ((), rest)
        else none

/-- Reads the serial number, which may be an open element. -/
def readSerial : Reader Unit := fun bytes =>
  match readOpen bytes with
  | none => none
  | some (tag, rest) =>
    if tag.number = integerTag then some ((), rest) else none

/-- Reads what an algorithm needs besides its kind: an element, if anything is
there. -/
def readParameter : Reader Unit := fun bytes =>
  if bytes.isEmpty then some ((), [])
  else (Element.read bytes).map fun (_, rest) => ((), rest)

/-- Reads an algorithm: what it is, and what it needs besides. -/
def readAlgorithm : Reader Unit :=
  inside sequenceTag do
    let _ ← readObjectId
    readParameter

/-- Reads a public key. -/
def readPublicKey : Reader Unit :=
  inside sequenceTag do
    readAlgorithm
    readBits

/-- Reads an identifier with a tag number of its own, if one is there.  What
begins in another way is left to the next reader, complete or not. -/
def readUniqueId (number : Nat) : Reader Unit := fun bytes =>
  match readHead bytes with
  | none => some ((), bytes)
  | some ((tag, _), _) =>
    if tag.number ≠ number then some ((), bytes)
    else match Element.read bytes with
      | none => none
      | some (e, rest) =>
        if e.tag.tagClass = .context && !e.content.isEmpty then some ((), rest)
        else none

/-- Reads whether an extension must be understood, if it says so. -/
def readCritical : Reader Unit := fun bytes =>
  match numbered booleanTag bytes with
  | some (e, rest) =>
    if e.content.length = 1 then some ((), rest) else some ((), bytes)
  | none => some ((), bytes)

/-- Reads an extension. -/
def readExtension : Reader Unit :=
  inside sequenceTag do
    let _ ← readObjectId
    readCritical
    let value ← numbered octetsTag
    guard !value.tag.constructed

/-- Reads a list that is made of extensions only. -/
def readExtensionList : Reader Unit :=
  inside sequenceTag fun content =>
    let left := (readMany readExtension content.length content).2
    if left.isEmpty then some ((), []) else none

/-- Reads the extensions, if anything is left, and nothing may be left after
them.  The length that stands in front of the list has no meaning. -/
def readExtensions : Reader Unit := fun bytes =>
  if bytes.isEmpty then some ((), [])
  else match readHead bytes with
    | none => none
    | some ((tag, _), rest) =>
      if tag.number ≠ 3 then none
      else match readExtensionList rest with
        | some ((), []) => some ((), [])
        | _ => none

/-- Reads the signed part. -/
def readSigned : Reader Name :=
  inside sequenceTag do
    readVersion
    readSerial
    readAlgorithm
    let _ ← readName
    readPeriod
    let subject ← readName
    readPublicKey
    readUniqueId 1
    readUniqueId 2
    readExtensions
    return subject

end Certificate

/-- What the gateway keeps of a certificate. -/
structure Certificate where
  subject : Certificate.Name
  deriving DecidableEq, Repr

namespace Certificate

/-- Reads a certificate off the front of a list of octets. -/
def read : Reader Certificate :=
  inside sequenceTag do
    let subject ← readSigned
    readAlgorithm
    readBits
    return ⟨subject⟩

/-- The certificate at the front of a list of octets. -/
def ofOctets? (bytes : List UInt8) : Option Certificate :=
  (read bytes).map (·.1)

end Certificate

end DeviceGateway
