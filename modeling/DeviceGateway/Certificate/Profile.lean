import DeviceGateway.Certificate.PublicKey

/-!
# The profile of certificates in handshakes

A certificate that a handshake depends on has to keep to a profile that is
stricter than the format.  It is in distinguished form to the last octet, says
that it is of the third version, and names one algorithm inside and outside the
signed part.  It has no identifiers besides names, and nothing in it asks for an
understanding that is not there: an extension that must be understood is one of
the kinds in `understood`, and none of these stands in it twice.

An authority may also have a certificate of the first version, which has no
extensions.  It is trusted because the settings name it, not because of what its
certificate says.

## Main results

* `isKnown_of_claim`: what must be understood in a certificate that keeps to the
  profile is understood.
* `isAuthority_of_keyInfo`: what a server may show can vouch for devices as
  well.
-/

namespace DeviceGateway.Certificate.Profile

open Distinguished

/-! ## Extensions -/

/-- An extension: its kind, whether it must be understood, and its value. -/
structure Extension where
  kind : List UInt8
  critical : Bool
  value : List UInt8
  deriving DecidableEq, Repr

/-- The kind of the extension that says what the key may be used for. -/
def keyUsage : ObjectId :=
  .ofArcs [2, 5, 29, 15]

/-- The kinds of extensions that are understood: what the key may be used for,
other names of its holder, whether it may sign certificates, for which names,
where withdrawn certificates are listed, and for which purposes. -/
def understood : List ObjectId :=
  [keyUsage, .ofArcs [2, 5, 29, 17], .ofArcs [2, 5, 29, 19],
    .ofArcs [2, 5, 29, 30], .ofArcs [2, 5, 29, 31], .ofArcs [2, 5, 29, 37]]

/-- Whether the kind of an extension is understood. -/
def Extension.isKnown (e : Extension) : Bool :=
  understood.contains ⟨e.kind⟩

/-- Whether the value of an extension of a known kind can be one.  All are
sequences, but for the use of the key. -/
def Extension.isWellFormed (e : Extension) : Bool :=
  e.kind == keyUsage.content || (whole (content sequenceKind) e.value).isSome

/-- Whether an extension on its own is acceptable. -/
def Extension.isAcceptable (e : Extension) : Bool :=
  if e.isKnown then e.isWellFormed else !e.critical

/-- Whether some extensions are acceptable together. -/
def accepts (extensions : List Extension) : Bool :=
  extensions.all (·.isAcceptable) &&
    decide ((extensions.filter (·.isKnown)).map (·.kind)).Nodup

/-- Reads whether an extension must be understood, if it says so. -/
def readCritical : Reader Bool := do
  if ← isNext booleanKind then
    match ← content booleanKind with
    | [0xFF] => return true
    | [0x00] => return false
    | _ => failure
  else return false

/-- Reads an extension. -/
def readExtension : Reader Extension :=
  within sequenceKind do
    let kind ← content objectIdKind
    let critical ← readCritical
    let value ← content octetsKind
    return ⟨kind, critical, value⟩

/-- Reads the extensions of a certificate, of which there may be none. -/
def readExtensions : Reader (List Extension) := do
  if ← isDone then return []
  within (partKind 3) (within sequenceKind (untilDone readExtension))

/-! ## Certificates -/

/-- A signed statement: what is signed, the algorithm, and the signature. -/
structure Statement where
  signed : List UInt8
  algorithm : List UInt8
  signature : List UInt8
  deriving DecidableEq, Repr

/-- Reads a signed statement. -/
def readStatement : Reader Statement :=
  within sequenceKind do
    let signed ← content sequenceKind
    let algorithm ← content sequenceKind
    let signature ← filledBits bitsKind
    return ⟨signed, algorithm, signature⟩

/-- What a certificate says. -/
structure Claim where
  algorithm : List UInt8
  issuer : List UInt8
  period : List UInt8
  subject : List UInt8
  keyInfo : List UInt8
  extensions : List Extension
  deriving DecidableEq, Repr

/-- Reads what every certificate says: its serial number, the algorithm, who
vouches for it, the period, whom it is about, and that one's key. -/
def readClaim : Reader Claim := do
  let _ ← content integerKind
  let algorithm ← content sequenceKind
  let issuer ← content sequenceKind
  let period ← content sequenceKind
  let subject ← content sequenceKind
  let keyInfo ← content sequenceKind
  return ⟨algorithm, issuer, period, subject, keyInfo, []⟩

/-- The number that stands for the third version. -/
def thirdVersion : Nat := 2

/-- Reads what a certificate of the third version says. -/
def readThird : Reader Claim := do
  let version ← within (partKind 0) natural
  guard (version = thirdVersion)
  let claim ← readClaim
  let extensions ← readExtensions
  return { claim with extensions }

/-- What a certificate of the third version says, if it keeps to the profile. -/
def claim? (bytes : List UInt8) : Option Claim := do
  let statement ← whole readStatement bytes
  let claim ← whole readThird statement.signed
  guard (claim.algorithm = statement.algorithm ∧ accepts claim.extensions)
  return claim

/-- Whether a certificate is one of the first version. -/
def isFirst (bytes : List UInt8) : Bool :=
  (whole readStatement bytes).any fun statement =>
    (whole readClaim statement.signed).isSome

/-- The description of the key in a certificate that a server may show. -/
def keyInfo? (bytes : List UInt8) : Option (List UInt8) :=
  (claim? bytes).map (·.keyInfo)

/-- Whether the holder of a certificate can be made an authority. -/
def isAuthority (bytes : List UInt8) : Bool :=
  (claim? bytes).isSome || isFirst bytes

private theorem isKnown_of_accepts {extensions : List Extension} {e : Extension}
    (h : accepts extensions = true) (he : e ∈ extensions)
    (hcritical : e.critical = true) :
    e.isKnown = true := by
  simp only [accepts, Bool.and_eq_true, List.all_eq_true] at h
  have hacceptable := h.1 e he
  cases hknown : e.isKnown with
  | true => rfl
  | false => simp [Extension.isAcceptable, hknown, hcritical] at hacceptable

theorem isKnown_of_claim {bytes : List UInt8} {claim : Claim} {e : Extension}
    (h : claim? bytes = some claim) (he : e ∈ claim.extensions)
    (hcritical : e.critical = true) :
    e.isKnown = true := by
  obtain ⟨statement, -, h⟩ := Option.bind_eq_some_iff.1 h
  obtain ⟨read, -, h⟩ := Option.bind_eq_some_iff.1 h
  obtain ⟨_, hguard, hread⟩ := Option.bind_eq_some_iff.1 h
  obtain rfl := Option.some.inj hread
  unfold guard at hguard
  split at hguard
  · next hkept => exact isKnown_of_accepts hkept.2 he hcritical
  · cases hguard

theorem isAuthority_of_keyInfo {bytes info : List UInt8}
    (h : keyInfo? bytes = some info) :
    isAuthority bytes = true := by
  obtain ⟨claim, hclaim, _⟩ := Option.map_eq_some_iff.1 h
  simp [isAuthority, hclaim]

end DeviceGateway.Certificate.Profile
