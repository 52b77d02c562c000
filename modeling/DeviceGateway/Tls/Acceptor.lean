import DeviceGateway.Certificate.Profile
import DeviceGateway.Settings.Basic
import DeviceGateway.Tls.Fault
import DeviceGateway.Tls.PrivateKey

/-!
# Secure acceptors

An acceptor is what a secure listener needs before it can take a connection:
the certificates it shows, its key, and whom it trusts to vouch for devices.
They are loaded in that order, and the first that cannot be is the fault.  Only
then are the certificates and the key looked at together: the first certificate
has to keep to the profile of handshakes and to name the key.

A device need not show a certificate unless the settings demand one, and they
can demand one only if they name an authority.

## Main results

* `ClientCheck.isRequired_of_settings`: devices must show a certificate exactly
  if the settings say so.
* `signingKey_fits`: the key of an acceptor belongs to the first of its
  certificates.
-/

namespace DeviceGateway.Tls

/-- Files by path: the octets of one, or why it cannot be opened. -/
abbrev Files := String → Except String (List UInt8)

/-- How certificates of devices are treated. -/
inductive ClientCheck where
  /-- Devices are not asked for one. -/
  | none
  /-- A device may show one that an authority vouches for. -/
  | optional (authorities : List (List UInt8))
  /-- A device must show one that an authority vouches for. -/
  | required (authorities : List (List UInt8))
  deriving DecidableEq, Repr

/-- Whether a device must show a certificate. -/
def ClientCheck.isRequired : ClientCheck → Bool
  | required _ => true
  | _ => false

/-- What a secure listener needs. -/
structure Acceptor where
  chain : List (List UInt8)
  key : PrivateKey
  clients : ClientCheck
  deriving DecidableEq, Repr

/-- The certificates in a file, of which there must be one at least. -/
def loadCertificates (files : Files) (path : String) :
    Except Fault (List (List UInt8)) :=
  match files path with
  | .error text => .error (.certificateLoad path text)
  | .ok content =>
    let certificates := Pem.certificates content
    if certificates.isEmpty then .error (.noCertificates path)
    else .ok certificates

/-- The first private key in a file. -/
def loadPrivateKey (files : Files) (path : String) : Except Fault Pem.Block :=
  match files path with
  | .error text => .error (.privateKeyLoad path text)
  | .ok content =>
    match Pem.privateKey content with
    | .error fault => .error (.privateKeyLoad path fault.message)
    | .ok none => .error (.noPrivateKeys path)
    | .ok (some block) => .ok block

/-- The authorities in a file, of which there must be one at least that keeps to
the profile. -/
def loadAuthorities (files : Files) (path : String) :
    Except Fault (List (List UInt8)) := do
  let certificates ← loadCertificates files path
  let authorities := certificates.filter Certificate.Profile.isAuthority
  if authorities.isEmpty then throw (.noCertificates path)
  return authorities

/-- How the settings want certificates of devices treated. -/
def ClientCheck.ofSettings (files : Files) (s : Settings.SecureListen) :
    Except Fault ClientCheck :=
  match s.caCertPath with
  | some path =>
    (loadAuthorities files path).map fun authorities =>
      if s.requireClientCert then .required authorities
      else .optional authorities
  | Option.none =>
    if s.requireClientCert then
      .error (.configuration
        "CA certificate path required when require_client_cert is true")
    else .ok .none

/-- The fault of certificates and a key that cannot be shown together. -/
def Fault.unusable (text : String) : Fault :=
  .configuration ("failed to configure server cert: " ++ text)

/-- The public key that a chain of certificates is about. -/
def shownKey? (chain : List (List UInt8)) :
    Option (Option Certificate.PublicKey) :=
  (chain.head?.bind Certificate.Profile.keyInfo?).map
    Certificate.PublicKey.ofInfo?

/-- The key in a block, which has to belong to a chain of certificates. -/
def signingKey (chain : List (List UInt8)) (block : Pem.Block) :
    Except Fault PrivateKey :=
  match PrivateKey.ofBlock? block with
  | none =>
    .error (.unusable "failed to parse private key as RSA, ECDSA, or EdDSA")
  | some key =>
    match shownKey? chain with
    | none => .error (.unusable "invalid certificate")
    | some shown =>
      if shown.any key.fits then .ok key
      else .error (.unusable "keys may not be consistent")

/-- The acceptor of a secure listener. -/
def Acceptor.ofSettings (files : Files) (s : Settings.SecureListen) :
    Except Fault Acceptor := do
  let chain ← loadCertificates files s.certPath
  let block ← loadPrivateKey files s.keyPath
  let clients ← ClientCheck.ofSettings files s
  let key ← signingKey chain block
  return ⟨chain, key, clients⟩

theorem ClientCheck.isRequired_of_settings {files : Files}
    {s : Settings.SecureListen} {c : ClientCheck}
    (h : ClientCheck.ofSettings files s = .ok c) :
    c.isRequired = s.requireClientCert := by
  unfold ClientCheck.ofSettings at h
  cases hpath : s.caCertPath with
  | none =>
    cases hreq : s.requireClientCert <;> simp [hpath, hreq] at h
    simp [← h, isRequired]
  | some path =>
    cases hload : loadAuthorities files path with
    | error fault => simp [hpath, hload, Except.map] at h
    | ok authorities =>
      cases hreq : s.requireClientCert <;> simp [hpath, hload, hreq, Except.map]
        at h <;> simp [← h, isRequired]

theorem signingKey_fits {chain : List (List UInt8)} {block : Pem.Block}
    {key : PrivateKey} (h : signingKey chain block = .ok key) :
    ∃ shown, shownKey? chain = some (some shown) ∧ key.fits shown = true := by
  unfold signingKey at h
  split at h
  · simp at h
  · split at h
    · simp at h
    · next shown hshown =>
      split at h
      · next hfits =>
        cases shown with
        | none => simp at hfits
        | some publicKey =>
          simp only [Except.ok.injEq] at h
          exact ⟨publicKey, hshown, by simpa [← h] using hfits⟩
      · simp at h

end DeviceGateway.Tls
