import DeviceGateway.Bytes.Sha256
import DeviceGateway.Certificate.Basic
import DeviceGateway.Peer
import DeviceGateway.Tls.Fault

/-!
# The holder of a certificate

A device shows a chain of certificates, its own first.  The peer it becomes is
the name in its own certificate and the digest of all octets it sent for it,
also of those after the certificate.

## Main results

* `Peer.ofCertificate_subject`: a peer is known by the name in its certificate.
-/

namespace DeviceGateway

/-- The peer that shows a certificate. -/
def Peer.ofCertificate (bytes : List UInt8) : Except Tls.Fault Peer :=
  match Certificate.ofOctets? bytes with
  | none => .error (.peerCertificate "not an X.509 certificate")
  | some c => .ok ⟨c.subject.describe, Bytes.Sha256.thumbprint bytes⟩

/-- The peer that shows a chain of certificates, if it shows any. -/
def Peer.ofChain : List (List UInt8) → Except Tls.Fault (Option Peer)
  | [] => .ok none
  | own :: _ => (Peer.ofCertificate own).map some

theorem Peer.ofCertificate_subject {bytes : List UInt8} {c : Certificate}
    (h : Certificate.ofOctets? bytes = some c) :
    ∃ p, Peer.ofCertificate bytes = .ok p ∧ p.subject = c.subject.describe := by
  refine ⟨⟨c.subject.describe, Bytes.Sha256.thumbprint bytes⟩, ?_, rfl⟩
  simp [ofCertificate, h]

end DeviceGateway
