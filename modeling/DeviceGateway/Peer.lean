/-!
# Peers

A device that connects over TLS may present a certificate.  Two texts of it are
kept: the subject, which selects the tenant, and the thumbprint, which is shown
with it.

## Main results

* `describe_ne_empty`: a peer is never shown as nothing.
-/

namespace DeviceGateway

/-- What is known of a device from its certificate. -/
structure Peer where
  subject : String
  /-- The SHA-256 digest of the certificate in upper-case hexadecimal. -/
  thumbprint : String
  deriving DecidableEq, Repr

/-- A peer as it is shown. -/
def Peer.describe (p : Peer) : String :=
  p.subject ++ " (" ++ p.thumbprint ++ ")"

theorem Peer.describe_ne_empty (p : Peer) : p.describe ≠ "" := by
  intro h
  have hlength := congrArg String.length h
  simp [describe, String.length_append] at hlength

end DeviceGateway
