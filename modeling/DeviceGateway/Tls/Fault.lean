/-!
# Faults of secure connections

A secure listener can fail before it listens, when its certificate, its key or
the authority it trusts cannot be loaded, and later, when a device does not get
through the handshake.  A fault of a file names the file.
-/

namespace DeviceGateway.Tls

/-- Why a connection cannot be made secure. -/
inductive Fault where
  | certificateLoad (path text : String)
  | privateKeyLoad (path text : String)
  | noCertificates (path : String)
  | noPrivateKeys (path : String)
  | configuration (text : String)
  | handshake (text : String)
  | peerCertificate (text : String)
  deriving DecidableEq, Repr

/-- The wording of a fault. -/
def Fault.message : Fault → String
  | certificateLoad path text =>
    "failed to load certificate from '" ++ path ++ "': " ++ text
  | privateKeyLoad path text =>
    "failed to load private key from '" ++ path ++ "': " ++ text
  | noCertificates path => "no certificates found in '" ++ path ++ "'"
  | noPrivateKeys path => "no private key found in '" ++ path ++ "'"
  | configuration text => "invalid TLS configuration: " ++ text
  | handshake text => "TLS handshake failed: " ++ text
  | peerCertificate text => "invalid peer certificate: " ++ text

end DeviceGateway.Tls
