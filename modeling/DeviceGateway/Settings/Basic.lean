import DeviceGateway.Environment
import DeviceGateway.Wire.Decoder

/-!
# Settings

What the gateway is told before it runs: where it listens, how it treats a
connection, where the backend is, which tenants there are and which devices
they have.  Every field has a default, except what makes no sense without
saying: the certificate and key of a secure listener, and what names a tenant
or a device.

Texts are kept as they were written.  References to the environment are
expanded when a value is used, so a value that changes is not frozen into the
settings.
-/

namespace DeviceGateway.Settings

/-- A listener that speaks TLS. -/
structure SecureListen where
  address : String
  certPath : String
  keyPath : String
  /-- The authority that device certificates are checked against. -/
  caCertPath : Option String
  requireClientCert : Bool
  deriving DecidableEq, Repr

/-- Where the gateway listens. -/
structure Listen where
  address : String := "0.0.0.0:11000"
  maxConnections : Nat := 1000
  tls : Option SecureListen := none
  deriving DecidableEq, Repr

/-- How a connection is treated. -/
structure Session where
  /-- The upper bound of keep-alive timeouts. -/
  maxKeepAliveSecs : Option Nat := none
  /-- The keep-alive of a CONNECT that the gateway makes itself. -/
  defaultKeepAliveSecs : UInt16 := 120
  /-- Stands before the names of the properties the gateway adds. -/
  propertyLead : String := ""
  maxMessageSize : Nat := 262144
  maxPending : Nat := 16
  addressTemplates : List String := ["devices/\x7bdeviceId\x7d/messages/events"]
  deriving DecidableEq, Repr

/-- Where messages go. -/
structure Upstream where
  endpoint : String := "127.0.0.1:7000"
  /-- The endpoints of tenants that have one of their own. -/
  tenantEndpoints : List (String × String) := []
  poolSize : Nat := 400
  idleTimeoutSecs : Nat := 210
  connectTimeoutMs : Nat := 10000
  sendTimeoutMs : Nat := 30000
  deriving DecidableEq, Repr

/-- The two families of formats a tenant may speak. -/
inductive FormatFamily where
  | binary
  | delimited
  deriving DecidableEq, Repr

/-- A tenant, found by the subject of its devices' certificates. -/
structure Tenant where
  subject : String
  tenantId : String
  tenantName : Option String := none
  family : FormatFamily := .delimited
  layout : Wire.Layout := .selfIdentifying
  deriving DecidableEq, Repr

/-- A device that is registered with the backend. -/
structure Device where
  id : String
  hubHostName : String
  /-- The shared secret, in which environment variables may be referred to. -/
  sasToken : String
  deriving DecidableEq, Repr

/-- The devices of a tenant. -/
structure DeviceGroup where
  tenantId : String
  devices : List Device := []
  deriving DecidableEq, Repr

/-- Where counts are shown. -/
structure Metrics where
  enabled : Bool := true
  address : String := "0.0.0.0:9090"
  deriving DecidableEq, Repr

/-- How the gateway reports what it does. -/
structure Logging where
  level : String := "info"
  json : Bool := false
  deriving DecidableEq, Repr

end Settings

/-- Everything the gateway is told. -/
structure Settings where
  listen : Settings.Listen := {}
  session : Settings.Session := {}
  upstream : Settings.Upstream := {}
  tenants : List Settings.Tenant := []
  devices : List Settings.DeviceGroup := []
  metrics : Settings.Metrics := {}
  logging : Settings.Logging := {}
  deriving DecidableEq, Repr

namespace Settings

/-- The upper bound of keep-alive timeouts in milliseconds. -/
def Session.maxKeepAliveMs (s : Session) : Option Nat :=
  s.maxKeepAliveSecs.map (· * 1000)

/-- The name a tenant is shown under: its id, unless it has one. -/
def Tenant.name (t : Tenant) : String :=
  t.tenantName.getD t.tenantId

/-- The format a tenant's devices speak. -/
def Tenant.format (t : Tenant) : Wire.Format :=
  match t.family with
  | .binary => .binary
  | .delimited => .text t.layout

/-- The secret of a device. -/
def Device.secret (d : Device) (env : Environment) : String :=
  env.expand d.sasToken

/-- The endpoint that messages of a tenant go to. -/
def Upstream.endpointFor (u : Upstream) (env : Environment)
    (tenantId : String) : String :=
  env.expand ((u.tenantEndpoints.lookup tenantId).getD u.endpoint)

end Settings

end DeviceGateway
