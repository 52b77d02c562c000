import DeviceGateway.Document.Yaml.Composition
import DeviceGateway.Settings.Check

/-!
# Reading and writing settings

Each part of the settings is read from a record node, field by field; a field
that is not given takes its default, and one of the wrong type makes the whole
reading fail.  Settings that were read have yet to be checked.

Settings are written with every field, the defaults filled in and the optional
ones as null, which is how they are shown to an operator.
-/

namespace DeviceGateway.Settings

open Document (Node)
open Document.Node

/-! ## Reading -/

/-- Reads a secure listener. -/
def readSecureListen (node : Node) : Option SecureListen := do
  match ← node.asRecord
      ["address", "cert_path", "key_path", "ca_cert_path",
        "require_client_cert"] 4 with
  | [address, some certPath, some keyPath, caCertPath, requireClientCert] =>
    pure
      { address := ← orElse address "0.0.0.0:11001" asText
        certPath := ← certPath.asText
        keyPath := ← keyPath.asText
        caCertPath := ← orElse caCertPath none (asOptional asText)
        requireClientCert := ← orElse requireClientCert false asBool }
  | _ => none

/-- Reads where to listen. -/
def readListen (node : Node) : Option Listen := do
  let d : Listen := {}
  match ← node.asRecord ["address", "max_connections", "tls"] 0 with
  | [address, maxConnections, tls] =>
    pure
      { address := ← orElse address d.address asText
        maxConnections :=
          ← orElse maxConnections d.maxConnections (asNat maxWide)
        tls := ← orElse tls none (asOptional readSecureListen) }
  | _ => none

/-- Reads how a connection is treated. -/
def readSession (node : Node) : Option Session := do
  let d : Session := {}
  match ← node.asRecord
      ["max_keep_alive_timeout_secs", "default_keep_alive_secs",
        "service_property_prefix", "max_message_size",
        "max_pending_inbound_messages", "address_templates"] 0 with
  | [maxKeepAliveSecs, defaultKeepAliveSecs, propertyLead, maxMessageSize,
      maxPending, addressTemplates] =>
    pure
      { maxKeepAliveSecs :=
          ← orElse maxKeepAliveSecs none (asOptional (asNat maxWide))
        defaultKeepAliveSecs :=
          ← orElse defaultKeepAliveSecs d.defaultKeepAliveSecs
            fun node => (node.asNat 65535).map UInt16.ofNat
        propertyLead := ← orElse propertyLead d.propertyLead asText
        maxMessageSize :=
          ← orElse maxMessageSize d.maxMessageSize (asNat maxWide)
        maxPending := ← orElse maxPending d.maxPending (asNat maxWide)
        addressTemplates :=
          ← orElse addressTemplates d.addressTemplates (asList asText) }
  | _ => none

/-- Reads where messages go. -/
def readUpstream (node : Node) : Option Upstream := do
  let d : Upstream := {}
  match ← node.asRecord
      ["endpoint", "tenant_endpoints", "connection_pool_size",
        "connection_idle_timeout_secs", "connect_timeout_ms",
        "send_timeout_ms"] 0 with
  | [endpoint, tenantEndpoints, poolSize, idleTimeoutSecs, connectTimeoutMs,
      sendTimeoutMs] =>
    pure
      { endpoint := ← orElse endpoint d.endpoint asText
        tenantEndpoints := ← orElse tenantEndpoints d.tenantEndpoints asTextMap
        poolSize := ← orElse poolSize d.poolSize (asNat maxWide)
        idleTimeoutSecs :=
          ← orElse idleTimeoutSecs d.idleTimeoutSecs (asNat maxWide)
        connectTimeoutMs :=
          ← orElse connectTimeoutMs d.connectTimeoutMs (asNat maxWide)
        sendTimeoutMs :=
          ← orElse sendTimeoutMs d.sendTimeoutMs (asNat maxWide) }
  | _ => none

/-- The names of the families of formats. -/
def familyNames : List (String × FormatFamily) :=
  [("binary", .binary), ("delimited", .delimited)]

/-- The names of the layouts. -/
def layoutNames : List (String × Wire.Layout) :=
  [("self_identifying", .selfIdentifying), ("showcase", .showcase)]

/-- Reads a tenant. -/
def readTenant (node : Node) : Option Tenant := do
  match ← node.asRecord ["subject", "tenant_id", "tenant_name", "format",
    "layout"] 2 with
  | [some subject, some tenantId, tenantName, family, layout] =>
    pure
      { subject := ← subject.asText
        tenantId := ← tenantId.asText
        tenantName := ← orElse tenantName none (asOptional asText)
        family := ← orElse family .delimited (asName familyNames)
        layout := ← orElse layout .selfIdentifying (asName layoutNames) }
  | _ => none

/-- Reads a device. -/
def readDevice (node : Node) : Option Device := do
  match ← node.asRecord ["id", "hub_host_name", "sas_token"] 3 with
  | [some id, some hubHostName, some sasToken] =>
    pure
      { id := ← id.asText, hubHostName := ← hubHostName.asText
        sasToken := ← sasToken.asText }
  | _ => none

/-- Reads the devices of a tenant. -/
def readDeviceGroup (node : Node) : Option DeviceGroup := do
  match ← node.asRecord ["tenant_id", "devices"] 1 with
  | [some tenantId, devices] =>
    pure
      { tenantId := ← tenantId.asText
        devices := ← orElse devices [] (asList readDevice) }
  | _ => none

/-- Reads where counts are shown. -/
def readMetrics (node : Node) : Option Metrics := do
  let d : Metrics := {}
  match ← node.asRecord ["enabled", "address"] 0 with
  | [enabled, address] =>
    pure
      { enabled := ← orElse enabled d.enabled asBool
        address := ← orElse address d.address asText }
  | _ => none

/-- Reads how the gateway reports. -/
def readLogging (node : Node) : Option Logging := do
  let d : Logging := {}
  match ← node.asRecord ["level", "json"] 0 with
  | [level, json] =>
    pure
      { level := ← orElse level d.level asText
        json := ← orElse json d.json asBool }
  | _ => none

/-- Reads settings. -/
def ofNode (node : Node) : Option Settings := do
  match ← node.asRecord
      ["listen", "gateway", "backend", "tenants", "devices", "metrics",
        "logging"] 0 with
  | [listen, session, upstream, tenants, devices, metrics, logging] =>
    pure
      { listen := ← orElse listen {} readListen
        session := ← orElse session {} readSession
        upstream := ← orElse upstream {} readUpstream
        tenants := ← orElse tenants [] (asList readTenant)
        devices := ← orElse devices [] (asList readDeviceGroup)
        metrics := ← orElse metrics {} readMetrics
        logging := ← orElse logging {} readLogging }
  | _ => none

/-- Reads settings from JSON. -/
def ofJson (v : Text.Json.Value) : Option Settings :=
  ofNode (Node.ofJson v)

/-- Reads settings from YAML. -/
def ofYaml (cs : List Char) : Option Settings :=
  (Document.Yaml.read cs).toOption.bind ofNode

/-! ## Writing -/

/-- A text, or null. -/
def optionalText (s : Option String) : Text.Json.Value :=
  match s with
  | none => .null
  | some s => .text s

/-- A number as it is written. -/
def number (n : Nat) : Text.Json.Value :=
  .number (toString n)

/-- The name of a value among several. -/
def nameOf {α : Type} [BEq α] (names : List (String × α)) (a : α) : String :=
  ((names.find? fun entry => entry.2 == a).map Prod.fst).getD ""

/-- A secure listener, written out. -/
def SecureListen.toJson (s : SecureListen) : Text.Json.Value :=
  .object
    [("address", .text s.address), ("cert_path", .text s.certPath),
      ("key_path", .text s.keyPath),
      ("ca_cert_path", optionalText s.caCertPath),
      ("require_client_cert", .bool s.requireClientCert)]

/-- Where to listen, written out. -/
def Listen.toJson (s : Listen) : Text.Json.Value :=
  .object
    [("address", .text s.address), ("max_connections", number s.maxConnections),
      ("tls", (s.tls.map SecureListen.toJson).getD .null)]

/-- How a connection is treated, written out. -/
def Session.toJson (s : Session) : Text.Json.Value :=
  .object
    [("max_keep_alive_timeout_secs", (s.maxKeepAliveSecs.map number).getD
      .null), ("default_keep_alive_secs", number s.defaultKeepAliveSecs.toNat),
      ("service_property_prefix", .text s.propertyLead),
      ("max_message_size", number s.maxMessageSize),
      ("max_pending_inbound_messages", number s.maxPending),
      ("address_templates", .list (s.addressTemplates.map .text))]

/-- Where messages go, written out. -/
def Upstream.toJson (s : Upstream) : Text.Json.Value :=
  .object
    [("endpoint", .text s.endpoint),
      ("tenant_endpoints",
        .object (s.tenantEndpoints.map fun (tenant, endpoint) =>
          (tenant, .text endpoint))),
      ("connection_pool_size", number s.poolSize),
      ("connection_idle_timeout_secs", number s.idleTimeoutSecs),
      ("connect_timeout_ms", number s.connectTimeoutMs),
      ("send_timeout_ms", number s.sendTimeoutMs)]

/-- A tenant, written out. -/
def Tenant.toJson (t : Tenant) : Text.Json.Value :=
  .object
    [("subject", .text t.subject), ("tenant_id", .text t.tenantId),
      ("tenant_name", optionalText t.tenantName),
      ("format", .text (nameOf familyNames t.family)),
      ("layout", .text (nameOf layoutNames t.layout))]

/-- A device, written out with its secret as it was configured. -/
def Device.toJson (d : Device) : Text.Json.Value :=
  .object
    [("id", .text d.id), ("hub_host_name", .text d.hubHostName),
      ("sas_token", .text d.sasToken)]

/-- The devices of a tenant, written out. -/
def DeviceGroup.toJson (g : DeviceGroup) : Text.Json.Value :=
  .object [("tenant_id", .text g.tenantId),
    ("devices", .list (g.devices.map Device.toJson))]

/-- Settings, written out. -/
def toJson (s : Settings) : Text.Json.Value :=
  .object
    [("listen", s.listen.toJson), ("gateway", s.session.toJson),
      ("backend", s.upstream.toJson),
      ("tenants", .list (s.tenants.map Tenant.toJson)),
      ("devices", .list (s.devices.map DeviceGroup.toJson)),
      ("metrics",
        .object [("enabled", .bool s.metrics.enabled),
          ("address", .text s.metrics.address)]),
      ("logging", .object [("level", .text s.logging.level),
        ("json", .bool s.logging.json)])]

end DeviceGateway.Settings
