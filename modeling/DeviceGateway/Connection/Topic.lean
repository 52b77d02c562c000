import DeviceGateway.Address
import DeviceGateway.Device.Credential
import DeviceGateway.Tenancy.Basic

/-!
# The topic stage

The topic stage turns frames into parcels.  Data gets the address it will be
sent to, unless its sender chose one, and the next number in the order of
arrival, starting with one.  While the session has not begun to connect, data
also brings a CONNECT along, made from the stored credential of its device; a
device without one connects without a credential, and it is for the identity
check to refuse it.

A heartbeat is an empty parcel.  A frame of a skipped kind and a line that
cannot be read give no parcel at all.
-/

namespace DeviceGateway

/-- What the topic stage of a connection knows. -/
structure TopicSetup where
  credentials : CredentialStore
  templates : List Address.Template
  /-- The keep-alive of a CONNECT that the stage makes itself. -/
  keepAliveSecs : UInt16

namespace TopicSetup

/-- The CONNECT made on behalf of a device. -/
def connectFor (s : TopicSetup) (tenancy : Tenancy) (deviceId : DeviceId) :
    Connect :=
  match s.credentials.find? tenancy.tenantId deviceId.text with
  | none => Connect.withoutCredential deviceId s.keepAliveSecs
  | some credential =>
    ⟨deviceId, credential.username, credential.password, s.keepAliveSecs⟩

/-- The address that messages of a device are sent to. -/
def addressFor (s : TopicSetup) (tenancy : Tenancy) (deviceId : DeviceId) :
    String :=
  Address.resolve s.templates
    [("deviceId", deviceId.text), ("tenantId", tenancy.tenantId)]

end TopicSetup

/-- The topic stage of a connection; `next` is the number of the next data. -/
structure Topic where
  setup : TopicSetup
  next : Nat := 1

namespace Topic

/-- Makes a parcel of a reading. -/
def take (t : Topic) (tenancy : Tenancy) (needsConnect : Bool) (r : Reading)
    (l : Ledger) :
    Parcel × Topic × Ledger :=
  let (packet, l) := r.take l
  let address :=
    if packet.address = "" then t.setup.addressFor tenancy packet.deviceId
    else packet.address
  let connect := if needsConnect then
    some (t.setup.connectFor tenancy packet.deviceId) else none
  (⟨connect, some { packet with address, sequence := t.next }⟩,
    { t with next := t.next + 1 }, l)

/-- The parcel a frame gives, if any, and what is known after it. -/
def decode (t : Topic) (tenancy : Tenancy) (needsConnect : Bool)
    (frame : Wire.Frame) (l : Ledger) :
    Option Parcel × Topic × Tenancy × Ledger :=
  match frame with
  | .connect request => (some ⟨some request, none⟩, t, tenancy, l)
  | .heartbeat => (some Parcel.empty, t, tenancy, l)
  | .skipped _ => (none, t, tenancy, l)
  | .data reading =>
    let (parcel, t, l) := t.take tenancy needsConnect reading l
    (some parcel, t, tenancy, l)
  | .line bytes =>
    match tenancy.decodeLine bytes with
    | (none, tenancy) => (none, t, tenancy, l)
    | (some reading, tenancy) =>
      let (parcel, t, l) := t.take tenancy needsConnect reading l
      (some parcel, t, tenancy, l)

end Topic

end DeviceGateway
