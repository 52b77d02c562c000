import DeviceGateway.Device.Id
import DeviceGateway.Ledger

/-!
# What a device says

A device says one of two things: who it is, with a `Connect`, or what it
measured, with a `Reading`.  Binary frames and text lines both come down to
these.  A reading that enters the gateway becomes a `DataPacket`, whose octets
are entered in the ledger, and a `Parcel` is what one frame hands to the
session: a CONNECT, data, both or neither.

## Main results

* `DataPacket.release_outstanding`: giving a packet up crosses out one entry.
-/

namespace DeviceGateway

/-- A request to open a session for a device. -/
structure Connect where
  deviceId : DeviceId
  username : String
  password : String
  keepAliveSecs : UInt16
  deriving DecidableEq

namespace Connect

/-- A request that carries no credential. -/
def withoutCredential (deviceId : DeviceId) (keepAliveSecs : UInt16) :
    Connect :=
  ⟨deviceId, "", "", keepAliveSecs⟩

/-- A credential is carried if there is a username. -/
def hasCredential (c : Connect) : Bool :=
  c.username != ""

end Connect

/-- Data as a device sent it.  The address is empty unless the sender chose one,
and only text lines carry a timestamp. -/
structure Reading where
  deviceId : DeviceId
  address : String
  bytes : List UInt8
  timestamp : Option String
  deriving DecidableEq

/-- A reading of octets alone, without an address or a timestamp. -/
def Reading.of (deviceId : DeviceId) (bytes : List UInt8) : Reading :=
  ⟨deviceId, "", bytes, none⟩

/-- Data inside the gateway: its octets are entered in the ledger. -/
structure DataPacket where
  deviceId : DeviceId
  address : String
  payload : Payload
  sequence : Nat
  timestamp : Option String
  deriving DecidableEq

/-- Takes a reading in, with sequence number zero. -/
def Reading.take (r : Reading) (l : Ledger) : DataPacket × Ledger :=
  let (payload, l) := l.allocate r.bytes
  (⟨r.deviceId, r.address, payload, 0, r.timestamp⟩, l)

/-- Gives the payload of a packet up. -/
def DataPacket.release (p : DataPacket) (l : Ledger) : Ledger :=
  l.release p.payload

/-- What one frame hands to the session. -/
structure Parcel where
  connect : Option Connect
  data : Option DataPacket
  deriving DecidableEq

/-- What a heartbeat hands over. -/
def Parcel.empty : Parcel := ⟨none, none⟩

/-- A parcel with neither part. -/
def Parcel.isEmpty (p : Parcel) : Bool :=
  p.connect.isNone && p.data.isNone

theorem DataPacket.release_outstanding (p : DataPacket) (l : Ledger) :
    (p.release l).outstanding = l.outstanding - 1 := by
  simp only [DataPacket.release, Ledger.outstanding, Ledger.allocated_release,
    Ledger.released_release]
  omega

end DeviceGateway
