import DeviceGateway.Backend.Transport

/-!
# A recording backend

A recorder takes messages and remembers them.  It can be told to refuse
connects or sends, which makes it the backend of choice for watching what a
session does.
-/

namespace DeviceGateway.Backend

/-- A message that was taken, and the device it was sent for. -/
structure Sent where
  deviceId : String
  message : Message
  deriving DecidableEq, Repr

/-- What a recorder remembers. -/
structure Recorder where
  connects : Nat := 0
  closes : Nat := 0
  /-- The messages taken, the latest first. -/
  sent : List Sent := []
  /-- The numbers of the clients that were closed. -/
  closed : List Nat := []
  refuseConnects : Bool := false
  refuseSends : Bool := false
  deriving DecidableEq, Repr

namespace Recorder

/-- Makes a client. -/
def connect (r : Recorder) (identity : Identity) :
    Except Fault Client × Recorder :=
  if r.refuseConnects then
    (.error (.connection "recording backend refuses connects"), r)
  else (.ok ⟨r.connects, identity.id⟩, { r with connects := r.connects + 1 })

/-- Takes a message. -/
def send (r : Recorder) (c : Client) (m : Message) :
    Except Fault Unit × Recorder :=
  if c.number ∈ r.closed then (.error (.closed c.deviceId), r)
  else if r.refuseSends then
    (.error (.rejected "recording backend rejects sends"), r)
  else (.ok (), { r with sent := ⟨c.deviceId, m⟩ :: r.sent })

/-- Closes a client, once. -/
def close (r : Recorder) (c : Client) : Recorder :=
  if c.number ∈ r.closed then r
  else { r with closes := r.closes + 1, closed := c.number :: r.closed }

/-- The recorder as a transport; it does not look at the tenant. -/
def transport : Transport Recorder :=
  ⟨fun r _ identity => r.connect identity, send, close⟩

end Recorder

end DeviceGateway.Backend
