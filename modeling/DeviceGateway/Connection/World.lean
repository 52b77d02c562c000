import DeviceGateway.Backend.Transport
import DeviceGateway.Metrics.Basic
import DeviceGateway.Packet

/-!
# What a session acts on

A session sends messages to a backend, gives payloads up and counts what it
does.  All this is outside the session and may be shared with others: the
backend's state, the ledger, the metrics, and a journal of what was handed to
clients, which bridges were put away, and how often the session was asked to
close.

A bridge leads from a session to its client.  It serves one destination, and
closes the client the first time it is put away.
-/

namespace DeviceGateway

/-- The way from a session to its client, if it has one. -/
structure Bridge where
  client : Option Backend.Client
  disposed : Bool := false
  deriving DecidableEq, Repr

/-- What happened to a session at its edge. -/
inductive Happening where
  /-- A message made of a device's packet was handed to a client. -/
  | offered (client : Backend.Client) (deviceId : DeviceId)
    (message : Backend.Message) (result : Except Backend.Fault Unit)
  /-- A bridge was put away. -/
  | disposed (bridge : Bridge) (cause : Option Failure)
  /-- A session was asked to close, whether or not it was open. -/
  | asked (cause : Option Failure)

/-- What a session acts on. -/
structure World (σ : Type) where
  backend : σ
  ledger : Ledger := {}
  /-- The counts, unless nothing is counted. -/
  metrics : Option Metrics := none
  /-- What happened, the latest first. -/
  journal : List Happening := []

namespace Bridge

/-- The destination that messages of devices go to. -/
def events : String := "Events"

/-- The client that serves a destination. -/
def resolve (b : Bridge) (destination : String) : Option Backend.Client :=
  if destination = events then b.client else none

end Bridge

namespace World

variable {σ : Type}

/-- Counts something. -/
def count (w : World σ) (f : Metrics → Metrics) : World σ :=
  { w with metrics := w.metrics.map f }

/-- Gives the payload of a packet up. -/
def release (w : World σ) (p : DataPacket) : World σ :=
  { w with ledger := p.release w.ledger }

/-- Gives the payloads of packets up, in order. -/
def releaseAll (w : World σ) (ps : List DataPacket) : World σ :=
  ps.foldl release w

/-- Notes that a session is asked to close. -/
def ask (w : World σ) (cause : Option Failure) : World σ :=
  { w with journal := .asked cause :: w.journal }

/-- Opens a bridge for a device of a tenant. -/
def openBridge (t : Backend.Transport σ) (w : World σ) (tenantId : String)
    (identity : Identity) :
    Except Failure Bridge × World σ :=
  let (result, backend) := t.connect w.backend tenantId identity
  let w := { w with backend }
  match result with
  | .error fault => (.error fault.toFailure, w)
  | .ok client => (.ok ⟨some client, false⟩, w)

/-- Hands a message made of a device's packet to a client. -/
def send (t : Backend.Transport σ) (w : World σ) (client : Backend.Client)
    (deviceId : DeviceId) (m : Backend.Message) :
    Except Backend.Fault Unit × World σ :=
  let (result, backend) := t.send w.backend client m
  (result,
    { w with
      backend
      ledger := w.ledger.release m.payload
      journal := .offered client deviceId m result :: w.journal })

/-- Puts a bridge away. -/
def dispose (t : Backend.Transport σ) (w : World σ) (b : Bridge)
    (cause : Option Failure) :
    Bridge × World σ :=
  let w := { w with journal := .disposed b cause :: w.journal }
  match b.disposed, b.client with
  | false, some client =>
    ({ b with disposed := true },
      { w with backend := t.close w.backend client })
  | _, _ => ({ b with disposed := true }, w)

end World

end DeviceGateway
