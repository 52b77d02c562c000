import DeviceGateway.Connection.Flags
import DeviceGateway.Connection.World
import DeviceGateway.Settings.Basic
import DeviceGateway.Wire.Kind

/-!
# Device sessions

A session is the gateway's end of one device connection.  It starts with a
CONNECT.  While that is being worked on, the device's data waits in a queue,
and when the queue is as long as it may get reading is held back.  When the
CONNECT succeeds the queue is relayed in order, and last the packet that came
together with the CONNECT.  From then on data is relayed as it arrives, and
only data of the device that was authenticated.

A connected session with a keep-alive timeout is checked: silence longer than
the timeout closes it, and otherwise the next check is due when the timeout
would expire.

A session closes once.  Closing gives up every payload it holds, puts its bridge
away and tells the connection; afterwards the session takes nothing and gives up
what it is handed.

## Main results

* `shutdown_of_closed`, `receive_of_closed`: a closed session stays as it is.
* `shutdown_closed`: closing closes.
-/

namespace DeviceGateway

/-- A millisecond.  Instants and spans of time are counted in nanoseconds,
without a bound: a clock has a last instant, and a connection that would
schedule a check beyond it ends there.  Only an upper bound of keep-alive
timeouts close to 2^64 seconds, together with a declared keep-alive of zero,
comes near it. -/
def millisecond : Nat := 1000000

/-- What the sessions of a gateway have in common. -/
structure SessionSetup where
  /-- The upper bound of keep-alive timeouts. -/
  maxKeepAlive : Option Nat
  /-- Stands before the names of the properties the gateway adds. -/
  propertyLead : String
  /-- The length of the queue at which reading is held back. -/
  maxPending : Nat
  deriving DecidableEq, Repr

/-- The setup that settings ask for. -/
def SessionSetup.ofSettings (s : Settings.Session) : SessionSetup :=
  ⟨s.maxKeepAliveMs.map (· * millisecond), s.propertyLead, max s.maxPending 1⟩

/-- The keep-alive timeout for a declared keep-alive in seconds: one and a half
times as long.  A bound takes the place of a longer timeout and of one that is
zero. -/
def keepAliveTimeout (secs : UInt16) (bound : Option Nat) : Nat :=
  let timeout := secs.toNat * 1500 * millisecond
  match bound with
  | none => timeout
  | some bound => if bound < timeout ∨ timeout = 0 then bound else timeout

/-- What a successful CONNECT brings. -/
structure Established where
  identity : Identity
  bridge : Bridge
  keepAlive : Nat

/-- The session of a device connection. -/
structure Session where
  setup : SessionSetup
  connectionId : String
  flags : Flags := {}
  lastActivity : Nat := 0
  /-- The keep-alive timeout; zero means that silence is never too long. -/
  keepAlive : Nat := 0
  /-- When the keep-alive is to be checked. -/
  deadline : Option Nat := none
  identity : Option Identity := none
  /-- The data that waits for the CONNECT, in order of arrival. -/
  pending : List DataPacket := []
  /-- The data that came with the CONNECT. -/
  held : Option DataPacket := none
  bridge : Option Bridge := none
  /-- Whether the connection was told that the session has closed. -/
  signalled : Bool := false

/-- What is to be done after a parcel was received. -/
inductive Reception where
  | handled
  /-- A CONNECT is to be worked on and its outcome handed to `complete`. -/
  | beginConnect (request : Connect)

/-- Authenticates a CONNECT and opens a bridge for its device. -/
def establish {σ : Type} (t : Backend.Transport σ) (w : World σ)
    (tenantId : String) (maxKeepAlive : Option Nat) (connectionId : String)
    (request : Connect) :
    Except Failure Established × World σ :=
  let id := request.deviceId.text
  let identity := Identity.authenticate id request.username request.password
  if identity.authenticated then
    match w.openBridge t tenantId identity with
    | (.error failure, w) =>
      (.error (failure.inScope "Connect" connectionId), w)
    | (.ok bridge, w) =>
      (.ok ⟨identity, bridge, keepAliveTimeout request.keepAliveSecs
        maxKeepAlive⟩, w)
  else
    let failure := Failure.of .authenticationFailed
      ("device '" ++ id ++ "' failed authentication")
    (.error (failure.inScope "Connect" connectionId), w)

namespace Session

variable {σ : Type}

/-- Whether the next data is to bring a CONNECT along. -/
def needsConnect (s : Session) : Bool :=
  !s.flags.closed && s.flags.phase == .notConnected

/-- Closes the session, unless it is closed. -/
def shutdown (t : Backend.Transport σ) (s : Session) (w : World σ)
    (cause : Option Failure) :
    Session × World σ :=
  let w := w.ask cause
  if s.flags.closed then (s, w)
  else
    let cause := cause.map fun failure =>
      failure.inScope "Shutdown" s.connectionId
    let w := w.count fun m => m.recordShutdown (cause.map Failure.code)
    let w := w.releaseAll (s.pending ++ s.held.toList)
    let w := match s.bridge with
      | none => w
      | some bridge => (w.dispose t bridge cause).2
    ({ s with
        flags := s.flags.markClosed.2
        pending := []
        held := none
        deadline := none
        bridge := none
        signalled := true },
      w)

/-- The name of the property that says what a message is. -/
def typeProperty (s : Session) : String :=
  s.setup.propertyLead ++ "MessageType"

/-- The message made of a packet. -/
def messageOf (s : Session) (p : DataPacket) : Backend.Message :=
  Backend.Message.setProperty { address := p.address
                                payload := p.payload } s.typeProperty
    Wire.Kind.deviceToCloud.name

/-- The failure of a session that was handed a packet of another device. -/
def strangerFailure (s : Session) (p : DataPacket) (bound : Identity) :
    Failure :=
  (Failure.of .unresolvedSendingClient
    ("packet for device '" ++ p.deviceId.text ++
      "' on a connection bound to '" ++ bound.id ++
      "'")).inScope "Relay" s.connectionId

/-- The failure of a session whose bridge serves no client. -/
def noClientFailure (s : Session) : Failure :=
  (Failure.of .unresolvedSendingClient
    ("no backend client for destination '" ++ Bridge.events ++ "'")).inScope
      "Relay"
    s.connectionId

/-- Hands a packet of the right device to the backend. -/
def forward (t : Backend.Transport σ) (s : Session) (w : World σ)
    (p : DataPacket) :
    Session × World σ :=
  match s.bridge with
  | none => (s, w.release p)
  | some bridge =>
    match bridge.resolve Bridge.events with
    | none => s.shutdown t (w.release p) (some s.noClientFailure)
    | some client =>
      match w.send t client p.deviceId (s.messageOf p) with
      | (.ok _, w) => (s, w.count Metrics.recordRelay)
      | (.error fault, w) =>
        s.shutdown t (w.count Metrics.recordRelayFailure)
          (some (fault.toFailure.inScope "Relay" s.connectionId))

/-- Relays a packet, unless the session is closed or bound to another device. -/
def relay (t : Backend.Transport σ) (s : Session) (w : World σ)
    (p : DataPacket) :
    Session × World σ :=
  if s.flags.closed then (s, w.release p)
  else
    match s.identity with
    | none => s.forward t w p
    | some bound =>
      if p.deviceId.text = bound.id then s.forward t w p
      else
        { s with flags := s.flags.markMisconfigured }.shutdown t (w.release p)
          (some (s.strangerFailure p bound))

/-- Adds data to the queue, and holds reading back if it is long enough. -/
def enqueue (s : Session) (p : DataPacket) : Session :=
  let pending := s.pending ++ [p]
  { s with
    pending
    flags :=
      if s.setup.maxPending ≤ pending.length then s.flags.throttle true
      else s.flags }

/-- The failure of a session that was handed data before a CONNECT. -/
def connectExpectedFailure (s : Session) : Failure :=
  (Failure.of .connectExpected "device data received before CONNECT").inScope
    "Connect" s.connectionId

/-- Takes a parcel in. -/
def receive (t : Backend.Transport σ) (s : Session) (w : World σ) (now : Nat)
    (parcel : Parcel) :
    Reception × Session × World σ :=
  if s.flags.closed then (.handled, s, w.releaseAll parcel.data.toList)
  else
    let s := { s with lastActivity := now }
    match s.flags.phase, parcel.connect, parcel.data with
    | .connected, _, none => (.handled, s, w)
    | .connected, _, some data => (.handled, s.relay t w data)
    | .connecting, _, none => (.handled, s, w)
    | .connecting, _, some data => (.handled, s.enqueue data, w)
    | .notConnected, some request, data =>
      (.beginConnect request,
        { s with held := data, flags := s.flags.enter .connecting }, w)
    | .notConnected, none, some data =>
      (.handled, s.shutdown t (w.release data) (some s.connectExpectedFailure))
    | .notConnected, none, none => (.handled, s, w)

/-- The failure of a session whose device was silent for too long. -/
def silenceFailure (s : Session) (elapsed : Nat) : Failure :=
  (Failure.of .keepAliveTimedOut
    ("no activity for " ++ toString (elapsed / millisecond) ++
      "ms (keep-alive timeout " ++
      toString (s.keepAlive / millisecond) ++ "ms)")).inScope "KeepAlive"
        s.connectionId

/-- Checks the keep-alive.  The next check is scheduled however far away it is;
see `millisecond`. -/
def checkKeepAlive (t : Backend.Transport σ) (s : Session) (w : World σ)
    (now : Nat) :
    Session × World σ :=
  if s.flags.closed ∨ s.keepAlive = 0 then ({ s with deadline := none }, w)
  else
    let elapsed := now - s.lastActivity
    if s.keepAlive < elapsed then
      { s with deadline := none }.shutdown t w (some (s.silenceFailure elapsed))
    else ({ s with
      deadline := some (now + max (s.keepAlive - elapsed) millisecond) }, w)

/-- Relays the first `count` packets of the queue. -/
def relayPending (t : Backend.Transport σ) :
    Nat → Session → World σ → Session × World σ
  | 0, s, w => (s, w)
  | count + 1, s, w =>
    match s.pending with
    | [] => (s, w)
    | p :: rest =>
      let (s, w) := { s with pending := rest }.relay t w p
      relayPending t count s w

/-- Relays the packet that came with the CONNECT, if it has a payload. -/
def relayHeld (t : Backend.Transport σ) (s : Session) (w : World σ) :
    Session × World σ :=
  match s.held with
  | none => (s, w)
  | some p =>
    let s := { s with held := none }
    if p.payload.bytes.isEmpty then (s, w.release p) else s.relay t w p

/-- Binds the session to an authenticated device. -/
def bind (s : Session) (e : Established) : Session :=
  { s with
    identity := some e.identity
    bridge := some e.bridge
    keepAlive := e.keepAlive
    flags := (s.flags.enter .connected).throttle false }

/-- Takes the outcome of a CONNECT in. -/
def complete (t : Backend.Transport σ) (s : Session) (w : World σ) (now : Nat)
    (outcome : Except Failure Established) : Session × World σ :=
  match outcome with
  | .error failure =>
    s.shutdown t (w.count fun m => m.recordConnect (some failure.code))
      (some failure)
  | .ok e =>
    if s.flags.closed then (s, (w.dispose t e.bridge none).2)
    else
      let w := w.count fun m => m.recordConnect none
      let s := s.bind e
      let (s, w) := if s.keepAlive = 0 then (s, w) else s.checkKeepAlive t w now
      let (s, w) := relayPending t s.pending.length s w
      s.relayHeld t w

/-- The data packets a session holds, in the order in which it gives them up. -/
def holdings (s : Session) : List DataPacket :=
  s.pending ++ s.held.toList

theorem shutdown_of_closed (t : Backend.Transport σ) {s : Session}
    (h : s.flags.closed = true) (w : World σ) (cause : Option Failure) :
    s.shutdown t w cause = (s, w.ask cause) := by
  simp [shutdown, h]

theorem shutdown_closed (t : Backend.Transport σ) (s : Session) (w : World σ)
    (cause : Option Failure) :
    (s.shutdown t w cause).1.flags.closed = true := by
  by_cases h : s.flags.closed <;> simp [shutdown, h, Flags.markClosed]

theorem receive_of_closed (t : Backend.Transport σ) {s : Session}
    (h : s.flags.closed = true) (w : World σ) (now : Nat) (parcel : Parcel) :
    s.receive t w now parcel =
      (.handled, s, w.releaseAll parcel.data.toList) := by
  simp [receive, h]

end Session

end DeviceGateway
