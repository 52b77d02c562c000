import DeviceGateway.Connection.Session
import DeviceGateway.Connection.Topic
import DeviceGateway.Settings.Check
import DeviceGateway.Tenancy.Chain

/-!
# Connections

A connection joins the stages of one device: octets come in, the chain cuts
them into frames, the topic stage makes parcels of the frames, and the session
acts on the parcels.  The tenancy is resolved before the first frame, and on a
secure connection at once.

A CONNECT is worked on beside the connection, which goes on reading meanwhile.
While reading is held back, octets that were read stay in the input, and they
are taken up when the CONNECT has its outcome.

Events are taken one at a time.  Of those that are ready together the order is:
the session's own closing, the gateway's shutdown, the outcome of the CONNECT,
the keep-alive check, the socket.
-/

namespace DeviceGateway

/-- What the connections of a gateway have in common. -/
structure Services (σ : Type) where
  transport : Backend.Transport σ
  table : TenantTable
  maxMessageSize : Nat
  topic : TopicSetup
  session : SessionSetup

/-- The services that settings ask for, with the environment as it is now. -/
def Services.ofSettings {σ : Type} (transport : Backend.Transport σ)
    (env : Environment) (s : Settings) : Except Settings.Fault (Services σ) :=
  (Settings.readTemplates s.session.addressTemplates).map fun templates =>
    { transport
      table := TenantTable.ofSettings s.tenants
      maxMessageSize := s.session.maxMessageSize
      topic := ⟨CredentialStore.ofSettings env s.devices, templates,
        s.session.defaultKeepAliveSecs⟩
      session := SessionSetup.ofSettings s.session }

/-- A device connection. -/
structure Connection where
  peer : Option Peer
  chain : Chain := Chain.initial
  topic : Topic
  session : Session
  /-- The octets that were read and not taken up. -/
  input : List UInt8 := []
  /-- The CONNECT that is being worked on. -/
  connecting : Option Connect := none
  finished : Bool := false

namespace Connection

variable {σ : Type}

/-- A fresh connection. -/
def start (v : Services σ) (connectionId : String) (peer : Option Peer)
    (now : Nat) : Connection :=
  { peer
    topic := { setup := v.topic }
    session := { setup := v.session, connectionId, lastActivity := now } }

/-- Closes the session of a connection. -/
def shutdown (v : Services σ) (c : Connection) (w : World σ)
    (cause : Option Failure) :
    Connection × World σ :=
  let (session, w) := c.session.shutdown v.transport w cause
  ({ c with session }, w)

/-- Resolves the tenancy, unless that was done. -/
def resolve (v : Services σ) (c : Connection) (w : World σ) :
    Option Tenancy × Connection × World σ :=
  match c.chain.resolve v.table v.maxMessageSize c.peer with
  | .ok (tenancy, chain) => (some tenancy, { c with chain }, w)
  | .error fault =>
    let failure :=
      fault.toFailure.inScope "ResolveTenancy" c.session.connectionId
    (none, c.shutdown v w (some failure))

/-- The label under which a dropped frame is counted. -/
def dropReason : Wire.Fault → String
  | .lineTooLong _ => "line_too_long"
  | .unknownSignature _ => "unknown_packet_type"
  | _ => "malformed"

/-- Acts on a frame. -/
def takeFrame (v : Services σ) (c : Connection) (w : World σ) (now : Nat)
    (tenancy : Tenancy) (frame : Wire.Frame) : Connection × World σ :=
  let w := w.count Metrics.recordFrame
  let needsConnect := c.session.needsConnect && c.connecting.isNone
  let (parcel, topic, tenancy, ledger) :=
    c.topic.decode tenancy needsConnect frame w.ledger
  let c := { c with topic, chain := { c.chain with tenancy := some tenancy } }
  let w := { w with ledger }
  match parcel with
  | none => (c, w)
  | some parcel =>
    match c.session.receive v.transport w now parcel with
    | (.handled, session, w) => ({ c with session }, w)
    | (.beginConnect request, session, w) =>
      ({ c with session, connecting := some request }, w)

/-- Ends a connection whose frames are at fault. -/
def failFrames (v : Services σ) (c : Connection) (w : World σ)
    (fault : Wire.Fault) :
    Connection × World σ :=
  let failure := fault.toFailure.inScope "Decode" c.session.connectionId
  let (c, w) := c.shutdown v w (some failure)
  ({ c with input := [] }, w)

/-- One round of taking frames off the input.  It gives the tenancy to go on
with, or none if the input gives nothing more or must not be taken now. -/
def round (v : Services σ) (c : Connection) (w : World σ) (now : Nat)
    (tenancy : Tenancy) :
    Option Tenancy × Connection × World σ :=
  if c.session.flags.closed then (none, { c with input := [] }, w)
  else if c.session.flags.throttled then (none, c, w)
  else
    let (outcome, chain, input) := c.chain.next c.input
    let c := { c with chain, input }
    match outcome with
    | none => (none, c, w)
    | some (.ok frame) =>
      let (c, w) := c.takeFrame v w now tenancy frame
      (some (c.chain.tenancy.getD tenancy), c, w)
    | some (.error fault) =>
      let w := w.count fun m => m.recordDrop (dropReason fault)
      if fault.isFatal then (none, c.failFrames v w fault)
      else (some tenancy, c, w)

/-- Takes frames off the input, round by round. -/
def processFrames (v : Services σ) (now : Nat) :
    Nat → Tenancy → Connection → World σ → Connection × World σ
  | 0, _, c, w => (c, w)
  | fuel + 1, tenancy, c, w =>
    match c.round v w now tenancy with
    | (none, c, w) => (c, w)
    | (some tenancy, c, w) => processFrames v now fuel tenancy c w

/-- Takes up the input. -/
def process (v : Services σ) (c : Connection) (w : World σ) (now : Nat) :
    Connection × World σ :=
  match c.resolve v w with
  | (none, c, w) => ({ c with input := [] }, w)
  | (some tenancy, c, w) =>
    processFrames v now (Wire.Decoder.drainFuel c.input) tenancy c w

/-- What can happen to a connection. -/
inductive Event where
  /-- The session was closed. -/
  | sessionClosed
  /-- The gateway shuts down. -/
  | gatewayShutdown
  /-- The CONNECT is worked on to its end. -/
  | connectReady
  /-- The keep-alive is to be checked. -/
  | keepAliveDue
  /-- Octets were read. -/
  | read (bytes : List UInt8)
  /-- The device has closed its end. -/
  | hungUp
  /-- Reading has failed. -/
  | readFailed (text : String)

/-- Takes the outcome of the CONNECT in, and then what was left in the input. -/
def takeOutcome (v : Services σ) (c : Connection) (w : World σ) (now : Nat)
    (outcome : Except Failure Established) : Connection × World σ :=
  let (session, w) := c.session.complete v.transport w now outcome
  let c := { c with session, connecting := none }
  if c.input.isEmpty then (c, w) else c.process v w now

/-- Works the CONNECT out and takes its outcome in. -/
def completeConnect (v : Services σ) (c : Connection) (w : World σ) (now : Nat)
    (request : Connect) : Connection × World σ :=
  let tenantId := (c.chain.tenancy.map Tenancy.tenantId).getD ""
  let (outcome, w) :=
    establish v.transport w tenantId v.session.maxKeepAlive
      c.session.connectionId request
  c.takeOutcome v w now outcome

/-- Acts on an event. -/
def handle (v : Services σ) (c : Connection) (w : World σ) (now : Nat)
    (e : Event) :
    Connection × World σ :=
  let finish (r : Connection × World σ) : Connection × World σ :=
    ({ r.1 with finished := true, connecting := none }, r.2)
  match e with
  | .sessionClosed => finish (c, w)
  | .gatewayShutdown => finish (c.shutdown v w none)
  | .connectReady =>
    match c.connecting with
    | none => (c, w)
    | some request => c.completeConnect v w now request
  | .keepAliveDue =>
    let (session, w) := c.session.checkKeepAlive v.transport w now
    ({ c with session }, w)
  | .read bytes =>
    { c with input := c.input ++ bytes }.process v
      (w.count fun m => m.recordBytes bytes.length) now
  | .hungUp => finish (c.shutdown v w none)
  | .readFailed text =>
    finish (c.shutdown v w
      (some ((Failure.ofIo text).inScope "Read" c.session.connectionId)))

/-! ## What is ready -/

/-- What has come in from around a connection and was not taken. -/
structure Surroundings where
  now : Nat := 0
  /-- The octets in the socket. -/
  arrived : List UInt8 := []
  hungUp : Bool := false
  shutdown : Bool := false
  /-- How many CONNECTs may be worked out; no number means any. -/
  permits : Option Nat := none

/-- The first event that is ready, and what remains around the connection. -/
def ready (c : Connection) (o : Surroundings) : Option (Event × Surroundings) :=
  if c.finished then none
  else if c.session.signalled then some (.sessionClosed, o)
  else if o.shutdown then some (.gatewayShutdown, o)
  else if c.connecting.isSome && o.permits != some 0 then
    some (.connectReady, { o with permits := o.permits.map (· - 1) })
  else if c.session.deadline.any (· ≤ o.now) then some (.keepAliveDue, o)
  else if c.session.flags.throttled then none
  else if !o.arrived.isEmpty then
    some (.read o.arrived, { o with arrived := [] })
  else if o.hungUp then some (.hungUp, o)
  else none

/-- Takes events until none is ready. -/
def settleWith (v : Services σ) :
    Nat → Connection → World σ → Surroundings →
      Connection × World σ × Surroundings
  | 0, c, w, o => (c, w, o)
  | fuel + 1, c, w, o =>
    match c.ready o with
    | none => (c, w, o)
    | some (event, o) =>
      let (c, w) := c.handle v w o.now event
      settleWith v fuel c w o

/-- Takes events until none is ready.  At one instant each of the five sources
has one event at most, and a finished connection has none. -/
def settle (v : Services σ) (c : Connection) (w : World σ) (o : Surroundings) :
    Connection × World σ × Surroundings :=
  settleWith v 8 c w o

end Connection

end DeviceGateway
