import DeviceGateway.Backend.Envelope
import DeviceGateway.Settings.Basic

/-!
# The upstream pool

Devices share a fixed number of upstream connections.  A device belongs to a
slot that depends on its id alone, so all its messages travel over one
connection and keep their order.

A connection has at most one stream at a time.  A stream is opened when it is
needed and there is none, and given up when it was idle for too long or a write
on it failed.  A write that fails may have left a part of an envelope on its
stream, so nothing is written there again: the next envelope starts on a fresh
stream.

What the network does is not for the pool to decide.  The outcomes of opening a
stream and of writing to one are handed in, each by its number, so a statement
about all networks is a statement about all such functions.
-/

namespace DeviceGateway.Backend

/-- What comes of opening a stream. -/
inductive Dial where
  | opened
  | failed (text : String)
  | timedOut
  deriving DecidableEq, Repr

/-- What comes of a write.  One that does not succeed may have left the first
`written` octets. -/
inductive Write where
  | done
  | failed (written : Nat) (text : String)
  | timedOut (written : Nat)
  deriving DecidableEq, Repr

/-- What the network does: the outcome of each attempt to open a stream and of
each write, counted from zero. -/
structure Network where
  dial : Nat → Dial
  write : Nat → Write

/-- What a pool is told. -/
structure PoolSetup where
  endpoint : String
  size : Nat
  connectTimeout : Nat
  sendTimeout : Nat
  idleTimeout : Nat
  /-- The slot of a device. -/
  slotOf : String → Nat

/-- The setup that settings ask for.  Which slot a device gets is left to
`spread`; a pool has one slot at least. -/
def PoolSetup.ofSettings (u : Settings.Upstream) (endpoint : String)
    (spread : String → Nat) :
    PoolSetup :=
  let size := max u.poolSize 1
  { endpoint, size, connectTimeout := u.connectTimeoutMs
    sendTimeout := u.sendTimeoutMs,
    idleTimeout := u.idleTimeoutSecs * 1000
    slotOf := fun deviceId => spread deviceId % size }

/-- An upstream connection: its stream, if it has one, and when it was used. -/
structure Line where
  stream : Option Nat := none
  lastUsed : Nat := 0
  deriving DecidableEq, Repr

/-- A client of a pool. -/
structure PoolClient where
  deviceId : String
  line : Nat
  closed : Bool := false
  deriving DecidableEq, Repr

/-- The state of a pool. -/
structure Pool where
  now : Nat := 0
  /-- The connection of each slot that was used. -/
  slots : List (Nat × Nat) := []
  /-- All connections; a client keeps its own even when its slot has another. -/
  lines : List Line := []
  /-- The octets written on each stream. -/
  streams : List (List UInt8) := []
  clients : List PoolClient := []
  dials : Nat := 0
  writes : Nat := 0
  deriving DecidableEq, Repr

namespace Pool

/-- How many slots have a connection. -/
def openSlots (p : Pool) : Nat :=
  p.slots.length

/-- The connection of a slot, a fresh one if the slot has none. -/
def lineOf (p : Pool) (slot : Nat) : Nat × Pool :=
  match p.slots.lookup slot with
  | some line => (line, p)
  | none =>
    let line := p.lines.length
    (line, { p with slots := (slot, line) :: p.slots, lines := p.lines ++
      [{ lastUsed := p.now }] })

/-- Changes a connection. -/
def setLine (p : Pool) (index : Nat) (line : Line) : Pool :=
  { p with lines := p.lines.set index line }

/-- Opens a stream on a connection. -/
def dial (s : PoolSetup) (n : Network) (p : Pool) (index : Nat) :
    Except Fault Nat × Pool :=
  let outcome := n.dial p.dials
  let p := { p with dials := p.dials + 1 }
  match outcome with
  | .opened =>
    let stream := p.streams.length
    (.ok stream,
      { p with streams := p.streams ++ [[]] }.setLine index
      ⟨some stream, p.now⟩)
  | .failed text => (.error (.connection text), p)
  | .timedOut => (.error (.connectTimeout s.endpoint s.connectTimeout), p)

/-- The stream of a connection, opened if there is none or it was idle for too
long. -/
def refresh (s : PoolSetup) (n : Network) (p : Pool) (index : Nat) :
    Except Fault Nat × Pool :=
  let line := (p.lines[index]?).getD {}
  match line.stream with
  | none => p.dial s n index
  | some stream =>
    if s.idleTimeout < p.now - line.lastUsed then
      (p.setLine index { line with stream := none }).dial s n index
    else (.ok stream, p)

/-- Adds octets to a stream. -/
def append (p : Pool) (stream : Nat) (bytes : List UInt8) : Pool :=
  { p with streams := p.streams.modify stream (· ++ bytes) }

/-- Writes an envelope on a connection. -/
def write (s : PoolSetup) (n : Network) (p : Pool) (index : Nat)
    (frame : List UInt8) :
    Except Fault Unit × Pool :=
  match p.refresh s n index with
  | (.error fault, p) => (.error fault, p)
  | (.ok stream, p) =>
    let line := (p.lines[index]?).getD {}
    let outcome := n.write p.writes
    let p := { p with writes := p.writes + 1 }
    match outcome with
    | .done =>
      (.ok (), (p.append stream frame).setLine index ⟨some stream, p.now⟩)
    | .failed written text =>
      (.error (.connection text),
        (p.append stream (frame.take written)).setLine index
          { line with stream := none })
    | .timedOut written =>
      (.error (.sendTimeout s.sendTimeout),
        (p.append stream (frame.take written)).setLine index
          { line with stream := none })

/-- Makes a client for a device, once its connection has a stream. -/
def connect (s : PoolSetup) (n : Network) (p : Pool) (identity : Identity) :
    Except Fault Client × Pool :=
  let (index, p) := p.lineOf (s.slotOf identity.id)
  match p.refresh s n index with
  | (.error fault, p) => (.error fault, p)
  | (.ok _, p) =>
    (.ok ⟨p.clients.length, identity.id⟩,
      { p with clients := p.clients ++ [⟨identity.id, index, false⟩] })

/-- Sends a message. -/
def send (s : PoolSetup) (n : Network) (p : Pool) (c : Client) (m : Message) :
    Except Fault Unit × Pool :=
  match p.clients[c.number]? with
  | none => (.error (.closed c.deviceId), p)
  | some client =>
    if client.closed then (.error (.closed client.deviceId), p)
    else p.write s n client.line (Envelope.of client.deviceId m).encode

/-- Closes a client; its connection is left to the others. -/
def close (p : Pool) (c : Client) : Pool :=
  { p with clients := p.clients.modify c.number fun client => { client with
    closed := true } }

/-- Gives up the streams of all slots, and the slots. -/
def disconnect (p : Pool) : Pool :=
  let lines := p.slots.foldl (fun lines (_, index) =>
    lines.modify index fun line => { line with stream := none }) p.lines
  { p with lines, slots := [] }

/-- Lets time pass. -/
def advance (p : Pool) (milliseconds : Nat) : Pool :=
  { p with now := p.now + milliseconds }

/-- A pool as a transport; it does not look at the tenant. -/
def transport (s : PoolSetup) (n : Network) : Transport Pool :=
  ⟨fun p _ identity => p.connect s n identity, send s n, close⟩

end Pool

end DeviceGateway.Backend
