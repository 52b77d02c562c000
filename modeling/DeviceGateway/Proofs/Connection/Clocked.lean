import DeviceGateway.Proofs.Connection.Settling

/-!
# Connections in time

A connection takes its time.  Octets arrive in its socket whether or not it
reads, a CONNECT is worked on for as long as it takes, and a message may be long
on its way to the backend while more is waiting.  A `Clocked` connection has a
clock, and it has its socket: what arrived and was not read, and what was read,
each octet with the instant at which it arrived.

Whatever the connection does is done at an instant, and any time may pass before
the next thing is done.  So reading is not one event here.  What was read is
taken up round by round, each at its own instant, and the connection is busy
until nothing is left to take up.  The same is true of what had to wait for the
outcome of the CONNECT.  A busy connection does nothing else.

## Main results

* `rounds_process`: rounds at one instant take the input up.
* `read_handled`, `conclude_handled`: events are worked off in this way.
-/

namespace DeviceGateway

/-- A connection in time. -/
structure Clocked (σ : Type) where
  connection : Connection
  world : World σ
  clock : Nat
  /-- The octets that were not read, with the instants at which they arrived. -/
  socket : List (Nat × UInt8) := []
  /-- The octets that were read. -/
  heard : List (Nat × UInt8) := []
  /-- Whether the input is being taken up. -/
  busy : Bool := false

/-- What can come next in time. -/
inductive Incident (σ : Type) where
  /-- Octets arrive in the socket. -/
  | arrive (bytes : List UInt8)
  /-- So many octets are read, or all there are. -/
  | read (count : Nat)
  /-- One round of taking the input up. -/
  | round
  /-- The CONNECT is worked out, and its outcome is taken in. -/
  | conclude
  /-- The keep-alive is checked. -/
  | check
  /-- Reading has failed, or the device has closed its end, or the gateway shuts
  down. -/
  | leave (failed : Option String)
  /-- The closing of the session is taken note of. -/
  | finish
  /-- The tenancy is resolved, as on a secure connection before anything is
  read. -/
  | resolve
  /-- Others have used the backend. -/
  | elsewhere (backend : σ)

/-- The outcome of a CONNECT is taken in, and the input is left as it is. -/
def Connection.concluded {σ : Type} (v : Services σ) (c : Connection)
    (w : World σ) (now : Nat) (outcome : Except Failure Established) :
    Connection × World σ :=
  let out := c.session.complete v.transport w now outcome
  ({ c with session := out.1, connecting := none }, out.2)

namespace Clocked

variable {σ : Type}

/-- A fresh connection. -/
def start (v : Services σ) (connectionId : String) (peer : Option Peer)
    (now : Nat) (world : World σ) : Clocked σ :=
  { connection := Connection.start v connectionId peer now, world
    clock := now }

/-- Time passes. -/
def wait (r : Clocked σ) (delay : Nat) : Clocked σ :=
  { r with clock := r.clock + delay }

/-- Whether the connection waits for its next event. -/
def waiting (r : Clocked σ) : Bool :=
  !r.busy && !r.connection.finished && !r.connection.session.signalled

theorem idle_of_waiting {r : Clocked σ} (h : r.waiting = true) :
    r.busy = false := by
  simp only [waiting, Bool.and_eq_true, Bool.not_eq_true'] at h
  exact h.1.1

/-- What is done to the connection, and whether it is busy then. -/
def put (r : Clocked σ) (out : Connection × World σ) (busy : Bool) :
    Clocked σ :=
  { r with connection := out.1, world := out.2, busy }

/-- Reads from the socket. -/
def read (r : Clocked σ) (count : Nat) : Clocked σ :=
  let bytes := (r.socket.take count).map Prod.snd
  { r with
    connection := { r.connection with input := r.connection.input ++ bytes }
    world := r.world.count fun m => m.recordBytes bytes.length
    socket := r.socket.drop count
    heard := r.heard ++ r.socket.take count
    busy := true }

/-- Takes one frame off the input, or finds that nothing more is to be taken. -/
def round (v : Services σ) (r : Clocked σ) : Clocked σ :=
  match r.connection.resolve v r.world with
  | (none, c, w) => r.put ({ c with input := [] }, w) false
  | (some tenancy, c, w) =>
    let out := c.round v w r.clock tenancy
    r.put out.2 out.1.isSome

/-- Works the CONNECT out and takes its outcome in.  What is left in the input
comes next. -/
def conclude (v : Services σ) (r : Clocked σ) (request : Connect) : Clocked σ :=
  let c := r.connection
  let tenantId := (c.chain.tenancy.map Tenancy.tenantId).getD ""
  let out := establish v.transport r.world tenantId v.session.maxKeepAlive
    c.session.connectionId request
  r.put (c.concluded v out.2 r.clock out.1) (!c.input.isEmpty)

/-- What a connection does that has nothing left to take up. -/
def serve (v : Services σ) (r : Clocked σ) (e : Connection.Event) : Clocked σ :=
  r.put (r.connection.handle v r.world r.clock e) false

/-- The event with which a connection ends. -/
def ending (failed : Option String) : Connection.Event :=
  match failed with
  | none => .gatewayShutdown
  | some text => .readFailed text

/-- Something happens now.  What the connection is not ready for does not
happen. -/
def happen (v : Services σ) (r : Clocked σ) : Incident σ → Clocked σ
  | .arrive bytes =>
    { r with socket := r.socket ++ bytes.map fun byte => (r.clock, byte) }
  | .elsewhere backend => { r with world := { r.world with backend } }
  | .round => if r.busy then r.round v else r
  | .finish =>
    if !r.busy && r.connection.session.signalled then r.serve v .sessionClosed
    else r
  | .read count =>
    if r.waiting && !r.connection.session.flags.throttled then
      r.read count else r
  | .conclude =>
    match r.connection.connecting with
    | none => r
    | some request => if r.waiting then r.conclude v request else r
  | .check =>
    if r.waiting && r.connection.session.deadline.any (· ≤ r.clock) then
      r.serve v .keepAliveDue
    else r
  | .leave failed => if r.waiting then r.serve v (ending failed) else r
  | .resolve =>
    if r.waiting then r.put (r.connection.resolve v r.world).2 false else r

/-- Some time passes, and then something happens. -/
def step (v : Services σ) (r : Clocked σ) (x : Nat × Incident σ) : Clocked σ :=
  (r.wait x.1).happen v x.2

/-- One thing after the other. -/
def run (v : Services σ) (r : Clocked σ) (steps : List (Nat × Incident σ)) :
    Clocked σ :=
  steps.foldl (step v) r

theorem run_append (v : Services σ) (r : Clocked σ)
    (steps more : List (Nat × Incident σ)) :
    r.run v (steps ++ more) = (r.run v steps).run v more :=
  List.foldl_append

/-! ## Events in time -/

variable {v : Services σ} {r : Clocked σ}

/-- The connection after some rounds, made one after the other at this
instant. -/
def rounds (v : Services σ) (r : Clocked σ) (count : Nat) : Clocked σ :=
  r.run v (List.replicate count (0, .round))

theorem rounds_succ (hbusy : r.busy = true) (count : Nat) :
    r.rounds v (count + 1) = (r.round v).rounds v count := by
  have hstep : r.step v (0, .round) = r.round v := by
    show (if r.busy then r.round v else r) = r.round v
    rw [if_pos hbusy]
  unfold rounds
  rw [List.replicate_succ]
  show (r.step v (0, .round)).run v _ = _
  rw [hstep]

/-- A round resolves the tenancy if that was not done. -/
theorem round_of_resolve {tenancy : Tenancy} {chain : Chain}
    (hresolve : r.connection.chain.resolve v.table v.maxMessageSize
      r.connection.peer =
      .ok (tenancy, chain)) :
    r.round v =
      let out := { r.connection with chain }.round v r.world r.clock tenancy
      r.put out.2 out.1.isSome := by
  simp only [round, Connection.resolve, hresolve]

/-- Rounds go on until there is nothing left, and have the effect of a loop of
them. -/
theorem rounds_processFrames {fuel : Nat} {tenancy : Tenancy} {chain : Chain}
    {d : Wire.Decoder} (hbusy : r.busy = true)
    (hresolve : r.connection.chain.resolve v.table v.maxMessageSize
      r.connection.peer =
      .ok (tenancy, chain))
    (hready : chain.Ready d tenancy)
    (hfuel : d.credit r.connection.input < fuel) :
    ∃ count, r.rounds v count =
      r.put (Connection.processFrames v r.clock fuel tenancy
        { r.connection with chain } r.world) false := by
  induction fuel generalizing r tenancy chain d with
  | zero => exact absurd hfuel (Nat.not_lt_zero _)
  | succ fuel ih =>
    have hfirst := round_of_resolve hresolve
    unfold Connection.processFrames
    rcases hround : { r.connection with chain }.round v r.world r.clock tenancy
      with
      ⟨goOn, c', w'⟩
    rw [hround] at hfirst ⊢
    cases goOn with
    | none =>
      refine ⟨1, ?_⟩
      rw [rounds_succ hbusy, hfirst]
      rfl
    | some tenancy' =>
      obtain ⟨d', hready', hless⟩ := Connection.round_credit hready hround
      have hagain := hready'.resolve v.table v.maxMessageSize c'.peer
      obtain ⟨count, hcount⟩ := ih (r := r.put (c', w') true) rfl hagain hready'
        (Nat.lt_of_lt_of_le hless (Nat.le_of_lt_succ hfuel))
      refine ⟨count + 1, ?_⟩
      rw [rounds_succ hbusy, hfirst]
      exact hcount

/-- A closed session takes no frame. -/
private theorem processFrames_of_closed (v : Services σ) (now fuel : Nat)
    (tenancy : Tenancy) {c : Connection} (h : c.session.flags.closed = true)
    (w : World σ) :
    Connection.processFrames v now (fuel + 1) tenancy c w =
      ({ c with input := [] }, w) := by
  simp [Connection.processFrames, Connection.round, h]

/-- Rounds at one instant take the input up, as one event would.  A closed
session takes nothing, whether or not the tenancy can be resolved. -/
theorem rounds_process (hbusy : r.busy = true)
    (hresolves : Connection.Resolves v r.connection) :
    ∃ count, r.rounds v count =
      r.put (r.connection.process v r.world r.clock) false := by
  cases hclosed : r.connection.session.flags.closed with
  | false =>
    obtain ⟨tenancy, chain, d, hresolve, hready⟩ := hresolves hclosed
    rw [Connection.process_of_resolve hresolve]
    exact rounds_processFrames hbusy hresolve hready
      (Wire.Decoder.credit_lt_drainFuel d _)
  | true =>
    refine ⟨1, ?_⟩
    rw [rounds_succ hbusy]
    cases hresolve : r.connection.chain.resolve v.table v.maxMessageSize
      r.connection.peer with
    | error fault =>
      simp only [round, Connection.process, Connection.resolve, hresolve]
      rfl
    | ok resolved =>
      obtain ⟨tenancy, chain⟩ := resolved
      have hround : { r.connection with chain }.round v r.world r.clock
          tenancy =
          (none, { r.connection with chain, input := [] }, r.world) :=
            if_pos hclosed
      have hframes : Connection.processFrames v r.clock
          (Wire.Decoder.drainFuel r.connection.input) tenancy
            { r.connection with chain } r.world =
            ({ r.connection with chain, input := [] }, r.world) :=
        processFrames_of_closed v r.clock _ tenancy
          (c := { r.connection with chain }) hclosed r.world
      rw [round_of_resolve hresolve, Connection.process_of_resolve hresolve,
        hround, hframes]
      rfl

/-- What is read is taken up by rounds at the same instant as by one event. -/
theorem read_handled (hresolves : Connection.Resolves v r.connection)
    (count : Nat) :
    ∃ more, (r.read count).rounds v more =
      (r.read count).put (r.connection.handle v r.world r.clock
        (.read ((r.socket.take count).map Prod.snd))) false :=
  rounds_process rfl hresolves

/-- So is what had to wait for the outcome of the CONNECT. -/
theorem conclude_handled (hresolves : Connection.Resolves v r.connection)
    {request : Connect} (hrequest : r.connection.connecting = some request) :
    ∃ more, (r.conclude v request).rounds v more = r.serve v .connectReady := by
  let c := r.connection
  let tenantId := (c.chain.tenancy.map Tenancy.tenantId).getD ""
  let out := establish v.transport r.world tenantId v.session.maxKeepAlive
    c.session.connectionId request
  let concluded := c.concluded v out.2 r.clock out.1
  have hserve : r.serve v .connectReady =
      r.put (c.takeOutcome v out.2 r.clock out.1) false := by
    simp only [serve, Connection.handle, hrequest]
    rfl
  have hconclude : r.conclude v request =
      r.put concluded (!c.input.isEmpty) := rfl
  rw [hserve, hconclude]
  by_cases hempty : c.input.isEmpty = true
  · have htaken : c.takeOutcome v out.2 r.clock out.1 = concluded :=
      if_pos hempty
    refine ⟨0, ?_⟩
    rw [htaken, hempty]
    rfl
  · have htaken : c.takeOutcome v out.2 r.clock out.1 =
        concluded.1.process v concluded.2 r.clock := if_neg hempty
    obtain ⟨more, hmore⟩ := rounds_process (r := r.put concluded true) rfl
      (hresolves.complete out.2 r.clock out.1)
    refine ⟨more, ?_⟩
    rw [htaken, Bool.eq_false_iff.2 hempty]
    exact hmore

end Clocked

end DeviceGateway
