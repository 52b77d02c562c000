import DeviceGateway.Proofs.Connection.Pinning
import DeviceGateway.Proofs.Session.Unmetered

/-!
# What a session takes in

The session of a connection comes to know its device by the parcels that it
receives.  `intake` lists them: those of a round, of taking the input up, of a
turn and of a whole course, in the order in which they are received.  It follows
the rounds of the connection itself and reads off each what the topic stage
makes of the frame.

Two connections are `Alike` if they differ at most in their decoders, in what is
left of their inputs, and in what was counted.  Whatever does not come from the
input keeps them alike.

## Main results

* `Alike.handed`, `Alike.takeFrame`: the same frame makes the same parcel, and
  keeps connections alike.
* `Alike.workOut`, `Alike.complete`: so do a CONNECT and its outcome.
-/

namespace DeviceGateway

namespace Connection

variable {σ : Type}

/-! ## The intake -/

/-- The parcel that the topic stage makes of a frame, if it makes one. -/
def handed (c : Connection) (w : World σ) (tenancy : Tenancy)
    (frame : Wire.Frame) :
    Option Parcel :=
  (c.topic.decode tenancy (c.session.needsConnect && c.connecting.isNone) frame
    w.ledger).1

/-- What the session receives in one round. -/
def roundIntake (c : Connection) (w : World σ) (tenancy : Tenancy) :
    List Parcel :=
  if c.session.flags.closed || c.session.flags.throttled then []
  else
    match (c.chain.next c.input).1 with
    | some (.ok frame) => (c.handed w tenancy frame).toList
    | _ => []

/-- What the session receives while frames are taken off the input. -/
def framesIntake (v : Services σ) (now : Nat) :
    Nat → Tenancy → Connection → World σ → List Parcel
  | 0, _, _, _ => []
  | fuel + 1, tenancy, c, w =>
    c.roundIntake w tenancy ++
      match c.round v w now tenancy with
      | (none, _, _) => []
      | (some tenancy, c, w) => framesIntake v now fuel tenancy c w

/-- What the session receives while the input is taken up. -/
def processIntake (v : Services σ) (c : Connection) (w : World σ) (now : Nat) :
    List Parcel :=
  match c.resolve v w with
  | (none, _, _) => []
  | (some tenancy, c, w) =>
    framesIntake v now (Wire.Decoder.drainFuel c.input) tenancy c w

/-- What the session receives after the outcome of the CONNECT was taken in. -/
def outcomeIntake (v : Services σ) (c : Connection) (w : World σ) (now : Nat)
    (outcome : Except Failure Established) : List Parcel :=
  let (session, w) := c.session.complete v.transport w now outcome
  let c := { c with session, connecting := none }
  if c.input.isEmpty then [] else c.processIntake v w now

/-- What the session receives at a turn. -/
def turnIntake (v : Services σ) (r : Connection × World σ) :
    Turn σ → List Parcel
  | .event now (.read bytes) =>
    { r.1 with input := r.1.input ++ bytes }.processIntake v
      (r.2.count fun m => m.recordBytes bytes.length) now
  | .event now .connectReady =>
    match r.1.connecting with
    | none => []
    | some request =>
      r.1.outcomeIntake v (workOut v r request).2 now (workOut v r request).1
  | .outcome now outcome =>
    if r.1.connecting.isSome then r.1.outcomeIntake v r.2 now outcome else []
  | .round _ =>
    match r.1.resolve v r.2 with
    | (none, _, _) => []
    | (some tenancy, c, w) => c.roundIntake w tenancy
  | _ => []

/-- What the session receives in a course. -/
def intake (v : Services σ) (r : Connection × World σ) :
    List (Turn σ) → List Parcel
  | [] => []
  | x :: turns => turnIntake v r x ++ intake v (turn v r x) turns

/-! ## Connections that are alike -/

/-- Two connections that differ at most in their decoders, in what is left of
their inputs, and in what was counted. -/
structure Alike (r r' : Connection × World σ) : Prop where
  peer : r'.1.peer = r.1.peer
  tenancy : r'.1.chain.tenancy = r.1.chain.tenancy
  topic : r'.1.topic = r.1.topic
  session : r'.1.session = r.1.session
  connecting : r'.1.connecting = r.1.connecting
  finished : r'.1.finished = r.1.finished
  /-- Backend, ledger and journal are the same. -/
  world : r'.2.unmetered = r.2.unmetered

namespace Alike

variable {r r' r'' : Connection × World σ}

theorem refl (r : Connection × World σ) : Alike r r :=
  ⟨rfl, rfl, rfl, rfl, rfl, rfl, rfl⟩

theorem symm (h : Alike r r') : Alike r' r where
  peer := h.peer.symm
  tenancy := h.tenancy.symm
  topic := h.topic.symm
  session := h.session.symm
  connecting := h.connecting.symm
  finished := h.finished.symm
  world := h.world.symm

theorem trans (h : Alike r r') (h' : Alike r' r'') : Alike r r'' where
  peer := h'.peer.trans h.peer
  tenancy := h'.tenancy.trans h.tenancy
  topic := h'.topic.trans h.topic
  session := h'.session.trans h.session
  connecting := h'.connecting.trans h.connecting
  finished := h'.finished.trans h.finished
  world := h'.world.trans h.world

theorem ledger (h : Alike r r') : r'.2.ledger = r.2.ledger := by
  show r'.2.unmetered.ledger = r.2.unmetered.ledger
  rw [h.world]

private theorem backend (h : Alike r r') : r'.2.backend = r.2.backend := by
  show r'.2.unmetered.backend = r.2.unmetered.backend
  rw [h.world]

theorem journal (h : Alike r r') : r'.2.journal = r.2.journal := by
  show r'.2.unmetered.journal = r.2.unmetered.journal
  rw [h.world]

variable (v : Services σ) (now : Nat)

/-- The topic stage makes the same of the same frame. -/
theorem handed (h : Alike r r') (tenancy : Tenancy) (frame : Wire.Frame) :
    r'.1.handed r'.2 tenancy frame = r.1.handed r.2 tenancy frame := by
  rw [Connection.handed, Connection.handed, h.topic, h.session, h.connecting,
    h.ledger]

private theorem receive (h : Alike r r') (parcel : Parcel) :
    Alike (r.1.receive v r.2 now parcel) (r'.1.receive v r'.2 now parcel) := by
  have hreceive :=
    (Session.blind_receive v.transport r.1.session now parcel).congr h.world
  obtain ⟨hreception, hsession⟩ := Prod.mk.inj hreceive.1
  simp only [Connection.receive, h.session, h.connecting]
  exact { h with
    session := hsession
    connecting := by rw [hreception]
    world := hreceive.2 }

theorem takeFrame (h : Alike r r') (tenancy : Tenancy) (frame : Wire.Frame) :
    Alike (r.1.takeFrame v r.2 now tenancy frame)
      (r'.1.takeFrame v r'.2 now tenancy frame) := by
  rw [takeFrame_eq, takeFrame_eq]
  dsimp only
  rw [h.topic, h.session, h.connecting, h.ledger]
  generalize r.1.topic.decode tenancy
    (r.1.session.needsConnect && r.1.connecting.isNone) frame r.2.ledger = out
  obtain ⟨parcel, topic, tenancy', ledger⟩ := out
  have hworld : { r'.2.count Metrics.recordFrame with ledger }.unmetered =
      { r.2.count Metrics.recordFrame with ledger }.unmetered := by
    simp only [World.unmetered, World.count, h.backend, h.journal]
  have hinformed : Alike
      (r.1.informed topic tenancy',
        { r.2.count Metrics.recordFrame with ledger })
      (r'.1.informed topic tenancy',
        { r'.2.count Metrics.recordFrame with ledger }) :=
    { h with tenancy := rfl, topic := rfl, world := hworld }
  cases parcel with
  | none => exact hinformed
  | some parcel => exact hinformed.receive v now parcel

theorem shutdown (h : Alike r r') (cause : Option Failure) :
    Alike (r.1.shutdown v r.2 cause) (r'.1.shutdown v r'.2 cause) := by
  have hshutdown :=
    (Session.blind_shutdown v.transport r.1.session cause).congr h.world
  simp only [Connection.shutdown, h.session]
  exact { h with session := hshutdown.1, world := hshutdown.2 }

theorem checkKeepAlive (h : Alike r r') :
    Alike
      ({ r.1 with
        session := (r.1.session.checkKeepAlive v.transport r.2 now).1 },
        (r.1.session.checkKeepAlive v.transport r.2 now).2)
      ({ r'.1 with
        session := (r'.1.session.checkKeepAlive v.transport r'.2 now).1 },
        (r'.1.session.checkKeepAlive v.transport r'.2 now).2) := by
  have hcheck :=
    (Session.blind_checkKeepAlive v.transport r.1.session now).congr h.world
  rw [h.session]
  exact { h with session := hcheck.1, world := hcheck.2 }

theorem complete (h : Alike r r') (outcome : Except Failure Established) :
    Alike
      ({ r.1 with
          session := (r.1.session.complete v.transport r.2 now outcome).1
          connecting := none },
        (r.1.session.complete v.transport r.2 now outcome).2)
      ({ r'.1 with
          session := (r'.1.session.complete v.transport r'.2 now outcome).1
          connecting := none },
        (r'.1.session.complete v.transport r'.2 now outcome).2) := by
  have hcomplete :=
    (Session.blind_complete v.transport r.1.session now outcome).congr h.world
  rw [h.session]
  exact
    { h with
      session := hcomplete.1
      connecting := rfl
      world := hcomplete.2 }

/-- A CONNECT is worked out alike, because it is for the same tenant. -/
theorem workOut (h : Alike r r') (request : Connect) :
    (workOut v r' request).1 = (workOut v r request).1 ∧
      Alike (r.1, (workOut v r request).2)
        (r'.1, (workOut v r' request).2) := by
  have hwork :=
    (blind_establish v.transport
      ((r.1.chain.tenancy.map Tenancy.tenantId).getD "") v.session.maxKeepAlive
      r.1.session.connectionId request).congr h.world
  simp only [Connection.workOut, h.tenancy, h.session]
  exact ⟨hwork.1, { h with world := hwork.2 }⟩

theorem finish (h : Alike r r') :
    Alike ({ r.1 with finished := true, connecting := none }, r.2)
      ({ r'.1 with finished := true, connecting := none }, r'.2) :=
  { h with finished := rfl, connecting := rfl }

end Alike

end Connection

end DeviceGateway
