import DeviceGateway.Connection.Handler

/-!
# Rounds of taking the input up

A connection takes its input up round by round.  `Rounded` lists the ways in
which a round can go, each with its conditions and the exact connection and
world that come out, so that nothing about connections needs to look at the text
of a round again.  `takeFrame_eq` does the same for taking one frame.

## Main results

* `takeFrame_eq`: the session receives what the topic stage makes of a frame.
* `rounded`: the list is complete.
-/

namespace DeviceGateway

/-- The CONNECT that is worked on after a parcel was received. -/
def Reception.request (before : Option Connect) : Reception → Option Connect
  | .handled => before
  | .beginConnect request => some request

namespace Connection

variable {σ : Type} {v : Services σ} {c : Connection} {w : World σ}

/-! ## One frame -/

/-- The connection once the topic stage has seen a frame. -/
def informed (c : Connection) (topic : Topic) (tenancy : Tenancy) :
    Connection :=
  { c with topic, chain := { c.chain with tenancy := some tenancy } }

/-- The connection once its session has received a parcel. -/
def receive (v : Services σ) (c : Connection) (w : World σ) (now : Nat)
    (parcel : Parcel) :
    Connection × World σ :=
  let out := c.session.receive v.transport w now parcel
  ({ c with session := out.2.1, connecting := out.1.request c.connecting },
    out.2.2)

/-- The session receives what the topic stage makes of a frame. -/
theorem takeFrame_eq (v : Services σ) (c : Connection) (w : World σ) (now : Nat)
    (tenancy : Tenancy) (frame : Wire.Frame) :
    c.takeFrame v w now tenancy frame =
      let needsConnect := c.session.needsConnect && c.connecting.isNone
      let out := c.topic.decode tenancy needsConnect frame w.ledger
      let w' := { w.count Metrics.recordFrame with ledger := out.2.2.2 }
      match out.1 with
      | none => (c.informed out.2.1 out.2.2.1, w')
      | some parcel =>
          (c.informed out.2.1 out.2.2.1).receive v w' now parcel := by
  have hledger : (w.count Metrics.recordFrame).ledger = w.ledger := rfl
  simp only [takeFrame, hledger]
  generalize c.topic.decode tenancy
    (c.session.needsConnect && c.connecting.isNone) frame w.ledger = out
  obtain ⟨parcel, topic, tenancy', ledger⟩ := out
  cases parcel with
  | none => rfl
  | some parcel =>
    simp only [receive, informed]
    generalize c.session.receive v.transport _ now parcel = out
    obtain ⟨reception, session, w'⟩ := out
    cases reception <;> rfl

/-- Taking a frame leaves the decoder, the input and the peer as they are. -/
theorem takeFrame_rest (v : Services σ) (c : Connection) (w : World σ)
    (now : Nat) (tenancy : Tenancy) (frame : Wire.Frame) :
    ∃ tenancy', (c.takeFrame v w now tenancy frame).1.chain =
        { c.chain with tenancy := some tenancy' } ∧
      (c.takeFrame v w now tenancy frame).1.input = c.input ∧
      (c.takeFrame v w now tenancy frame).1.peer = c.peer := by
  rw [takeFrame_eq]
  dsimp only
  split
  · exact ⟨_, rfl, rfl, rfl⟩
  · exact ⟨_, rfl, rfl, rfl⟩

theorem takeFrame_tenancy (v : Services σ) (c : Connection) (w : World σ)
    (now : Nat) (tenancy : Tenancy) (frame : Wire.Frame) :
    ∃ tenancy', (c.takeFrame v w now tenancy frame).1.chain.tenancy =
      some tenancy' := by
  obtain ⟨tenancy', hchain, -⟩ := takeFrame_rest v c w now tenancy frame
  exact ⟨tenancy', by rw [hchain]⟩

/-! ## One round -/

/-- The ways in which a round can go. -/
inductive Rounded (v : Services σ) (c : Connection) (w : World σ) (now : Nat)
    (tenancy : Tenancy) : Option Tenancy × Connection × World σ → Prop
  | closed (hclosed : c.session.flags.closed = true) :
      Rounded v c w now tenancy (none, { c with input := [] }, w)
  | throttled (hopen : c.session.flags.closed = false)
      (hthrottled : c.session.flags.throttled = true) :
      Rounded v c w now tenancy (none, c, w)
  | nothing (hopen : c.session.flags.closed = false)
      (hreading : c.session.flags.throttled = false)
      {chain : Chain} {input : List UInt8}
      (hnext : c.chain.next c.input = (none, chain, input)) :
      Rounded v c w now tenancy (none, { c with chain, input }, w)
  | frame (hopen : c.session.flags.closed = false)
      (hreading : c.session.flags.throttled = false)
      {chain : Chain} {input : List UInt8} {frame : Wire.Frame}
      (hnext : c.chain.next c.input = (some (.ok frame), chain, input))
      {after : Connection × World σ}
      (hafter :
        { c with chain, input }.takeFrame v w now tenancy frame = after) :
      Rounded v c w now tenancy (after.1.chain.tenancy, after)
  /-- A frame at fault is dropped. -/
  | gap (hopen : c.session.flags.closed = false)
      (hreading : c.session.flags.throttled = false)
      {chain : Chain} {input : List UInt8} {fault : Wire.Fault}
      (hnext : c.chain.next c.input = (some (.error fault), chain, input))
      (hmild : fault.isFatal = false) (f : Metrics → Metrics) :
      Rounded v c w now tenancy
        (some tenancy, { c with chain, input }, w.count f)
  /-- A fault ends the connection. -/
  | failed (hopen : c.session.flags.closed = false)
      (hreading : c.session.flags.throttled = false)
      {chain : Chain} {input : List UInt8} {fault : Wire.Fault}
      (hnext : c.chain.next c.input = (some (.error fault), chain, input))
      (hfatal : fault.isFatal = true) (f : Metrics → Metrics)
      (cause : Option Failure) :
      Rounded v c w now tenancy (none,
        { c with
          chain
          session := (c.session.shutdown v.transport (w.count f) cause).1
          input := [] },
        (c.session.shutdown v.transport (w.count f) cause).2)

theorem rounded (v : Services σ) (c : Connection) (w : World σ) (now : Nat)
    (tenancy : Tenancy) :
    Rounded v c w now tenancy (c.round v w now tenancy) := by
  unfold round
  cases hclosed : c.session.flags.closed with
  | true => exact .closed hclosed
  | false =>
    cases hthrottled : c.session.flags.throttled with
    | true => exact .throttled hclosed hthrottled
    | false =>
      simp only [Bool.false_eq_true, if_false]
      rcases hnext : c.chain.next c.input with ⟨outcome, chain, input⟩
      cases outcome with
      | none => exact .nothing hclosed hthrottled hnext
      | some outcome =>
        cases outcome with
        | ok frame =>
          obtain ⟨tenancy', htenancy⟩ :=
            takeFrame_tenancy v { c with chain, input } w now tenancy frame
          have hframe : Rounded v c w now tenancy (_, _) :=
            .frame hclosed hthrottled hnext rfl
          rw [htenancy] at hframe
          simp only [htenancy, Option.getD_some]
          exact hframe
        | error fault =>
          dsimp only
          cases hfatal : fault.isFatal with
          | false =>
            rw [if_neg Bool.false_ne_true]
            exact .gap hclosed hthrottled hnext hfatal _
          | true =>
            rw [if_pos rfl]
            exact .failed hclosed hthrottled hnext hfatal _ _

/-- A chain that can be resolved has its frames taken in the tenancy it resolves
to. -/
theorem process_of_resolve {tenancy : Tenancy} {chain : Chain}
    (hresolve : c.chain.resolve v.table v.maxMessageSize c.peer =
      .ok (tenancy, chain))
    (w : World σ) (now : Nat) : c.process v w now =
      processFrames v now (Wire.Decoder.drainFuel c.input) tenancy
        { c with chain } w := by
  simp only [process, resolve, hresolve]

end Connection

end DeviceGateway
