import DeviceGateway.Proofs.Connection.Rounds
import DeviceGateway.Proofs.Session.Effect
import DeviceGateway.Proofs.Tenancy.Chains
import Mathlib.Logic.Relation

/-!
# The course of a connection

Whatever happens to a connection, it is worked off in moves.  A `Move` is one
thing that is done at one moment, together with the condition under which it is
done: a frame is taken by a session that is open and not held back, an outcome
by one whose CONNECT is being worked on, and a frame is read in the tenancy that
the chain knows.  Each operation of a connection is a sequence of moves, so what
every move preserves is preserved by the whole connection.

A `Turn` is what may come next in the course of a connection: an event, an
outcome of the CONNECT that need not be the one the backend gives, or that the
backend has changed because others use it too.  Taking the input up is a turn
as a whole, as part of an event, and in its parts, so a course may also end
between two frames of one read.

## Main results

* `handle_moves`, `course_moves`: every event and every course is worked off in
  moves.
* `moves_preserve`: what every move preserves lasts for a whole course.
* `course_keeps`: a session that was closed stays closed.
-/

namespace DeviceGateway

open Relation (ReflTransGen)

/-- No frame changes what the topic stage was told at the start. -/
theorem Topic.decode_setup (t : Topic) (tenancy : Tenancy) (needsConnect : Bool)
    (frame : Wire.Frame) (l : Ledger) :
    (t.decode tenancy needsConnect frame l).2.1.setup = t.setup := by
  unfold decode
  split
  · rfl
  · rfl
  · rfl
  · rfl
  · split <;> rfl

namespace Connection

variable {σ : Type}

/-- One thing that is done in a connection. -/
inductive Move (v : Services σ) :
    Connection × World σ → Connection × World σ → Prop
  /-- Octets come in. -/
  | arrive {c w} (bytes : List UInt8) : Move v (c, w)
      ({ c with input := c.input ++ bytes }, w)
  /-- What was read is thrown away. -/
  | discard {c w} : Move v (c, w) ({ c with input := [] }, w)
  | count {c w} (f : Metrics → Metrics) : Move v (c, w) (c, w.count f)
  | resolve {c w tenancy chain}
      (h : c.chain.resolve v.table v.maxMessageSize c.peer =
        .ok (tenancy, chain)) :
      Move v (c, w) ({ c with chain }, w)
  | frame {c w chain input} (now : Nat) (tenancy : Tenancy) (frame : Wire.Frame)
      (hopen : c.session.flags.closed = false)
      (hready : c.session.flags.throttled = false)
      (hnext : c.chain.next c.input = (some (.ok frame), chain, input))
      (htenancy : c.chain.tenancy = some tenancy) :
      Move v (c, w) (takeFrame v { c with chain, input } w now tenancy frame)
  /-- The input gives a fault, or nothing. -/
  | gap {c w chain input} (fault : Option Wire.Fault)
      (hopen : c.session.flags.closed = false)
      (hready : c.session.flags.throttled = false)
      (hnext : c.chain.next c.input = (fault.map .error, chain, input)) :
      Move v (c, w) ({ c with chain, input }, w)
  | shutdown {c w} (cause : Option Failure) : Move v (c, w)
      (c.shutdown v w cause)
  | checkKeepAlive {c w} (now : Nat) : Move v (c, w)
      ({ c with session := (c.session.checkKeepAlive v.transport w now).1 },
        (c.session.checkKeepAlive v.transport w now).2)
  | complete {c w} (now : Nat) (outcome : Except Failure Established)
      (h : c.connecting.isSome = true) : Move v (c, w)
      ({ c with
          session := (c.session.complete v.transport w now outcome).1
          connecting := none },
        (c.session.complete v.transport w now outcome).2)
  | finish {c w} : Move v (c, w)
      ({ c with finished := true, connecting := none }, w)
  /-- The backend is changed by what is done elsewhere. -/
  | elsewhere {c w} (backend : σ) : Move v (c, w) (c, { w with backend })

variable {v : Services σ} {c : Connection} {w : World σ} {now : Nat}

/-! ## Taking the input up -/

/-- A round that does not end the processing leaves its tenancy with the
chain. -/
theorem round_moves (v : Services σ) (w : World σ) (now : Nat)
    {tenancy : Tenancy} (htenancy : c.chain.tenancy = some tenancy) :
    ReflTransGen (Move v) (c, w) (c.round v w now tenancy).2 ∧
      ∀ tenancy', (c.round v w now tenancy).1 = some tenancy' →
        (c.round v w now tenancy).2.1.chain.tenancy = some tenancy' := by
  have hkept := c.chain.tenancy_next c.input
  have hcase := rounded v c w now tenancy
  generalize c.round v w now tenancy = out at hcase
  cases hcase with
  | closed hclosed => exact ⟨.single .discard, nofun⟩
  | throttled hopen hthrottled => exact ⟨.refl, nofun⟩
  | nothing hopen hreading hnext =>
    exact ⟨.single (.gap none hopen hreading hnext), nofun⟩
  | @frame hopen hreading _ _ frame hnext after hafter =>
    rw [← hafter]
    exact ⟨.single (.frame now tenancy frame hopen hreading hnext htenancy),
      fun _ h => h⟩
  | @gap hopen hreading chain input fault hnext hmild f =>
    have hgap := ReflTransGen.single
      (Move.gap (v := v) (w := w) (some fault) hopen hreading hnext)
    refine ⟨hgap.tail (.count f), fun tenancy' h => ?_⟩
    obtain rfl : tenancy = tenancy' := Option.some.inj h
    rw [hnext] at hkept
    exact hkept.trans htenancy
  | @failed hopen hreading chain input fault hnext hfatal f cause =>
    have hgap := ReflTransGen.single
      (Move.gap (v := v) (w := w) (some fault) hopen hreading hnext)
    exact ⟨hgap.tail (.count f) |>.tail (.shutdown cause) |>.tail .discard,
      nofun⟩

private theorem processFrames_moves (fuel : Nat) {tenancy : Tenancy}
    (htenancy : c.chain.tenancy = some tenancy) :
    ReflTransGen (Move v) (c, w) (processFrames v now fuel tenancy c w) := by
  induction fuel generalizing c w tenancy with
  | zero => exact .refl
  | succ fuel ih =>
    have hround := round_moves v w now htenancy
    unfold processFrames
    generalize c.round v w now tenancy = out at hround
    obtain ⟨goOn, c', w'⟩ := out
    cases goOn with
    | none => exact hround.1
    | some tenancy' => exact hround.1.trans (ih (hround.2 tenancy' rfl))

/-- A connection whose tenancy cannot be resolved is closed. -/
theorem resolve_moves (v : Services σ) (c : Connection) (w : World σ) :
    ReflTransGen (Move v) (c, w) (c.resolve v w).2 ∧
      ∀ tenancy, (c.resolve v w).1 = some tenancy →
        (c.resolve v w).2.1.chain.tenancy = some tenancy := by
  unfold resolve
  split
  · next tenancy chain h =>
    refine ⟨.single (.resolve h), fun tenancy' hsome => ?_⟩
    cases hsome
    exact Chain.tenancy_resolve h
  · exact ⟨.single (.shutdown _), fun _ h => by cases h⟩

theorem process_moves : ReflTransGen (Move v) (c, w) (c.process v w now) := by
  have hresolve := resolve_moves v c w
  unfold process
  generalize c.resolve v w = out at hresolve
  obtain ⟨goOn, c', w'⟩ := out
  cases goOn with
  | none => exact hresolve.1.tail .discard
  | some tenancy =>
    exact hresolve.1.trans (processFrames_moves _ (hresolve.2 tenancy rfl))

/-! ## Events -/

theorem takeOutcome_moves (outcome : Except Failure Established)
    (h : c.connecting.isSome = true) :
    ReflTransGen (Move v) (c, w) (c.takeOutcome v w now outcome) := by
  have hcomplete :=
    ReflTransGen.single (Move.complete (v := v) (w := w) now outcome h)
  unfold takeOutcome
  dsimp only
  split
  · exact hcomplete
  · exact hcomplete.trans process_moves

/-- Working a CONNECT out changes nothing but the backend. -/
theorem establish_world (t : Backend.Transport σ) (w : World σ)
    (tenantId : String) (maxKeepAlive : Option Nat) (connectionId : String)
    (request : Connect) :
    ∃ backend,
      (establish t w tenantId maxKeepAlive connectionId request).2 =
        { w with backend } := by
  unfold establish
  dsimp only
  split
  · unfold World.openBridge
    generalize t.connect w.backend tenantId _ = out
    obtain ⟨result, backend⟩ := out
    cases result <;> exact ⟨backend, rfl⟩
  · exact ⟨w.backend, rfl⟩

private theorem completeConnect_moves {request : Connect}
    (h : c.connecting = some request) :
    ReflTransGen (Move v) (c, w) (c.completeConnect v w now request) := by
  unfold completeConnect
  dsimp only
  obtain ⟨backend, hworld⟩ := establish_world v.transport w
    ((c.chain.tenancy.map Tenancy.tenantId).getD "") v.session.maxKeepAlive
    c.session.connectionId request
  rw [hworld]
  exact .head (.elsewhere backend) (takeOutcome_moves _ (by rw [h]; rfl))

theorem handle_moves (e : Event) :
    ReflTransGen (Move v) (c, w) (c.handle v w now e) := by
  cases e with
  | sessionClosed => exact .single .finish
  | gatewayShutdown => exact .tail (.single (.shutdown none)) .finish
  | connectReady =>
    unfold handle
    cases hconnecting : c.connecting with
    | none => exact .refl
    | some request => exact completeConnect_moves hconnecting
  | keepAliveDue => exact .single (.checkKeepAlive now)
  | read bytes => exact .head (.arrive bytes) (.head (.count _) process_moves)
  | hungUp => exact .tail (.single (.shutdown none)) .finish
  | readFailed text => exact .tail (.single (.shutdown _)) .finish

/-! ## Courses -/

/-- What may come next in the course of a connection. -/
inductive Turn (σ : Type) where
  | event (now : Nat) (e : Event)
  /-- The CONNECT has its outcome, whatever it is. -/
  | outcome (now : Nat) (outcome : Except Failure Established)
  /-- Octets come in and are not taken up yet. -/
  | arrive (bytes : List UInt8)
  /-- The tenancy is resolved, as on a secure connection before anything is
  read. -/
  | resolve
  /-- One round of taking the input up. -/
  | round (now : Nat)
  /-- Others have used the backend. -/
  | elsewhere (backend : σ)

/-- Takes a turn.  An outcome that no CONNECT waits for is not taken in. -/
def turn (v : Services σ) (r : Connection × World σ) :
    Turn σ → Connection × World σ
  | .event now e => r.1.handle v r.2 now e
  | .outcome now outcome =>
    if r.1.connecting.isSome then r.1.takeOutcome v r.2 now outcome else r
  | .arrive bytes => ({ r.1 with input := r.1.input ++ bytes }, r.2)
  | .resolve => (r.1.resolve v r.2).2
  | .round now =>
    match r.1.resolve v r.2 with
    | (none, c, w) => ({ c with input := [] }, w)
    | (some tenancy, c, w) => (c.round v w now tenancy).2
  | .elsewhere backend => (r.1, { r.2 with backend })

/-- Takes one turn after the other. -/
def course (v : Services σ) (r : Connection × World σ) (turns : List (Turn σ)) :
    Connection × World σ :=
  turns.foldl (turn v) r

theorem turn_moves (v : Services σ) (r : Connection × World σ) (x : Turn σ) :
    ReflTransGen (Move v) r (turn v r x) := by
  obtain ⟨c, w⟩ := r
  cases x with
  | event now e => exact handle_moves e
  | outcome now outcome =>
    simp only [turn]
    split
    · next h => exact takeOutcome_moves outcome h
    · exact .refl
  | arrive bytes => exact .single (.arrive bytes)
  | resolve => exact (resolve_moves v c w).1
  | round now =>
    have hresolve := resolve_moves v c w
    simp only [turn]
    generalize c.resolve v w = out at hresolve
    obtain ⟨goOn, c', w'⟩ := out
    cases goOn with
    | none => exact hresolve.1.tail .discard
    | some tenancy =>
      exact hresolve.1.trans (round_moves v w' now (hresolve.2 tenancy rfl)).1
  | elsewhere backend => exact .single (.elsewhere backend)

theorem course_moves (v : Services σ) (r : Connection × World σ)
    (turns : List (Turn σ)) :
    ReflTransGen (Move v) r (course v r turns) := by
  induction turns generalizing r with
  | nil => exact .refl
  | cons x turns ih => exact (turn_moves v r x).trans (ih _)

/-- What every move preserves is preserved by moves. -/
theorem moves_preserve {v : Services σ} (P : Connection → World σ → Prop)
    (hmove : ∀ {r r' : Connection × World σ}, Move v r r' → P r.1 r.2 →
      P r'.1 r'.2)
    {r r' : Connection × World σ} (h : ReflTransGen (Move v) r r')
    (hr : P r.1 r.2) :
    P r'.1 r'.2 := by
  induction h with
  | refl => exact hr
  | tail _ hlast ih => exact hmove hlast ih

/-! ## The session of a course -/

/-- The session takes in what the topic stage hands over. -/
theorem takeFrame_session (v : Services σ) (c : Connection) (w : World σ)
    (now : Nat) (tenancy : Tenancy) (frame : Wire.Frame) :
    let out := c.topic.decode tenancy
      (c.session.needsConnect && c.connecting.isNone) frame w.ledger
    let w' := { w.count Metrics.recordFrame with ledger := out.2.2.2 }
    ((c.takeFrame v w now tenancy frame).1.session,
      (c.takeFrame v w now tenancy frame).2) =
      match out.1 with
      | none => (c.session, w')
      | some parcel => (c.session.receive v.transport w' now parcel).2 := by
  rw [takeFrame_eq]
  dsimp only
  generalize c.topic.decode tenancy
    (c.session.needsConnect && c.connecting.isNone) frame w.ledger = out
  obtain ⟨parcel, topic, tenancy', ledger⟩ := out
  cases parcel <;> rfl

theorem takeFrame_keeps (v : Services σ) (c : Connection) (w : World σ)
    (now : Nat) (tenancy : Tenancy) (frame : Wire.Frame) :
    c.session.Keeps (c.takeFrame v w now tenancy frame).1.session := by
  have hsession := congrArg Prod.fst (takeFrame_session v c w now tenancy frame)
  dsimp only at hsession
  rw [hsession]
  split
  · exact .refl _
  · exact Session.receive_keeps _ _ _ _ _

theorem move_keeps {r r' : Connection × World σ} (h : Move v r r') :
    r.1.session.Keeps r'.1.session := by
  cases h with
  | arrive bytes => exact .refl _
  | discard => exact .refl _
  | count f => exact .refl _
  | resolve h => exact .refl _
  | @frame c w chain input now tenancy frame hopen hready hnext htenancy =>
    exact takeFrame_keeps v { c with chain, input } w now tenancy frame
  | gap fault hopen hready hnext => exact .refl _
  | shutdown cause => exact Session.shutdown_keeps _ _ _ _
  | checkKeepAlive now => exact Session.checkKeepAlive_keeps _ _ _ _
  | complete now outcome h => exact Session.complete_keeps _ _ _ _ _
  | finish => exact .refl _
  | elsewhere backend => exact .refl _

/-- What lasts in a session lasts for a whole course. -/
theorem course_keeps (v : Services σ) (r : Connection × World σ)
    (turns : List (Turn σ)) :
    r.1.session.Keeps (course v r turns).1.session :=
  moves_preserve (fun c _ => r.1.session.Keeps c.session)
    (fun h hr => hr.trans (move_keeps h)) (course_moves v r turns) (.refl _)

/-! ## The topic stage of a course -/

/-- The topic stage of a connection knows the same throughout. -/
theorem course_topic (v : Services σ) (r : Connection × World σ)
    (turns : List (Turn σ)) :
    (course v r turns).1.topic.setup = r.1.topic.setup := by
  refine moves_preserve (fun c _ => c.topic.setup = r.1.topic.setup)
    (fun {r₁ r₂} hmove hr => ?_) (course_moves v r turns) rfl
  cases hmove with
  | @frame c w chain input now tenancy frame hopen hready hnext htenancy =>
    rw [takeFrame_eq]
    dsimp only
    split
    · exact (Topic.decode_setup _ _ _ _ _).trans hr
    · exact (Topic.decode_setup _ _ _ _ _).trans hr
  | _ => exact hr

end Connection

end DeviceGateway
