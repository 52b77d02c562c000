import DeviceGateway.Proofs.Connection.Clocked
import DeviceGateway.Proofs.Session.Standing

/-!
# What a connection asks of its session

Whatever happens to a connection, it asks its session for one thing at most: to
take a parcel in, to take the outcome of the CONNECT in, to check the
keep-alive, or to close.  `asks` says for what, and in which world.  What the
session answers is what the connection goes on with, and if nothing is asked the
session stays as it is.

A connection asks in good order.  Nothing is asked of a session that is closed,
since a connection takes note of the closing before anything else, and a closed
session is not given the rest of the input.  A parcel brings a CONNECT along if
the session wants one.  An outcome is handed to a session that waits for it, and
if it is a good one it brings a bridge with a client.  So a property of sessions
lasts through a whole run if it lasts when something is asked that is `Due`, and
this is all that has to be known of connections.

## Main results

* `happen_heeds`: a connection goes on with the answer of its session.
* `asks_due`: nothing is asked that is not due.
* `run_orderly`: the order lasts.
* `Orderly.lift`: what the answers of a session keep, a run keeps.
-/

namespace DeviceGateway

/-! ## Worlds that a session cannot tell apart -/

/-- What is counted of sessions, without the rest. -/
def Metrics.ofSessions (m : Metrics) : Metrics :=
  { connects := m.connects
    relayed := m.relayed
    relayFailures := m.relayFailures
    keepAliveTimeouts := m.keepAliveTimeouts
    shutdowns := m.shutdowns }

namespace World

variable {σ : Type} {w w' : World σ}

/-- What is counted of sessions, if anything is counted. -/
def sessions (w : World σ) : Option Metrics :=
  w.metrics.map Metrics.ofSessions

/-- Worlds with the same history of the session, in the journal and in the
counts. -/
structure Alike (w w' : World σ) : Prop where
  journal : w'.journal = w.journal
  sessions : w'.sessions = w.sessions

theorem Alike.refl (w : World σ) : w.Alike w := ⟨rfl, rfl⟩

theorem alike_release (w : World σ) (p : DataPacket) : w.Alike (w.release p) :=
  ⟨rfl, rfl⟩

theorem alike_count (w : World σ) {f : Metrics → Metrics}
    (hf : ∀ m, (f m).ofSessions = m.ofSessions) : w.Alike (w.count f) := by
  refine ⟨rfl, ?_⟩
  show (w.metrics.map f).map Metrics.ofSessions =
    w.metrics.map Metrics.ofSessions
  rw [Option.map_map]
  exact congrArg (fun g => w.metrics.map g) (funext hf)

theorem Alike.view {α : Type} (h : w.Alike w') (f : Happening → Option α) :
    w'.view f = w.view f := by
  rw [World.view, h.journal, World.view]

end World

/-! ## Asking -/

namespace Session

variable {σ : Type}

/-- What comes of asking a session for something. -/
def answer (t : Backend.Transport σ) (s : Session) (w : World σ) :
    Demand → Reception × Session × World σ
  | .receive now parcel => s.receive t w now parcel
  | .complete now outcome => (.handled, s.complete t w now outcome)
  | .checkKeepAlive now => (.handled, s.checkKeepAlive t w now)
  | .shutdown cause => (.handled, s.shutdown t w cause)

private theorem answer_announced (t : Backend.Transport σ) {s : Session}
    (h : s.Announced) (w : World σ) (d : Demand) :
    (s.answer t w d).2.1.Announced := by
  cases d with
  | receive now parcel => exact receive_announced t h w now parcel
  | complete now outcome => exact complete_announced t h w now outcome
  | checkKeepAlive now => exact checkKeepAlive_announced t h w now
  | shutdown cause => exact shutdown_announced t h w cause

theorem answer_keeps (t : Backend.Transport σ) (s : Session) (w : World σ)
    (d : Demand) :
    s.Keeps (s.answer t w d).2.1 := by
  cases d with
  | receive now parcel => exact receive_keeps t s w now parcel
  | complete now outcome => exact complete_keeps t s w now outcome
  | checkKeepAlive now => exact checkKeepAlive_keeps t s w now
  | shutdown cause => exact shutdown_keeps t s w cause

end Session

/-- Whether the outcome of a CONNECT is handed over. -/
def Demand.concludes : Demand → Bool
  | .complete .. => true
  | _ => false

/-- What is due to a session: a CONNECT with the data if it wants one, an
outcome if it waits for one, with a client in the bridge.  Nobody but the
session itself misses a CONNECT. -/
def Demand.Due (s : Session) : Demand → Prop
  | .receive _ parcel =>
      s.flags.phase = .notConnected → parcel.data.isSome = true →
      parcel.connect.isSome = true
  | .complete _ outcome => s.flags.phase = .connecting ∧
      (∀ e, outcome = .ok e → ∃ client, e.bridge = ⟨some client, false⟩) ∧
      ∀ failure, outcome = .error failure → failure.code ≠ .connectExpected
  | .checkKeepAlive _ => True
  | .shutdown cause =>
    ∀ failure, cause = some failure → failure.code ≠ .connectExpected

namespace Connection

variable {σ : Type} {v : Services σ} {c : Connection} {w : World σ} {now : Nat}
  {tenancy : Tenancy}

/-- What a round asks of the session: to take in what the topic stage makes of
the next frame, or to close if the frames are at fault. -/
def roundAsks (c : Connection) (w : World σ) (now : Nat) (tenancy : Tenancy) :
    Option (World σ × Demand) :=
  if c.session.flags.closed || c.session.flags.throttled then none
  else
    match (c.chain.next c.input).1 with
    | none => none
    | some (.ok frame) =>
      let needsConnect := c.session.needsConnect && c.connecting.isNone
      let out := c.topic.decode tenancy needsConnect frame w.ledger
      out.1.map fun parcel =>
        ({ w.count Metrics.recordFrame with ledger := out.2.2.2 },
          .receive now parcel)
    | some (.error fault) =>
      if fault.isFatal then
        some (w.count fun m => m.recordDrop (dropReason fault),
          .shutdown
            (some (fault.toFailure.inScope "Decode" c.session.connectionId)))
      else none

/-- A connection goes on with the answer of its session, if it asks for
anything.  It may drop the CONNECT that is in work. -/
inductive Heeds (v : Services σ) (s : Session) (before : Option Connect)
    (w : World σ) :
    Option (World σ × Demand) → Connection × World σ → Prop
  | quiet {out : Connection × World σ} (session : out.1.session = s)
      (connecting : out.1.connecting = before ∨ out.1.connecting = none)
      (world : w.Alike out.2) : Heeds v s before w none out
  | asked {w' : World σ} {d : Demand} {out : Connection × World σ}
      (alike : w.Alike w')
      (session : out.1.session = (s.answer v.transport w' d).2.1)
      (connecting : out.1.connecting =
        (s.answer v.transport w' d).1.request before ∨
        out.1.connecting = none)
      (concluded : d.concludes = true → out.1.connecting = none)
      (world : out.2 = (s.answer v.transport w' d).2.2) :
      Heeds v s before w (some (w', d)) out

private theorem takeFrame_heeds (v : Services σ) (c : Connection) (w : World σ)
    (now : Nat) (tenancy : Tenancy) (frame : Wire.Frame) :
    let needsConnect := c.session.needsConnect && c.connecting.isNone
    let out := c.topic.decode tenancy needsConnect frame w.ledger
    Heeds v c.session c.connecting w
      (out.1.map fun parcel =>
        ({ w.count Metrics.recordFrame with ledger := out.2.2.2 },
          .receive now parcel))
      (c.takeFrame v w now tenancy frame) := by
  have halike : ∀ ledger, w.Alike { w.count Metrics.recordFrame with ledger } :=
    have hcounted := w.alike_count (f := Metrics.recordFrame) fun _ => rfl
    fun _ => ⟨hcounted.journal, hcounted.sessions⟩
  rw [takeFrame_eq]
  dsimp only
  rcases c.topic.decode tenancy (c.session.needsConnect && c.connecting.isNone)
    frame w.ledger with
    ⟨parcel, topic, tenancy', ledger⟩
  cases parcel with
  | none => exact .quiet rfl (.inl rfl) (halike ledger)
  | some parcel =>
    exact .asked (halike ledger) rfl (.inl rfl)
      (absurd · Bool.false_ne_true) rfl

private theorem round_heeds (v : Services σ) (c : Connection) (w : World σ)
    (now : Nat) (tenancy : Tenancy) :
    Heeds v c.session c.connecting w (c.roundAsks w now tenancy)
      (c.round v w now tenancy).2 := by
  unfold roundAsks round
  cases hclosed : c.session.flags.closed with
  | true => exact .quiet rfl (.inl rfl) (.refl w)
  | false =>
    cases hthrottled : c.session.flags.throttled with
    | true => exact .quiet rfl (.inl rfl) (.refl w)
    | false =>
      simp only [Bool.or_self, Bool.false_eq_true, if_false]
      rcases c.chain.next c.input with ⟨outcome, chain, input⟩
      cases outcome with
      | none => exact .quiet rfl (.inl rfl) (.refl w)
      | some outcome =>
        cases outcome with
        | ok frame =>
          exact takeFrame_heeds v { c with chain, input } w now tenancy frame
        | error fault =>
          have hcounted :
              w.Alike (w.count fun m => m.recordDrop (dropReason fault)) :=
            w.alike_count fun _ => rfl
          dsimp only
          cases hfatal : fault.isFatal with
          | true =>
            exact .asked hcounted rfl (.inl rfl)
              (absurd · Bool.false_ne_true) rfl
          | false => exact .quiet rfl (.inl rfl) hcounted

/-! ## Stages before the session -/

/-- A chain that is resolved already, or is as it was made. -/
def Tuned (c : Connection) : Prop :=
  c.chain = Chain.initial ∨ ∃ d tenancy, c.chain.Ready d tenancy

/-- The tenancy of such a chain can be resolved. -/
theorem Tuned.resolve (h : c.Tuned) (v : Services σ) :
    ∃ tenancy chain d, c.chain.resolve v.table v.maxMessageSize c.peer =
      .ok (tenancy, chain) ∧
      chain.Ready d tenancy := by
  rcases h with hinitial | ⟨d, tenancy, hready⟩
  · obtain ⟨chain, hresolve, hready⟩ :=
      Chain.initial_resolve v.table v.maxMessageSize c.peer
    exact ⟨_, chain, _, hinitial ▸ hresolve, hready⟩
  · exact ⟨tenancy, c.chain, d, hready.resolve _ _ _, hready⟩

private theorem takeFrame_finished (v : Services σ) (c : Connection)
    (w : World σ) (now : Nat) (tenancy : Tenancy) (frame : Wire.Frame) :
    (c.takeFrame v w now tenancy frame).1.finished = c.finished := by
  rw [takeFrame_eq]
  dsimp only
  split <;> rfl

/-- A round leaves a chain that was resolved so, and ends no connection. -/
theorem round_rest {d : Wire.Decoder} {known : Tenancy}
    (h : c.chain.Ready d known) (v : Services σ) (w : World σ) (now : Nat)
    (tenancy : Tenancy) :
    (c.round v w now tenancy).2.1.Tuned ∧
      (c.round v w now tenancy).2.1.finished = c.finished := by
  have hcase := rounded v c w now tenancy
  generalize c.round v w now tenancy = out at hcase
  cases hcase with
  | closed hclosed => exact ⟨.inr ⟨d, known, h⟩, rfl⟩
  | throttled hopen hthrottled => exact ⟨.inr ⟨d, known, h⟩, rfl⟩
  | nothing hopen hreading hnext =>
    obtain ⟨d', -, hready⟩ := h.next hnext
    exact ⟨.inr ⟨d', known, hready⟩, rfl⟩
  | @frame hopen hreading chain input frame hnext after hafter =>
    obtain ⟨d', -, hready⟩ := h.next hnext
    obtain ⟨tenancy', hchain, -⟩ :=
      takeFrame_rest v { c with chain, input } w now tenancy frame
    have hfinished :=
      takeFrame_finished v { c with chain, input } w now tenancy frame
    rw [hafter] at hchain hfinished
    refine ⟨.inr ⟨d', tenancy', ?_⟩, hfinished⟩
    rw [hchain]
    exact hready.learn tenancy'
  | gap hopen hreading hnext hmild f =>
    obtain ⟨d', -, hready⟩ := h.next hnext
    exact ⟨.inr ⟨d', known, hready⟩, rfl⟩
  | failed hopen hreading hnext hfatal f cause =>
    obtain ⟨d', -, hready⟩ := h.next hnext
    exact ⟨.inr ⟨d', known, hready⟩, rfl⟩

end Connection

/-- If a session wants a CONNECT, data brings one along. -/
theorem Topic.decode_supplies (t : Topic) (tenancy : Tenancy)
    (frame : Wire.Frame) (l : Ledger) {parcel : Parcel}
    (h : (t.decode tenancy true frame l).1 = some parcel)
    (hdata : parcel.data.isSome = true) : parcel.connect.isSome = true := by
  obtain ⟨hparcel, -⟩ := t.decode_introduce tenancy true frame (l := l) rfl
  rw [h] at hparcel
  obtain ⟨q, -, rfl⟩ := Option.map_eq_some_iff.1 hparcel.symm
  rw [Option.isSome_iff_ne_none, Ne, Topic.introduce_connect_eq_none]
  rw [Topic.introduce_data] at hdata
  simp [Parcel.isEmpty, Option.isSome_iff_ne_none.1 hdata]

/-- Neither a backend nor the frames miss a CONNECT. -/
theorem Backend.Fault.code_ne_connectExpected (fault : Backend.Fault) :
    fault.toFailure.code ≠ .connectExpected := by
  cases fault <;> simp [toFailure, code]

theorem Wire.Fault.code_ne_connectExpected (fault : Wire.Fault) :
    fault.toFailure.code ≠ .connectExpected := by
  cases fault <;> simp [toFailure, Failure.of, code]

/-- A CONNECT that succeeds brings a bridge with a client, and one that fails
does not fail for want of a CONNECT. -/
theorem establish_outcome {σ : Type} (t : Backend.Transport σ) (w : World σ)
    (tenantId : String) (maxKeepAlive : Option Nat) (connectionId : String)
    (request : Connect) :
    let outcome := (establish t w tenantId maxKeepAlive connectionId request).1
    (∀ e, outcome = .ok e → ∃ client, e.bridge = ⟨some client, false⟩) ∧
      ∀ failure, outcome = .error failure →
        failure.code ≠ .connectExpected := by
  unfold establish
  dsimp only
  by_cases hidentity :
      (Identity.authenticate request.deviceId.text request.username
        request.password).authenticated = true
  · rcases hconnect : t.connect w.backend tenantId
      (Identity.authenticate request.deviceId.text request.username
        request.password) with
      ⟨result, backend⟩
    simp only [hidentity, if_true, World.openBridge, hconnect]
    cases result with
    | error fault =>
      refine ⟨fun e he => ?_, fun failure hfailure => ?_⟩
      · cases he
      · cases hfailure
        exact fault.code_ne_connectExpected
    | ok client =>
      refine ⟨fun e he => ?_, fun failure hfailure => ?_⟩
      · cases he
        exact ⟨client, rfl⟩
      · cases hfailure
  · rw [if_neg hidentity]
    refine ⟨fun e he => ?_, fun failure hfailure => ?_⟩
    · cases he
    · cases hfailure
      show Code.authenticationFailed ≠ .connectExpected
      decide

namespace Clocked

variable {σ : Type} {v : Services σ} {r : Clocked σ}

/-! ## Asking in time -/

/-- What a connection asks of its session when something happens, and the world
in which it asks. -/
def asks (v : Services σ) (r : Clocked σ) :
    Incident σ → Option (World σ × Demand)
  | .round =>
    if r.busy then
      match r.connection.chain.resolve v.table v.maxMessageSize
        r.connection.peer with
      | .error fault =>
          some
            (r.world,
              .shutdown
              (some (fault.toFailure.inScope "ResolveTenancy"
                r.connection.session.connectionId)))
      | .ok (tenancy, chain) =>
        { r.connection with chain }.roundAsks r.world r.clock tenancy
    else none
  | .conclude =>
    if r.waiting then
      r.connection.connecting.map fun request =>
        let out := establish v.transport r.world
          ((r.connection.chain.tenancy.map Tenancy.tenantId).getD "")
          v.session.maxKeepAlive
          r.connection.session.connectionId request
        (out.2, .complete r.clock out.1)
    else none
  | .check =>
    if r.waiting && r.connection.session.deadline.any (· ≤ r.clock) then
      some (r.world, .checkKeepAlive r.clock)
    else none
  | .leave failed =>
    if r.waiting then
      some (r.world, .shutdown (failed.map fun text =>
        (Failure.ofIo text).inScope "Read" r.connection.session.connectionId))
    else none
  | .resolve =>
    if r.waiting then
      match r.connection.chain.resolve v.table v.maxMessageSize
        r.connection.peer with
      | .error fault =>
          some
            (r.world,
              .shutdown
              (some (fault.toFailure.inScope "ResolveTenancy"
                r.connection.session.connectionId)))
      | .ok _ => none
    else none
  | .arrive _ | .read _ | .finish | .elsewhere _ => none

/-- Whatever happens, the connection goes on with the answer of its session. -/
theorem happen_heeds (v : Services σ) (r : Clocked σ) (x : Incident σ) :
    Connection.Heeds v r.connection.session r.connection.connecting r.world
      (r.asks v x)
      ((r.happen v x).connection, (r.happen v x).world) := by
  have hidle : Connection.Heeds v r.connection.session r.connection.connecting
      r.world none (r.connection, r.world) := .quiet rfl (.inl rfl) (.refl _)
  cases x with
  | arrive bytes => exact hidle
  | elsewhere backend => exact .quiet rfl (.inl rfl) ⟨rfl, rfl⟩
  | finish =>
    simp only [asks, happen]
    split
    · exact .quiet rfl (.inr rfl) (.refl _)
    · exact hidle
  | read count =>
    simp only [asks, happen]
    split
    · exact .quiet rfl (.inl rfl) (r.world.alike_count fun _ => rfl)
    · exact hidle
  | round =>
    simp only [asks, happen]
    split
    · cases hresolve : r.connection.chain.resolve v.table v.maxMessageSize
        r.connection.peer with
      | error fault =>
        simp only [Clocked.round, Connection.resolve, hresolve]
        exact .asked (.refl _) rfl (.inl rfl) (absurd · Bool.false_ne_true) rfl
      | ok resolved =>
        obtain ⟨tenancy, chain⟩ := resolved
        rw [round_of_resolve hresolve]
        exact Connection.round_heeds v { r.connection with chain } r.world
          r.clock tenancy
    · exact hidle
  | conclude =>
    simp only [asks, happen]
    cases hrequest : r.connection.connecting with
    | none =>
      rw [hrequest] at hidle
      rw [Option.map_none, ite_self]
      exact hidle
    | some request =>
      rw [hrequest] at hidle
      dsimp only [Option.map_some]
      split
      · obtain ⟨backend, hworld⟩ :=
          Connection.establish_world v.transport r.world
            ((r.connection.chain.tenancy.map Tenancy.tenantId).getD "")
            v.session.maxKeepAlive
          r.connection.session.connectionId request
        refine .asked ?_ rfl (.inr rfl) (fun _ => rfl) rfl
        rw [hworld]
        exact ⟨rfl, rfl⟩
      · exact hidle
  | check =>
    simp only [asks, happen]
    split
    · exact .asked (.refl _) rfl (.inl rfl) (absurd · Bool.false_ne_true) rfl
    · exact hidle
  | leave failed =>
    simp only [asks, happen]
    split
    · cases failed with
      | none => exact .asked (.refl _) rfl (.inr rfl) (fun _ => rfl) rfl
      | some text => exact .asked (.refl _) rfl (.inr rfl) (fun _ => rfl) rfl
    · exact hidle
  | resolve =>
    simp only [asks, happen]
    split
    · cases hresolve : r.connection.chain.resolve v.table v.maxMessageSize
        r.connection.peer with
      | error fault =>
        simp only [Connection.resolve, hresolve]
        exact .asked (.refl _) rfl (.inl rfl) (absurd · Bool.false_ne_true) rfl
      | ok resolved =>
        obtain ⟨tenancy, chain⟩ := resolved
        simp only [Connection.resolve, hresolve]
        exact .quiet rfl (.inl rfl) (.refl _)
    · exact hidle

/-! ## Good order -/

/-- A connection whose stages agree: its tenancy can be resolved, it knows when
its session has closed, and while a CONNECT is in work its session waits for the
outcome. -/
structure Orderly (r : Clocked σ) : Prop where
  tuned : r.connection.Tuned
  announced : r.connection.session.Announced
  connecting : r.connection.connecting.isSome = true →
    r.connection.session.flags.phase = .connecting
  finished : r.connection.finished = true →
    r.connection.session.flags.closed = true

theorem start_orderly (v : Services σ) (connectionId : String)
    (peer : Option Peer) (now : Nat) (world : World σ) :
    (start v connectionId peer now world).Orderly :=
  ⟨.inl rfl, rfl, nofun, nofun⟩

theorem Orderly.opened (h : r.Orderly) (hwaiting : r.waiting = true) :
    r.connection.session.flags.closed = false := by
  simp only [waiting, Bool.and_eq_true, Bool.not_eq_true'] at hwaiting
  exact h.announced.symm.trans hwaiting.2

/-- What a round asks of an open session is due.  A frame may bring data to a
session that wants a CONNECT only if the topic stage was told so, and it was:
with a CONNECT in work the session would be in the next phase. -/
private theorem roundAsks_due (h : r.Orderly) {chain : Chain}
    {tenancy : Tenancy} {w : World σ} {d : Demand}
    (hasks : { r.connection with chain }.roundAsks r.world r.clock tenancy =
      some (w, d)) :
    r.connection.session.flags.closed = false ∧ d.Due r.connection.session := by
  simp only [Connection.roundAsks] at hasks
  split at hasks
  · cases hasks
  · next hflags =>
    have hopen : r.connection.session.flags.closed = false := by
      simp only [Bool.or_eq_true, not_or, Bool.not_eq_true] at hflags
      exact hflags.1
    refine ⟨hopen, ?_⟩
    split at hasks
    · cases hasks
    · next frame hframe =>
      obtain ⟨parcel, hparcel, heq⟩ := Option.map_eq_some_iff.1 hasks
      cases heq
      intro hphase hdata
      have hnone : r.connection.connecting = none := by
        cases hconnecting : r.connection.connecting with
        | none => rfl
        | some request =>
          have hwaits := h.connecting (by rw [hconnecting]; rfl)
          exact absurd (hphase.symm.trans hwaits) (by decide)
      have hneeds : (r.connection.session.needsConnect &&
          r.connection.connecting.isNone) = true := by
        simp [Session.needsConnect, hopen, hphase, hnone]
      rw [hneeds] at hparcel
      exact Topic.decode_supplies _ _ _ _ hparcel hdata
    · next fault hframe =>
      split at hasks
      · cases hasks
        intro failure hfailure
        obtain rfl := Option.some.inj hfailure
        exact fault.code_ne_connectExpected
      · cases hasks

/-- Nothing is asked of a session that is closed, and nothing that is not
due. -/
theorem asks_due (h : r.Orderly) {x : Incident σ} {w : World σ} {d : Demand}
    (hasks : r.asks v x = some (w, d)) :
    r.connection.session.flags.closed = false ∧ d.Due r.connection.session := by
  obtain ⟨tenancy, chain, decoder, hresolve, hready⟩ := h.tuned.resolve v
  cases x with
  | arrive bytes => cases hasks
  | elsewhere backend => cases hasks
  | finish => cases hasks
  | read count => cases hasks
  | round =>
    simp only [asks, hresolve] at hasks
    split at hasks
    · exact roundAsks_due h hasks
    · cases hasks
  | conclude =>
    simp only [asks] at hasks
    split at hasks
    · next hwaiting =>
      obtain ⟨request, hrequest, heq⟩ := Option.map_eq_some_iff.1 hasks
      cases heq
      have houtcome := establish_outcome v.transport r.world
        ((r.connection.chain.tenancy.map Tenancy.tenantId).getD "")
        v.session.maxKeepAlive
        r.connection.session.connectionId request
      exact ⟨h.opened hwaiting, h.connecting (by rw [hrequest]; rfl), houtcome⟩
    · cases hasks
  | check =>
    simp only [asks] at hasks
    split at hasks
    · next hdue =>
      cases hasks
      exact ⟨h.opened (Bool.and_eq_true _ _ ▸ hdue).1, trivial⟩
    · cases hasks
  | leave failed =>
    simp only [asks] at hasks
    split at hasks
    · next hwaiting =>
      cases hasks
      refine ⟨h.opened hwaiting, ?_⟩
      intro failure hfailure
      obtain ⟨text, -, rfl⟩ := Option.map_eq_some_iff.1 hfailure
      show Code.channelClosed ≠ .connectExpected
      decide
    · cases hasks
  | resolve =>
    simp only [asks, hresolve] at hasks
    split at hasks <;> cases hasks

/-- The phase of a session while a CONNECT is in work. -/
theorem Due.connecting (t : Backend.Transport σ) {s : Session} {d : Demand}
    (hdue : d.Due s) (w : World σ) {before : Option Connect}
    (hbefore : before.isSome = true → s.flags.phase = .connecting)
    (hconcludes : d.concludes = false)
    (h : ((s.answer t w d).1.request before).isSome = true) :
    (s.answer t w d).2.1.flags.phase = .connecting := by
  cases d with
  | receive now parcel =>
    have hphase := Session.receive_phase t s w now parcel
    simp only [Session.answer] at h ⊢
    generalize s.receive t w now parcel = out at h hphase
    obtain ⟨reception, s', w'⟩ := out
    cases reception with
    | handled => exact hphase.trans (hbefore h)
    | beginConnect request => exact hphase.2
  | complete now outcome => cases hconcludes
  | checkKeepAlive now =>
    exact (Session.checkKeepAlive_phase t s w now).trans (hbefore h)
  | shutdown cause =>
    exact (Session.shutdown_phase t s w cause).trans (hbefore h)

/-- What happens leaves the stages before the session in order, and ends a
connection only if its session is closed. -/
theorem happen_rest (v : Services σ) (h : r.Orderly) (x : Incident σ) :
    (r.happen v x).connection.Tuned ∧
      ((r.happen v x).connection.finished = true →
        r.connection.finished = true ∨
        (r.happen v x).connection.session.flags.closed = true) := by
  obtain ⟨tenancy, chain, d, hresolve, hready⟩ := h.tuned.resolve v
  have hsame : r.connection.Tuned ∧ (r.connection.finished = true →
      r.connection.finished = true ∨
        r.connection.session.flags.closed = true) :=
    ⟨h.tuned, .inl⟩
  cases x with
  | arrive bytes => exact hsame
  | elsewhere backend => exact hsame
  | read count =>
    simp only [happen]
    split
    · exact ⟨h.tuned, .inl⟩
    · exact hsame
  | round =>
    simp only [happen]
    split
    · rw [round_of_resolve hresolve]
      have hrest := Connection.round_rest (c := { r.connection with chain })
        hready v r.world r.clock tenancy
      exact ⟨hrest.1, fun hfinished => .inl (hrest.2.symm.trans hfinished)⟩
    · exact hsame
  | conclude =>
    simp only [happen]
    split
    · exact hsame
    · split
      · exact ⟨h.tuned, .inl⟩
      · exact hsame
  | check =>
    simp only [happen]
    split
    · exact ⟨h.tuned, .inl⟩
    · exact hsame
  | leave failed =>
    simp only [happen]
    split
    · cases failed with
      | none => exact ⟨h.tuned, fun _ => .inr (Session.shutdown_closed _ _ _ _)⟩
      | some text =>
        exact ⟨h.tuned, fun _ => .inr (Session.shutdown_closed _ _ _ _)⟩
    · exact hsame
  | finish =>
    simp only [happen]
    split
    · next hready =>
      rw [Bool.and_eq_true] at hready
      exact ⟨h.tuned, fun _ => .inr (h.announced.symm.trans hready.2)⟩
    · exact hsame
  | resolve =>
    simp only [happen]
    split
    · simp only [Connection.resolve, hresolve]
      exact ⟨.inr ⟨d, tenancy, hready⟩, .inl⟩
    · exact hsame

theorem happen_orderly (v : Services σ) (h : r.Orderly) (x : Incident σ) :
    (r.happen v x).Orderly := by
  obtain ⟨htuned, hends⟩ := happen_rest v h x
  have hdue : ∀ {w : World σ} {d : Demand}, r.asks v x = some (w, d) →
      d.Due r.connection.session :=
    fun hasks => (asks_due h hasks).2
  have hheeds := happen_heeds v r x
  generalize r.asks v x = asked at hdue hheeds
  cases hheeds with
  | quiet session connecting world =>
    refine ⟨htuned, ?_, fun hsome => ?_, fun hfinished => ?_⟩
    · rw [session]
      exact h.announced
    · rw [session]
      apply h.connecting
      rcases connecting with hsame | hnone
      · rw [← hsame]
        exact hsome
      · rw [hnone] at hsome
        cases hsome
    · rcases hends hfinished with hbefore | hclosed
      · rw [session]
        exact h.finished hbefore
      · exact hclosed
  | @asked w' d _ alike session connecting concluded world =>
    refine ⟨htuned, ?_, fun hsome => ?_, fun hfinished => ?_⟩
    · rw [session]
      exact Session.answer_announced v.transport h.announced w' d
    · have hconcludes : d.concludes = false := by
        rw [← Bool.not_eq_true]
        intro hd
        rw [concluded hd] at hsome
        cases hsome
      rw [session]
      apply Due.connecting v.transport (hdue rfl) w' h.connecting hconcludes
      rcases connecting with hsame | hnone
      · rw [← hsame]
        exact hsome
      · rw [hnone] at hsome
        cases hsome
    · rcases hends hfinished with hbefore | hclosed
      · rw [session]
        exact (Session.answer_keeps v.transport _ w' d).closed
          (h.finished hbefore)
      · exact hclosed

theorem Orderly.wait (h : r.Orderly) (delay : Nat) : (r.wait delay).Orderly :=
  ⟨h.tuned, h.announced, h.connecting, h.finished⟩

theorem run_orderly (v : Services σ) (h : r.Orderly)
    (steps : List (Nat × Incident σ)) :
    (r.run v steps).Orderly := by
  induction steps generalizing r with
  | nil => exact h
  | cons x steps ih => exact ih (happen_orderly v (h.wait x.1) x.2)

/-- What the answers of a session keep to what is due, a run keeps: by the order
of the connection the session is open when it is asked, and what is asked is
due. -/
theorem Orderly.lift {P : Session → World σ → Prop}
    (halike : ∀ {s : Session} {w w' : World σ}, w.Alike w' → P s w → P s w')
    (hanswer : ∀ {s : Session} {w : World σ} {d : Demand},
      s.flags.closed = false → d.Due s →
      P s w → P (s.answer v.transport w d).2.1 (s.answer v.transport w d).2.2)
    (h : r.Orderly) (hstart : P r.connection.session r.world)
    (steps : List (Nat × Incident σ)) :
    P (r.run v steps).connection.session (r.run v steps).world := by
  induction steps generalizing r with
  | nil => exact hstart
  | cons x steps ih =>
    have hwait := h.wait x.1
    refine ih (happen_orderly v hwait x.2) ?_
    have hdue : ∀ {w : World σ} {d : Demand},
        (r.wait x.1).asks v x.2 = some (w, d) →
        r.connection.session.flags.closed = false ∧
          d.Due r.connection.session :=
      fun hasks => asks_due hwait hasks
    have hheeds := happen_heeds v (r.wait x.1) x.2
    show P ((r.wait x.1).happen v x.2).connection.session
      ((r.wait x.1).happen v x.2).world
    generalize (r.wait x.1).asks v x.2 = asked at hdue hheeds
    cases hheeds with
    | quiet session connecting world =>
      rw [session]
      exact halike world hstart
    | @asked w' d _ alike session connecting concluded world =>
      obtain ⟨hopen, hd⟩ := hdue rfl
      have hanswered :
          P ((r.wait x.1).connection.session.answer v.transport w' d).2.1
          ((r.wait x.1).connection.session.answer v.transport w' d).2.2 :=
        hanswer hopen hd (halike alike hstart)
      rw [← session, ← world] at hanswered
      exact hanswered

end Clocked

end DeviceGateway
