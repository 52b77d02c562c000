import DeviceGateway.Connection.Session
import DeviceGateway.Proofs.Session.Journal

/-!
# What the operations of a session do

Each operation on a session is opened here once.  `Relayed`, `Checked` and
`Received` list the ways in which relaying a packet, checking the keep-alive and
taking a parcel in can go, each with the condition under which it goes so and
the exact session and world that come out.  Whoever proves something about
sessions splits on these and never on the text of the operations.

What all operations have in common is `Keeps`: the setup and the connection id
stay, a flag that lasts is not taken back, and a session that is closed or has
not begun a CONNECT holds nothing.

## Main results

* `relayed`, `checked`, `received`: the lists are complete.
* `shutdown_keeps` to `complete_keeps`: every operation keeps what lasts.
* `complete_of_closed`: a CONNECT that succeeds too late has its bridge put
  away, and the session stays as it is.
-/

namespace DeviceGateway

/-- The message that a packet travels in. -/
def SessionSetup.message (setup : SessionSetup) (p : DataPacket) :
    Backend.Message :=
  { address := p.address
    payload := p.payload
    properties := [(setup.propertyLead ++ "MessageType", "D2C")] }

namespace Session

variable {σ α : Type}

/-! ## Closing -/

/-- What is left of a session when it was closed. -/
def ended (s : Session) : Session :=
  { s with
    flags := s.flags.markClosed.2
    pending := []
    held := none
    deadline := none
    bridge := none
    signalled := true }

/-- What the bridge of a session is told about the cause of closing. -/
def told (s : Session) (cause : Option Failure) : Option Failure :=
  cause.map fun failure => failure.inScope "Shutdown" s.connectionId

/-- A session that is closed and holds nothing: no data, no bridge, no check
that is due. -/
structure Spent (s : Session) : Prop where
  closed : s.flags.closed = true
  pending : s.pending = []
  held : s.held = none
  deadline : s.deadline = none
  bridge : s.bridge = none

theorem ended_spent (s : Session) : s.ended.Spent := ⟨rfl, rfl, rfl, rfl, rfl⟩

theorem shutdown_of_open (t : Backend.Transport σ) {s : Session}
    (h : s.flags.closed = false) (w : World σ) (cause : Option Failure) :
    (s.shutdown t w cause).1 = s.ended := by
  simp [shutdown, h, ended]

/-- Closing asks first, then puts the bridge away if there is one. -/
theorem view_shutdown (t : Backend.Transport σ) {s : Session}
    (h : s.flags.closed = false) (w : World σ) (cause : Option Failure)
    (f : Happening → Option α) :
    (s.shutdown t w cause).2.view f =
      w.view f ++ (f (.asked cause)).toList ++
        s.bridge.toList.flatMap fun b =>
          (f (.disposed b (s.told cause))).toList := by
  cases hbridge : s.bridge <;> simp [shutdown, h, hbridge, told]

/-! ## What lasts -/

/-- What no operation takes from a session. -/
structure Keeps (s s' : Session) : Prop where
  setup : s'.setup = s.setup
  connectionId : s'.connectionId = s.connectionId
  closed : s.flags.closed = true → s'.flags.closed = true
  misconfigured : s.flags.misconfigured = true → s'.flags.misconfigured = true
  /-- A session is spent if it is closed. -/
  spent : (s.flags.closed = true → s.Spent) → s'.flags.closed = true → s'.Spent
  /-- A session that has not begun a CONNECT holds no data of one. -/
  unheld : (s.flags.phase = .notConnected → s.held = none) →
    s'.flags.phase = .notConnected → s'.held = none

namespace Keeps

theorem refl (s : Session) : s.Keeps s := ⟨rfl, rfl, id, id, id, id⟩

theorem trans {s₁ s₂ s₃ : Session} (h : s₁.Keeps s₂) (h' : s₂.Keeps s₃) :
    s₁.Keeps s₃ where
  setup := h'.setup.trans h.setup
  connectionId := h'.connectionId.trans h.connectionId
  closed := h'.closed ∘ h.closed
  misconfigured := h'.misconfigured ∘ h.misconfigured
  spent := h'.spent ∘ h.spent
  unheld := h'.unheld ∘ h.unheld

/-- A session that is open was open. -/
theorem opened {s s' : Session} (h : s.Keeps s')
    (hopen : s'.flags.closed = false) :
    s.flags.closed = false := by
  cases hclosed : s.flags.closed with
  | false => rfl
  | true =>
    exact absurd (hopen.symm.trans (h.closed hclosed)) Bool.false_ne_true

/-- A step of an open session to an open one has little to keep. -/
theorem of_open {s s' : Session} (hopen : s.flags.closed = false)
    (hopen' : s'.flags.closed = false) (hsetup : s'.setup = s.setup)
    (hconnection : s'.connectionId = s.connectionId)
    (hflag : s'.flags.misconfigured = s.flags.misconfigured)
    (hunheld : (s.flags.phase = .notConnected → s.held = none) →
      s'.flags.phase = .notConnected → s'.held = none) : s.Keeps s' where
  setup := hsetup
  connectionId := hconnection
  closed h := by rw [hopen] at h; cases h
  misconfigured h := hflag.trans h
  spent _ h := by rw [hopen'] at h; cases h
  unheld := hunheld

end Keeps

theorem shutdown_keeps (t : Backend.Transport σ) (s : Session) (w : World σ)
    (cause : Option Failure) : s.Keeps (s.shutdown t w cause).1 := by
  cases hclosed : s.flags.closed with
  | true =>
    rw [shutdown_of_closed t hclosed]
    exact .refl s
  | false =>
    rw [shutdown_of_open t hclosed]
    exact ⟨rfl, rfl, fun _ => rfl, id, fun _ _ => ended_spent s, fun _ _ => rfl⟩

/-! ## Relaying -/

theorem messageOf_eq (s : Session) (p : DataPacket) :
    s.messageOf p = s.setup.message p := rfl

private theorem resolve_events (b : Bridge) :
    b.resolve Bridge.events = b.client := if_pos rfl

/-- Whether a packet is of the device a session is bound to, if it is bound. -/
def Owns (s : Session) (p : DataPacket) : Prop :=
  ∀ bound, s.identity = some bound → p.deviceId.text = bound.id

/-- The ways in which relaying a packet on an open session can go. -/
inductive Relayed (t : Backend.Transport σ) (s : Session) (w : World σ)
    (p : DataPacket) :
    Session × World σ → Prop
  /-- The packet is of another device. -/
  | stranger (bound : Identity) (hbound : s.identity = some bound)
      (hid : p.deviceId.text ≠ bound.id) :
      Relayed t s w p ({ s with flags := s.flags.markMisconfigured }.shutdown t
        (w.release p)
        (some (s.strangerFailure p bound)))
  | bridgeless (hown : s.Owns p) (hbridge : s.bridge = none) :
      Relayed t s w p (s, w.release p)
  /-- The bridge serves no client. -/
  | unserved (hown : s.Owns p) (bridge : Bridge)
      (hbridge : s.bridge = some bridge) (hclient : bridge.client = none) :
      Relayed t s w p (s.shutdown t (w.release p) (some s.noClientFailure))
  | accepted (hown : s.Owns p) (bridge : Bridge)
      (hbridge : s.bridge = some bridge) (client : Backend.Client)
      (hclient : bridge.client = some client) (u : Unit)
      (hsend : (w.send t client p.deviceId (s.setup.message p)).1 = .ok u) :
      Relayed t s w p
        (s, (w.send t client p.deviceId (s.setup.message p)).2.count
          Metrics.recordRelay)
  /-- The client does not take the message. -/
  | refused (hown : s.Owns p) (bridge : Bridge)
      (hbridge : s.bridge = some bridge) (client : Backend.Client)
      (hclient : bridge.client = some client) (fault : Backend.Fault)
      (hsend : (w.send t client p.deviceId (s.setup.message p)).1 =
        .error fault) :
      Relayed t s w p (s.shutdown t
        ((w.send t client p.deviceId (s.setup.message p)).2.count
          Metrics.recordRelayFailure)
        (some (fault.toFailure.inScope "Relay" s.connectionId)))

private theorem forwarded (t : Backend.Transport σ) {s : Session} (w : World σ)
    {p : DataPacket} (hown : s.Owns p) : Relayed t s w p (s.forward t w p) := by
  unfold forward
  cases hbridge : s.bridge with
  | none => exact .bridgeless hown hbridge
  | some bridge =>
    simp only [resolve_events]
    cases hclient : bridge.client with
    | none => exact .unserved hown bridge hbridge hclient
    | some client =>
      simp only [messageOf_eq]
      split
      · next u w' hsend =>
        have := Relayed.accepted (t := t) (w := w) hown bridge hbridge client
          hclient u (by rw [hsend])
        rwa [hsend] at this
      · next fault w' hsend =>
        have := Relayed.refused (t := t) (w := w) hown bridge hbridge client
          hclient fault (by rw [hsend])
        rwa [hsend] at this

theorem relayed (t : Backend.Transport σ) {s : Session}
    (hopen : s.flags.closed = false) (w : World σ) (p : DataPacket) :
    Relayed t s w p (s.relay t w p) := by
  have hnot : ¬ s.flags.closed = true := by simp [hopen]
  rw [relay, if_neg hnot]
  split
  · next hbound =>
      exact forwarded t w fun bound h => by rw [hbound] at h; cases h
  · next bound hbound =>
    split
    · next hid =>
      refine forwarded t w fun bound' h => ?_
      rw [hbound] at h
      cases h
      exact hid
    · next hid => exact .stranger bound hbound hid

theorem relay_of_closed (t : Backend.Transport σ) {s : Session}
    (h : s.flags.closed = true) (w : World σ) (p : DataPacket) :
    s.relay t w p = (s, w.release p) := by
  simp [relay, h]

theorem relay_keeps (t : Backend.Transport σ) (s : Session) (w : World σ)
    (p : DataPacket) :
    s.Keeps (s.relay t w p).1 := by
  cases hclosed : s.flags.closed with
  | true =>
    rw [relay_of_closed t hclosed]
    exact .refl s
  | false =>
    have hcase := relayed t hclosed w p
    generalize s.relay t w p = out at hcase
    cases hcase with
    | stranger bound hbound hid =>
      refine .trans ?_ (shutdown_keeps t _ _ _)
      exact
        { setup := rfl, connectionId := rfl, closed := id
          misconfigured := fun _ => rfl
          spent := fun _ h => by
            have hclosed' : s.flags.closed = true := h
            rw [hclosed] at hclosed'
            cases hclosed'
          unheld := id }
    | bridgeless hown hbridge => exact .refl s
    | unserved hown bridge hbridge hclient => exact shutdown_keeps t s _ _
    | accepted hown bridge hbridge client hclient u hsend => exact .refl s
    | refused hown bridge hbridge client hclient fault hsend =>
      exact shutdown_keeps t s _ _

/-! ## Checking the keep-alive -/

/-- The ways in which checking the keep-alive can go. -/
inductive Checked (t : Backend.Transport σ) (s : Session) (w : World σ)
    (now : Nat) :
    Session × World σ → Prop
  /-- Nothing is to be checked. -/
  | unsupervised (h : s.flags.closed = true ∨ s.keepAlive = 0) :
      Checked t s w now ({ s with deadline := none }, w)
  | silent (hopen : s.flags.closed = false) (hpos : s.keepAlive ≠ 0)
      (hlate : s.keepAlive < now - s.lastActivity) :
      Checked t s w now ({ s with deadline := none }.shutdown t w
        (some (s.silenceFailure (now - s.lastActivity))))
  | timely (hopen : s.flags.closed = false) (hpos : s.keepAlive ≠ 0)
      (htimely : now - s.lastActivity ≤ s.keepAlive) :
      Checked t s w now
        ({ s with deadline := some (now +
          max (s.keepAlive - (now - s.lastActivity)) millisecond) },
          w)

theorem checked (t : Backend.Transport σ) (s : Session) (w : World σ)
    (now : Nat) :
    Checked t s w now (s.checkKeepAlive t w now) := by
  unfold checkKeepAlive
  split
  · next h => exact .unsupervised h
  · next h =>
    rw [not_or, Bool.not_eq_true] at h
    by_cases hlate : s.keepAlive < now - s.lastActivity
    · simp only [hlate, if_true]
      exact .silent h.1 h.2 hlate
    · simp only [hlate, if_false]
      exact .timely h.1 h.2 (Nat.le_of_not_lt hlate)

theorem checkKeepAlive_of_spent (t : Backend.Transport σ) {s : Session}
    (h : s.Spent) (w : World σ) (now : Nat) :
    s.checkKeepAlive t w now = (s, w) := by
  obtain ⟨hclosed, -, -, hdeadline, -⟩ := h
  cases s
  simp_all [checkKeepAlive]

theorem checkKeepAlive_keeps (t : Backend.Transport σ) (s : Session)
    (w : World σ) (now : Nat) :
    s.Keeps (s.checkKeepAlive t w now).1 := by
  have hdeadline : ∀ d, s.flags.closed = false →
      s.Keeps { s with deadline := d } :=
    fun d hopen => .of_open hopen hopen rfl rfl rfl id
  have hcase := checked t s w now
  generalize s.checkKeepAlive t w now = out at hcase
  cases hcase with
  | unsupervised h =>
    exact ⟨rfl, rfl, id, id, fun hspent hclosed =>
      have spent := hspent hclosed
      ⟨hclosed, spent.pending, spent.held, rfl, spent.bridge⟩, id⟩
  | silent hopen hpos hlate =>
    exact (hdeadline none hopen).trans (shutdown_keeps t _ _ _)
  | timely hopen hpos htimely => exact hdeadline _ hopen

/-! ## Taking a parcel in -/

/-- The session once it has heard from its device. -/
def heard (s : Session) (now : Nat) : Session := { s with lastActivity := now }

/-- The ways in which taking a parcel in can go. -/
inductive Received (t : Backend.Transport σ) (s : Session) (w : World σ)
    (now : Nat) (parcel : Parcel) : Reception × Session × World σ → Prop
  /-- The session is closed. -/
  | dropped (hclosed : s.flags.closed = true) :
      Received t s w now parcel (.handled, s, w.releaseAll parcel.data.toList)
  /-- There is no data and no CONNECT is to begin. -/
  | empty (hopen : s.flags.closed = false) (hdata : parcel.data = none)
      (hconnect : s.flags.phase = .notConnected → parcel.connect = none) :
      Received t s w now parcel (.handled, s.heard now, w)
  | begun (hopen : s.flags.closed = false)
      (hphase : s.flags.phase = .notConnected) (request : Connect)
      (hconnect : parcel.connect = some request) :
      Received t s w now parcel (.beginConnect request,
        { s.heard now with
          held := parcel.data, flags := s.flags.enter .connecting }, w)
  /-- Data has come before a CONNECT. -/
  | unexpected (hopen : s.flags.closed = false)
      (hphase : s.flags.phase = .notConnected)
      (hconnect : parcel.connect = none) (p : DataPacket)
      (hdata : parcel.data = some p) :
      Received t s w now parcel (.handled,
        (s.heard now).shutdown t (w.release p) (some s.connectExpectedFailure))
  | queued (hopen : s.flags.closed = false)
      (hphase : s.flags.phase = .connecting) (p : DataPacket)
      (hdata : parcel.data = some p) :
      Received t s w now parcel (.handled, (s.heard now).enqueue p, w)
  | live (hopen : s.flags.closed = false) (hphase : s.flags.phase = .connected)
      (p : DataPacket) (hdata : parcel.data = some p) :
      Received t s w now parcel (.handled, (s.heard now).relay t w p)

theorem received (t : Backend.Transport σ) (s : Session) (w : World σ)
    (now : Nat) (parcel : Parcel) :
    Received t s w now parcel (s.receive t w now parcel) := by
  cases hclosed : s.flags.closed with
  | true =>
    rw [receive_of_closed t hclosed]
    exact .dropped hclosed
  | false =>
    obtain ⟨connect, data⟩ := parcel
    cases hphase : s.flags.phase <;> cases data <;> cases connect <;>
      simp only [receive, hclosed, hphase, Bool.false_eq_true, if_false]
    case notConnected.none.none => exact .empty hclosed rfl fun _ => rfl
    case notConnected.none.some request =>
      exact .begun hclosed hphase request rfl
    case notConnected.some.none p =>
      exact .unexpected hclosed hphase rfl p rfl
    case notConnected.some.some p request =>
      exact .begun hclosed hphase request rfl
    case connecting.some.none p => exact .queued hclosed hphase p rfl
    case connecting.some.some p _ => exact .queued hclosed hphase p rfl
    case connected.some.none p => exact .live hclosed hphase p rfl
    case connected.some.some p _ => exact .live hclosed hphase p rfl
    all_goals
      exact .empty hclosed rfl fun h =>
        absurd (hphase.symm.trans h) (by decide)

private theorem heard_keeps (s : Session) (now : Nat)
    (hopen : s.flags.closed = false) :
    s.Keeps (s.heard now) :=
  .of_open hopen hopen rfl rfl rfl id

/-- Holding reading back is all that a longer queue changes in the flags. -/
theorem enqueue_flags (s : Session) (p : DataPacket) :
    (s.enqueue p).flags.closed = s.flags.closed ∧
      (s.enqueue p).flags.misconfigured = s.flags.misconfigured ∧
      (s.enqueue p).flags.phase = s.flags.phase := by
  simp only [enqueue]
  split <;> exact ⟨rfl, rfl, rfl⟩

theorem receive_keeps (t : Backend.Transport σ) (s : Session) (w : World σ)
    (now : Nat) (parcel : Parcel) : s.Keeps (s.receive t w now parcel).2.1 := by
  have hcase := received t s w now parcel
  generalize s.receive t w now parcel = out at hcase
  cases hcase with
  | dropped hclosed => exact .refl s
  | empty hopen hdata hconnect => exact heard_keeps s now hopen
  | begun hopen hphase request hconnect =>
    exact .of_open hopen hopen rfl rfl rfl fun _ h => by cases h
  | unexpected hopen hphase hconnect p hdata =>
    exact (heard_keeps s now hopen).trans (shutdown_keeps t _ _ _)
  | queued hopen hphase p hdata =>
    obtain ⟨hclosed, hmisconfigured, hkept⟩ := enqueue_flags (s.heard now) p
    refine .of_open hopen (hclosed.trans hopen) rfl rfl hmisconfigured
      fun _ h => ?_
    have hnot : s.flags.phase = .notConnected := hkept.symm.trans h
    rw [hphase] at hnot
    cases hnot
  | live hopen hphase p hdata =>
    exact (heard_keeps s now hopen).trans (relay_keeps t _ _ _)

/-! ## Taking the outcome of a CONNECT in -/

theorem complete_of_closed (t : Backend.Transport σ) {s : Session}
    (h : s.flags.closed = true) (w : World σ) (now : Nat) (e : Established) :
    s.complete t w now (.ok e) = (s, (w.dispose t e.bridge none).2) := by
  simp [complete, h]

/-- A keep-alive timeout of zero is not checked. -/
def supervise (t : Backend.Transport σ) (s : Session) (w : World σ)
    (now : Nat) :
    Session × World σ :=
  if s.keepAlive = 0 then (s, w) else s.checkKeepAlive t w now

/-- An open session is bound, checked, and relays what it holds. -/
theorem complete_of_open (t : Backend.Transport σ) {s : Session}
    (h : s.flags.closed = false) (w : World σ) (now : Nat) (e : Established) :
    s.complete t w now (.ok e) =
      let checked :=
        (s.bind e).supervise t (w.count fun m => m.recordConnect none) now
      let drained := relayPending t checked.1.pending.length checked.1 checked.2
      drained.1.relayHeld t drained.2 := by
  simp [complete, h, supervise]

private theorem supervise_keeps (t : Backend.Transport σ) (s : Session)
    (w : World σ) (now : Nat) :
    s.Keeps (s.supervise t w now).1 := by
  unfold supervise
  split
  · exact .refl s
  · exact checkKeepAlive_keeps t s w now

/-- Only an open session has data to take from its queue. -/
theorem dequeue_keeps {s : Session} {p : DataPacket} {rest : List DataPacket}
    (h : s.pending = p :: rest) : s.Keeps { s with pending := rest } where
  setup := rfl
  connectionId := rfl
  closed := id
  misconfigured := id
  spent hspent hclosed := by
    have hnil : s.pending = [] := (hspent hclosed).pending
    rw [h] at hnil
    cases hnil
  unheld := id

private theorem relayPending_keeps (t : Backend.Transport σ) (count : Nat)
    (s : Session) (w : World σ) :
    s.Keeps (relayPending t count s w).1 := by
  induction count generalizing s w with
  | zero => exact .refl s
  | succ count ih =>
    unfold relayPending
    split
    · exact .refl s
    · next p rest h =>
      exact (dequeue_keeps h).trans ((relay_keeps t _ w p).trans (ih _ _))

private theorem unhold_keeps (s : Session) :
    s.Keeps { s with held := none } where
  setup := rfl
  connectionId := rfl
  closed := id
  misconfigured := id
  spent hspent hclosed :=
    have spent := hspent hclosed
    ⟨hclosed, spent.pending, rfl, spent.deadline, spent.bridge⟩
  unheld _ _ := rfl

private theorem relayHeld_keeps (t : Backend.Transport σ) (s : Session)
    (w : World σ) :
    s.Keeps (s.relayHeld t w).1 := by
  unfold relayHeld
  split
  · exact .refl s
  · dsimp only
    split
    · exact unhold_keeps s
    · exact (unhold_keeps s).trans (relay_keeps t _ w _)

theorem complete_keeps (t : Backend.Transport σ) (s : Session) (w : World σ)
    (now : Nat) (outcome : Except Failure Established) :
    s.Keeps (s.complete t w now outcome).1 := by
  cases outcome with
  | error failure => exact shutdown_keeps t s _ _
  | ok e =>
    cases hclosed : s.flags.closed with
    | true =>
      rw [complete_of_closed t hclosed]
      exact .refl s
    | false =>
      rw [complete_of_open t hclosed]
      have hbind : s.Keeps (s.bind e) :=
        .of_open hclosed hclosed rfl rfl rfl fun _ h => by cases h
      exact hbind.trans <| (supervise_keeps t _ _ now).trans <|
        (relayPending_keeps t _ _ _).trans (relayHeld_keeps t _ _)

end Session

end DeviceGateway
