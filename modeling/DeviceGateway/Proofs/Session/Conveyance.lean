import DeviceGateway.Proofs.Session.Effect

/-!
# What a bound session conveys

Once a CONNECT has succeeded, a session has a line of packets to convey.  It is
either `Flowing`, open with every packet of the line accepted, or `Halted`,
closed with the packets of the line accepted up to some point.  A line that
halts before its end halts at a packet, and `Stop` says what was wrong with it;
the one exception is a device that was found to be silent as soon as it was
bound, and then nothing of the line is accepted.

Everything that is relayed goes through one operation, packet by packet, also
when a CONNECT succeeds and a whole queue is relayed.  `Conveys` is the
principle behind this: of two properties, one of a line that goes on and one of
a line that has ended, it is enough to know what one packet does.  Closing gives
the rest of the queue up, so a session that closes inside the loop over its
queue has to be shown halted on the whole line and not only on the part that the
loop has seen; that is why `Flowing.relay` speaks of any packets that may
follow.

## Main results

* `Conveys.complete`: from one packet to everything that waited for a CONNECT.
* `Flowing.relay`: one more packet is accepted, or the line halts at it.
* `Flowing.checkKeepAlive`, `Flowing.shutdown`: closing between packets halts
  the line at its end.
-/

namespace DeviceGateway.Session

variable {σ : Type} {e : Established} {s : Session} {w : World σ}
  {line : List DataPacket}

/-- What is relayed of the packet that came with a CONNECT: nothing if it has
no payload. -/
def laden (held : Option DataPacket) : List DataPacket :=
  held.toList.filter fun p => !p.payload.bytes.isEmpty

theorem laden_none : laden none = [] := rfl

theorem laden_empty {p : DataPacket} (h : p.payload.bytes.isEmpty = true) :
    laden (some p) = [] := by
  simp [laden, h]

theorem laden_some {p : DataPacket} (h : p.payload.bytes.isEmpty = false) :
    laden (some p) = [p] := by
  simp [laden, h]

/-- Every offer goes to the client of a bridge and is of the device it was
opened for. -/
def OfferedBy (e : Established) (w : World σ) : Prop :=
  ∀ o ∈ w.offers, e.bridge.client = some o.client ∧
    o.deviceId.text = e.identity.id

theorem OfferedBy.send {t : Backend.Transport σ} (h : OfferedBy e w)
    {client : Backend.Client} (hclient : e.bridge.client = some client)
    {deviceId : DeviceId} (hid : deviceId.text = e.identity.id)
    (m : Backend.Message) :
    OfferedBy e (w.send t client deviceId m).2 := by
  intro o ho
  have hoffers : (w.send t client deviceId m).2.offers =
      w.offers ++ [⟨client, deviceId, m, (w.send t client deviceId m).1⟩] :=
    World.view_send Happening.offer?
  rw [hoffers, List.mem_append, List.mem_singleton] at ho
  rcases ho with ho | rfl
  · exact h o ho
  · exact ⟨hclient, hid⟩

/-- A session that is bound and open, with a line of packets accepted. -/
structure Flowing (e : Established) (line : List DataPacket) (s : Session)
    (w : World σ) :
    Prop where
  opened : s.flags.closed = false
  phase : s.flags.phase = .connected
  identity : s.identity = some e.identity
  keepAlive : s.keepAlive = e.keepAlive
  bridge : s.bridge = some e.bridge
  offers : OfferedBy e w
  accepted : w.accepted = line.map s.setup.message
  disposals : w.disposals = []
  causes : w.causes = []

/-- Why a line stops before a packet: what is wrong, and that it is the cause of
closing. -/
inductive Stop (e : Established) (s : Session) (cause : Option Failure)
    (offers : List Offer) (taken : List DataPacket) (p : DataPacket) : Prop
  /-- The packet is of another device. -/
  | stranger (hid : p.deviceId.text ≠ e.identity.id)
      (hcause : cause = some (s.strangerFailure p e.identity))
  /-- The bridge serves no client. -/
  | unserved (hclient : e.bridge.client = none)
      (hcause : cause = some s.noClientFailure)
  /-- The packet was handed to the client last of all, and was not accepted. -/
  | refused (client : Backend.Client) (fault : Backend.Fault)
      (hlast : offers.getLast? = some ⟨client, p.deviceId, s.setup.message p,
        .error fault⟩)
      (hcause : cause = some (fault.toFailure.inScope "Relay" s.connectionId))
  /-- The device was found silent before any packet was relayed. -/
  | silent (htaken : taken = []) (elapsed : Nat) (hlate : e.keepAlive < elapsed)
      (hcause : cause = some (s.silenceFailure elapsed))

/-- A session that was bound and is closed, with the packets of its line
accepted that came before `rest`. -/
structure Halted (e : Established) (cause : Option Failure)
    (taken rest : List DataPacket) (s : Session) (w : World σ) : Prop where
  spent : s.Spent
  phase : s.flags.phase = .connected
  identity : s.identity = some e.identity
  keepAlive : s.keepAlive = e.keepAlive
  offers : OfferedBy e w
  accepted : w.accepted = taken.map s.setup.message
  causes : w.causes.head? = some cause
  disposals : w.disposals = [(e.bridge, s.told cause)]
  stop : ∀ p, rest.head? = some p → Stop e s cause w.offers taken p

namespace Flowing

/-- Closing between packets: the reason has to be given only if something of
the line is left. -/
theorem shutdown (t : Backend.Transport σ) (h : Flowing e line s w)
    (cause : Option Failure) (rest : List DataPacket)
    (hstop : ∀ p, rest.head? = some p → Stop e s.ended cause w.offers line p) :
    Halted e cause line rest (s.shutdown t w cause).1
      (s.shutdown t w cause).2 := by
  have hoffers : (s.shutdown t w cause).2.offers = w.offers := by
    simp [view_shutdown t h.opened]
  rw [shutdown_of_open t h.opened]
  exact
    { spent := ended_spent s
      phase := h.phase
      identity := h.identity
      keepAlive := h.keepAlive
      offers := by
        unfold OfferedBy
        rw [hoffers]
        exact h.offers
      accepted := (World.accepted_congr hoffers).trans h.accepted
      causes := by simp [view_shutdown t h.opened, h.causes]
      disposals := by
        simp [view_shutdown t h.opened, h.disposals, h.bridge, told, ended]
      stop := by
        rw [hoffers]
        exact hstop }

/-- What a session holds, what it was found to be and when it was heard or is
to be checked has no part in what it has conveyed. -/
theorem of_session (h : Flowing e line s w) {s' : Session}
    (hclosed : s'.flags.closed = s.flags.closed)
    (hphase : s'.flags.phase = s.flags.phase)
    (hidentity : s'.identity = s.identity)
    (hkeepAlive : s'.keepAlive = s.keepAlive) (hbridge : s'.bridge = s.bridge)
    (hsetup : s'.setup = s.setup) : Flowing e line s' w where
  opened := hclosed.trans h.opened
  phase := hphase.trans h.phase
  identity := hidentity.trans h.identity
  keepAlive := hkeepAlive.trans h.keepAlive
  bridge := hbridge.trans h.bridge
  offers := h.offers
  accepted := by rw [hsetup]; exact h.accepted
  disposals := h.disposals
  causes := h.causes

/-- Payloads that are given up and things that are counted have no part in it
either. -/
theorem of_views (h : Flowing e line s w) {w' : World σ}
    (hoffers : w'.offers = w.offers) (hdisposals : w'.disposals = w.disposals)
    (hcauses : w'.causes = w.causes) :
    Flowing e line s w' :=
  { h with
    offers := by unfold OfferedBy; rw [hoffers]; exact h.offers
    accepted := (World.accepted_congr hoffers).trans h.accepted
    disposals := hdisposals.trans h.disposals
    causes := hcauses.trans h.causes }

theorem release (h : Flowing e line s w) (p : DataPacket) :
    Flowing e line s (w.release p) :=
  h.of_views (World.view_release w p _) (World.view_release w p _)
    (World.view_release w p _)

theorem count (h : Flowing e line s w) (f : Metrics → Metrics) :
    Flowing e line s (w.count f) :=
  h.of_views (World.view_count w f _) (World.view_count w f _)
    (World.view_count w f _)

/-- The device of a packet that is let through is the one that was bound. -/
theorem owns (h : Flowing e line s w) {p : DataPacket} (hown : s.Owns p) :
    p.deviceId.text = e.identity.id :=
  hown e.identity h.identity

theorem bridge_eq (h : Flowing e line s w) {bridge : Bridge}
    (hbridge : s.bridge = some bridge) :
    bridge = e.bridge := by
  rw [h.bridge] at hbridge
  exact (Option.some.inj hbridge).symm

/-- A client that does not take a message changes nothing that was accepted. -/
theorem send_error (t : Backend.Transport σ) (h : Flowing e line s w)
    {p : DataPacket} {client : Backend.Client}
    (hclient : e.bridge.client = some client)
    (hid : p.deviceId.text = e.identity.id) {fault : Backend.Fault}
    (hsend : (w.send t client p.deviceId (s.setup.message p)).1 =
      .error fault) :
    Flowing e line s (w.send t client p.deviceId (s.setup.message p)).2 :=
  { h with
    offers := h.offers.send hclient hid _
    accepted := (World.accepted_send_error hsend).trans h.accepted
    disposals := by simp [h.disposals]
    causes := by simp [h.causes] }

theorem send_ok (t : Backend.Transport σ) (h : Flowing e line s w)
    {p : DataPacket} {client : Backend.Client}
    (hclient : e.bridge.client = some client)
    (hid : p.deviceId.text = e.identity.id) {u : Unit}
    (hsend : (w.send t client p.deviceId (s.setup.message p)).1 = .ok u) :
    Flowing e (line ++ [p]) s
      (w.send t client p.deviceId (s.setup.message p)).2 :=
  { h with
    offers := h.offers.send hclient hid _
    accepted := by
      rw [World.accepted_send_ok hsend, h.accepted, List.map_append]; rfl
    disposals := by simp [h.disposals]
    causes := by simp [h.causes] }

/-- One more packet is accepted, or it halts the line, whatever follows. -/
theorem relay (t : Backend.Transport σ) (h : Flowing e line s w)
    (p : DataPacket) :
    ((s.relay t w p).1 = s ∧ Flowing e (line ++ [p]) s (s.relay t w p).2) ∨
      ∃ cause, ∀ more, Halted e cause line (p :: more)
        (s.relay t w p).1 (s.relay t w p).2 := by
  have hcase := relayed t h.opened w p
  generalize s.relay t w p = out at hcase
  cases hcase with
  | stranger bound hbound hid =>
    obtain rfl : bound = e.identity := by
      rw [h.identity] at hbound
      exact (Option.some.inj hbound).symm
    have hmarked : Flowing e line { s with flags := s.flags.markMisconfigured }
        (w.release p) :=
      (h.release p).of_session rfl rfl rfl rfl rfl rfl
    refine .inr ⟨_, fun more => hmarked.shutdown t _ _ fun q hq => ?_⟩
    obtain rfl : p = q := Option.some.inj hq
    exact .stranger hid rfl
  | bridgeless hown hbridge =>
    rw [h.bridge] at hbridge
    cases hbridge
  | unserved hown bridge hbridge hclient =>
    obtain rfl := h.bridge_eq hbridge
    exact .inr ⟨_, fun more => (h.release p).shutdown t _ _ fun q hq =>
      .unserved hclient rfl⟩
  | accepted hown bridge hbridge client hclient u hsend =>
    obtain rfl := h.bridge_eq hbridge
    exact .inl ⟨rfl, (h.send_ok t hclient (h.owns hown) hsend).count _⟩
  | refused hown bridge hbridge client hclient fault hsend =>
    obtain rfl := h.bridge_eq hbridge
    have hsent := (h.send_error t hclient (h.owns hown) hsend).count
      Metrics.recordRelayFailure
    refine .inr ⟨_, fun more => hsent.shutdown t _ _ fun q hq => ?_⟩
    obtain rfl : p = q := Option.some.inj hq
    exact .refused client fault (by simp [hsend, ended]) rfl

/-! ### Closing between packets -/

/-- A device that is silent halts the line where it is, and a whole line of
which nothing was relayed. -/
theorem checkKeepAlive (t : Backend.Transport σ) (h : Flowing e line s w)
    (now : Nat) :
    (∃ deadline, s.checkKeepAlive t w now = ({ s with deadline }, w)) ∨
    ∃ cause, ∀ rest, line = [] ∨ rest = [] →
      Halted e cause line rest (s.checkKeepAlive t w now).1
        (s.checkKeepAlive t w now).2 := by
  have hcase := checked t s w now
  generalize s.checkKeepAlive t w now = out at hcase
  cases hcase with
  | unsupervised => exact .inl ⟨none, rfl⟩
  | silent hopen hpos hlate =>
    have hunscheduled : Flowing e line { s with deadline := none } w :=
      h.of_session rfl rfl rfl rfl rfl rfl
    refine .inr
      ⟨_, fun rest hsides => hunscheduled.shutdown t _ rest fun p hp => ?_⟩
    rcases hsides with rfl | rfl
    · exact .silent rfl _ (h.keepAlive ▸ hlate) rfl
    · cases hp
  | timely => exact .inl ⟨_, rfl⟩

end Flowing

/-! ## Packet by packet -/

/-- A property of lines that go on, and one of lines that have ended with some
packets taken and the rest left.  One packet keeps the first or leads to the
second, whatever is behind it.  So does a check of the keep-alive before
anything is relayed.  A session whose line has ended holds nothing. -/
structure Conveys (t : Backend.Transport σ)
    (Good : List DataPacket → Session → World σ → Prop)
    (Bad : List DataPacket → List DataPacket → Session → World σ → Prop) :
    Prop where
  relay {line : List DataPacket} {s : Session} {w : World σ} (h : Good line s w)
    (p : DataPacket) :
    ((s.relay t w p).1 = s ∧ Good (line ++ [p]) s (s.relay t w p).2) ∨
      ∀ more, Bad line (p :: more) (s.relay t w p).1 (s.relay t w p).2
  release {line : List DataPacket} {s : Session} {w : World σ}
    (h : Good line s w)
    (p : DataPacket) : Good line s (w.release p)
  stored {line : List DataPacket} {s : Session} {w : World σ}
    (h : Good line s w)
    (pending : List DataPacket) (held : Option DataPacket)
      (deadline : Option Nat) :
    Good line { s with pending, held, deadline } w
  check {s : Session} {w : World σ} (h : Good [] s w) (now : Nat) :
    (∃ deadline, s.checkKeepAlive t w now = ({ s with deadline }, w)) ∨
      ∀ rest,
        Bad [] rest (s.checkKeepAlive t w now).1 (s.checkKeepAlive t w now).2
  spent {taken rest : List DataPacket} {s : Session} {w : World σ}
    (h : Bad taken rest s w) :
    s.Spent

namespace Conveys

variable {t : Backend.Transport σ}
  {Good : List DataPacket → Session → World σ → Prop}
  {Bad : List DataPacket → List DataPacket → Session → World σ → Prop}

/-- The queue is relayed to its end, or the line ends in it: closing has given
the rest of the queue up, so the loop has nothing left to do. -/
theorem relayPending (h : Conveys t Good Bad) (hgood : Good line s w) :
    ((relayPending t s.pending.length s w).1 = { s with pending := [] } ∧
      Good (line ++ s.pending) { s with pending := [] }
        (relayPending t s.pending.length s w).2) ∨
    ∃ taken p rest, line ++ s.pending = taken ++ p :: rest ∧ ∀ more,
      Bad taken (p :: rest ++ more) (relayPending t s.pending.length s w).1
        (relayPending t s.pending.length s w).2 := by
  generalize hqueue : s.pending = queue
  induction queue generalizing line s w with
  | nil =>
    have hs : { s with pending := [] } = s := by rw [← hqueue]
    rw [List.append_nil, hs]
    exact .inl ⟨rfl, hgood⟩
  | cons p queue ih =>
    have hdequeued : Good line { s with pending := queue } w :=
      h.stored hgood queue s.held s.deadline
    simp only [List.length_cons, Session.relayPending, hqueue]
    rcases h.relay hdequeued p with ⟨hsession, hgood'⟩ | hbad
    · rw [hsession]
      simpa using ih hgood' rfl
    · have hspent := h.spent (hbad queue)
      generalize { s with pending := queue }.relay t w p = out at hspent hbad
      have hstill : Session.relayPending t queue.length out.1 out.2 = out := by
        cases queue.length <;> simp [Session.relayPending, hspent.pending]
      rw [hstill]
      exact .inr ⟨line, p, queue, rfl, fun more => hbad (queue ++ more)⟩

/-- The packet that came with the CONNECT is relayed last, or ends the line, or
has no payload. -/
theorem relayHeld (h : Conveys t Good Bad) (hgood : Good line s w) :
    ((s.relayHeld t w).1 = { s with held := none } ∧
      Good (line ++ laden s.held) { s with held := none } (s.relayHeld t w).2) ∨
    ∃ p, laden s.held = [p] ∧ Bad line [p]
      (s.relayHeld t w).1 (s.relayHeld t w).2 := by
  have hunheld : Good line { s with held := none } w :=
    h.stored hgood s.pending none s.deadline
  unfold Session.relayHeld
  cases hheld : s.held with
  | none =>
    have hs : { s with held := none } = s := by rw [← hheld]
    rw [laden_none, List.append_nil, hs]
    exact .inl ⟨rfl, hgood⟩
  | some p =>
    cases hempty : p.payload.bytes.isEmpty with
    | true =>
      rw [laden_empty hempty, List.append_nil]
      simp only [hempty, if_true, true_and]
      exact .inl (h.release hunheld p)
    | false =>
      rw [laden_some hempty]
      simp only [hempty, Bool.false_eq_true, if_false]
      rcases h.relay hunheld p with ⟨hsession, hgood'⟩ | hbad
      · exact .inl ⟨hsession, hgood'⟩
      · exact .inr ⟨p, rfl, hbad []⟩

/-- The queue and then the packet that came with the CONNECT are relayed to the
end, or the line ends at one of them. -/
theorem relayRest (h : Conveys t Good Bad) (hgood : Good line s w) :
    let drained := Session.relayPending t s.pending.length s w
    let out := drained.1.relayHeld t drained.2
    (out.1 = { s with pending := [], held := none } ∧
      Good (line ++ (s.pending ++ laden s.held)) out.1 out.2) ∨
    ∃ taken p rest, line ++ (s.pending ++ laden s.held) = taken ++ p :: rest ∧
      Bad taken (p :: rest) out.1 out.2 := by
  dsimp only
  rcases h.relayPending hgood with ⟨hsession, hgood'⟩ |
    ⟨taken, p, rest, hline, hbad⟩
  · rw [hsession]
    rcases h.relayHeld hgood' with ⟨hsession', hgood''⟩ | ⟨p, hheld, hbad⟩
    · rw [hsession']
      rw [List.append_assoc] at hgood''
      exact .inl ⟨rfl, hgood''⟩
    · have hheld' : laden s.held = [p] := hheld
      exact .inr ⟨line ++ s.pending, p,
        [], by rw [hheld', List.append_assoc], hbad⟩
  · have hunheld := (h.spent (hbad [])).held
    simp only [Session.relayHeld, hunheld]
    refine .inr ⟨taken, p, rest ++ laden s.held, ?_, hbad _⟩
    rw [← List.append_assoc, hline, List.append_assoc]
    rfl

private theorem supervise (h : Conveys t Good Bad) (hgood : Good [] s w)
    (now : Nat) :
    (∃ deadline, s.supervise t w now = ({ s with deadline }, w)) ∨
      ∀ rest, Bad [] rest (s.supervise t w now).1 (s.supervise t w now).2 := by
  unfold Session.supervise
  split
  · exact .inl ⟨s.deadline, rfl⟩
  · exact h.check hgood now

/-- A CONNECT that succeeds on an open session has everything relayed that
waited for it, up to where the line ends. -/
theorem complete (h : Conveys t Good Bad) (hopen : s.flags.closed = false)
    (e : Established) (now : Nat)
    (hgood : Good [] (s.bind e) (w.count fun m => m.recordConnect none)) :
    let out := s.complete t w now (.ok e)
    (Good (s.pending ++ laden s.held) out.1 out.2 ∧ out.1.pending = [] ∧
      out.1.held = none) ∨
    ∃ taken rest, s.pending ++ laden s.held = taken ++ rest ∧
      Bad taken rest out.1 out.2 := by
  dsimp only
  rw [complete_of_open t hopen]
  dsimp only
  rcases h.supervise hgood now with ⟨deadline, hchecked⟩ | hbad
  · rw [hchecked]
    have hsupervised : Good [] { s.bind e with deadline } _ :=
      h.stored hgood s.pending s.held deadline
    rcases h.relayRest hsupervised with ⟨hsession, hgood'⟩ |
      ⟨taken, p, rest, hline, hbad⟩
    · rw [hsession] at hgood' ⊢
      exact .inl ⟨hgood', rfl, rfl⟩
    · exact .inr ⟨taken, p :: rest, hline, hbad⟩
  · have hwhole := hbad (s.pending ++ laden s.held)
    have hspent := h.spent hwhole
    generalize (s.bind e).supervise t _ now = checked at hwhole hspent
    simp only [hspent.pending, List.length_nil, Session.relayPending,
      Session.relayHeld, hspent.held]
    exact .inr ⟨[], _, rfl, hwhole⟩

end Conveys

/-- What a flowing session holds is accepted, or halts the line. -/
theorem Flowing.conveys (t : Backend.Transport σ) (e : Established) :
    Conveys t (Flowing e) fun taken rest s w => ∃ cause,
      Halted e cause taken rest s w where
  relay h p := by
    rcases h.relay t p with hflowing | ⟨cause, hhalted⟩
    · exact .inl hflowing
    · exact .inr fun more => ⟨cause, hhalted more⟩
  release h p := h.release p
  stored h _ _ _ := h.of_session rfl rfl rfl rfl rfl rfl
  check h now := by
    rcases h.checkKeepAlive t now with hchecked | ⟨cause, hhalted⟩
    · exact .inl hchecked
    · exact .inr fun rest => ⟨cause, hhalted rest (.inl rfl)⟩
  spent h := by
    obtain ⟨cause, hhalted⟩ := h
    exact hhalted.spent

/-- An open session that is bound has conveyed nothing yet. -/
theorem Flowing.of_bind (hopen : s.flags.closed = false)
    (hoffers : w.offers = []) (hdisposals : w.disposals = [])
    (hcauses : w.causes = []) (e : Established) :
    Flowing e [] (s.bind e) (w.count fun m => m.recordConnect none) where
  opened := hopen
  phase := rfl
  identity := rfl
  keepAlive := rfl
  bridge := rfl
  offers := by simp [OfferedBy, hoffers]
  accepted := by simp [World.accepted, hoffers]
  disposals := hdisposals
  causes := hcauses

/-- A CONNECT that succeeds on an open session binds it, and everything that
waited for it is conveyed. -/
theorem conveyed_complete (t : Backend.Transport σ)
    (hopen : s.flags.closed = false) (hoffers : w.offers = [])
    (hdisposals : w.disposals = []) (hcauses : w.causes = []) (e : Established)
    (now : Nat) :
    let out := s.complete t w now (.ok e)
    (Flowing e (s.pending ++ laden s.held) out.1 out.2 ∧ out.1.pending = [] ∧
      out.1.held = none) ∨
    ∃ cause taken rest, s.pending ++ laden s.held = taken ++ rest ∧
      Halted e cause taken rest out.1 out.2 := by
  have hbound := Flowing.of_bind hopen hoffers hdisposals hcauses e
  rcases (Flowing.conveys t e).complete hopen e now hbound with
    hflowing | ⟨taken, rest, hline, cause, hhalted⟩
  · exact .inl hflowing
  · exact .inr ⟨cause, taken, rest, hline, hhalted⟩

end DeviceGateway.Session
