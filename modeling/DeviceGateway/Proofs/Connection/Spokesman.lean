import DeviceGateway.Proofs.Connection.Delivery

/-!
# A connection speaks for one device

What a session does is the same in a run of its own and in a connection, where
topic stage, backend, metrics and ledger do their part between any two things
that are asked of it.  So what is known of the runs of a session is known of
every connection: it speaks for the device that its CONNECT has authenticated,
through the client that the backend has made for this identity, and for no
other.

A packet of another device may come anywhere in the stream.  The first one that
the session comes to marks it as configured wrongly and closes it, and nothing
that was behind it, in the queue, with the CONNECT or still on its way, is
handed over.

## Main results

* `course_offers_of_spent`: a closed session hands nothing over, whatever comes.
* `course_faithful`: runs and connections speak for their device only.
-/

namespace DeviceGateway.Connection

variable {σ : Type} {v : Services σ} {peer : Option Peer}
  {origin : Established → Prop} {asked : Prop} {arrived : List UInt8}
  {c : Connection} {w : World σ} {h : Run σ} {e : Established}

/-- No move makes a closed session hand anything over. -/
theorem move_offers_of_spent {r r' : Connection × World σ} (h : Move v r r')
    (hspent : r.1.session.Spent) :
    r'.1.session.Spent ∧ r'.2.offers = r.2.offers := by
  have hclosed := hspent.closed
  cases h with
  | arrive bytes => exact ⟨hspent, rfl⟩
  | discard => exact ⟨hspent, rfl⟩
  | count f => exact ⟨hspent, rfl⟩
  | resolve h => exact ⟨hspent, rfl⟩
  | frame now tenancy frame hopen hready hnext htenancy =>
    rw [hopen] at hclosed
    cases hclosed
  | gap fault hopen hready hnext => exact ⟨hspent, rfl⟩
  | @shutdown c w cause =>
    have hsame := Session.shutdown_of_closed v.transport hclosed w cause
    simp only [Connection.shutdown, hsame]
    exact ⟨hspent, by simp⟩
  | @checkKeepAlive c w now =>
    rw [Session.checkKeepAlive_of_spent v.transport hspent]
    exact ⟨hspent, rfl⟩
  | @complete c w now outcome h =>
    cases outcome with
    | error failure =>
      simp only [Session.complete, Session.shutdown_of_closed v.transport
        hclosed]
      exact ⟨hspent, by simp⟩
    | ok e =>
      rw [Session.complete_of_closed v.transport hclosed]
      exact ⟨hspent, by simp⟩
  | finish => exact ⟨hspent, rfl⟩
  | elsewhere backend => exact ⟨hspent, rfl⟩

theorem course_offers_of_spent {r : Connection × World σ}
    (hspent : r.1.session.Spent) (turns : List (Turn σ)) :
    (course v r turns).2.offers = r.2.offers := by
  have hstep : ∀ {a b : Connection × World σ}, Move v a b →
      a.1.session.Spent ∧ a.2.offers = r.2.offers →
      b.1.session.Spent ∧ b.2.offers = r.2.offers := by
    intro a b hmove h
    have hafter := move_offers_of_spent hmove h.1
    exact ⟨hafter.1, hafter.2.trans h.2⟩
  have hkept :=
    moves_preserve (fun c w => c.session.Spent ∧ w.offers = r.2.offers) hstep
      (course_moves v r turns) ⟨hspent, rfl⟩
  exact hkept.2

/-! ## Packets of another device -/

/-- Only what a device says ends its session: no fault of the stream ends the
connection, nobody asks the session to close, there is a client and it refuses
nothing, and the device is not found silent. -/
structure Calm (v : Services σ) (peer : Option Peer) (turns : List (Turn σ))
    (e : Established) (w : World σ) : Prop where
  mild : Mild v peer (turns.flatMap Turn.octets)
  alone : ∀ x ∈ turns, ¬ x.Closes
  client : e.bridge.client.isSome = true
  sends : ∀ o ∈ w.offers, o.result.isOk = true
  heard : ∀ cause ∈ w.causes, ∀ failure ∈ cause,
    failure.code ≠ .keepAliveTimedOut

/-- The session of a settled course, if it is bound and open, has come to all of
its stream, and nothing of it that is to be relayed is of another device. -/
theorem Followed.told_own (hf : Followed v peer origin asked arrived c w h)
    (hsettled : Settled v c) (hbound : h.bound = some e)
    (hopen : c.session.flags.closed = false) :
    h.Told (v.said peer arrived) ∧ ∀ p ∈ h.line,
      p.deviceId.text = e.identity.id := by
  have hloyal := hf.sound.conduct.loyal_of_open hbound
    (by rw [hf.session, hopen])
  have hreading : c.session.flags.throttled = false := by
    rw [← hf.session, hloyal.reading]
  exact ⟨hf.told_of_settled hopen hreading hsettled, hloyal.own⟩

/-- So a packet of another device anywhere in the stream has closed the
session. -/
theorem Followed.closed_of_stranger
    (hf : Followed v peer origin asked arrived c w h) (hsettled : Settled v c)
    (hbound : h.bound = some e) {p : DataPacket}
    (hp : p ∈ v.packets peer arrived) (hladen : p.payload.bytes.isEmpty = false)
    (hid : p.deviceId.text ≠ e.identity.id) :
    c.session.flags.closed = true := by
  rw [← Bool.not_eq_false]
  intro hopen
  obtain ⟨htold, hown⟩ := hf.told_own hsettled hbound hopen
  have harrived : p ∈ h.arrivals := by
    rw [htold.arrivals]
    exact hp
  exact hid (hown p (Run.mem_line_of_mem_arrivals harrived hladen))

/-- Every run of a session, and every course of a connection, speaks for the
device that it is bound to and for no other, and a session that is closed hands
nothing over any more.  The run of a connection's session takes in what the
stream of the connection says, and what binds it is what the CONNECT has brought
at some turn at which the session was open.  When the input is settled, a bound
session that is open has taken in all of the stream, and all that it relays is
of its device; and a packet of another device has closed the session, and marked
it if nothing else could have closed it. -/
theorem course_faithful (σ : Type) :
    (∀ (t : Backend.Transport σ) (setup : SessionSetup)
      (connectionId : String) (now : Nat) (w : World σ)
      (demands : List Demand),
      let r := (Run.start setup connectionId now w).run t demands
      r.Faithful ∧ (r.session.flags.closed = true →
        ∀ more, (r.run t more).world.offers = r.world.offers)) ∧
    (∀ (v : Services σ) (connectionId : String) (peer : Option Peer)
      (now : Nat) (backend : σ) (metrics : Option Metrics)
      (turns : List (Turn σ)),
      let first :=
        (start v connectionId peer now, ({ backend, metrics } : World σ))
      let r := course v first turns
      let stream := turns.flatMap Turn.octets
      ∃ h : Run σ, h.session = r.1.session ∧ h.world = r.2 ∧ h.Faithful ∧
        h.arrivals <+: v.packets peer stream ∧
        (∀ e, h.bound = some e → ∃ before x after,
          turns = before ++ x :: after ∧
          (course v first before).1.session.flags.closed = false ∧
          Binds v (course v first before) x e) ∧
        (r.1.session.flags.closed = true →
          ∀ more, (course v r more).2.offers = r.2.offers) ∧
        ((∀ bytes, .arrive bytes ∉ turns) ∨ Settled v r.1 → ∀ e,
          h.bound = some e →
          (r.1.session.flags.closed = false → h.Told (v.said peer stream) ∧
            ∀ p ∈ h.line, p.deviceId.text = e.identity.id) ∧
          (∀ p ∈ v.packets peer stream, p.payload.bytes.isEmpty = false →
            p.deviceId.text ≠ e.identity.id → r.1.session.flags.closed = true ∧
              (Calm v peer turns e r.2 →
                r.1.session.flags.misconfigured = true)))) := by
  constructor
  · intro t setup connectionId now w demands r
    have hsound : r.Sound True :=
      Run.sound_run t (Run.sound_start setup connectionId now w) demands
    refine ⟨hsound.faithful, fun hclosed more => ?_⟩
    exact Run.offers_run_of_spent t (hsound.situation.spent hclosed) more
  · intro v connectionId peer now backend metrics turns first r stream
    have hstart := start_followed v connectionId peer now backend metrics
    obtain ⟨h, hf⟩ := course_followed
      (hstart (fun e => ∃ before x after, turns = before ++ x :: after ∧
        (course v first before).1.session.flags.closed = false ∧
        Binds v (course v first before) x e)
          (¬ Mild v peer stream ∨ ∃ x ∈ turns, x.Closes))
      turns (fun x hx hcloses => .inr ⟨x, hx, hcloses⟩)
      ((Decidable.em (Mild v peer stream)).symm.imp_left .inl)
      (fun before x after hturns hopen e he =>
        ⟨before, x, after, hturns, hopen, he⟩)
    rw [List.nil_append] at hf
    refine ⟨h, hf.session, hf.world, hf.sound.faithful, hf.arrivals, hf.bound,
      fun hclosed more => ?_, fun hinput e hbound => ?_⟩
    · have hspent : r.1.session.Spent := by
        have hsession : h.session = r.1.session := hf.session
        rw [← hsession] at hclosed ⊢
        exact hf.sound.situation.spent hclosed
      exact course_offers_of_spent hspent more
    · have hsettled : Settled v r.1 := hinput.elim
        (course_settled (hstart (fun _ => True) True) (settled_of_nil v rfl)
          turns) id
      refine ⟨hf.told_own hsettled hbound, fun p hp hladen hid => ?_⟩
      have hclosed := hf.closed_of_stranger hsettled hbound hp hladen hid
      refine ⟨hclosed, fun hcalm => ?_⟩
      have halone : ¬ (¬ Mild v peer stream ∨ ∃ x ∈ turns, x.Closes) := by
        rintro (hnot | ⟨x, hx, hcloses⟩)
        · exact hnot hcalm.mild
        · exact hcalm.alone x hx hcloses
      rw [← hf.session] at hclosed ⊢
      rcases hf.sound.loyal_or_marked halone hbound hcalm.client
        (hf.world ▸ hcalm.sends) (hf.world ▸ hcalm.heard) with hloyal |
        ⟨-, hflag⟩
      · rw [hloyal.opened] at hclosed
        cases hclosed
      · exact hflag

/-- Of three lines that wait behind the one that brought the CONNECT, the second
is of another device: `T~0~d~y`, `T~0~e~z` and `T~0~d~u`. -/
example :
    let taking : Backend.Transport Unit :=
      ⟨fun s _ _ => (.ok ⟨0, "d"⟩, s), fun s _ _ => (.ok (), s), fun s _ => s⟩
    let v : Services Unit :=
      ⟨taking, {}, 64, ⟨⟨[("T.d", ⟨"d", "h/d", "s"⟩)]⟩, [], 0⟩, ⟨none, "", 5⟩⟩
    let r := course v (start v "c" none 0, { backend := () })
      [.event 0 (.read [84, 126, 48, 126, 100, 126, 120, 10, 84, 126, 48, 126,
          100, 126, 121, 10]),
        .event 1 (.read [84, 126, 48, 126, 101, 126, 122, 10, 84, 126, 48, 126,
          100, 126, 117, 10]),
        .event 2 .connectReady]
    (r.2.accepted.map (·.payload.serial), r.1.session.flags.misconfigured,
      r.1.session.flags.closed) = ([1], true, true) := by
  decide +kernel

end DeviceGateway.Connection
