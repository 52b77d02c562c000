import DeviceGateway.Proofs.Connection.Demands

/-!
# The stages of a connection agree

Several branches of a session are there for want of something that another stage
has to supply: the CONNECT that data brings along, the bridge of a session that
relays, the client of its bridge.  They are dead.  The topic stage makes a
CONNECT out of the first data, because the connection tells it that its session
wants one.  A session that is connected and open was bound to what a CONNECT
brought, and that is a bridge with a client.

That a branch is dead is said in the strongest terms here: whatever stands in
its place, nothing changes.  `answerBy` is the answer of a session that relays
in some other way, and if the other way differs only where bridge or client is
missing, then the answer is the same.

## Main results

* `answerBy_eq`: what a session does without a bridge or a client does not
  matter.
* `answer_agreed`: no answer to what is due makes a difference to that.
* `run_agreement`: nor does anything that happens to a connection.
-/

namespace DeviceGateway

namespace Session

variable {σ : Type} {s : Session} {w : World σ}

/-! ## Other ways of relaying -/

/-- A way of relaying a packet. -/
abbrev Relaying (σ : Type) := Session → World σ → DataPacket → Session × World σ

/-- Relays the first `count` packets of the queue in some way. -/
def relayPendingBy (relaying : Relaying σ) :
    Nat → Session → World σ → Session × World σ
  | 0, s, w => (s, w)
  | count + 1, s, w =>
    match s.pending with
    | [] => (s, w)
    | p :: rest =>
      let out := relaying { s with pending := rest } w p
      relayPendingBy relaying count out.1 out.2

/-- Relays the packet that came with the CONNECT in some way, if it has a
payload. -/
def relayHeldBy (relaying : Relaying σ) (s : Session) (w : World σ) :
    Session × World σ :=
  match s.held with
  | none => (s, w)
  | some p =>
    if p.payload.bytes.isEmpty then ({ s with held := none }, w.release p)
    else relaying { s with held := none } w p

/-- What comes of asking a session that relays in some way. -/
def answerBy (relaying : Relaying σ) (t : Backend.Transport σ) (s : Session)
    (w : World σ) :
    Demand → Reception × Session × World σ
  | .receive now parcel =>
    match s.flags.closed, s.flags.phase, parcel.data with
    | false, .connected, some data => (.handled, relaying (s.heard now) w data)
    | _, _, _ => s.receive t w now parcel
  | .complete now (.ok e) =>
    if s.flags.closed then (.handled, s.complete t w now (.ok e))
    else
      let checked :=
        (s.bind e).supervise t (w.count fun m => m.recordConnect none) now
      let drained := relayPendingBy relaying checked.1.pending.length checked.1
        checked.2
      (.handled, relayHeldBy relaying drained.1 drained.2)
  | .complete now (.error failure) =>
    (.handled, s.complete t w now (.error failure))
  | .checkKeepAlive now => (.handled, s.checkKeepAlive t w now)
  | .shutdown cause => (.handled, s.shutdown t w cause)

theorem relayPendingBy_relay (t : Backend.Transport σ) (count : Nat)
    (s : Session) (w : World σ) :
    relayPendingBy (relay t) count s w = relayPending t count s w := by
  induction count generalizing s w with
  | zero => rfl
  | succ count ih =>
    simp only [relayPendingBy, relayPending]
    cases s.pending with
    | nil => rfl
    | cons p rest => exact ih _ _

/-- The way of relaying is all that distinguishes `answerBy`. -/
theorem answerBy_relay (t : Backend.Transport σ) (s : Session) (w : World σ)
    (d : Demand) :
    s.answerBy (relay t) t w d = s.answer t w d := by
  cases d with
  | receive now parcel =>
    simp only [answerBy, answer]
    split
    · next p hopen hphase hdata =>
      obtain ⟨connect, data⟩ := parcel
      obtain rfl : data = some p := hdata
      simp [receive, heard, hopen, hphase]
    · rfl
  | complete now outcome =>
    cases outcome with
    | error failure => rfl
    | ok e =>
      simp only [answerBy, answer]
      cases hclosed : s.flags.closed with
      | true => rfl
      | false =>
        rw [complete_of_open t hclosed]
        simp only [Bool.false_eq_true, if_false, relayPendingBy_relay]
        rfl
  | checkKeepAlive now => rfl
  | shutdown cause => rfl

/-! ## Sessions that can relay -/

/-- A session that finds a client if it relays, or does not look for one. -/
def Linked (s : Session) : Prop :=
  s.flags.closed = true ∨
    ∃ bridge client, s.bridge = some bridge ∧
      bridge.resolve Bridge.events = some client

/-- Ways of relaying that differ at most where there is no bridge or no
client. -/
def Tantamount (t : Backend.Transport σ) (relaying : Relaying σ) : Prop :=
  ∀ (s : Session) (w : World σ) (p : DataPacket), s.Linked →
    relaying s w p = s.relay t w p

theorem shutdown_linked (t : Backend.Transport σ) (s : Session) (w : World σ)
    (cause : Option Failure) : (s.shutdown t w cause).1.Linked :=
  .inl (shutdown_closed t s w cause)

private theorem relay_linked (t : Backend.Transport σ) (h : s.Linked)
    (w : World σ) (p : DataPacket) :
    (s.relay t w p).1.Linked := by
  cases hclosed : s.flags.closed with
  | true =>
    rw [relay_of_closed t hclosed]
    exact h
  | false =>
    have hcase := relayed t hclosed w p
    generalize s.relay t w p = out at hcase
    cases hcase with
    | stranger bound hbound hid => exact shutdown_linked t _ _ _
    | bridgeless hown hbridge => exact h
    | unserved hown bridge hbridge hclient => exact shutdown_linked t _ _ _
    | accepted hown bridge hbridge client hclient u hsend => exact h
    | refused hown bridge hbridge client hclient fault hsend =>
      exact shutdown_linked t _ _ _

private theorem supervise_linked (t : Backend.Transport σ) (h : s.Linked)
    (w : World σ) (now : Nat) :
    (s.supervise t w now).1.Linked := by
  unfold supervise
  split
  · exact h
  · have hcase := checked t s w now
    generalize s.checkKeepAlive t w now = out at hcase
    cases hcase with
    | unsupervised hidle => exact h
    | silent hopen hpos hlate => exact shutdown_linked t _ _ _
    | timely hopen hpos htimely => exact h

/-- What a CONNECT brings to a session that it is due to. -/
theorem bind_linked {e : Established}
    (hbridge : ∃ client, e.bridge = ⟨some client, false⟩) :
    (s.bind e).Linked := by
  obtain ⟨client, hbridge⟩ := hbridge
  exact .inr ⟨e.bridge, client, rfl, by rw [hbridge]; rfl⟩

section

variable {t : Backend.Transport σ} {relaying : Relaying σ}

private theorem relayPendingBy_eq (hrelaying : Tantamount t relaying)
    (count : Nat) (h : s.Linked) (w : World σ) :
    relayPendingBy relaying count s w = relayPending t count s w ∧
      (relayPending t count s w).1.Linked := by
  induction count generalizing s w with
  | zero => exact ⟨rfl, h⟩
  | succ count ih =>
    simp only [relayPendingBy, relayPending]
    cases s.pending with
    | nil => exact ⟨rfl, h⟩
    | cons p rest =>
      have hrest : { s with pending := rest }.Linked := h
      simp only [hrelaying _ w p hrest]
      exact ih (relay_linked t hrest w p) _

private theorem relayHeldBy_eq (hrelaying : Tantamount t relaying)
    (h : s.Linked) (w : World σ) :
    relayHeldBy relaying s w = s.relayHeld t w := by
  unfold relayHeldBy relayHeld
  cases s.held with
  | none => rfl
  | some p =>
    have hunheld : { s with held := none }.Linked := h
    simp only [hrelaying _ w p hunheld]

/-- What a session does that relays without a bridge or a client does not
matter, if it has both as soon as it is connected.  From its bridge on, it can
relay or is closed, through the whole queue. -/
theorem answerBy_eq (hrelaying : Tantamount t relaying)
    (h : s.flags.phase = .connected → s.Linked) {d : Demand} (hdue : d.Due s)
    (w : World σ) :
    s.answerBy relaying t w d = s.answer t w d := by
  rw [← answerBy_relay]
  cases d with
  | receive now parcel =>
    simp only [answerBy]
    split
    · next p hopen hphase hdata =>
      have hheard : (s.heard now).Linked := h hphase
      rw [hrelaying _ w p hheard]
    · rfl
  | complete now outcome =>
    cases outcome with
    | error failure => rfl
    | ok e =>
      simp only [answerBy]
      split
      · rfl
      · let counted := w.count fun m => m.recordConnect none
        let checked := (s.bind e).supervise t counted now
        have hbound : (s.bind e).Linked := bind_linked (hdue.2.1 e rfl)
        have hchecked : checked.1.Linked :=
          supervise_linked t hbound counted now
        obtain ⟨hdrained, hlinked⟩ := relayPendingBy_eq hrelaying
          checked.1.pending.length hchecked checked.2
        have htantamount : Tantamount t (relay t) := fun _ _ _ _ => rfl
        rw [hdrained, relayHeldBy_eq hrelaying hlinked, relayPendingBy_relay,
          relayHeldBy_eq htantamount hlinked]
  | checkKeepAlive now => rfl
  | shutdown cause => rfl

end

end Session

/-! ## Agreement -/

namespace World

variable {σ : Type}

/-- A session that was never asked to close for want of a CONNECT. -/
def Supplied (w : World σ) : Prop :=
  ∀ failure, some failure ∈ w.causes → failure.code ≠ .connectExpected

theorem Supplied.of_causes {w w' : World σ} (h : w.Supplied)
    (hcauses : w'.causes = w.causes) :
    w'.Supplied := by
  intro failure hfailure
  rw [hcauses] at hfailure
  exact h failure hfailure

end World

namespace Session

variable {σ : Type} {s : Session} {w : World σ}

/-- The session can relay as soon as it is connected, and no CONNECT was
missed. -/
structure Agreed (s : Session) (w : World σ) : Prop where
  linked : s.flags.phase = .connected → s.Linked
  supplied : w.Supplied

theorem shutdown_supplied (t : Backend.Transport σ) (s : Session)
    (h : w.Supplied) {cause : Option Failure}
    (hcause : ∀ f, cause = some f → f.code ≠ .connectExpected) :
    (s.shutdown t w cause).2.Supplied := by
  have hcauses : (s.shutdown t w cause).2.causes = w.causes ++ [cause] := by
    cases hclosed : s.flags.closed with
    | true =>
      rw [shutdown_of_closed t hclosed]
      exact World.view_ask w cause _
    | false => simp [view_shutdown t hclosed]
  intro failure hfailure
  rw [hcauses, List.mem_append, List.mem_singleton] at hfailure
  rcases hfailure with hbefore | hsame
  · exact h failure hbefore
  · exact hcause failure hsame.symm

theorem shutdown_agreed (t : Backend.Transport σ) (s : Session) (h : w.Supplied)
    {failure : Failure} (hcode : failure.code ≠ .connectExpected) :
    Agreed (s.shutdown t w (some failure)).1
      (s.shutdown t w (some failure)).2 :=
  ⟨fun _ => shutdown_linked t s w _,
    shutdown_supplied t s h fun _ hsame => Option.some.inj hsame ▸ hcode⟩

theorem relay_agreed (t : Backend.Transport σ) (h : Agreed s w)
    (p : DataPacket) :
    Agreed (s.relay t w p).1 (s.relay t w p).2 := by
  have hreleased : (w.release p).Supplied :=
    h.supplied.of_causes (World.view_release w p _)
  cases hclosed : s.flags.closed with
  | true =>
    rw [relay_of_closed t hclosed]
    exact ⟨h.linked, hreleased⟩
  | false =>
    have hcase := relayed t hclosed w p
    generalize s.relay t w p = out at hcase
    cases hcase with
    | stranger bound hbound hid => exact shutdown_agreed t _ hreleased nofun
    | bridgeless hown hbridge => exact ⟨h.linked, hreleased⟩
    | unserved hown bridge hbridge hclient =>
      exact shutdown_agreed t _ hreleased nofun
    | accepted hown bridge hbridge client hclient u hsend =>
      exact ⟨h.linked, h.supplied.of_causes (by simp)⟩
    | refused hown bridge hbridge client hclient fault hsend =>
      exact shutdown_agreed t _ (h.supplied.of_causes (by simp))
        fault.code_ne_connectExpected

theorem checkKeepAlive_agreed (t : Backend.Transport σ) (h : Agreed s w)
    (now : Nat) :
    Agreed (s.checkKeepAlive t w now).1 (s.checkKeepAlive t w now).2 := by
  have hcase := checked t s w now
  generalize s.checkKeepAlive t w now = out at hcase
  cases hcase with
  | unsupervised hidle => exact ⟨h.linked, h.supplied⟩
  | silent hopen hpos hlate => exact shutdown_agreed t _ h.supplied nofun
  | timely hopen hpos htimely => exact ⟨h.linked, h.supplied⟩

private theorem relayPending_agreed (t : Backend.Transport σ) (count : Nat)
    (h : Agreed s w) :
    Agreed (relayPending t count s w).1 (relayPending t count s w).2 := by
  induction count generalizing s w with
  | zero => exact h
  | succ count ih =>
    unfold relayPending
    split
    · exact h
    · next p rest hpending =>
      have hrest : Agreed { s with pending := rest } w := ⟨h.linked, h.supplied⟩
      exact ih (relay_agreed t hrest p)

private theorem relayHeld_agreed (t : Backend.Transport σ) (h : Agreed s w) :
    Agreed (s.relayHeld t w).1 (s.relayHeld t w).2 := by
  unfold relayHeld
  split
  · exact h
  · next p hheld =>
    have hunheld : Agreed { s with held := none } w := ⟨h.linked, h.supplied⟩
    dsimp only
    split
    · exact ⟨h.linked, h.supplied.of_causes (World.view_release w p _)⟩
    · exact relay_agreed t hunheld p

private theorem complete_agreed (t : Backend.Transport σ)
    (hopen : s.flags.closed = false) (h : Agreed s w) (now : Nat)
    {outcome : Except Failure Established}
    (hdue : (Demand.complete now outcome).Due s) :
    Agreed (s.complete t w now outcome).1 (s.complete t w now outcome).2 := by
  cases outcome with
  | error failure =>
    exact shutdown_agreed t s (h.supplied.of_causes (World.view_count w _ _))
      (hdue.2.2 failure rfl)
  | ok e =>
    rw [complete_of_open t hopen]
    have hbound : Agreed (s.bind e) (w.count fun m => m.recordConnect none) :=
      ⟨fun _ => bind_linked (hdue.2.1 e rfl), h.supplied.of_causes
        (World.view_count w _ _)⟩
    have hchecked : Agreed
        ((s.bind e).supervise t (w.count fun m => m.recordConnect none) now).1
        ((s.bind e).supervise t
          (w.count fun m => m.recordConnect none) now).2 := by
      unfold supervise
      split
      · exact hbound
      · exact checkKeepAlive_agreed t hbound now
    exact relayHeld_agreed t (relayPending_agreed t _ hchecked)

private theorem receive_agreed (t : Backend.Transport σ) (h : Agreed s w)
    (now : Nat) {parcel : Parcel} (hdue : (Demand.receive now parcel).Due s) :
    Agreed (s.receive t w now parcel).2.1 (s.receive t w now parcel).2.2 := by
  have hheard : Agreed (s.heard now) w := ⟨h.linked, h.supplied⟩
  have hcase := received t s w now parcel
  generalize s.receive t w now parcel = out at hcase
  cases hcase with
  | dropped hclosed =>
    exact ⟨h.linked, h.supplied.of_causes (World.view_releaseAll w _ _)⟩
  | empty hopen hdata hconnect => exact hheard
  | begun hopen hphase request hconnect => exact ⟨nofun, h.supplied⟩
  | unexpected hopen hphase hconnect p hdata =>
    have hsome := hdue hphase (by rw [hdata]; rfl)
    rw [hconnect] at hsome
    cases hsome
  | queued hopen hphase p hdata =>
    refine ⟨fun hconnected => ?_, h.supplied⟩
    rw [(enqueue_flags (s.heard now) p).2.2] at hconnected
    exact absurd (hphase.symm.trans hconnected) (by decide)
  | live hopen hphase p hdata => exact relay_agreed t hheard p

/-- Agreement outlasts the answers to what is due. -/
theorem answer_agreed (t : Backend.Transport σ) (hopen : s.flags.closed = false)
    {d : Demand} (hdue : d.Due s) (h : Agreed s w) :
    Agreed (s.answer t w d).2.1 (s.answer t w d).2.2 := by
  cases d with
  | receive now parcel => exact receive_agreed t h now hdue
  | complete now outcome => exact complete_agreed t hopen h now hdue
  | checkKeepAlive now => exact checkKeepAlive_agreed t h now
  | shutdown cause =>
    exact ⟨fun _ => shutdown_linked t s w cause,
      shutdown_supplied t s h.supplied hdue⟩

/-- A session that begins a CONNECT has not begun one before, and leaves the
first phase. -/
theorem answer_begins (t : Backend.Transport σ) (s : Session) (w : World σ)
    {d : Demand} {request : Connect}
    (h : (s.answer t w d).1 = .beginConnect request) :
    s.flags.phase = .notConnected ∧
      (s.answer t w d).2.1.flags.phase = .connecting := by
  cases d with
  | receive now parcel =>
    have hphase := receive_phase t s w now parcel
    simp only [answer] at h ⊢
    generalize s.receive t w now parcel = out at h hphase
    obtain ⟨reception, s', w'⟩ := out
    obtain rfl : reception = .beginConnect request := h
    exact hphase
  | complete now outcome => cases h
  | checkKeepAlive now => cases h
  | shutdown cause => cases h

/-- The first phase is left for good. -/
theorem answer_begun (t : Backend.Transport σ) (hopen : s.flags.closed = false)
    (h : s.flags.phase ≠ .notConnected) (w : World σ) (d : Demand) :
    (s.answer t w d).2.1.flags.phase ≠ .notConnected := by
  cases d with
  | receive now parcel =>
    have hphase := receive_phase t s w now parcel
    simp only [answer]
    generalize s.receive t w now parcel = out at hphase
    obtain ⟨reception, s', w'⟩ := out
    cases reception with
    | handled =>
      intro hagain
      exact h (hphase.symm.trans hagain)
    | beginConnect request => exact absurd hphase.1 h
  | complete now outcome =>
    cases outcome with
    | error failure =>
      intro hagain
      exact h ((shutdown_phase t s _ _).symm.trans hagain)
    | ok e =>
      intro hagain
      have hconnected := complete_phase (t := t) hopen w now e
      exact absurd (hconnected.symm.trans hagain) (by decide)
  | checkKeepAlive now =>
    intro hagain
    exact h ((checkKeepAlive_phase t s w now).symm.trans hagain)
  | shutdown cause =>
    intro hagain
    exact h ((shutdown_phase t s w cause).symm.trans hagain)

end Session

namespace Clocked

variable {σ : Type} {v : Services σ} {r : Clocked σ}

/-- The CONNECT that is begun when something happens. -/
def opening (v : Services σ) (r : Clocked σ) (x : Nat × Incident σ) :
    Option Connect :=
  match (r.wait x.1).asks v x.2 with
  | none => none
  | some (w, d) =>
    match (r.connection.session.answer v.transport w d).1 with
    | .handled => none
    | .beginConnect request => some request

/-- The CONNECTs that are begun in a run. -/
def begun (v : Services σ) (r : Clocked σ) :
    List (Nat × Incident σ) → List Connect
  | [] => []
  | x :: steps => (r.opening v x).toList ++ begun v (r.step v x) steps

/-- A step takes over what the session answers, and does nothing to it
otherwise. -/
theorem step_answer (v : Services σ) (r : Clocked σ) (x : Nat × Incident σ) :
    match (r.wait x.1).asks v x.2 with
    | none =>
      (r.step v x).connection.session = r.connection.session ∧
        r.world.Alike (r.step v x).world
    | some (w, d) =>
      (r.step v x).connection.session =
        (r.connection.session.answer v.transport w d).2.1 ∧
        (r.step v x).world =
          (r.connection.session.answer v.transport w d).2.2 := by
  have hheeds := happen_heeds v (r.wait x.1) x.2
  generalize (r.wait x.1).asks v x.2 = asked at hheeds
  cases hheeds with
  | quiet session connecting world => exact ⟨session, world⟩
  | asked alike session connecting concluded world => exact ⟨session, world⟩

theorem opening_phase {x : Nat × Incident σ} {request : Connect}
    (h : r.opening v x = some request) :
    r.connection.session.flags.phase = .notConnected ∧
      (r.step v x).connection.session.flags.phase = .connecting := by
  have hanswer := step_answer v r x
  unfold opening at h
  generalize (r.wait x.1).asks v x.2 = asked at hanswer h
  cases asked with
  | none => cases h
  | some asked =>
    obtain ⟨w, d⟩ := asked
    dsimp only at h hanswer
    split at h
    · cases h
    · next request' hbegins =>
      rw [hanswer.1]
      exact Session.answer_begins v.transport r.connection.session w hbegins

private theorem step_begun (h : r.Orderly)
    (hphase : r.connection.session.flags.phase ≠ .notConnected)
    (x : Nat × Incident σ) :
    (r.step v x).connection.session.flags.phase ≠ .notConnected := by
  have hanswer := step_answer v r x
  have hdue : ∀ {w : World σ} {d : Demand},
      (r.wait x.1).asks v x.2 = some (w, d) →
      r.connection.session.flags.closed = false := fun hasks =>
        (asks_due (h.wait x.1) hasks).1
  generalize (r.wait x.1).asks v x.2 = asked at hanswer hdue
  cases asked with
  | none =>
    rw [hanswer.1]
    exact hphase
  | some asked =>
    rw [hanswer.1]
    exact Session.answer_begun v.transport (hdue rfl) hphase _ _

private theorem begun_eq_nil (h : r.Orderly)
    (hphase : r.connection.session.flags.phase ≠ .notConnected)
    (steps : List (Nat × Incident σ)) : r.begun v steps = [] := by
  induction steps generalizing r with
  | nil => rfl
  | cons x steps ih =>
    have hnone : r.opening v x = none := by
      cases hopening : r.opening v x with
      | none => rfl
      | some request => exact absurd (opening_phase hopening).1 hphase
    rw [begun, hnone]
    exact ih (happen_orderly v (h.wait x.1) x.2) (step_begun h hphase x)

/-- One CONNECT is begun at most. -/
theorem length_begun_le (h : r.Orderly) (steps : List (Nat × Incident σ)) :
    (r.begun v steps).length ≤ 1 := by
  induction steps generalizing r with
  | nil => exact Nat.zero_le 1
  | cons x steps ih =>
    have horderly : (r.step v x).Orderly := happen_orderly v (h.wait x.1) x.2
    rw [begun, List.length_append]
    cases hopening : r.opening v x with
    | none => exact (Nat.zero_add _).symm ▸ ih horderly
    | some request =>
      have hleft : (r.step v x).connection.session.flags.phase ≠
          .notConnected := by
        rw [(opening_phase hopening).2]
        decide
      rw [begun_eq_nil horderly hleft]
      exact Nat.le_refl 1

private theorem run_agreed (v : Services σ) (connectionId : String)
    (peer : Option Peer) (now : Nat) (backend : σ) (metrics : Option Metrics)
    (steps : List (Nat × Incident σ)) :
    let r := (start v connectionId peer now { backend, metrics }).run v steps
    Session.Agreed r.connection.session r.world := by
  intro r
  refine (start_orderly v connectionId peer now _).lift (v := v) ?_ ?_ ?_ steps
  · intro s w w' halike h
    exact ⟨h.linked, h.supplied.of_causes (halike.view _)⟩
  · intro s w d hopen hdue h
    exact Session.answer_agreed v.transport hopen hdue h
  · exact ⟨nofun, nofun⟩

/-- The stages agree in every run of a connection.  A CONNECT is in work only
while the session waits for its outcome, and no second one is begun.  The
tenancy can be resolved.  No session is asked to close for want of a CONNECT.
Whatever happens next, the session is left alone or it answers, and then a
session that wants a CONNECT is given no data without, and the answer is the
same whatever a session would do that relays without a bridge, or with a bridge
that serves no client. -/
theorem run_agreement (v : Services σ) (connectionId : String)
    (peer : Option Peer) (now : Nat) (backend : σ) (metrics : Option Metrics)
    (steps : List (Nat × Incident σ)) :
    let r₀ := start v connectionId peer now { backend, metrics }
    let r := r₀.run v steps
    let s := r.connection.session
    (r.connection.connecting.isSome = true → s.flags.phase = .connecting) ∧
    (r₀.begun v steps).length ≤ 1 ∧
    (∃ tenancy chain,
      r.connection.chain.resolve v.table v.maxMessageSize r.connection.peer =
      .ok (tenancy, chain)) ∧
    (∀ failure, some failure ∈ r.world.causes →
      failure.code ≠ .connectExpected) ∧
    ∀ x : Nat × Incident σ,
      match (r.wait x.1).asks v x.2 with
      | none =>
        (r.step v x).connection.session = s ∧ r.world.Alike (r.step v x).world
      | some (w, d) =>
        (∀ now parcel, d = .receive now parcel → s.flags.phase = .notConnected →
          parcel.data.isSome = true → parcel.connect.isSome = true) ∧
        ∀ relaying : Session.Relaying σ,
          Session.Tantamount v.transport relaying →
          (r.step v x).connection.session =
            (s.answerBy relaying v.transport w d).2.1 ∧
            (r.step v x).world = (s.answerBy relaying v.transport w d).2.2 := by
  intro r₀ r s
  have hfirst : r₀.Orderly := start_orderly v connectionId peer now _
  have horderly : r.Orderly := run_orderly v hfirst steps
  have hagreed : Session.Agreed s r.world :=
    run_agreed v connectionId peer now backend metrics steps
  obtain ⟨tenancy, chain, d, hresolve, -⟩ := horderly.tuned.resolve v
  refine ⟨horderly.connecting, length_begun_le hfirst steps,
    ⟨tenancy, chain, hresolve⟩, hagreed.supplied, ?_⟩
  intro x
  have hanswer := step_answer v r x
  have hdue : ∀ {w : World σ} {d : Demand},
      (r.wait x.1).asks v x.2 = some (w, d) → d.Due s :=
    fun hasks => (asks_due (horderly.wait x.1) hasks).2
  generalize (r.wait x.1).asks v x.2 = asked at hanswer hdue
  cases asked with
  | none => exact hanswer
  | some asked =>
    obtain ⟨w, d⟩ := asked
    refine ⟨?_, fun relaying hrelaying => ?_⟩
    · rintro now parcel rfl
      exact hdue rfl
    · rw [Session.answerBy_eq hrelaying hagreed.linked (hdue rfl)]
      exact hanswer

end Clocked

end DeviceGateway
