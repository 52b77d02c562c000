import DeviceGateway.Proofs.Session.Conveyance

/-!
# Runs of a session

A run asks a session for one thing after the other, in any order and at any
times: to take parcels in, to take the outcome of the CONNECT in, to check the
keep-alive, to close.  The one rule is that an outcome is only handed to a
session that began a CONNECT and has not had its outcome yet.

Beside the session a run keeps the history that statements about it are made
of: the data that came with the CONNECT, the data that came while the session
was open and connecting, the data that came while it was open and connected,
and what the CONNECT brought, in time or too late.  The history is written from
what is asked and from the flags before, never from what the session stores.

A run is always in one of five situations.  It is idle, it waits for the
outcome of its CONNECT, it was dropped without ever being bound, it serves the
device it is bound to, or it has served and is closed.

## Main results

* `situation_step`: each thing that can be asked leads from a situation to one.
* `situation_run`: every run is in a situation.
-/

namespace DeviceGateway

/-- What may be asked of a session. -/
inductive Demand where
  | receive (now : Nat) (parcel : Parcel)
  /-- To take in the outcome of the CONNECT that was begun. -/
  | complete (now : Nat) (outcome : Except Failure Established)
  | checkKeepAlive (now : Nat)
  | shutdown (cause : Option Failure)

/-- A session and its world in the course of a run, and the history of it. -/
structure Run (σ : Type) where
  session : Session
  world : World σ
  /-- Whether a CONNECT was begun whose outcome was not taken in. -/
  awaiting : Bool := false
  /-- The data that came with the CONNECT. -/
  held : Option DataPacket := none
  /-- The data that came while the session was open and connecting. -/
  queued : List DataPacket := []
  /-- The data that came while the session was open and connected. -/
  live : List DataPacket := []
  /-- What the CONNECT brought to an open session. -/
  bound : Option Established := none
  /-- What the CONNECT brought to a closed one. -/
  late : Option Established := none

namespace Run

open Session (laden Flowing Halted)

variable {σ : Type}

/-- The start of a run: a fresh session in a world where nothing happened
yet. -/
def start (setup : SessionSetup) (connectionId : String) (now : Nat)
    (w : World σ) : Run σ where
  session := { setup, connectionId, lastActivity := now }
  world := { w with journal := [] }

/-- Writes down that a parcel came, and whether it began the CONNECT. -/
def note (r : Run σ) (parcel : Parcel) : Reception → Run σ
  | .beginConnect _ => { r with awaiting := true, held := parcel.data }
  | .handled =>
    if r.session.flags.closed then r
    else
      match r.session.flags.phase with
      | .notConnected => r
      | .connecting => { r with queued := r.queued ++ parcel.data.toList }
      | .connected => { r with live := r.live ++ parcel.data.toList }

/-- Writes down that the CONNECT had its outcome. -/
def conclude (r : Run σ) : Except Failure Established → Run σ
  | .error _ => { r with awaiting := false }
  | .ok e =>
    if r.session.flags.closed then { r with awaiting := false, late := some e }
    else { r with awaiting := false, bound := some e }

/-- Asks for one thing.  An outcome that nobody waits for is not handed over. -/
def step (t : Backend.Transport σ) (r : Run σ) : Demand → Run σ
  | .receive now parcel =>
    let out := r.session.receive t r.world now parcel
    { r.note parcel out.1 with session := out.2.1, world := out.2.2 }
  | .complete now outcome =>
    if r.awaiting then
      let out := r.session.complete t r.world now outcome
      { r.conclude outcome with session := out.1, world := out.2 }
    else r
  | .checkKeepAlive now =>
    let out := r.session.checkKeepAlive t r.world now
    { r with session := out.1, world := out.2 }
  | .shutdown cause =>
    let out := r.session.shutdown t r.world cause
    { r with session := out.1, world := out.2 }

/-- Asks for one thing after the other. -/
def run (t : Backend.Transport σ) (r : Run σ) (demands : List Demand) : Run σ :=
  demands.foldl (step t) r

/-- Everything that is to be relayed, in order: what waited for the CONNECT,
what came with it, and what came since. -/
def line (r : Run σ) : List DataPacket :=
  r.queued ++ laden r.held ++ r.live

/-! ## Situations -/

/-- A session that never had a CONNECT succeed. -/
structure Unbound (r : Run σ) : Prop where
  identity : r.session.identity = none
  bridge : r.session.bridge = none
  keepAlive : r.session.keepAlive = 0
  live : r.live = []
  bound : r.bound = none
  offers : r.world.offers = []

/-- The session is open and no CONNECT was begun. -/
structure Idle (r : Run σ) : Prop extends r.Unbound where
  opened : r.session.flags.closed = false
  phase : r.session.flags.phase = .notConnected
  pending : r.session.pending = []
  held : r.session.held = none
  awaiting : r.awaiting = false
  queued : r.queued = []
  late : r.late = none
  disposals : r.world.disposals = []
  causes : r.world.causes = []

/-- The session is open and stores what came, until the CONNECT has its
outcome. -/
structure Waiting (r : Run σ) : Prop extends r.Unbound where
  opened : r.session.flags.closed = false
  phase : r.session.flags.phase = .connecting
  pending : r.session.pending = r.queued
  held : r.session.held = r.held
  awaiting : r.awaiting = true
  late : r.late = none
  disposals : r.world.disposals = []
  causes : r.world.causes = []

/-- The session was closed before a CONNECT succeeded.  One that succeeds now
brings a bridge that is put away at once. -/
structure Dropped (r : Run σ) : Prop extends r.Unbound where
  spent : r.session.Spent
  phase : r.session.flags.phase ≠ .connected
  late : r.awaiting = true → r.late = none
  disposals : r.world.disposals = r.late.toList.map fun e => (e.bridge, none)
  causes : ∃ cause, r.world.causes.head? = some cause

/-- The session is bound and open, and all of its line is accepted. -/
structure Serving (r : Run σ) (e : Established) : Prop where
  flowing : Flowing e r.line r.session r.world
  pending : r.session.pending = []
  held : r.session.held = none
  awaiting : r.awaiting = false
  bound : r.bound = some e
  late : r.late = none

/-- The session was bound and is closed, and its line is accepted up to where
it halted. -/
structure Served (r : Run σ) (e : Established) (cause : Option Failure)
    (taken rest : List DataPacket) : Prop where
  halted : Halted e cause taken rest r.session r.world
  line : r.line = taken ++ rest
  awaiting : r.awaiting = false
  bound : r.bound = some e
  late : r.late = none

/-- The situations that a run can be in. -/
inductive Situation (r : Run σ) : Prop
  | idle (h : r.Idle)
  | waiting (h : r.Waiting)
  | dropped (h : r.Dropped)
  | serving (e : Established) (h : r.Serving e)
  | served (e : Established) (cause : Option Failure)
      (taken rest : List DataPacket) (h : r.Served e cause taken rest)

theorem situation_start (setup : SessionSetup) (connectionId : String)
    (now : Nat) (w : World σ) : (start setup connectionId now w).Situation :=
  .idle
    { identity := rfl, bridge := rfl, keepAlive := rfl, live := rfl
      bound := rfl, offers := rfl
      opened := rfl, phase := rfl, pending := rfl, held := rfl, awaiting := rfl
      queued := rfl
      late := rfl, disposals := rfl, causes := rfl }

/-! ## Steps

Which ways an operation can go depends on the situation; the others contradict
the flags. -/

variable {r : Run σ} {e : Established} {cause : Option Failure}
  {taken rest : List DataPacket}

theorem Unbound.of_session (h : r.Unbound) {r' : Run σ}
    (hidentity : r'.session.identity = r.session.identity)
    (hbridge : r'.session.bridge = r.session.bridge)
    (hkeepAlive : r'.session.keepAlive = r.session.keepAlive)
    (hlive : r'.live = r.live) (hbound : r'.bound = r.bound)
    (hoffers : r'.world.offers = r.world.offers) : r'.Unbound where
  identity := hidentity.trans h.identity
  bridge := hbridge.trans h.bridge
  keepAlive := hkeepAlive.trans h.keepAlive
  live := hlive.trans h.live
  bound := hbound.trans h.bound
  offers := hoffers.trans h.offers

/-- An open session that was not bound has no bridge to put away. -/
theorem Unbound.dropped (h : r.Unbound) (t : Backend.Transport σ)
    (hopen : r.session.flags.closed = false)
    (hphase : r.session.flags.phase ≠ .connected) (hlate : r.late = none)
    (hdisposals : r.world.disposals = []) (hcauses : r.world.causes = [])
    (cause : Option Failure) :
    Dropped
      { r with
        session := (r.session.shutdown t r.world cause).1
        world := (r.session.shutdown t r.world cause).2 } := by
  have hview : (r.session.shutdown t r.world cause).2.offers = r.world.offers ∧
      (r.session.shutdown t r.world cause).2.disposals = r.world.disposals := by
    simp [Session.view_shutdown t hopen, h.bridge]
  rw [Session.shutdown_of_open t hopen]
  exact
    { toUnbound := h.of_session rfl h.bridge.symm rfl rfl rfl hview.1
      spent := Session.ended_spent _
      phase := hphase
      late := fun _ => hlate
      disposals := by rw [hview.2, hdisposals, hlate]; rfl
      causes := ⟨cause, by simp [Session.view_shutdown t hopen, hcauses]⟩ }

theorem Idle.receive (h : r.Idle) (t : Backend.Transport σ) (now : Nat)
    (parcel : Parcel) :
    (r.step t (.receive now parcel)).Situation := by
  have hcase := Session.received t r.session r.world now parcel
  simp only [step]
  generalize r.session.receive t r.world now parcel = out at hcase
  cases hcase with
  | dropped hclosed => exact absurd hclosed (by simp [h.opened])
  | empty hopen hdata hconnect =>
    simp only [note, h.opened, h.phase, Bool.false_eq_true, if_false]
    exact .idle { h with }
  | begun hopen hphase request hconnect =>
    exact .waiting { h with
      phase := rfl, pending := h.pending.trans h.queued.symm, held := rfl
      awaiting := rfl }
  | unexpected hopen hphase hconnect p hdata =>
    simp only [note, h.opened, h.phase, Bool.false_eq_true, if_false]
    have hheard : Unbound
        { r with session := r.session.heard now, world := r.world.release p } :=
      h.toUnbound.of_session rfl rfl rfl rfl rfl (World.view_release _ _ _)
    exact .dropped (hheard.dropped t h.opened (by simp [Session.heard, h.phase])
      h.late h.disposals h.causes _)
  | queued hopen hphase => exact absurd (h.phase.symm.trans hphase) (by decide)
  | live hopen hphase => exact absurd (h.phase.symm.trans hphase) (by decide)

theorem Waiting.receive (h : r.Waiting) (t : Backend.Transport σ) (now : Nat)
    (parcel : Parcel) :
    (r.step t (.receive now parcel)).Situation := by
  have hcase := Session.received t r.session r.world now parcel
  simp only [step]
  generalize r.session.receive t r.world now parcel = out at hcase
  cases hcase with
  | dropped hclosed => exact absurd hclosed (by simp [h.opened])
  | empty hopen hdata hconnect =>
    simp only [note, h.opened, h.phase, hdata, Option.toList_none,
      List.append_nil, Bool.false_eq_true, if_false]
    exact .waiting { h with }
  | begun hopen hphase => exact absurd (h.phase.symm.trans hphase) (by decide)
  | unexpected hopen hphase =>
    exact absurd (h.phase.symm.trans hphase) (by decide)
  | queued hopen hphase p hdata =>
    simp only [note, h.opened, h.phase, hdata, Option.toList_some,
      Bool.false_eq_true, if_false]
    obtain ⟨hclosed, -, hkept⟩ := Session.enqueue_flags (r.session.heard now) p
    exact .waiting { h with
      opened := hclosed.trans h.opened
      phase := hkept.trans h.phase
      pending := by
        change r.session.pending ++ [p] = r.queued ++ [p]
        rw [h.pending] }
  | live hopen hphase => exact absurd (h.phase.symm.trans hphase) (by decide)

theorem Serving.receive (h : r.Serving e) (t : Backend.Transport σ) (now : Nat)
    (parcel : Parcel) : (r.step t (.receive now parcel)).Situation := by
  have hcase := Session.received t r.session r.world now parcel
  simp only [step]
  generalize r.session.receive t r.world now parcel = out at hcase
  have hopen := h.flowing.opened
  have hphase := h.flowing.phase
  have hheard : Flowing e r.line (r.session.heard now) r.world :=
    h.flowing.of_session rfl rfl rfl rfl rfl rfl
  cases hcase with
  | dropped hclosed => exact absurd hclosed (by simp [hopen])
  | empty _ hdata hconnect =>
    simp only [note, hopen, hphase, hdata, Option.toList_none, List.append_nil,
      Bool.false_eq_true, if_false]
    exact .serving e { h with flowing := hheard }
  | begun _ hphase' => exact absurd (hphase.symm.trans hphase') (by decide)
  | unexpected _ hphase' => exact absurd (hphase.symm.trans hphase') (by decide)
  | queued _ hphase' => exact absurd (hphase.symm.trans hphase') (by decide)
  | live _ _ p hdata =>
    simp only [note, hopen, hphase, hdata, Option.toList_some,
      Bool.false_eq_true, if_false]
    have hline : r.queued ++ laden r.held ++ (r.live ++ [p]) = r.line ++ [p] :=
      (List.append_assoc _ _ _).symm
    rcases hheard.relay t p with ⟨hsession, hflowing⟩ | ⟨cause, hhalted⟩
    · rw [hsession]
      exact .serving e { h with flowing := by rw [line, hline]; exact hflowing }
    · exact .served e cause r.line [p]
        { halted := hhalted [], line := hline, awaiting := h.awaiting
          bound := h.bound
          late := h.late }

theorem Waiting.complete (h : r.Waiting) (t : Backend.Transport σ) (now : Nat)
    (outcome : Except Failure Established) :
    (r.step t (.complete now outcome)).Situation := by
  simp only [step, h.awaiting, if_true]
  cases outcome with
  | error failure =>
    have hcounted : Unbound { r with
        awaiting := false
        world := r.world.count fun m => m.recordConnect (some failure.code) } :=
      h.toUnbound.of_session rfl rfl rfl rfl rfl rfl
    exact .dropped
      (hcounted.dropped t h.opened (by simp [h.phase]) h.late h.disposals
        h.causes _)
  | ok e =>
    simp only [conclude, h.opened, Bool.false_eq_true, if_false]
    have hline : r.queued ++ laden r.held ++ r.live =
        r.session.pending ++ laden r.session.held := by
      rw [h.live, List.append_nil, h.pending, h.held]
    rcases Session.conveyed_complete t h.opened h.offers h.disposals h.causes e
      now with
      ⟨hflowing, hpending, hheld⟩ | ⟨cause, taken, rest, hsplit, hhalted⟩
    · exact .serving e
        { flowing := by rw [line, hline]; exact hflowing
          pending := hpending, held := hheld, awaiting := rfl, bound := rfl
          late := h.late }
    · exact .served e cause taken rest
        { halted := hhalted, line := hline.trans hsplit, awaiting := rfl
          bound := rfl
          late := h.late }

/-- A session that was not bound is not supervised. -/
theorem Unbound.checkKeepAlive (h : r.Unbound) (t : Backend.Transport σ)
    (now : Nat) :
    r.session.checkKeepAlive t r.world now =
      ({ r.session with deadline := none }, r.world) := by
  simp [Session.checkKeepAlive, h.keepAlive]

theorem Serving.checkKeepAlive (h : r.Serving e) (t : Backend.Transport σ)
    (now : Nat) :
    (r.step t (.checkKeepAlive now)).Situation := by
  simp only [step]
  rcases h.flowing.checkKeepAlive t now with ⟨deadline, hchecked⟩ |
    ⟨cause, hhalted⟩
  · rw [hchecked]
    exact .serving e
      { h with flowing := h.flowing.of_session rfl rfl rfl rfl rfl rfl }
  · exact .served e cause r.line []
      { halted := hhalted [] (.inr rfl), line := (List.append_nil _).symm
        awaiting := h.awaiting, bound := h.bound, late := h.late }

theorem Serving.shutdown (h : r.Serving e) (t : Backend.Transport σ)
    (cause : Option Failure) :
    (r.step t (.shutdown cause)).Situation :=
  .served e cause r.line []
    { halted := h.flowing.shutdown t cause [] (fun p hp => by cases hp)
      line := (List.append_nil _).symm, awaiting := h.awaiting
      bound := h.bound, late := h.late }

/-! ### Steps of a closed session -/

/-- What a step can still do when the session is closed: the session stays as it
is, nothing is offered, and a bridge is put away only if a CONNECT that was
begun succeeds now. -/
structure Unmoved (r r' : Run σ) : Prop where
  session : r'.session = r.session
  offers : r'.world.offers = r.world.offers
  causes : r.world.causes <+: r'.world.causes
  line : r'.line = r.line
  live : r'.live = r.live
  bound : r'.bound = r.bound
  outcome : (r'.late = r.late ∧ r'.world.disposals = r.world.disposals ∧
      (r'.awaiting = true → r.awaiting = true)) ∨
    ∃ e, r.awaiting = true ∧ r'.awaiting = false ∧ r'.late = some e ∧
      r'.world.disposals = r.world.disposals ++ [(e.bridge, none)]

theorem unmoved_of_spent (t : Backend.Transport σ) (h : r.session.Spent)
    (d : Demand) :
    r.Unmoved (r.step t d) := by
  cases d with
  | receive now parcel =>
    simp only [step, Session.receive_of_closed t h.closed, note, h.closed,
      if_true]
    exact
      { session := rfl, offers := World.view_releaseAll _ _ _
        causes := by simp
        line := rfl, live := rfl, bound := rfl
        outcome := .inl ⟨rfl, World.view_releaseAll _ _ _, id⟩ }
  | complete now outcome =>
    cases hawaiting : r.awaiting with
    | false =>
      simp only [step, hawaiting, Bool.false_eq_true, if_false]
      exact
        { session := rfl, offers := rfl, causes := List.prefix_rfl, line := rfl
          live := rfl
          bound := rfl, outcome := .inl ⟨rfl, rfl, id⟩ }
    | true =>
      simp only [step, hawaiting, if_true]
      cases outcome with
      | error failure =>
        simp only [Session.complete, Session.shutdown_of_closed t h.closed]
        exact
          { session := rfl, offers := by simp, causes := by simp, line := rfl
            live := rfl
            bound := rfl, outcome := .inl ⟨rfl, by simp, fun _ => hawaiting⟩ }
      | ok e =>
        simp only [Session.complete_of_closed t h.closed, conclude, h.closed,
          if_true]
        exact
          { session := rfl, offers := by simp, causes := by simp, line := rfl
            live := rfl
            bound := rfl, outcome := .inr ⟨e, hawaiting, rfl, rfl, by simp⟩ }
  | checkKeepAlive now =>
    simp only [step, Session.checkKeepAlive_of_spent t h]
    exact
      { session := rfl, offers := rfl, causes := List.prefix_rfl, line := rfl
        live := rfl
        bound := rfl, outcome := .inl ⟨rfl, rfl, id⟩ }
  | shutdown cause =>
    simp only [step, Session.shutdown_of_closed t h.closed]
    exact
      { session := rfl, offers := by simp, causes := by simp, line := rfl
        live := rfl
        bound := rfl, outcome := .inl ⟨rfl, by simp, id⟩ }

/-- Who asks later does not come first. -/
theorem Unmoved.head_causes {r' : Run σ} (h : r.Unmoved r')
    {cause : Option Failure} (hcause : r.world.causes.head? = some cause) :
    r'.world.causes.head? = some cause := by
  obtain ⟨more, hmore⟩ := h.causes
  rw [← hmore, List.head?_append, hcause]
  rfl

theorem Unmoved.dropped {r' : Run σ} (h : r.Unmoved r') (hdropped : r.Dropped) :
    r'.Dropped where
  toUnbound := hdropped.toUnbound.of_session (by rw [h.session])
    (by rw [h.session]) (by rw [h.session]) h.live h.bound h.offers
  spent := by rw [h.session]; exact hdropped.spent
  phase := by rw [h.session]; exact hdropped.phase
  late hawaiting := by
    rcases h.outcome with ⟨hlate, -, hback⟩ | ⟨e, -, hnot, -, -⟩
    · exact hlate.trans (hdropped.late (hback hawaiting))
    · rw [hnot] at hawaiting
      cases hawaiting
  disposals := by
    rcases h.outcome with ⟨hlate, hdisposals, -⟩ |
      ⟨e, hawaiting, -, hlate, hdisposals⟩
    · rw [hdisposals, hlate]
      exact hdropped.disposals
    · rw [hdisposals, hdropped.disposals, hdropped.late hawaiting, hlate]
      rfl
  causes := by
    obtain ⟨cause, hcause⟩ := hdropped.causes
    exact ⟨cause, h.head_causes hcause⟩

theorem Unmoved.served {r' : Run σ} (h : r.Unmoved r')
    (hserved : r.Served e cause taken rest) :
    r'.Served e cause taken rest := by
  have hhalted := hserved.halted
  rcases h.outcome with ⟨hlate, hdisposals, hback⟩ | ⟨_, hawaiting, -⟩
  · exact
      { halted :=
          { spent := by rw [h.session]; exact hhalted.spent
            phase := by rw [h.session]; exact hhalted.phase
            identity := by rw [h.session]; exact hhalted.identity
            keepAlive := by rw [h.session]; exact hhalted.keepAlive
            offers := by
              unfold Session.OfferedBy
              rw [h.offers]
              exact hhalted.offers
            accepted := by
              rw [h.session]
              exact (World.accepted_congr h.offers).trans hhalted.accepted
            causes := h.head_causes hhalted.causes
            disposals := by rw [hdisposals, h.session]; exact hhalted.disposals
            stop := by rw [h.offers, h.session]; exact hhalted.stop }
        line := h.line.trans hserved.line
        awaiting := by
          rw [Bool.eq_false_iff]
          exact fun h' => absurd (hback h') (by simp [hserved.awaiting])
        bound := h.bound.trans hserved.bound
        late := hlate.trans hserved.late }
  · exact absurd hawaiting (by simp [hserved.awaiting])

/-! ### All steps -/

theorem situation_step (t : Backend.Transport σ) (h : r.Situation)
    (d : Demand) :
    (r.step t d).Situation := by
  cases h with
  | idle h =>
    cases d with
    | receive now parcel => exact h.receive t now parcel
    | complete now outcome =>
      simp only [step, h.awaiting, Bool.false_eq_true, if_false]
      exact .idle h
    | checkKeepAlive now =>
      simp only [step, h.toUnbound.checkKeepAlive t now]
      exact .idle { h with }
    | shutdown cause =>
      exact .dropped (h.toUnbound.dropped t h.opened (by simp [h.phase]) h.late
        h.disposals h.causes cause)
  | waiting h =>
    cases d with
    | receive now parcel => exact h.receive t now parcel
    | complete now outcome => exact h.complete t now outcome
    | checkKeepAlive now =>
      simp only [step, h.toUnbound.checkKeepAlive t now]
      exact .waiting { h with }
    | shutdown cause =>
      exact .dropped (h.toUnbound.dropped t h.opened (by simp [h.phase]) h.late
        h.disposals h.causes cause)
  | serving e h =>
    cases d with
    | receive now parcel => exact h.receive t now parcel
    | complete now outcome =>
      simp only [step, h.awaiting, Bool.false_eq_true, if_false]
      exact .serving e h
    | checkKeepAlive now => exact h.checkKeepAlive t now
    | shutdown cause => exact h.shutdown t cause
  | dropped h => exact .dropped ((unmoved_of_spent t h.spent d).dropped h)
  | served e cause taken rest h =>
    exact .served e cause taken rest
      ((unmoved_of_spent t h.halted.spent d).served h)

theorem situation_run (t : Backend.Transport σ) (h : r.Situation)
    (demands : List Demand) :
    (r.run t demands).Situation := by
  induction demands generalizing r with
  | nil => exact h
  | cons d demands ih => exact ih (situation_step t h d)

end Run

end DeviceGateway
