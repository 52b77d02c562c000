import DeviceGateway.Proofs.Session.Effect

/-!
# The clock of a session

Three fields of a session are about time: when it last heard from its device,
for how long the device may be silent, and when that is looked at next.  Most
operations have no part in them.  What relays or closes leaves a session
`Paced`: its phase and its times are as before, and the only thing that can
happen is that it is closed, with nothing scheduled any more.  Nor does it find
the device silent, which is what the view `timeouts` of the journal shows.

The deadline is not moved when the device is heard from.  It is computed when
the keep-alive is checked and may be out of date at once, so what holds of it is
a bound only: it never lies further ahead than one millisecond after the timeout
would expire.  `OnTime` is this bound together with its converse, that nothing
is scheduled for a session that need not be looked at.

## Main results

* `shutdown_paced` to `relayHeld_paced`: what has no part in the times of a
  session.
* `receive_onTime`, `checkKeepAlive_onTime`, `complete_onTime`: the bound lasts,
  if the clock does not go back.
* `checkKeepAlive_lapsed`, `complete_lapsed`: who finds a device silent.
-/

namespace DeviceGateway

/-- The failure with which a happening closes a session whose device is
silent. -/
def Happening.timeout? : Happening → Option Failure
  | .offered .. => none
  | .disposed .. => none
  | .asked cause =>
    cause.filter fun failure => failure.code == .keepAliveTimedOut

/-- The failures of silent devices. -/
abbrev World.timeouts {σ : Type} (w : World σ) : List Failure :=
  w.view Happening.timeout?

/-- Whether a cause of closing is anything but a silent device. -/
def Failure.Unlike (cause : Option Failure) : Prop :=
  ∀ failure, cause = some failure → failure.code ≠ .keepAliveTimedOut

namespace Session

variable {σ : Type} {s s' : Session} {w : World σ}

/-! ## Operations without a part in the times -/

/-- What has no part in the times of a session may close it, and no more. -/
structure Paced (s : Session) (w : World σ) (out : Session × World σ) :
    Prop where
  phase : out.1.flags.phase = s.flags.phase
  lastActivity : out.1.lastActivity = s.lastActivity
  keepAlive : out.1.keepAlive = s.keepAlive
  outcome : (out.1.flags.closed = s.flags.closed ∧ out.1.deadline = s.deadline ∧
      out.1.signalled = s.signalled) ∨
    (out.1.flags.closed = true ∧ out.1.deadline = none ∧ out.1.signalled = true)
  timeouts : out.2.timeouts = w.timeouts

theorem Paced.of_eq {w' : World σ} (h : w'.timeouts = w.timeouts) :
    s.Paced w (s, w') :=
  ⟨rfl, rfl, rfl, .inl ⟨rfl, rfl, rfl⟩, h⟩

theorem Paced.trans {mid out : Session × World σ} (h : s.Paced w mid)
    (h' : mid.1.Paced mid.2 out) : s.Paced w out where
  phase := h'.phase.trans h.phase
  lastActivity := h'.lastActivity.trans h.lastActivity
  keepAlive := h'.keepAlive.trans h.keepAlive
  outcome := by
    rcases h'.outcome with ⟨hclosed, hdeadline, hsignalled⟩ | hended
    · rw [hclosed, hdeadline, hsignalled]
      exact h.outcome
    · exact .inr hended
  timeouts := h'.timeouts.trans h.timeouts

/-- A session that differs in what it holds and in how it is marked is as well
paced. -/
theorem Paced.of_session {out : Session × World σ} (h : s'.Paced w out)
    (hphase : s'.flags.phase = s.flags.phase)
    (hclosed : s'.flags.closed = s.flags.closed)
    (hlastActivity : s'.lastActivity = s.lastActivity)
    (hkeepAlive : s'.keepAlive = s.keepAlive)
    (hdeadline : s'.deadline = s.deadline)
    (hsignalled : s'.signalled = s.signalled) :
    s.Paced w out where
  phase := h.phase.trans hphase
  lastActivity := h.lastActivity.trans hlastActivity
  keepAlive := h.keepAlive.trans hkeepAlive
  outcome := by
    rw [← hclosed, ← hdeadline, ← hsignalled]
    exact h.outcome
  timeouts := h.timeouts

section

variable (t : Backend.Transport σ)

theorem shutdown_timeouts (s : Session) (w : World σ) (cause : Option Failure) :
    (s.shutdown t w cause).2.timeouts =
      w.timeouts ++ (Happening.timeout? (.asked cause)).toList := by
  by_cases hclosed : s.flags.closed = true
  · rw [shutdown_of_closed t hclosed]
    exact World.view_ask w cause _
  · rw [Bool.not_eq_true] at hclosed
    rw [World.timeouts, view_shutdown t hclosed]
    cases s.bridge <;> simp [Happening.timeout?]

private theorem timeout?_eq_none {cause : Option Failure}
    (h : Failure.Unlike cause) :
    Happening.timeout? (.asked cause) = none := by
  cases cause with
  | none => rfl
  | some failure => simpa [Happening.timeout?] using h failure rfl

theorem shutdown_paced (s : Session) (w : World σ) {cause : Option Failure}
    (h : Failure.Unlike cause) : s.Paced w (s.shutdown t w cause) := by
  have htimeouts : (s.shutdown t w cause).2.timeouts = w.timeouts := by
    rw [shutdown_timeouts, timeout?_eq_none h]
    exact List.append_nil _
  by_cases hclosed : s.flags.closed = true
  · rw [shutdown_of_closed t hclosed] at htimeouts ⊢
    exact .of_eq htimeouts
  · have hended := shutdown_of_open t (Bool.eq_false_iff.2 hclosed) w cause
    constructor
    · rw [hended]
      rfl
    · rw [hended]
      rfl
    · rw [hended]
      rfl
    · rw [hended]
      exact .inr ⟨rfl, rfl, rfl⟩
    · exact htimeouts

theorem unlike_some {failure : Failure}
    (h : failure.code ≠ .keepAliveTimedOut) :
    Failure.Unlike (some failure) := by
  intro failure' hsome
  cases hsome
  exact h

private theorem stranger_unlike (s : Session) (p : DataPacket)
    (bound : Identity) :
    Failure.Unlike (some (s.strangerFailure p bound)) := by
  apply unlike_some
  show Code.unresolvedSendingClient ≠ .keepAliveTimedOut
  decide

private theorem noClient_unlike (s : Session) :
    Failure.Unlike (some s.noClientFailure) := by
  apply unlike_some
  show Code.unresolvedSendingClient ≠ .keepAliveTimedOut
  decide

theorem connectExpected_unlike (s : Session) :
    Failure.Unlike (some s.connectExpectedFailure) := by
  apply unlike_some
  show Code.connectExpected ≠ .keepAliveTimedOut
  decide

/-- No fault of a backend is taken for a silent device. -/
theorem fault_unlike (fault : Backend.Fault) (operation connection : String) :
    Failure.Unlike (some (fault.toFailure.inScope operation connection)) := by
  apply unlike_some
  show fault.code ≠ .keepAliveTimedOut
  cases fault <;> nofun

theorem relay_paced (s : Session) (w : World σ) (p : DataPacket) :
    s.Paced w (s.relay t w p) := by
  by_cases hclosed : s.flags.closed = true
  · rw [relay_of_closed t hclosed]
    exact .of_eq (World.view_release w p _)
  · have hcase := relayed t (Bool.eq_false_iff.2 hclosed) w p
    generalize s.relay t w p = out at hcase
    have hreleased : s.Paced w (s, w.release p) :=
      .of_eq (World.view_release w p _)
    cases hcase with
    | stranger bound hbound hid =>
      have hmarked :=
        shutdown_paced t { s with flags := s.flags.markMisconfigured }
          (w.release p) (stranger_unlike s p bound)
      exact hreleased.trans (hmarked.of_session rfl rfl rfl rfl rfl rfl)
    | bridgeless hown hbridge => exact hreleased
    | unserved hown bridge hbridge hclient =>
      exact hreleased.trans (shutdown_paced t s _ (noClient_unlike s))
    | accepted hown bridge hbridge client hclient u hsend =>
      apply Paced.of_eq
      simp [World.timeouts, Happening.timeout?]
    | refused hown bridge hbridge client hclient fault hsend =>
      have hsent : s.Paced w
          (s, ((w.send t client p.deviceId (s.setup.message p)).2.count
            Metrics.recordRelayFailure)) := by
        apply Paced.of_eq
        simp [World.timeouts, Happening.timeout?]
      exact hsent.trans (shutdown_paced t s _ (fault_unlike fault _ _))

theorem relayPending_paced (count : Nat) (s : Session) (w : World σ) :
    s.Paced w (relayPending t count s w) := by
  induction count generalizing s w with
  | zero => exact .of_eq rfl
  | succ count ih =>
    unfold relayPending
    split
    · exact .of_eq rfl
    · next p rest hpending =>
      have hrelayed := (relay_paced t { s with pending := rest } w p).trans
        (ih _ _)
      exact hrelayed.of_session rfl rfl rfl rfl rfl rfl

theorem relayHeld_paced (s : Session) (w : World σ) :
    s.Paced w (s.relayHeld t w) := by
  unfold relayHeld
  split
  · exact .of_eq rfl
  · next p hheld =>
    dsimp only
    split
    · exact ⟨rfl, rfl, rfl, .inl ⟨rfl, rfl, rfl⟩, World.view_release w p _⟩
    · exact (relay_paced t { s with held := none } w p).of_session rfl rfl rfl
        rfl rfl rfl

end

/-! ## The deadline -/

/-- A session that is looked at: it is open and connected, and its device must
not be silent for too long. -/
def Supervised (s : Session) : Prop :=
  s.flags.closed = false ∧ s.flags.phase = .connected ∧ s.keepAlive ≠ 0

theorem Supervised.not_quiet (h : s.Supervised) :
    ¬ (s.flags.closed = true ∨ s.keepAlive = 0) := by
  intro hquiet
  rcases hquiet with hclosed | hzero
  · exact Bool.false_ne_true (h.1.symm.trans hclosed)
  · exact h.2.2 hzero

/-- A check is scheduled for a session that is looked at, and for no other, and
it is not later than a millisecond after the timeout would expire. -/
structure OnTime (s : Session) : Prop where
  connected : s.keepAlive ≠ 0 → s.flags.phase = .connected
  scheduled : s.Supervised → ∃ due, s.deadline = some due ∧
    due ≤ s.lastActivity + s.keepAlive + millisecond
  unscheduled : ¬ s.Supervised → s.deadline = none

theorem OnTime.of_closed (hclosed : s.flags.closed = true)
    (hconnected : s.keepAlive ≠ 0 → s.flags.phase = .connected)
    (hdeadline : s.deadline = none) :
    s.OnTime := by
  constructor
  · exact hconnected
  · intro hsupervised
    rw [hsupervised.1] at hclosed
    cases hclosed
  · intro _
    exact hdeadline

/-- Hearing from the device moves the bound, and the deadline stays. -/
theorem OnTime.later (h : s.OnTime) (hclosed : s'.flags.closed = s.flags.closed)
    (hphase : s'.flags.phase = s.flags.phase)
    (hkeepAlive : s'.keepAlive = s.keepAlive)
    (hdeadline : s'.deadline = s.deadline)
    (hlater : s.lastActivity ≤ s'.lastActivity) :
    s'.OnTime := by
  have hsame : s'.Supervised ↔ s.Supervised := by
    unfold Supervised
    rw [hclosed, hphase, hkeepAlive]
  constructor
  · rw [hkeepAlive, hphase]
    exact h.connected
  · intro hsupervised
    obtain ⟨due, hdue, hbound⟩ := h.scheduled (hsame.1 hsupervised)
    refine ⟨due, hdeadline.trans hdue, ?_⟩
    rw [hkeepAlive]
    omega
  · intro hunsupervised
    rw [hdeadline]
    exact h.unscheduled (hunsupervised ∘ hsame.2)

theorem Paced.onTime {out : Session × World σ} (hpaced : s.Paced w out)
    (h : s.OnTime) :
    out.1.OnTime := by
  rcases hpaced.outcome with ⟨hclosed, hdeadline, -⟩ | ⟨hclosed, hdeadline, -⟩
  · exact h.later hclosed hpaced.phase hpaced.keepAlive hdeadline
      (Nat.le_of_eq hpaced.lastActivity.symm)
  · apply OnTime.of_closed hclosed
    · rw [hpaced.keepAlive, hpaced.phase]
      exact h.connected
    · exact hdeadline

private theorem ended_onTime (h : s.OnTime) : s.ended.OnTime :=
  .of_closed rfl h.connected rfl

theorem shutdown_onTime (t : Backend.Transport σ) (h : s.OnTime) (w : World σ)
    (cause : Option Failure) : (s.shutdown t w cause).1.OnTime := by
  by_cases hclosed : s.flags.closed = true
  · rw [shutdown_of_closed t hclosed]
    exact h
  · rw [shutdown_of_open t (Bool.eq_false_iff.2 hclosed)]
    exact ended_onTime h

/-- A session that is not connected has no timeout, so it is not looked at
before or after. -/
theorem receive_onTime (t : Backend.Transport σ) (h : s.OnTime) (w : World σ)
    {now : Nat} (hclock : s.lastActivity ≤ now) (parcel : Parcel) :
    (s.receive t w now parcel).2.1.OnTime := by
  have hheard : (s.heard now).OnTime := h.later rfl rfl rfl rfl hclock
  have hcase := received t s w now parcel
  generalize s.receive t w now parcel = out at hcase
  cases hcase with
  | dropped hclosed => exact h
  | empty hopen hdata hconnect => exact hheard
  | begun hopen hphase request hconnect =>
    have hzero : s.keepAlive = 0 := by
      by_cases hpos : s.keepAlive = 0
      · exact hpos
      · exact absurd (hphase.symm.trans (h.connected hpos)) (by decide)
    constructor
    · intro hpos
      exact absurd hzero hpos
    · intro hsupervised
      exact absurd hzero hsupervised.2.2
    · intro _
      exact h.unscheduled fun hsupervised => hsupervised.2.2 hzero
  | unexpected hopen hphase hconnect p hdata =>
    exact shutdown_onTime t hheard _ _
  | queued hopen hphase p hdata =>
    obtain ⟨hclosed, -, hphase'⟩ := enqueue_flags (s.heard now) p
    exact hheard.later hclosed hphase' rfl rfl (Nat.le_refl _)
  | live hopen hphase p hdata =>
    exact (relay_paced t (s.heard now) w p).onTime hheard

/-- The next check is due when the timeout would expire, but not at once. -/
theorem next_due {heard now timeout : Nat} (hclock : heard ≤ now)
    (htimely : now - heard ≤ timeout) :
    now + max (timeout - (now - heard)) millisecond =
      max (heard + timeout) (now + millisecond) := by
  unfold millisecond
  omega

/-- A check decides whether there is a next one, whatever was scheduled
before. -/
theorem checkKeepAlive_onTime (t : Backend.Transport σ)
    (hconnected : s.keepAlive ≠ 0 → s.flags.phase = .connected) (w : World σ)
    {now : Nat} (hclock : s.lastActivity ≤ now) :
    (s.checkKeepAlive t w now).1.OnTime := by
  have hcase := checked t s w now
  generalize s.checkKeepAlive t w now = out at hcase
  cases hcase with
  | unsupervised hquiet =>
    constructor
    · exact hconnected
    · intro hsupervised
      exact absurd hquiet hsupervised.not_quiet
    · intro _
      rfl
  | silent hopen hpos hlate =>
    rw [shutdown_of_open t (s := { s with deadline := none }) hopen]
    exact .of_closed rfl hconnected rfl
  | timely hopen hpos htimely =>
    constructor
    · exact hconnected
    · intro _
      refine ⟨_, rfl, ?_⟩
      rw [next_due hclock htimely]
      show max (s.lastActivity + s.keepAlive) (now + millisecond) ≤
        s.lastActivity + s.keepAlive + millisecond
      omega
    · intro hunsupervised
      exact absurd ⟨hopen, hconnected hpos, hpos⟩ hunsupervised

/-- A session that was not connected yet is looked at as soon as it is bound. -/
theorem supervise_onTime (t : Backend.Transport σ) (h : s.OnTime)
    (hphase : s.flags.phase ≠ .connected) (e : Established) (w : World σ)
    {now : Nat} (hclock : s.lastActivity ≤ now) :
    ((s.bind e).supervise t w now).1.OnTime := by
  unfold supervise
  by_cases hzero : (s.bind e).keepAlive = 0
  · rw [if_pos hzero]
    constructor
    · intro _
      rfl
    · intro hsupervised
      exact absurd hzero hsupervised.2.2
    · intro _
      exact h.unscheduled fun hsupervised => hphase hsupervised.2.1
  · rw [if_neg hzero]
    exact checkKeepAlive_onTime t (fun _ => rfl) w hclock

theorem complete_onTime (t : Backend.Transport σ) (h : s.OnTime)
    (hphase : s.flags.phase ≠ .connected) (w : World σ) {now : Nat}
    (hclock : s.lastActivity ≤ now) (outcome : Except Failure Established) :
    (s.complete t w now outcome).1.OnTime := by
  cases outcome with
  | error failure => exact shutdown_onTime t h _ _
  | ok e =>
    by_cases hclosed : s.flags.closed = true
    · rw [complete_of_closed t hclosed]
      exact h
    · rw [complete_of_open t (Bool.eq_false_iff.2 hclosed)]
      have hchecked := supervise_onTime t h hphase e
        (w.count fun m => m.recordConnect none) hclock
      exact (relayHeld_paced t _ _).onTime
        ((relayPending_paced t _ _ _).onTime hchecked)

/-- A check that is scheduled was scheduled before, or is scheduled now and lies
ahead. -/
def Reschedules (now : Nat) (s s' : Session) : Prop :=
  ∀ due, s'.deadline = some due → s.deadline = some due ∨ now ≤ due

theorem Reschedules.of_none {now : Nat} (h : s'.deadline = none) :
    Reschedules now s s' := by
  intro due hdue
  rw [h] at hdue
  cases hdue

theorem Reschedules.of_eq {now : Nat} (h : s'.deadline = s.deadline) :
    Reschedules now s s' := by
  intro due hdue
  exact .inl (h.symm.trans hdue)

theorem Reschedules.paced {s₁ s₂ : Session} {now : Nat}
    {out : Session × World σ} (h : Reschedules now s₁ s₂)
    (hpaced : s₂.Paced w out) : Reschedules now s₁ out.1 := by
  rcases hpaced.outcome with ⟨-, hdeadline, -⟩ | ⟨-, hdeadline, -⟩
  · intro due hdue
    exact h due (hdeadline.symm.trans hdue)
  · exact .of_none hdeadline

theorem shutdown_reschedules (t : Backend.Transport σ) (s : Session)
    (w : World σ) (cause : Option Failure) (now : Nat) :
    Reschedules now s (s.shutdown t w cause).1 := by
  by_cases hclosed : s.flags.closed = true
  · rw [shutdown_of_closed t hclosed]
    exact .of_eq rfl
  · rw [shutdown_of_open t (Bool.eq_false_iff.2 hclosed)]
    exact .of_none rfl

theorem receive_reschedules (t : Backend.Transport σ) (s : Session)
    (w : World σ) (now : Nat) (parcel : Parcel) :
    Reschedules now s (s.receive t w now parcel).2.1 := by
  have hheard : Reschedules now s (s.heard now) := .of_eq rfl
  have hcase := received t s w now parcel
  generalize s.receive t w now parcel = out at hcase
  cases hcase with
  | dropped hclosed => exact .of_eq rfl
  | empty hopen hdata hconnect => exact hheard
  | begun hopen hphase request hconnect => exact hheard
  | unexpected hopen hphase hconnect p hdata =>
    exact hheard.paced
      (shutdown_paced t (s.heard now) _ (connectExpected_unlike s))
  | queued hopen hphase p hdata => exact hheard
  | live hopen hphase p hdata =>
    exact hheard.paced (relay_paced t (s.heard now) w p)

theorem checkKeepAlive_reschedules (t : Backend.Transport σ) (s : Session)
    (w : World σ) (now : Nat) :
    Reschedules now s (s.checkKeepAlive t w now).1 := by
  have hcase := checked t s w now
  generalize s.checkKeepAlive t w now = out at hcase
  cases hcase with
  | unsupervised hquiet => exact .of_none rfl
  | silent hopen hpos hlate =>
    rw [shutdown_of_open t (s := { s with deadline := none }) hopen]
    exact .of_none rfl
  | timely hopen hpos htimely =>
    intro due hdue
    cases hdue
    exact .inr (Nat.le_add_right now _)

theorem complete_reschedules (t : Backend.Transport σ) (s : Session)
    (w : World σ) (now : Nat) (outcome : Except Failure Established) :
    Reschedules now s (s.complete t w now outcome).1 := by
  cases outcome with
  | error failure => exact shutdown_reschedules t s _ _ now
  | ok e =>
    by_cases hclosed : s.flags.closed = true
    · rw [complete_of_closed t hclosed]
      exact .of_eq rfl
    · have hchecked : Reschedules now s ((s.bind e).supervise t
          (w.count fun m => m.recordConnect none) now).1 := by
        unfold supervise
        split
        · exact .of_eq rfl
        · exact checkKeepAlive_reschedules t (s.bind e) _ now
      rw [complete_of_open t (Bool.eq_false_iff.2 hclosed)]
      exact (hchecked.paced (relayPending_paced t _ _ _)).paced
        (relayHeld_paced t _ _)

/-! ## Silent devices -/

/-- What is left when a device was found silent: the session is closed for that
reason. -/
structure Lapsed (s : Session) (w : World σ) (now : Nat)
    (out : Session × World σ) : Prop where
  closed : out.1.flags.closed = true
  phase : out.1.flags.phase = s.flags.phase
  keepAlive : out.1.keepAlive = s.keepAlive
  deadline : out.1.deadline = none
  timeouts : out.2.timeouts =
    w.timeouts ++ [s.silenceFailure (now - s.lastActivity)]

theorem lapsed_shutdown (t : Backend.Transport σ)
    (hopen : s.flags.closed = false) (w : World σ) (now : Nat)
    (deadline : Option Nat) :
    s.Lapsed w now ({ s with deadline }.shutdown t w
      (some (s.silenceFailure (now - s.lastActivity)))) := by
  have hended := shutdown_of_open t (s := { s with deadline }) hopen w
    (some (s.silenceFailure (now - s.lastActivity)))
  constructor
  · exact shutdown_closed t _ w _
  · rw [hended]
    rfl
  · rw [hended]
    rfl
  · rw [hended]
    rfl
  · rw [shutdown_timeouts]
    rfl

theorem Paced.lapsed {mid out : Session × World σ} {now : Nat}
    (hpaced : mid.1.Paced mid.2 out) (h : s.Lapsed w now mid) :
    s.Lapsed w now out := by
  constructor
  · rcases hpaced.outcome with ⟨hclosed, -, -⟩ | ⟨hclosed, -, -⟩
    · rw [hclosed]
      exact h.closed
    · exact hclosed
  · exact hpaced.phase.trans h.phase
  · exact hpaced.keepAlive.trans h.keepAlive
  · rcases hpaced.outcome with ⟨-, hdeadline, -⟩ | ⟨-, hdeadline, -⟩
    · exact hdeadline.trans h.deadline
    · exact hdeadline
  · exact hpaced.timeouts.trans h.timeouts

theorem checkKeepAlive_lapsed (t : Backend.Transport σ) (h : s.Supervised)
    (w : World σ) {now : Nat} (hlate : s.keepAlive < now - s.lastActivity) :
    s.Lapsed w now (s.checkKeepAlive t w now) := by
  have hcase := checked t s w now
  generalize s.checkKeepAlive t w now = out at hcase
  cases hcase with
  | unsupervised hquiet => exact absurd hquiet h.not_quiet
  | silent hopen hpos _ => exact lapsed_shutdown t hopen w now none
  | timely hopen hpos htimely => omega

theorem checkKeepAlive_timely (t : Backend.Transport σ) (h : s.Supervised)
    (w : World σ) {now : Nat} (hclock : s.lastActivity ≤ now)
    (htimely : now - s.lastActivity ≤ s.keepAlive) :
    s.checkKeepAlive t w now = ({ s with
      deadline := some (max (s.lastActivity + s.keepAlive) (now + millisecond))
        }, w) := by
  have hcase := checked t s w now
  generalize s.checkKeepAlive t w now = out at hcase
  cases hcase with
  | unsupervised hquiet => exact absurd hquiet h.not_quiet
  | silent hopen hpos hlate => omega
  | timely hopen hpos _ => rw [next_due hclock htimely]

/-- A session that is not looked at stays as it is, with nothing scheduled. -/
theorem checkKeepAlive_idle (t : Backend.Transport σ) (h : s.OnTime)
    (hidle : ¬ s.Supervised) (w : World σ) (now : Nat) :
    s.checkKeepAlive t w now = (s, w) := by
  have hsame : { s with deadline := none } = s := by
    rw [← h.unscheduled hidle]
  have hcase := checked t s w now
  generalize s.checkKeepAlive t w now = out at hcase
  cases hcase with
  | unsupervised hquiet => rw [hsame]
  | silent hopen hpos hlate =>
    exact absurd ⟨hopen, h.connected hpos, hpos⟩ hidle
  | timely hopen hpos htimely =>
    exact absurd ⟨hopen, h.connected hpos, hpos⟩ hidle

/-- A device that was silent for too long while its CONNECT was worked on is
found silent as soon as it is bound. -/
theorem complete_lapsed (t : Backend.Transport σ)
    (hopen : s.flags.closed = false) (w : World σ) {now : Nat} {e : Established}
    (hpos : e.keepAlive ≠ 0) (hlate : e.keepAlive < now - s.lastActivity) :
    (s.bind e).Lapsed w now (s.complete t w now (.ok e)) := by
  have hchecked : (s.bind e).Lapsed w now
      ((s.bind e).supervise t (w.count fun m => m.recordConnect none) now) := by
    have hlapsed := checkKeepAlive_lapsed t (s := s.bind e) ⟨hopen, rfl, hpos⟩
      (w.count fun m => m.recordConnect none) hlate
    unfold supervise
    rw [if_neg (show (s.bind e).keepAlive ≠ 0 from hpos)]
    exact
      { closed := hlapsed.closed, phase := hlapsed.phase
        keepAlive := hlapsed.keepAlive
        deadline := hlapsed.deadline, timeouts := hlapsed.timeouts }
  rw [complete_of_open t hopen]
  exact (relayHeld_paced t _ _).lapsed
    ((relayPending_paced t _ _ _).lapsed hchecked)

/-- One that was not silent for too long is not found silent. -/
theorem complete_timely (t : Backend.Transport σ) (s : Session) (w : World σ)
    {now : Nat} {e : Established}
    (h : e.keepAlive = 0 ∨ now - s.lastActivity ≤ e.keepAlive) :
    (s.complete t w now (.ok e)).2.timeouts = w.timeouts := by
  by_cases hclosed : s.flags.closed = true
  · rw [complete_of_closed t hclosed]
    simp [World.timeouts, Happening.timeout?]
  · have hchecked :
        ((s.bind e).supervise t
          (w.count fun m => m.recordConnect none) now).2.timeouts =
        w.timeouts := by
      unfold supervise
      split
      · exact World.view_count w _ _
      · next hpos =>
        have hcase :=
          checked t (s.bind e) (w.count fun m => m.recordConnect none) now
        generalize (s.bind e).checkKeepAlive t _ now = out at hcase
        cases hcase with
        | unsupervised hquiet => exact World.view_count w _ _
        | silent _ _ hlate =>
          have hlate' : e.keepAlive < now - s.lastActivity := hlate
          rcases h with hzero | htimely
          · exact absurd hzero hpos
          · omega
        | timely _ _ _ => exact World.view_count w _ _
    rw [complete_of_open t (Bool.eq_false_iff.2 hclosed)]
    dsimp only
    rw [(relayHeld_paced t _ _).timeouts, (relayPending_paced t _ _ _).timeouts]
    exact hchecked

/-- So a device is found silent when its CONNECT succeeds only if it was silent
for too long, and if the session is open. -/
theorem complete_found (t : Backend.Transport σ) (s : Session) (w : World σ)
    {now : Nat} {e : Established}
    (h : (s.complete t w now (.ok e)).2.timeouts ≠ w.timeouts) :
    s.flags.closed = false ∧ e.keepAlive ≠ 0 ∧
      e.keepAlive < now - s.lastActivity := by
  by_cases hclosed : s.flags.closed = true
  · apply absurd _ h
    rw [complete_of_closed t hclosed]
    simp [World.timeouts, Happening.timeout?]
  · by_cases htimely : e.keepAlive = 0 ∨ now - s.lastActivity ≤ e.keepAlive
    · exact absurd (complete_timely t s w htimely) h
    · rw [not_or] at htimely
      exact ⟨Bool.eq_false_iff.2 hclosed, htimely.1, Nat.lt_of_not_le htimely.2⟩

/-! ## When the device was heard from -/

theorem shutdown_heard (t : Backend.Transport σ) (s : Session) (w : World σ)
    (cause : Option Failure) :
    (s.shutdown t w cause).1.lastActivity = s.lastActivity := by
  by_cases hclosed : s.flags.closed = true
  · rw [shutdown_of_closed t hclosed]
  · rw [shutdown_of_open t (Bool.eq_false_iff.2 hclosed)]
    rfl

theorem checkKeepAlive_heard (t : Backend.Transport σ) (s : Session)
    (w : World σ) (now : Nat) :
    (s.checkKeepAlive t w now).1.lastActivity = s.lastActivity := by
  have hcase := checked t s w now
  generalize s.checkKeepAlive t w now = out at hcase
  cases hcase with
  | unsupervised hquiet => rfl
  | silent hopen hpos hlate =>
    exact shutdown_heard t { s with deadline := none } w _
  | timely hopen hpos htimely => rfl

theorem complete_heard (t : Backend.Transport σ) (s : Session) (w : World σ)
    (now : Nat) (outcome : Except Failure Established) :
    (s.complete t w now outcome).1.lastActivity = s.lastActivity := by
  cases outcome with
  | error failure => exact shutdown_heard t s _ _
  | ok e =>
    by_cases hclosed : s.flags.closed = true
    · rw [complete_of_closed t hclosed]
    · rw [complete_of_open t (Bool.eq_false_iff.2 hclosed)]
      dsimp only
      rw [(relayHeld_paced t _ _).lastActivity,
        (relayPending_paced t _ _ _).lastActivity]
      unfold supervise
      split
      · rfl
      · exact checkKeepAlive_heard t (s.bind e) _ now

/-- Whatever comes from the device counts as a sign of life, and finds nobody
silent. -/
theorem receive_heard (t : Backend.Transport σ) (s : Session) (w : World σ)
    (now : Nat) (parcel : Parcel) :
    (s.receive t w now parcel).2.1.lastActivity =
        (if s.flags.closed then s.lastActivity else now) ∧
      (s.receive t w now parcel).2.2.timeouts = w.timeouts := by
  have hcase := received t s w now parcel
  generalize s.receive t w now parcel = out at hcase
  cases hcase with
  | dropped hclosed =>
    rw [if_pos hclosed]
    exact ⟨rfl, World.view_releaseAll w _ _⟩
  | empty hopen hdata hconnect =>
    rw [hopen]
    exact ⟨rfl, rfl⟩
  | begun hopen hphase request hconnect =>
    rw [hopen]
    exact ⟨rfl, rfl⟩
  | unexpected hopen hphase hconnect p hdata =>
    rw [hopen]
    have hpaced := shutdown_paced t (s.heard now) (w.release p)
      (connectExpected_unlike s)
    exact ⟨hpaced.lastActivity, hpaced.timeouts.trans
      (World.view_release w p _)⟩
  | queued hopen hphase p hdata =>
    rw [hopen]
    exact ⟨rfl, rfl⟩
  | live hopen hphase p hdata =>
    rw [hopen]
    have hpaced := relay_paced t (s.heard now) w p
    exact ⟨hpaced.lastActivity, hpaced.timeouts⟩

/-! ## The timeout -/

/-- No parcel takes the timeout from a session, or makes it connect again. -/
theorem receive_keepAlive (t : Backend.Transport σ) (s : Session) (w : World σ)
    (now : Nat) (parcel : Parcel) :
    (s.receive t w now parcel).2.1.keepAlive = s.keepAlive ∧
      (s.flags.phase = .connected →
      (s.receive t w now parcel).2.1.flags.phase = .connected) := by
  have hcase := received t s w now parcel
  generalize s.receive t w now parcel = out at hcase
  cases hcase with
  | dropped hclosed => exact ⟨rfl, id⟩
  | empty hopen hdata hconnect => exact ⟨rfl, id⟩
  | begun hopen hphase request hconnect =>
    refine ⟨rfl, ?_⟩
    intro hconnected
    cases hphase.symm.trans hconnected
  | unexpected hopen hphase hconnect p hdata =>
    have hpaced := shutdown_paced t (s.heard now) (w.release p)
      (connectExpected_unlike s)
    exact ⟨hpaced.keepAlive, hpaced.phase.trans⟩
  | queued hopen hphase p hdata =>
    refine ⟨rfl, ?_⟩
    intro hconnected
    cases hphase.symm.trans hconnected
  | live hopen hphase p hdata =>
    have hpaced := relay_paced t (s.heard now) w p
    exact ⟨hpaced.keepAlive, hpaced.phase.trans⟩

theorem checkKeepAlive_keepAlive (t : Backend.Transport σ) (s : Session)
    (w : World σ) (now : Nat) :
    (s.checkKeepAlive t w now).1.keepAlive = s.keepAlive := by
  have hcase := checked t s w now
  generalize s.checkKeepAlive t w now = out at hcase
  cases hcase with
  | unsupervised hquiet => rfl
  | silent hopen hpos hlate =>
    exact (lapsed_shutdown t hopen w now none).keepAlive
  | timely hopen hpos htimely => rfl

/-- A CONNECT that succeeds brings its timeout, also if the session is closed at
once. -/
theorem complete_keepAlive (t : Backend.Transport σ)
    (hopen : s.flags.closed = false) (w : World σ) (now : Nat)
    (e : Established) :
    (s.complete t w now (.ok e)).1.keepAlive = e.keepAlive := by
  rw [complete_of_open t hopen]
  dsimp only
  rw [(relayHeld_paced t _ _).keepAlive, (relayPending_paced t _ _ _).keepAlive]
  unfold supervise
  split
  · rfl
  · exact checkKeepAlive_keepAlive t (s.bind e) _ now

end Session

end DeviceGateway
