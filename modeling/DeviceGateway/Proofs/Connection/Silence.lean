import DeviceGateway.Proofs.Connection.Hearing
import DeviceGateway.Proofs.Session.Standing

/-!
# Silent devices

The supervisor closes a connection whose device was silent for longer than its
timeout.  What it goes by is when the session last received something, and that
is not when the device last sent something.  So two things are to be told apart.

Of what the connection has read nothing is missed: if the session lapses, then
no frame of it that counts as activity came within the timeout.  This is so for
every run, however long a CONNECT, a round or a message takes.

What was not read cannot count.  A connection is `Prompt` if it leaves nothing
in the socket while time passes, unless reading is held back.  Then nothing is
lost to it as long as it reads, and a lapse means that the device was silent.
While reading is held back the socket fills, and the keep-alive is checked as
soon as the CONNECT has its outcome, before anything that waits is looked at.
So a device that went on sending is taken for a silent one.

## Main results

* `happen_lapse`: what finds a device silent.
* `happen_fresh`: what lies in the socket of a prompt connection that reads.
* `run_silence`: what a lapse says about the device.
* `run_unheard`: a device that is closed although it was heard of.
-/

namespace DeviceGateway

/-- A CONNECT that does not succeed is never taken for a silent device. -/
theorem establish_unlike {σ : Type} {t : Backend.Transport σ} {w : World σ}
    {tenantId connectionId : String} {maxKeepAlive : Option Nat}
    {request : Connect} {failure : Failure}
    (h : (establish t w tenantId maxKeepAlive connectionId request).1 =
      .error failure) :
    Failure.Unlike (some failure) := by
  unfold establish at h
  dsimp only at h
  split at h
  · split at h
    · next failed w' hopened =>
      have hfault : ∃ fault : Backend.Fault, failed = fault.toFailure := by
        unfold World.openBridge at hopened
        dsimp only at hopened
        split at hopened
        · next fault hfault =>
          cases hopened
          exact ⟨fault, rfl⟩
        · cases hopened
      obtain ⟨fault, rfl⟩ := hfault
      cases h
      exact Session.fault_unlike fault _ _
    · cases h
  · cases h
    apply Session.unlike_some
    show Code.authenticationFailed ≠ .keepAliveTimedOut
    decide

namespace Connection

variable {σ : Type}

private theorem takeFrame_timeouts (v : Services σ) (c : Connection)
    (w : World σ) (now : Nat) (tenancy : Tenancy) (frame : Wire.Frame) :
    (c.takeFrame v w now tenancy frame).2.timeouts = w.timeouts := by
  have hworld := congrArg Prod.snd (takeFrame_session v c w now tenancy frame)
  dsimp only at hworld
  rw [hworld]
  split
  · rfl
  · exact (Session.receive_heard v.transport c.session _ now _).2

/-- What a frame does to the times of a session. -/
theorem takeFrame_times (v : Services σ) (c : Connection) (w : World σ)
    (now : Nat) (tenancy : Tenancy) (frame : Wire.Frame) :
    let s := (c.takeFrame v w now tenancy frame).1.session
    (s.keepAlive = c.session.keepAlive ∧
      (c.session.flags.phase = .connected → s.flags.phase = .connected)) ∧
      (s.lastActivity = c.session.lastActivity ∨ s.lastActivity = now) := by
  intro s
  have hsession : s = _ :=
    congrArg Prod.fst (takeFrame_session v c w now tenancy frame)
  clear_value s
  rw [hsession]
  dsimp only
  split
  · exact ⟨⟨rfl, id⟩, .inl rfl⟩
  · refine ⟨Session.receive_keepAlive v.transport c.session _ now _, ?_⟩
    rw [(Session.receive_heard v.transport c.session _ now _).1]
    split
    · exact .inl rfl
    · exact .inr rfl

/-- No fault in the frames of a device is taken for its silence. -/
theorem wire_unlike (fault : Wire.Fault) (operation connection : String) :
    Failure.Unlike (some (fault.toFailure.inScope operation connection)) := by
  apply Session.unlike_some
  show fault.code ≠ .keepAliveTimedOut
  cases fault <;> nofun

/-- Taking the input up finds nobody silent. -/
theorem round_timeouts (v : Services σ) (c : Connection) (w : World σ)
    (now : Nat) (tenancy : Tenancy) :
    (c.round v w now tenancy).2.2.timeouts = w.timeouts := by
  unfold round
  split
  · rfl
  · split
    · rfl
    · dsimp only
      split
      · rfl
      · exact takeFrame_timeouts v _ w now tenancy _
      · split
        · exact (Session.shutdown_paced v.transport c.session _
            (wire_unlike _ _ _)).timeouts
        · rfl

private theorem resolve_timeouts (v : Services σ) (c : Connection)
    (w : World σ) :
    (c.resolve v w).2.2.timeouts = w.timeouts := by
  unfold resolve
  split
  · rfl
  · next fault hfault =>
    have hunlike : Failure.Unlike
        (some (fault.toFailure.inScope "ResolveTenancy"
          c.session.connectionId)) := by
      apply Session.unlike_some
      show Code.invalidOperation ≠ .keepAliveTimedOut
      decide
    exact (Session.shutdown_paced v.transport c.session w hunlike).timeouts

end Connection

namespace Clocked

variable {σ : Type} {v : Services σ} {peer : Option Peer} {r r' : Clocked σ}

/-! ## Lapses -/

/-- Between two states of one instant the device is found silent. -/
structure Lapse (r r' : Clocked σ) : Prop where
  idle : r.busy = false
  opened : r.connection.session.flags.closed = false
  closed : r'.connection.session.flags.closed = true
  positive : r'.connection.session.keepAlive ≠ 0
  late : r'.connection.session.keepAlive <
    r.clock - r.connection.session.lastActivity
  clock : r'.clock = r.clock
  socket : r'.socket = r.socket
  heard : r'.heard = r.heard
  timeouts : ∃ failure, r'.world.timeouts = r.world.timeouts ++ [failure]
  keepAlive : r.connection.session.flags.phase = .connected →
    r.connection.session.keepAlive = r'.connection.session.keepAlive

private theorem check_lapse (hidle : r.busy = false)
    (h : (r.serve v .keepAliveDue).world.timeouts ≠ r.world.timeouts) :
    Lapse r (r.serve v .keepAliveDue) := by
  have hkept := Session.checkKeepAlive_keepAlive v.transport
    r.connection.session r.world r.clock
  have hcase := Session.checked v.transport r.connection.session r.world r.clock
  have hserve : r.serve v .keepAliveDue = r.put
      ({ r.connection with
        session :=
          (r.connection.session.checkKeepAlive v.transport r.world r.clock).1 },
      (r.connection.session.checkKeepAlive v.transport r.world r.clock).2)
        false := rfl
  rw [hserve] at h ⊢
  generalize r.connection.session.checkKeepAlive v.transport r.world r.clock =
    out at hkept hcase h
  cases hcase with
  | unsupervised hquiet => exact absurd rfl h
  | timely hopen hpos htimely => exact absurd rfl h
  | silent hopen hpos hlate =>
    have hlapsed :=
      Session.lapsed_shutdown v.transport hopen r.world r.clock none
    exact
      { idle := hidle
        opened := hopen
        closed := hlapsed.closed
        positive := fun hzero => hpos (hkept.symm.trans hzero)
        late := Nat.lt_of_le_of_lt (Nat.le_of_eq hkept) hlate
        clock := rfl
        socket := rfl
        heard := rfl
        timeouts := ⟨_, hlapsed.timeouts⟩
        keepAlive := fun _ => hkept.symm }

/-- The phase of a session whose CONNECT is worked on. -/
theorem Hears.phase (h : r.Hears v peer)
    (hopen : r.connection.session.flags.closed = false) {request : Connect}
    (hrequest : r.connection.connecting = some request) :
    r.connection.session.flags.phase = .connecting := by
  obtain ⟨h', hf⟩ := h.followed
  have hawaiting := hf.awaiting (by rw [hrequest]; rfl)
  rw [← hf.session] at hopen ⊢
  exact (hf.sound.situation.waiting_of_awaiting hopen hawaiting).phase

private theorem conclude_lapse (hears : r.Hears v peer) (hidle : r.busy = false)
    {request : Connect} (hrequest : r.connection.connecting = some request)
    (h : (r.conclude v request).world.timeouts ≠ r.world.timeouts) :
    Lapse r (r.conclude v request) := by
  obtain ⟨backend, hworld⟩ := Connection.establish_world v.transport r.world
    ((r.connection.chain.tenancy.map Tenancy.tenantId).getD "")
    v.session.maxKeepAlive
    r.connection.session.connectionId request
  unfold Clocked.conclude at h ⊢
  dsimp only at h ⊢
  rw [hworld] at h ⊢
  cases hmade : (establish v.transport r.world
      ((r.connection.chain.tenancy.map Tenancy.tenantId).getD "")
      v.session.maxKeepAlive
      r.connection.session.connectionId request).1 with
  | error failure =>
    rw [hmade] at h
    have hpaced := Session.shutdown_paced v.transport r.connection.session
      ({ r.world with backend }.count fun m => m.recordConnect
        (some failure.code))
      (establish_unlike hmade)
    exact absurd hpaced.timeouts h
  | ok e =>
    rw [hmade] at h
    obtain ⟨hopen, hpos, hlate⟩ :=
      Session.complete_found v.transport r.connection.session
        { r.world with backend } h
    have hlapsed := Session.complete_lapsed v.transport hopen
      { r.world with backend } hpos hlate
    exact
      { idle := hidle
        opened := hopen
        closed := hlapsed.closed
        positive := hlapsed.keepAlive ▸ hpos
        late := hlapsed.keepAlive ▸ hlate
        clock := rfl
        socket := rfl
        heard := rfl
        timeouts := ⟨_, hlapsed.timeouts⟩
        keepAlive := fun hphase => by
          rw [hears.phase hopen hrequest] at hphase
          cases hphase }

/-- A round finds nobody silent, whether or not it resolves the tenancy. -/
private theorem round_finds_nobody (v : Services σ) (r : Clocked σ) :
    (r.round v).world.timeouts = r.world.timeouts := by
  have hresolve := Connection.resolve_timeouts v r.connection r.world
  unfold Clocked.round
  split
  · next c w hnone =>
    rw [hnone] at hresolve
    exact hresolve
  · next tenancy c w hsome =>
    rw [hsome] at hresolve
    exact (Connection.round_timeouts v c w r.clock tenancy).trans hresolve

/-- Who hangs up, or cannot be read from, is not found silent. -/
private theorem leave_finds_nobody (v : Services σ) (r : Clocked σ)
    (failed : Option String) :
    (r.happen v (.leave failed)).world.timeouts = r.world.timeouts := by
  simp only [happen]
  split
  · cases failed with
    | none =>
      have hunlike : Failure.Unlike none := by
        intro _ hnone
        cases hnone
      exact (Session.shutdown_paced v.transport r.connection.session r.world
        hunlike).timeouts
    | some text =>
      have hunlike : Failure.Unlike (some ((Failure.ofIo text).inScope "Read"
          r.connection.session.connectionId)) := by
        apply Session.unlike_some
        show Code.channelClosed ≠ .keepAliveTimedOut
        decide
      exact (Session.shutdown_paced v.transport r.connection.session r.world
        hunlike).timeouts
  · rfl

/-- A device is found silent by a check, or when its CONNECT succeeds, and by
nothing else. -/
theorem happen_lapse (hears : r.Hears v peer) {x : Incident σ}
    (h : (r.happen v x).world.timeouts ≠ r.world.timeouts) :
    Lapse r (r.happen v x) := by
  cases x with
  | arrive bytes => exact absurd rfl h
  | elsewhere backend => exact absurd rfl h
  | read count =>
    apply absurd _ h
    simp only [happen]
    split
    · exact World.view_count r.world _ _
    · rfl
  | round =>
    apply absurd _ h
    simp only [happen]
    split
    · exact round_finds_nobody v r
    · rfl
  | resolve =>
    apply absurd _ h
    simp only [happen]
    split
    · exact Connection.resolve_timeouts v r.connection r.world
    · rfl
  | finish =>
    apply absurd _ h
    simp only [happen]
    split
    · rfl
    · rfl
  | leave failed => exact absurd (leave_finds_nobody v r failed) h
  | check =>
    simp only [happen] at h ⊢
    split at h
    · next hready =>
      rw [if_pos hready]
      rw [Bool.and_eq_true] at hready
      exact check_lapse (idle_of_waiting hready.1) h
    · exact absurd rfl h
  | conclude =>
    simp only [happen] at h ⊢
    split at h
    · exact absurd rfl h
    · next request hrequest =>
      split at h
      · next hwaiting =>
        simp only [if_pos hwaiting]
        exact conclude_lapse hears (idle_of_waiting hwaiting) hrequest h
      · exact absurd rfl h

/-! ## Promptness -/

/-- Nothing is left to do until something happens. -/
def Rests (r : Clocked σ) : Prop :=
  r.busy = false ∧ (r.socket = [] ∨ r.connection.session.flags.throttled = true)

instance (r : Clocked σ) : Decidable r.Rests :=
  inferInstanceAs (Decidable (_ ∧ _))

/-- Time passes only while nothing is left to do. -/
def Prompt (v : Services σ) : Clocked σ → List (Nat × Incident σ) → Prop
  | _, [] => True
  | r, x :: steps => (x.1 = 0 ∨ r.Rests) ∧ Prompt v (r.step v x) steps

instance decidablePrompt (v : Services σ) :
    (r : Clocked σ) → (steps : List (Nat × Incident σ)) →
      Decidable (Prompt v r steps)
  | _, [] => .isTrue trivial
  | r, x :: steps =>
    have := decidablePrompt v (r.step v x) steps
    inferInstanceAs (Decidable (_ ∧ _))

theorem Prompt.concat {steps : List (Nat × Incident σ)} {x : Nat × Incident σ}
    (h : Prompt v r (steps ++ [x])) :
    Prompt v r steps ∧ (x.1 = 0 ∨ (r.run v steps).Rests) := by
  induction steps generalizing r with
  | nil => exact ⟨trivial, h.1⟩
  | cons y steps ih =>
    obtain ⟨hsteps, hlast⟩ := ih h.2
    exact ⟨⟨h.1, hsteps⟩, hlast⟩

/-- Whatever lies in the socket of a connection that reads has come just now,
unless reading was held back before: then the CONNECT has succeeded in time. -/
def Fresh (r : Clocked σ) : Prop :=
  r.connection.session.flags.closed = false →
    r.connection.session.flags.throttled = false →
    (∀ o ∈ r.socket, r.clock ≤ o.1) ∨
    (r.connection.session.flags.phase = .connected ∧
      (r.connection.session.keepAlive = 0 ∨
      r.clock - r.connection.session.lastActivity ≤
        r.connection.session.keepAlive))

theorem Fresh.wait (h : r.Fresh) {delay : Nat} (hprompt : delay = 0 ∨ r.Rests) :
    (r.wait delay).Fresh := by
  intro hopen hreading
  rcases hprompt with rfl | ⟨-, hempty | hthrottled⟩
  · exact h hopen hreading
  · left
    intro o ho
    have hnone : o ∈ r.socket := ho
    rw [hempty] at hnone
    cases hnone
  · exact absurd (hreading.symm.trans hthrottled) Bool.false_ne_true

/-- What is done to the connection at this instant leaves the socket as fresh,
if it keeps the session connected and its timeout, and is no activity or one of
now. -/
theorem Fresh.put (h : r.Fresh) {out : Connection × World σ} {busy : Bool}
    (hkeeps : r.connection.session.Keeps out.1.session)
    (hreading : out.1.session.flags.closed = false →
      out.1.session.flags.throttled = false →
      r.connection.session.flags.throttled = false)
    (hphase : r.connection.session.flags.phase = .connected →
      out.1.session.flags.phase = .connected)
    (hkeepAlive : out.1.session.keepAlive = r.connection.session.keepAlive)
    (hactivity :
      out.1.session.lastActivity = r.connection.session.lastActivity ∨
        out.1.session.lastActivity = r.clock) :
    (r.put out busy).Fresh := by
  intro hopen' hreading'
  rcases h (hkeeps.opened hopen') (hreading hopen' hreading') with hfresh |
    ⟨hconnected, htimely⟩
  · exact .inl hfresh
  · right
    refine ⟨hphase hconnected, ?_⟩
    show out.1.session.keepAlive = 0 ∨
      r.clock - out.1.session.lastActivity ≤ out.1.session.keepAlive
    rw [hkeepAlive]
    rcases hactivity with hsame | hnow
    · rw [hsame]
      exact htimely
    · rw [hnow]
      omega

theorem Fresh.closing {out : Connection × World σ} {busy : Bool}
    (hclosed : out.1.session.flags.closed = true) : (r.put out busy).Fresh := by
  intro hopen'
  exact absurd (hopen'.symm.trans hclosed) Bool.false_ne_true

theorem Fresh.round (h : r.Fresh) : (r.round v).Fresh := by
  cases hresolve : r.connection.chain.resolve v.table v.maxMessageSize
    r.connection.peer with
  | error fault =>
    simp only [Clocked.round, Connection.resolve, hresolve]
    exact .closing (Session.shutdown_closed _ _ _ _)
  | ok resolved =>
    obtain ⟨tenancy, chain⟩ := resolved
    rw [round_of_resolve hresolve]
    have hcase := Connection.rounded v { r.connection with chain } r.world
      r.clock tenancy
    generalize { r.connection with chain }.round v r.world r.clock tenancy =
      out at hcase
    cases hcase with
    | closed hclosed => exact h
    | throttled hopen hthrottled => exact h
    | nothing hopen hreading hnext => exact h
    | gap hopen hreading hnext hmild f => exact h
    | failed hopen hreading hnext hfatal f cause =>
      exact .closing (Session.shutdown_closed _ _ _ _)
    | @frame hopen hreading chain' input frame hnext after hafter =>
      have hkeeps := Connection.takeFrame_keeps v
        { r.connection with chain := chain', input } r.world r.clock
        tenancy frame
      have htimes := Connection.takeFrame_times v
        { r.connection with chain := chain', input } r.world r.clock
        tenancy frame
      rw [hafter] at hkeeps htimes
      exact h.put hkeeps (fun _ _ => hreading) htimes.1.2 htimes.1.1 htimes.2

/-- A CONNECT that succeeds leaves the session open only if it was not too
late. -/
theorem conclude_fresh (r : Clocked σ) (request : Connect) :
    (r.conclude v request).Fresh := by
  intro hopen' hreading'
  unfold Clocked.conclude at hopen' hreading' ⊢
  dsimp only at hopen' hreading' ⊢
  generalize establish v.transport r.world _ _ _ request =
    made at hopen' hreading' ⊢
  obtain ⟨outcome, w⟩ := made
  have hkeeps := Session.complete_keeps v.transport r.connection.session w
    r.clock outcome
  have hopen := hkeeps.opened hopen'
  have hunhindered :=
    Session.complete_unhindered v.transport r.connection.session w r.clock
      outcome hopen'
  right
  refine ⟨hunhindered.1, ?_⟩
  cases outcome with
  | error failure =>
    have hclosed := Session.shutdown_closed v.transport r.connection.session
      (w.count fun m => m.recordConnect (some failure.code)) (some failure)
    exact absurd (hopen'.symm.trans hclosed) Bool.false_ne_true
  | ok e =>
    have hkeepAlive := Session.complete_keepAlive v.transport hopen w r.clock e
    have hheard := Session.complete_heard v.transport r.connection.session w
      r.clock (.ok e)
    show (r.connection.session.complete v.transport w r.clock
      (.ok e)).1.keepAlive = 0 ∨
      r.clock - (r.connection.session.complete v.transport w r.clock
        (.ok e)).1.lastActivity ≤
          (r.connection.session.complete v.transport w r.clock
            (.ok e)).1.keepAlive
    rw [hkeepAlive, hheard]
    by_cases hzero : e.keepAlive = 0
    · exact .inl hzero
    · right
      apply Nat.le_of_not_lt
      intro hlate
      have hlapsed := Session.complete_lapsed v.transport hopen w hzero hlate
      exact absurd (hopen'.symm.trans hlapsed.closed) Bool.false_ne_true

theorem Fresh.check (h : r.Fresh) : (r.serve v .keepAliveDue).Fresh := by
  have hpasses := Session.checkKeepAlive_passes v.transport r.connection.session
    r.world r.clock
  apply h.put
  · exact Session.checkKeepAlive_keeps v.transport r.connection.session
      r.world r.clock
  · intro hopen' hreading'
    rcases hpasses with ⟨-, hflags⟩ | ⟨hclosed, -⟩
    · rw [← hflags]
      exact hreading'
    · exact absurd (hopen'.symm.trans hclosed) Bool.false_ne_true
  · intro hconnected
    exact (Session.checkKeepAlive_phase v.transport _ _ _).trans hconnected
  · exact Session.checkKeepAlive_keepAlive v.transport _ _ _
  · exact .inl (Session.checkKeepAlive_heard v.transport _ _ _)

theorem happen_fresh (h : r.Fresh) (x : Incident σ) :
    (r.happen v x).Fresh := by
  cases x with
  | arrive bytes =>
    intro hopen hreading
    rcases h hopen hreading with hfresh | htimely
    · left
      intro o ho
      rcases List.mem_append.1 ho with hbefore | hnew
      · exact hfresh o hbefore
      · obtain ⟨byte, -, rfl⟩ := List.mem_map.1 hnew
        exact Nat.le_refl _
    · exact .inr htimely
  | elsewhere backend => exact h
  | read count =>
    simp only [happen]
    split
    · intro hopen hreading
      rcases h hopen hreading with hfresh | htimely
      · left
        intro o ho
        exact hfresh o (List.mem_of_mem_drop ho)
      · exact .inr htimely
    · exact h
  | round =>
    simp only [happen]
    split
    · exact h.round
    · exact h
  | resolve =>
    simp only [happen]
    split
    · unfold Connection.resolve
      split
      · exact h
      · exact .closing (Session.shutdown_closed _ _ _ _)
    · exact h
  | finish =>
    simp only [happen]
    split
    · exact h
    · exact h
  | leave failed =>
    simp only [happen]
    split
    · cases failed with
      | none => exact .closing (Session.shutdown_closed _ _ _ _)
      | some text => exact .closing (Session.shutdown_closed _ _ _ _)
    · exact h
  | check =>
    simp only [happen]
    split
    · exact h.check
    · exact h
  | conclude =>
    simp only [happen]
    split
    · exact h
    · next request hrequest =>
      split
      · exact conclude_fresh r request
      · exact h

private theorem run_fresh (h : r.Fresh) {steps : List (Nat × Incident σ)}
    (hprompt : Prompt v r steps) : (r.run v steps).Fresh := by
  induction steps generalizing r with
  | nil => exact h
  | cons x steps ih =>
    exact ih (happen_fresh (h.wait hprompt.1) x.2) hprompt.2

/-! ## What a lapse says -/

/-- Everything that has arrived. -/
def arrived (r : Clocked σ) : List (Nat × UInt8) :=
  r.heard ++ r.socket

/-- Up to now no frame that counts as activity has come within the timeout. -/
def Silent (v : Services σ) (peer : Option Peer) (r : Clocked σ) : Prop :=
  v.said peer (before r.clock r.arrived) =
    v.said peer (before (r.clock - r.connection.session.keepAlive) r.arrived)

/-- Of what was read nothing is missed by a lapse. -/
theorem Lapse.said_heard (hlapse : Lapse r r') (hears : r.Hears v peer)
    {instant : Nat}
    (hlater : r'.clock - r'.connection.session.keepAlive ≤ instant) :
    v.said peer (before instant r'.heard) =
      v.said peer (r'.heard.map Prod.snd) := by
  have hlate := hlapse.late
  rw [hlapse.clock] at hlater
  rw [hlapse.heard]
  exact hears.said_heard hlapse.idle hlapse.opened (by omega)

/-- A device is silent if nothing that has arrived was left unread. -/
theorem Lapse.silent (hlapse : Lapse r r') (hears : r.Hears v peer)
    (hfresh : ∀ o ∈ r'.socket, r'.clock ≤ o.1) : r'.Silent v peer := by
  have hnone : ∀ {instant}, instant ≤ r'.clock → before instant r'.arrived =
      before instant r'.heard := by
    intro instant hearly
    have hempty : before instant r'.socket = [] :=
      before_of_ge fun o ho => Nat.le_trans hearly (hfresh o ho)
    rw [arrived, before_append, hempty, List.append_nil]
  unfold Silent
  rw [hnone (Nat.le_refl _), hnone (Nat.sub_le _ _), hlapse.said_heard hears
    (Nat.sub_le _ _), hlapse.said_heard hears (Nat.le_refl _)]

/-- A prompt connection that reads has left nothing unread when its session
lapses. -/
theorem Lapse.fresh (hlapse : Lapse r r') (hfresh : r.Fresh)
    (hreading : r.connection.session.flags.throttled = false) :
    ∀ o ∈ r'.socket, r'.clock ≤ o.1 := by
  rw [hlapse.socket, hlapse.clock]
  rcases hfresh hlapse.opened hreading with hnew | ⟨hconnected, hzero | htimely⟩
  · exact hnew
  · exact absurd ((hlapse.keepAlive hconnected).symm.trans hzero)
      hlapse.positive
  · have hlate := hlapse.late
    rw [← hlapse.keepAlive hconnected] at hlate
    omega

/-- What a lapse says about the device.  If something that happens to a
connection finds its device silent, the session was open and is closed, and of
all that was read no frame that counts as activity has come within the timeout
before.  If moreover all that has arrived before was read, then no such frame
has come at all.  And so it is if the connection is prompt and was reading just
before. -/
theorem run_silence (v : Services σ) (connectionId : String)
    (peer : Option Peer) (began : Nat) (backend : σ) (metrics : Option Metrics)
    (steps : List (Nat × Incident σ)) (x : Nat × Incident σ) :
    let r₀ := start v connectionId peer began { backend, metrics }
    let r := r₀.run v steps
    let r' := r.step v x
    let timeout := r'.connection.session.keepAlive
    r'.world.timeouts ≠ r.world.timeouts →
      (r.connection.session.flags.closed = false ∧
        r'.connection.session.flags.closed = true ∧
        ∃ failure, r'.world.timeouts = r.world.timeouts ++ [failure]) ∧
      v.said peer (before (r'.clock - timeout) r'.heard) =
        v.said peer (r'.heard.map Prod.snd) ∧
      ((∀ o ∈ r'.socket, r'.clock ≤ o.1) → r'.Silent v peer) ∧
      (Prompt v r₀ (steps ++ [x]) →
        r.connection.session.flags.throttled = false →
        r'.Silent v peer) := by
  intro r₀ r r' timeout hfound
  have hears : (r.wait x.1).Hears v peer :=
    (run_hears (start_hears v connectionId peer began backend metrics)
      steps).wait x.1
  have hlapse : Lapse (r.wait x.1) r' := happen_lapse hears hfound
  refine ⟨⟨hlapse.opened, hlapse.closed, hlapse.timeouts⟩, ?_,
    hlapse.silent hears, ?_⟩
  · exact hlapse.said_heard hears (Nat.le_refl _)
  · intro hprompt hreading
    obtain ⟨hbefore, hlast⟩ := hprompt.concat
    have hfirst : r₀.Fresh := by
      intro _ _
      left
      intro o ho
      cases ho
    have hfresh : r.Fresh := run_fresh hfirst hbefore
    exact hlapse.silent hears (hlapse.fresh (hfresh.wait hlast) hreading)

/-- The device says `T~0~d~x` and nothing more.  It is checked when its timeout
of three minutes is over, and closed when it is checked again. -/
theorem run_silence_alone :
    let taking : Backend.Transport Unit :=
      ⟨fun s _ _ => (.ok ⟨0, "d"⟩, s), fun s _ _ => (.ok (), s), fun s _ => s⟩
    let v : Services Unit :=
      ⟨taking, {}, 64, ⟨⟨[("T.d", ⟨"d", "h/d", "s"⟩)]⟩, [], 120⟩, ⟨none, "", 1⟩⟩
    let steps : List (Nat × Incident Unit) :=
      [(0, .arrive [84, 126, 48, 126, 100, 126, 120, 10]), (0, .read 8),
        (0, .round), (0, .round), (0, .conclude),
        (180000 * millisecond, .check)]
    let x : Nat × Incident Unit := (millisecond, .check)
    let r₀ := start v "c" none 0 { backend := () }
    let r := r₀.run v steps
    let r' := r.step v x
    (r'.world.timeouts ≠ r.world.timeouts ∧ Prompt v r₀ (steps ++ [x]) ∧
      r.connection.session.flags.throttled = false) ∧
    r'.clock = 180001 * millisecond ∧
    r'.connection.session.flags.closed = true ∧
    r'.Silent v none := by
  intro taking v steps x r₀ r r'
  have hfound : r'.world.timeouts ≠ r.world.timeouts := by decide +kernel
  have hprompt : Prompt v r₀ (steps ++ [x]) := by decide +kernel
  have hreading : r.connection.session.flags.throttled = false := by
    decide +kernel
  have hclock : r'.clock = 180001 * millisecond := by decide +kernel
  clear_value v
  obtain ⟨⟨-, hclosed, -⟩, -, -, hsilent⟩ :=
    run_silence v "c" none 0 () none steps x hfound
  exact ⟨⟨hfound, hprompt, hreading⟩, hclock, hclosed, hsilent hprompt hreading⟩

/-- The device says `T~0~d~x` and `T~0~d~y`, which fill the queue, and `T~0~d~z`
after 170 seconds.  Its CONNECT succeeds after 185 seconds, and it is closed for
its silence. -/
theorem run_unheard :
    let taking : Backend.Transport Unit :=
      ⟨fun s _ _ => (.ok ⟨0, "d"⟩, s), fun s _ _ => (.ok (), s), fun s _ => s⟩
    let v : Services Unit :=
      ⟨taking, {}, 64, ⟨⟨[("T.d", ⟨"d", "h/d", "s"⟩)]⟩, [], 120⟩, ⟨none, "", 1⟩⟩
    let steps : List (Nat × Incident Unit) :=
      [(0, .arrive [84, 126, 48, 126, 100, 126, 120, 10]), (0, .read 8),
        (0, .round), (0, .round),
        (0, .arrive [84, 126, 48, 126, 100, 126, 121, 10]), (0, .read 8),
        (0, .round), (0, .round),
        (170000 * millisecond, .arrive [84, 126, 48, 126, 100, 126, 122, 10])]
    let x : Nat × Incident Unit := (15000 * millisecond, .conclude)
    let r₀ := start v "c" none 0 { backend := () }
    let r := r₀.run v steps
    let r' := r.step v x
    r'.world.timeouts ≠ r.world.timeouts ∧ r'.clock = 185000 * millisecond ∧
      r'.connection.session.keepAlive = 180000 * millisecond ∧
      Prompt v r₀ (steps ++ [x]) ∧
      ¬ r'.Silent v none := by
  intro taking v steps x r₀ r r'
  have hfound : r'.world.timeouts ≠ r.world.timeouts := by decide +kernel
  have hclock : r'.clock = 185000 * millisecond := by decide +kernel
  have hkeepAlive : r'.connection.session.keepAlive = 180000 * millisecond := by
    decide +kernel
  have hprompt : Prompt v r₀ (steps ++ [x]) := by decide +kernel
  refine ⟨hfound, hclock, hkeepAlive, hprompt, ?_⟩
  intro hsilent
  have hlength : (v.said none (before r'.clock r'.arrived)).length = 3 := by
    decide +kernel
  have hearly :
      (v.said none (before (r'.clock - r'.connection.session.keepAlive)
        r'.arrived)).length = 2 := by decide +kernel
  rw [hsilent, hearly] at hlength
  cases hlength

end Clocked

end DeviceGateway
