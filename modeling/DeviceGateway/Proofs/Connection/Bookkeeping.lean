import DeviceGateway.Proofs.Connection.Demands

/-!
# What is counted of a connection

A session counts what it does as it goes: how its CONNECT came out, each message
that was taken or refused, why it was closed.  The journal is an account of the
same things that nobody counts from.  The two agree.

As long as a session is open nothing was refused, nothing was put away, nobody
asked it to close, and the messages that were taken are those that are counted.
From then on it is `Settled`: one closing is counted, under its first cause, and
a message that was refused is the last one and the cause.  Between the two lies
one operation only, and what a session does after its closing counts for
nothing.

How the CONNECT came out is told apart by the device that the session is bound
to.  An outcome is taken in by an open session only, so an error that is counted
is the cause of the closing, and a success that is counted leaves a bridge that
is put away.

## Main results

* `shutdown_settled`: closing settles the account.
* `answer_tallied`: the answers to what is due keep it.
* `run_tallies`: what is counted of a connection from its start to its end.
-/

namespace DeviceGateway

namespace Metrics

/-- What is counted once a CONNECT has come out in some way, if it has. -/
def recordOutcome (m : Metrics) : Option (Option Code) → Metrics
  | none => m
  | some failure => m.recordConnect failure

/-- What is counted once some messages were taken and some refused. -/
def recordMessages (m : Metrics) (taken refused : Nat) : Metrics :=
  { m with relayed := m.relayed + taken, relayFailures := m.relayFailures +
    refused }

/-- No other cause has the label of a silent device. -/
theorem causeLabel_eq_iff (cause : Option Code) :
    causeLabel cause = Code.keepAliveTimedOut.name ↔
      cause = some .keepAliveTimedOut := by
  cases cause with
  | none => decide
  | some code => cases code <;> decide

end Metrics

namespace World

variable {σ : Type} {w w' : World σ}

/-- The messages that were handed to clients and not taken. -/
def refused (w : World σ) : List Offer :=
  w.offers.filter fun o => o.taken?.isNone

theorem refused_congr (h : w'.offers = w.offers) : w'.refused = w.refused := by
  rw [refused, refused, h]

section Send

variable {t : Backend.Transport σ} {client : Backend.Client}
  {deviceId : DeviceId} {m : Backend.Message}

theorem refused_send_ok {u : Unit}
    (h : (w.send t client deviceId m).1 = .ok u) :
    (w.send t client deviceId m).2.refused = w.refused := by
  simp [refused, h, Offer.taken?]

theorem refused_send_error {fault : Backend.Fault}
    (h : (w.send t client deviceId m).1 = .error fault) :
    (w.send t client deviceId m).2.refused =
      w.refused ++ [⟨client, deviceId, m, .error fault⟩] := by
  simp [refused, h, Offer.taken?]

end Send

/-! ### What the operations of a world count of sessions -/

theorem sessions_count (w : World σ) {f : Metrics → Metrics}
    (hf : ∀ m, (f m).ofSessions = f m.ofSessions) :
    (w.count f).sessions = w.sessions.map f := by
  show (w.metrics.map f).map Metrics.ofSessions =
    (w.metrics.map Metrics.ofSessions).map f
  rw [Option.map_map, Option.map_map]
  exact congrArg (fun g => w.metrics.map g) (funext hf)

private theorem sessions_releaseAll (w : World σ) (ps : List DataPacket) :
    (w.releaseAll ps).sessions = w.sessions := by
  unfold releaseAll
  induction ps generalizing w with
  | nil => rfl
  | cons p ps ih => exact ih (w.release p)

private theorem sessions_dispose (t : Backend.Transport σ) (w : World σ)
    (b : Bridge) (cause : Option Failure) :
    (w.dispose t b cause).2.sessions = w.sessions := by
  unfold dispose
  split <;> rfl

end World

namespace Session

variable {σ : Type} {k m : Metrics} {s s' : Session} {w w' : World σ}
  {cause : Option Failure}

/-! ## The account of a session -/

/-- Closing is counted under the code of its cause. -/
theorem sessions_shutdown (t : Backend.Transport σ)
    (hopen : s.flags.closed = false) (w : World σ) (cause : Option Failure) :
    (s.shutdown t w cause).2.sessions =
      w.sessions.map fun m => m.recordShutdown (cause.map Failure.code) := by
  have hcode : (s.told cause).map Failure.code = cause.map Failure.code := by
    cases cause <;> rfl
  have hcounted : ((w.ask cause).count fun m =>
      m.recordShutdown ((s.told cause).map Failure.code)).sessions =
        w.sessions.map fun m => m.recordShutdown (cause.map Failure.code) := by
    rw [hcode, World.sessions_count
      (f := fun m => m.recordShutdown (cause.map Failure.code)) _ fun _ => rfl]
    rfl
  rw [← hcounted]
  cases hbridge : s.bridge <;>
    simp [shutdown, hopen, hbridge, told, World.sessions_releaseAll,
      World.sessions_dispose]

/-- What was taken and what was refused is counted, no bridge was put away, and
nobody asked the session to close. -/
structure Counted (k : Metrics) (w : World σ) : Prop where
  counts : w.sessions =
    some (k.recordMessages w.accepted.length w.refused.length)
  disposals : w.disposals = []
  causes : w.causes = []

theorem Counted.of_alike (halike : w.Alike w') (h : Counted k w) :
    Counted k w' where
  counts := by
    rw [halike.sessions, World.accepted_congr (halike.view _),
      World.refused_congr (halike.view _)]
    exact h.counts
  disposals := (halike.view _).trans h.disposals
  causes := (halike.view _).trans h.causes

/-- A message that is taken is counted. -/
theorem Counted.taken {t : Backend.Transport σ} (h : Counted k w)
    {client : Backend.Client} {deviceId : DeviceId} {message : Backend.Message}
    {u : Unit} (hsend : (w.send t client deviceId message).1 = .ok u) :
    Counted k ((w.send t client deviceId message).2.count Metrics.recordRelay)
      where
  counts := by
    have hcounts : (w.send t client deviceId message).2.sessions = w.sessions :=
      rfl
    have htaken :
        ((w.send t client deviceId message).2.count
          Metrics.recordRelay).accepted =
        w.accepted ++ [message] := World.accepted_send_ok hsend
    have hrefused :
        ((w.send t client deviceId message).2.count
          Metrics.recordRelay).refused =
        w.refused := World.refused_send_ok hsend
    rw [World.sessions_count (f := Metrics.recordRelay) _ fun _ => rfl, hcounts,
      h.counts, htaken, hrefused, List.length_append]
    rfl
  disposals := by simp [h.disposals]
  causes := by simp [h.causes]

/-- So is one that is refused. -/
theorem Counted.refused {t : Backend.Transport σ} (h : Counted k w)
    {client : Backend.Client} {deviceId : DeviceId} {message : Backend.Message}
    {fault : Backend.Fault}
    (hsend : (w.send t client deviceId message).1 = .error fault) :
    Counted k
      ((w.send t client deviceId message).2.count Metrics.recordRelayFailure)
        where
  counts := by
    have hcounts : (w.send t client deviceId message).2.sessions = w.sessions :=
      rfl
    have htaken : ((w.send t client deviceId message).2.count
        Metrics.recordRelayFailure).accepted =
          w.accepted := World.accepted_send_error hsend
    have hrefused : ((w.send t client deviceId message).2.count
        Metrics.recordRelayFailure).refused = w.refused ++
          [⟨client, deviceId, message, .error fault⟩] :=
            World.refused_send_error hsend
    rw [World.sessions_count (f := Metrics.recordRelayFailure) _ fun _ => rfl,
      hcounts, h.counts, htaken, hrefused, List.length_append]
    rfl
  disposals := by simp [h.disposals]
  causes := by simp [h.causes]

/-- An open session with an account, of which nothing was refused. -/
structure Running (k : Metrics) (s : Session) (w : World σ) : Prop where
  opened : s.flags.closed = false
  counted : Counted k w
  refused : w.refused = []

theorem Running.of_alike (halike : w.Alike w') (h : Running k s w) :
    Running k s w' :=
  ⟨h.opened, h.counted.of_alike halike,
    (World.refused_congr (halike.view _)).trans h.refused⟩

theorem Running.release (h : Running k s w) (p : DataPacket) :
    Running k s (w.release p) :=
  h.of_alike (w.alike_release p)

/-- A refused message, if there is one, is the cause of the closing. -/
def Faulted (s : Session) (w : World σ) (cause : Option Failure) : Prop :=
  w.refused = [] ∨ ∃ o fault, w.refused = [o] ∧ o.result = .error fault ∧
    cause = some (fault.toFailure.inScope "Relay" s.connectionId)

/-- The account of a session that was closed, and why. -/
structure Settled (k : Metrics) (cause : Option Failure) (s : Session)
    (w : World σ) : Prop where
  spent : s.Spent
  counts : w.sessions =
    some ((k.recordMessages w.accepted.length w.refused.length).recordShutdown
    (cause.map Failure.code))
  faulted : s.Faulted w cause
  causes : w.causes.head? = some cause

theorem Settled.of_alike (halike : w.Alike w') (h : Settled k cause s w) :
    Settled k cause s w' where
  spent := h.spent
  counts := by
    rw [halike.sessions, World.accepted_congr (halike.view _),
      World.refused_congr (halike.view _)]
    exact h.counts
  faulted := by
    rw [Faulted, World.refused_congr (halike.view _)]
    exact h.faulted
  causes := (congrArg List.head? (halike.view _)).trans h.causes

/-- Closing settles the account, and puts the bridge away. -/
theorem shutdown_settled (t : Backend.Transport σ)
    (hopen : s.flags.closed = false) (h : Counted k w)
    (hfaulted : s.Faulted w cause) :
    Settled k cause (s.shutdown t w cause).1 (s.shutdown t w cause).2 ∧
      (s.shutdown t w cause).2.disposals = s.bridge.toList.map fun b =>
        (b, s.told cause) := by
  have hoffers : (s.shutdown t w cause).2.offers = w.offers := by
    simp [view_shutdown t hopen]
  refine ⟨⟨?_, ?_, ?_, ?_⟩, ?_⟩
  · rw [shutdown_of_open t hopen]
    exact ended_spent s
  · rw [sessions_shutdown t hopen, h.counts, World.accepted_congr hoffers,
      World.refused_congr hoffers]
    rfl
  · rw [shutdown_of_open t hopen, Faulted, World.refused_congr hoffers]
    exact hfaulted
  · simp [view_shutdown t hopen, h.causes]
  · cases hbridge : s.bridge <;> simp [view_shutdown t hopen, h.disposals,
      hbridge]

/-! ## Sessions that are bound -/

/-- A session that is bound to a device and has its bridge. -/
structure Bound (s : Session) : Prop where
  phase : s.flags.phase = .connected
  identity : s.identity.isSome = true
  bridge : s.bridge.isSome = true

/-- A session that was bound, with its bridge put away and its account
settled. -/
def Served (k : Metrics) (s : Session) (w : World σ) : Prop :=
  ∃ cause bridge, Settled k cause s w ∧ s.identity.isSome = true ∧
    w.disposals = [(bridge, s.told cause)]

theorem shutdown_served (t : Backend.Transport σ)
    (hopen : s.flags.closed = false) (hbound : s.Bound) (h : Counted k w)
    (hfaulted : s.Faulted w cause) :
    Served k (s.shutdown t w cause).1 (s.shutdown t w cause).2 := by
  obtain ⟨hsettled, hdisposals⟩ := shutdown_settled t hopen h hfaulted
  obtain ⟨bridge, hbridge⟩ := Option.isSome_iff_exists.1 hbound.bridge
  refine ⟨cause, bridge, hsettled, ?_, ?_⟩
  · rw [shutdown_of_open t hopen]
    exact hbound.identity
  · rw [hdisposals, hbridge, shutdown_of_open t hopen]
    rfl

/-- One more message is counted as taken, or the account is settled. -/
theorem Running.relay (t : Backend.Transport σ) (h : Running k s w)
    (hbound : s.Bound) (p : DataPacket) :
    ((s.relay t w p).1 = s ∧ Running k s (s.relay t w p).2) ∨
      Served k (s.relay t w p).1 (s.relay t w p).2 := by
  have hcase := relayed t h.opened w p
  generalize s.relay t w p = out at hcase
  cases hcase with
  | stranger bound hsome hid =>
    have hreleased := h.release p
    exact .inr (shutdown_served t h.opened ⟨hbound.phase, hbound.identity,
      hbound.bridge⟩ hreleased.counted (.inl hreleased.refused))
  | bridgeless hown hbridge =>
    have hsome := hbound.bridge
    rw [hbridge] at hsome
    cases hsome
  | unserved hown bridge hbridge hclient =>
    have hreleased := h.release p
    exact .inr (shutdown_served t h.opened hbound hreleased.counted
      (.inl hreleased.refused))
  | accepted hown bridge hbridge client hclient u hsend =>
    exact .inl ⟨rfl, h.opened, h.counted.taken hsend,
      (World.refused_send_ok hsend).trans h.refused⟩
  | refused hown bridge hbridge client hclient fault hsend =>
    have hrefused : ((w.send t client p.deviceId (s.setup.message p)).2.count
        Metrics.recordRelayFailure).refused =
          [⟨client, p.deviceId, s.setup.message p, .error fault⟩] := by
      have hlast := World.refused_send_error hsend
      rw [h.refused] at hlast
      exact hlast
    exact .inr (shutdown_served t h.opened hbound (h.counted.refused hsend)
      (.inr ⟨_, fault, hrefused, rfl, rfl⟩))

/-- Everything that waited for the CONNECT is counted, up to where the account
is settled. -/
theorem Running.conveys (t : Backend.Transport σ) (k : Metrics) :
    Conveys t (fun _ s w => Running k s w ∧ s.Bound) fun _ _ s w =>
      Served k s w where
  relay h p := by
    rcases h.1.relay t h.2 p with ⟨hsame, hrunning⟩ | hserved
    · exact .inl ⟨hsame, hrunning, h.2⟩
    · exact .inr fun _ => hserved
  release h p := ⟨h.1.release p, h.2⟩
  stored h _ _ _ :=
    ⟨⟨h.1.opened, h.1.counted, h.1.refused⟩, h.2.phase, h.2.identity,
      h.2.bridge⟩
  check {s w} h now := by
    have hcase := checked t s w now
    generalize s.checkKeepAlive t w now = out at hcase
    cases hcase with
    | unsupervised hidle => exact .inl ⟨none, rfl⟩
    | silent hopen hpos hlate =>
      exact .inr fun _ => shutdown_served t hopen ⟨h.2.phase, h.2.identity,
        h.2.bridge⟩ h.1.counted (.inl h.1.refused)
    | timely hopen hpos htimely => exact .inl ⟨_, rfl⟩
  spent h := by
    obtain ⟨cause, bridge, hsettled, -⟩ := h
    exact hsettled.spent

/-! ## All that is counted -/

/-- An open session that is not bound to a device. -/
structure Fresh (m : Metrics) (s : Session) (w : World σ) :
    Prop extends Running m s w where
  identity : s.identity = none
  bridge : s.bridge = none

/-- How far a session is with its CONNECT, and its account with what was counted
before. -/
inductive Tallied (m : Metrics) (s : Session) (w : World σ) : Prop
  /-- No CONNECT has come out. -/
  | fresh (h : Fresh m s w)
  | bound (h : Running (m.recordConnect none) s w) (hbound : s.Bound)
  /-- No CONNECT has come out, or the session was closed because one has
  failed. -/
  | dropped (failed : Option Code) (cause : Option Failure)
      (h : Settled (m.recordOutcome (failed.map some)) cause s w)
      (hidentity : s.identity = none) (hdisposals : w.disposals = [])
      (hfailed : ∀ code, failed = some code →
        cause.map Failure.code = some code)
  | served (h : Served (m.recordConnect none) s w)

theorem Tallied.running (h : Tallied m s w) (hopen : s.flags.closed = false) :
    Fresh m s w ∨ Running (m.recordConnect none) s w ∧ s.Bound := by
  cases h with
  | fresh h => exact .inl h
  | bound h hbound => exact .inr ⟨h, hbound⟩
  | dropped failed cause h =>
    exact absurd (hopen.symm.trans h.spent.closed) Bool.false_ne_true
  | served h =>
    obtain ⟨cause, bridge, h, -⟩ := h
    exact absurd (hopen.symm.trans h.spent.closed) Bool.false_ne_true

/-- What a session has heard, what it holds and when it is to be checked have no
part in its account. -/
theorem Tallied.of_session (h : Tallied m s w) (hopen : s.flags.closed = false)
    (hopen' : s'.flags.closed = false)
    (hphase : s.flags.phase = .connected → s'.flags.phase = .connected)
    (hidentity : s'.identity = s.identity) (hbridge : s'.bridge = s.bridge) :
    Tallied m s' w := by
  rcases h.running hopen with h | ⟨h, hbound⟩
  · exact .fresh ⟨⟨hopen', h.counted, h.refused⟩, hidentity.trans h.identity,
      hbridge.trans h.bridge⟩
  · refine .bound ⟨hopen', h.counted, h.refused⟩ ⟨hphase hbound.phase, ?_, ?_⟩
    · rw [hidentity]
      exact hbound.identity
    · rw [hbridge]
      exact hbound.bridge

theorem Tallied.of_alike (halike : w.Alike w') (h : Tallied m s w) :
    Tallied m s w' := by
  cases h with
  | fresh h => exact .fresh ⟨h.toRunning.of_alike halike, h.identity, h.bridge⟩
  | bound h hbound => exact .bound (h.of_alike halike) hbound
  | dropped failed cause h hidentity hdisposals hfailed =>
    exact .dropped failed cause (h.of_alike halike) hidentity
      ((halike.view _).trans hdisposals) hfailed
  | served h =>
    obtain ⟨cause, bridge, h, hidentity, hdisposals⟩ := h
    exact .served ⟨cause, bridge, h.of_alike halike, hidentity,
      (halike.view _).trans hdisposals⟩

/-- A session that is not bound has no bridge to put away when it is closed. -/
theorem Fresh.shutdown (t : Backend.Transport σ) (h : Fresh m s w)
    (failed : Option Code)
    (hcounted : Counted (m.recordOutcome (failed.map some)) w')
    (hrefused : w'.refused = [])
    (hfailed : ∀ code, failed = some code →
      cause.map Failure.code = some code) :
    Tallied m (s.shutdown t w' cause).1 (s.shutdown t w' cause).2 := by
  obtain ⟨hsettled, hdisposals⟩ := shutdown_settled t h.opened hcounted
    (.inl hrefused)
  refine .dropped failed cause hsettled ?_ ?_ hfailed
  · rw [shutdown_of_open t h.opened]
    exact h.identity
  · rw [hdisposals, h.bridge]
    rfl

theorem shutdown_tallied (t : Backend.Transport σ) (h : Tallied m s w)
    (hopen : s.flags.closed = false) (cause : Option Failure) :
    Tallied m (s.shutdown t w cause).1 (s.shutdown t w cause).2 := by
  rcases h.running hopen with h | ⟨h, hbound⟩
  · exact h.shutdown t none h.counted h.refused nofun
  · exact .served (shutdown_served t hopen hbound h.counted (.inl h.refused))

private theorem relay_tallied (t : Backend.Transport σ) (h : Tallied m s w)
    (hopen : s.flags.closed = false) (p : DataPacket) :
    Tallied m (s.relay t w p).1 (s.relay t w p).2 := by
  rcases h.running hopen with h | ⟨h, hbound⟩
  · have hcase := relayed t hopen w p
    generalize s.relay t w p = out at hcase
    cases hcase with
    | bridgeless hown hnone =>
      exact .fresh ⟨h.toRunning.release p, h.identity, h.bridge⟩
    | stranger bound hbound hid => rw [h.identity] at hbound; cases hbound
    | unserved hown bridge hsome hclient => rw [h.bridge] at hsome; cases hsome
    | accepted hown bridge hsome client hclient u hsend =>
      rw [h.bridge] at hsome; cases hsome
    | refused hown bridge hsome client hclient fault hsend =>
      rw [h.bridge] at hsome; cases hsome
  · rcases h.relay t hbound p with ⟨hsame, hrunning⟩ | hserved
    · rw [hsame]
      exact .bound hrunning hbound
    · exact .served hserved

private theorem checkKeepAlive_tallied (t : Backend.Transport σ)
    (h : Tallied m s w) (hopen : s.flags.closed = false) (now : Nat) :
    Tallied m (s.checkKeepAlive t w now).1 (s.checkKeepAlive t w now).2 := by
  have hunscheduled : ∀ deadline, Tallied m { s with deadline } w :=
    fun _ => h.of_session hopen hopen id rfl rfl
  have hcase := checked t s w now
  generalize s.checkKeepAlive t w now = out at hcase
  cases hcase with
  | unsupervised hidle => exact hunscheduled none
  | silent hopen hpos hlate =>
    exact shutdown_tallied t (hunscheduled none) hopen _
  | timely hopen hpos htimely => exact hunscheduled _

private theorem receive_tallied (t : Backend.Transport σ) (h : Tallied m s w)
    (hopen : s.flags.closed = false) (now : Nat) (parcel : Parcel) :
    Tallied m (s.receive t w now parcel).2.1
      (s.receive t w now parcel).2.2 := by
  have hheard : Tallied m (s.heard now) w := h.of_session hopen hopen id rfl rfl
  have hcase := received t s w now parcel
  generalize s.receive t w now parcel = out at hcase
  cases hcase with
  | dropped hclosed =>
    exact absurd (hopen.symm.trans hclosed) Bool.false_ne_true
  | empty hopen hdata hconnect => exact hheard
  | begun hopen hphase request hconnect =>
    refine h.of_session hopen hopen (fun hconnected => ?_) rfl rfl
    exact absurd (hphase.symm.trans hconnected) (by decide)
  | unexpected hopen hphase hconnect p hdata =>
    have hreleased : Tallied m (s.heard now) (w.release p) :=
      hheard.of_alike (w.alike_release p)
    exact shutdown_tallied t hreleased hopen _
  | queued hopen hphase p hdata =>
    obtain ⟨hclosed, -, hkept⟩ := enqueue_flags (s.heard now) p
    exact h.of_session hopen (hclosed.trans hopen) hkept.trans rfl rfl
  | live hopen hphase p hdata => exact relay_tallied t hheard hopen p

/-- An outcome is taken in by a session that is not bound.  If it is an error,
that is counted and then the session is closed for it. -/
theorem complete_tallied (t : Backend.Transport σ) (h : Tallied m s w)
    (hopen : s.flags.closed = false) (hphase : s.flags.phase = .connecting)
    (now : Nat) (outcome : Except Failure Established) :
    Tallied m (s.complete t w now outcome).1
      (s.complete t w now outcome).2 := by
  rcases h.running hopen with h | ⟨-, hbound⟩
  · have hcounted : ∀ failure, Counted (m.recordConnect failure)
        (w.count fun m => m.recordConnect failure) := by
      intro failure
      refine ⟨?_, h.counted.disposals, h.counted.causes⟩
      rw [World.sessions_count (f := fun m => m.recordConnect failure) _
        fun _ => rfl, h.counted.counts]
      rfl
    cases outcome with
    | error failure =>
      exact h.shutdown t (some failure.code) (hcounted _) h.refused
        fun _ hcode => hcode
    | ok e =>
      have hbound : Running (m.recordConnect none) (s.bind e)
          (w.count fun m => m.recordConnect none) ∧ (s.bind e).Bound :=
        ⟨⟨hopen, hcounted none, h.refused⟩, rfl, rfl, rfl⟩
      rcases (Running.conveys t (m.recordConnect none)).complete hopen e now
        hbound with
        ⟨⟨hrunning, hstill⟩, -⟩ | ⟨taken, rest, -, hserved⟩
      · exact .bound hrunning hstill
      · exact .served hserved
  · exact absurd (hphase.symm.trans hbound.phase) (by decide)

/-- The account outlasts the answers to what is due. -/
theorem answer_tallied (t : Backend.Transport σ)
    (hopen : s.flags.closed = false) {d : Demand} (hdue : d.Due s)
    (h : Tallied m s w) :
    Tallied m (s.answer t w d).2.1 (s.answer t w d).2.2 := by
  cases d with
  | receive now parcel => exact receive_tallied t h hopen now parcel
  | complete now outcome => exact complete_tallied t h hopen hdue.1 now outcome
  | checkKeepAlive now => exact checkKeepAlive_tallied t h hopen now
  | shutdown cause => exact shutdown_tallied t h hopen cause

/-- What a settled account says, item by item. -/
theorem Settled.items {outcome : Option (Option Code)}
    (h : Settled (m.ofSessions.recordOutcome outcome) cause s w) :
    let label := Metrics.causeLabel (cause.map Failure.code)
    ∃ m', w.metrics = some m' ∧
      m'.shutdowns = m.shutdowns.bump label ∧
      (m'.keepAliveTimeouts =
        m.keepAliveTimeouts +
          if label = Code.keepAliveTimedOut.name then 1 else 0) ∧
      (m'.connects = outcome.elim m.connects fun failure =>
        m.connects.bump (Metrics.outcomeLabel failure)) ∧
      m'.relayed = m.relayed + w.accepted.length ∧
      m'.relayFailures = m.relayFailures + w.refused.length := by
  intro label
  obtain ⟨m', hmetrics, hcounts⟩ := Option.map_eq_some_iff.1 h.counts
  have hconnects := congrArg Metrics.connects hcounts
  have hshutdowns := congrArg Metrics.shutdowns hcounts
  have htimeouts := congrArg Metrics.keepAliveTimeouts hcounts
  have hrelayed := congrArg Metrics.relayed hcounts
  have hfailures := congrArg Metrics.relayFailures hcounts
  rw [Metrics.keepAliveTimeouts_recordShutdown] at htimeouts
  refine ⟨m', hmetrics, ?_, ?_, ?_, ?_, ?_⟩
  · cases outcome <;> exact hshutdowns
  · simp only [label, Metrics.causeLabel_eq_iff]
    cases outcome <;> exact htimeouts
  · cases outcome <;> exact hconnects
  · cases outcome <;> exact hrelayed
  · cases outcome <;> exact hfailures

end Session

namespace Clocked

variable {σ : Type}

/-- The account is kept in every run. -/
theorem run_tallied (v : Services σ) (connectionId : String)
    (peer : Option Peer) (now : Nat) (backend : σ) (m : Metrics)
    (steps : List (Nat × Incident σ)) :
    let r := (start v connectionId peer now { backend
                                              metrics := some m }).run v steps
    r.connection.session.connectionId = connectionId ∧
      Session.Tallied m.ofSessions r.connection.session r.world := by
  intro r
  refine (start_orderly v connectionId peer now _).lift (v := v)
    (P := fun s w => s.connectionId = connectionId ∧
      Session.Tallied m.ofSessions s w)
    ?_ ?_ ?_ steps
  · intro s w w' halike h
    exact ⟨h.1, h.2.of_alike halike⟩
  · intro s w d hopen hdue h
    exact ⟨(Session.answer_keeps v.transport s w d).connectionId.trans h.1,
      Session.answer_tallied v.transport hopen hdue h.2⟩
  · exact ⟨rfl, .fresh ⟨⟨rfl, ⟨rfl, rfl, rfl⟩, rfl⟩, rfl, rfl⟩⟩

/-- What is counted of a connection from its start to its end.  One closing is
counted, under the label of its first cause, and it counts as a silent device
exactly if that is the label.  One outcome of a CONNECT is counted at most.  It
is a success exactly if the session was bound to a device, and so exactly if
there was a bridge to put away; an error has the label of the closing.  The
messages that were taken are counted, and so are those that were refused.  Of
these there is one at most, and then it is the cause of the closing. -/
theorem run_tallies (v : Services σ) (connectionId : String)
    (peer : Option Peer) (now : Nat) (backend : σ) (m : Metrics)
    (steps : List (Nat × Incident σ)) :
    let r := (start v connectionId peer now { backend
                                              metrics := some m }).run v steps
    let s := r.connection.session
    r.connection.finished = true →
      ∃ m' cause outcome, r.world.metrics = some m' ∧
        r.world.causes.head? = some cause ∧
        let label := Metrics.causeLabel (cause.map Failure.code)
        (m'.shutdowns = m.shutdowns.bump label ∧
          m'.keepAliveTimeouts =
            m.keepAliveTimeouts + if label = Code.keepAliveTimedOut.name then 1
              else 0) ∧
        ((m'.connects = outcome.elim m.connects fun failure =>
            m.connects.bump (Metrics.outcomeLabel failure)) ∧
          (outcome = some none ↔ s.identity.isSome = true) ∧
          (outcome = some none ↔
            ∃ bridge, r.world.disposals = [(bridge, s.told cause)]) ∧
          ∀ code, outcome = some (some code) →
            Metrics.outcomeLabel (some code) = label) ∧
        m'.relayed = m.relayed + r.world.accepted.length ∧
        m'.relayFailures = m.relayFailures + r.world.refused.length ∧
        (r.world.refused = [] ∨
          ∃ o fault, r.world.refused = [o] ∧ o.result = .error fault ∧
            cause = some (fault.toFailure.inScope "Relay" connectionId)) := by
  intro r s hfinished
  have horderly : r.Orderly :=
    run_orderly v (start_orderly v connectionId peer now _) steps
  have hclosed : s.flags.closed = true := horderly.finished hfinished
  obtain ⟨hconnection, htallied⟩ :=
    run_tallied v connectionId peer now backend m steps
  have hfaulted : ∀ cause, s.Faulted r.world cause →
      r.world.refused = [] ∨ ∃ o fault,
        r.world.refused = [o] ∧ o.result = .error fault ∧
        cause = some (fault.toFailure.inScope "Relay" connectionId) := by
    intro cause h
    rw [← hconnection]
    exact h
  cases htallied with
  | fresh h => exact absurd (h.opened.symm.trans hclosed) Bool.false_ne_true
  | bound h hbound =>
    exact absurd (h.opened.symm.trans hclosed) Bool.false_ne_true
  | dropped failed cause h hidentity hdisposals hfailed =>
    obtain ⟨m', hmetrics, hshutdowns, htimeouts, hconnects, hrelayed,
      hfailures⟩ := h.items
    refine ⟨m', cause, failed.map some, hmetrics, h.causes,
      ⟨hshutdowns, htimeouts⟩, ⟨hconnects, ?_, ?_, ?_⟩, hrelayed, hfailures,
      hfaulted cause h.faulted⟩
    · have hnone : s.identity = none := hidentity
      rw [hnone]
      cases failed <;> simp
    · rw [hdisposals]
      cases failed <;> simp
    · intro code hcode
      obtain ⟨code', hcode', heq⟩ := Option.map_eq_some_iff.1 hcode
      obtain rfl := Option.some.inj heq
      rw [hfailed code' hcode']
      rfl
  | served h =>
    obtain ⟨cause, bridge, hsettled, hidentity, hdisposals⟩ := h
    have hsettled' : Session.Settled (m.ofSessions.recordOutcome (some none))
        cause s r.world :=
      hsettled
    obtain ⟨m', hmetrics, hshutdowns, htimeouts, hconnects, hrelayed,
      hfailures⟩ := hsettled'.items
    refine ⟨m', cause, some none, hmetrics, hsettled.causes,
      ⟨hshutdowns, htimeouts⟩, ⟨hconnects, ?_, ?_, nofun⟩, hrelayed, hfailures,
      hfaulted cause hsettled.faulted⟩
    · exact iff_of_true rfl hidentity
    · exact iff_of_true rfl ⟨bridge, hdisposals⟩

/-- The device says `T~0~d~x`, its CONNECT succeeds, and its message is
refused. -/
theorem run_tallies_refused :
    let refusing : Backend.Transport Unit :=
      ⟨fun s _ _ => (.ok ⟨0, "d"⟩, s), fun s _ _ =>
        (.error (.rejected "full"), s), fun s _ => s⟩
    let v : Services Unit :=
      ⟨refusing, {}, 64, ⟨⟨[("T.d", ⟨"d", "h/d", "s"⟩)]⟩, [], 120⟩,
        ⟨none, "", 1⟩⟩
    let steps : List (Nat × Incident Unit) :=
      [(0, .arrive [84, 126, 48, 126, 100, 126, 120, 10]), (0, .read 8),
        (0, .round), (0, .round), (0, .conclude), (0, .finish)]
    let r :=
      (start v "c" none 0 { backend := (), metrics := some {} }).run v steps
    r.connection.finished = true ∧ ∃ m', r.world.metrics = some m' ∧
      m'.shutdowns = [("InvalidOperation", 1)] ∧ m'.keepAliveTimeouts = 0 ∧
      m'.connects = [("ok", 1)] ∧ m'.relayed = 0 ∧ m'.relayFailures = 1 := by
  intro refusing v steps r
  have hfinished : r.connection.finished = true := by decide +kernel
  have hidentity : r.connection.session.identity.isSome = true := by
    decide +kernel
  have hlabel : r.world.causes.head?.map
      (fun cause => Metrics.causeLabel (cause.map Failure.code)) =
      some "InvalidOperation" := by decide +kernel
  have htaken : r.world.accepted.length = 0 := by decide +kernel
  have hrefused : r.world.refused.length = 1 := by decide +kernel
  clear_value v
  obtain ⟨m', cause, outcome, hmetrics, hcause, ⟨hshutdowns, htimeouts⟩,
    ⟨hconnects, hbound, -⟩, hrelayed, hfailures, -⟩ := run_tallies v "c" none 0
      () {} steps hfinished
  rw [hcause, Option.map_some, Option.some.injEq] at hlabel
  rw [hlabel] at hshutdowns htimeouts
  rw [hbound.2 hidentity] at hconnects
  rw [if_neg (by decide)] at htimeouts
  rw [htaken] at hrelayed
  rw [hrefused] at hfailures
  exact ⟨hfinished, m', hmetrics, hshutdowns, htimeouts, hconnects, hrelayed,
    hfailures⟩

end Clocked

end DeviceGateway
