import DeviceGateway.Proofs.Connection.Following

/-!
# Courses keep in step

Whatever comes next in the course of a connection, the run beside it goes on and
stays in step with the stream.  A turn may be anything: octets, an outcome of
the CONNECT, a check of the keep-alive, a shutdown, one round of taking the
input up, or others using the backend.

Two things are kept account of, because they are asked of a course as a whole.
`Closes` says which turns ask the session to close from outside; a stream that
is mild, that is without a fault that ends the connection, gives no other reason
to do so.  `Binds` says what a CONNECT brings at a turn, and from where.

## Main results

* `round_followed`, `process_followed`: taking the input up keeps in step.
* `turn_followed`, `course_followed`: so does everything that can come next.
-/

namespace DeviceGateway

open Wire (Frame)
open Wire.Decoder (goesOn unlessFatal)

namespace Connection

variable {σ : Type} {v : Services σ} {peer : Option Peer}
  {origin : Established → Prop} {asked : Prop} {arrived : List UInt8}
  {os : List (Except Wire.Fault Frame)} {c : Connection} {w : World σ}
  {h : Run σ} {d : Wire.Decoder} {tenancy : Tenancy} {now : Nat}

/-! ## Turns -/

/-- The octets that come in with a turn. -/
def Turn.octets : Turn σ → List UInt8
  | .event _ (.read bytes) => bytes
  | .arrive bytes => bytes
  | _ => []

/-- Whether a turn asks the session to close. -/
def Turn.Closes : Turn σ → Prop
  | .event _ .gatewayShutdown => True
  | .event _ .hungUp => True
  | .event _ (.readFailed _) => True
  | _ => False

/-- What the CONNECT brings at a turn: an identity that was authenticated by it
and the client that the backend has made for this identity, or what the turn
itself says. -/
def Binds (v : Services σ) (r : Connection × World σ) :
    Turn σ → Established → Prop
  | .event _ .connectReady, e =>
      ∃ request client, r.1.connecting = some request ∧
      e.identity =
        Identity.authenticate request.deviceId.text request.username
          request.password ∧
      e.identity.authenticated = true ∧
      (v.transport.connect r.2.backend
        ((r.1.chain.tenancy.map Tenancy.tenantId).getD "") e.identity).1 =
          .ok client ∧
      e.bridge = ⟨some client, false⟩
  | .outcome _ outcome, e => r.1.connecting.isSome = true ∧ outcome = .ok e
  | _, _ => False

/-- A stream in which no fault ends the connection. -/
def Mild (v : Services σ) (peer : Option Peer) (bytes : List UInt8) : Prop :=
  ∀ o ∈ v.found peer bytes, goesOn unlessFatal o = true

instance (v : Services σ) (peer : Option Peer) (bytes : List UInt8) :
    Decidable (Mild v peer bytes) :=
  inferInstanceAs (Decidable (∀ o ∈ _, _))

theorem Mild.of_append {bytes more : List UInt8}
    (h : Mild v peer (bytes ++ more)) :
    Mild v peer bytes :=
  fun o ho => h o ((Services.found_isPrefix bytes more).subset ho)

/-! ## Operations on the session -/

namespace Beside

theorem shutdown (hb : Beside v peer origin asked arrived c w h)
    (hasked : c.session.flags.closed = false → asked) (cause : Option Failure) :
    Beside v peer origin asked arrived (c.shutdown v w cause).1
      (c.shutdown v w cause).2
      (h.step v.transport (.shutdown cause)) := by
  have hshutdown : h.session.shutdown v.transport h.world cause =
      c.session.shutdown v.transport w cause := by rw [hb.session, hb.world]
  exact
    { session := congrArg Prod.fst hshutdown
      world := congrArg Prod.snd hshutdown
      sound := Run.sound_step v.transport hb.sound fun hopen _ _ =>
        hasked (by rw [← hb.session, hopen])
      awaiting := hb.awaiting
      bound := hb.bound
      request := hb.request }

private theorem checkKeepAlive (hb : Beside v peer origin asked arrived c w h)
    (now : Nat) :
    Beside v peer origin asked arrived
      { c with session := (c.session.checkKeepAlive v.transport w now).1 }
      (c.session.checkKeepAlive v.transport w now).2
      (h.step v.transport (.checkKeepAlive now)) := by
  have hcheck : h.session.checkKeepAlive v.transport h.world now =
      c.session.checkKeepAlive v.transport w now := by rw [hb.session, hb.world]
  exact
    { session := congrArg Prod.fst hcheck
      world := congrArg Prod.snd hcheck
      sound := Run.sound_step v.transport hb.sound nofun
      awaiting := hb.awaiting
      bound := hb.bound
      request := hb.request }

private theorem complete (hb : Beside v peer origin asked arrived c w h)
    (hsome : c.connecting.isSome = true) (now : Nat)
    (outcome : Except Failure Established)
    (horigin : c.session.flags.closed = false → ∀ e, outcome = .ok e →
      origin e) :
    Beside v peer origin asked arrived
      { c with
          session := (c.session.complete v.transport w now outcome).1
          connecting := none }
      (c.session.complete v.transport w now outcome).2
      (h.step v.transport (.complete now outcome)) := by
  have hcomplete : h.session.complete v.transport h.world now outcome =
      c.session.complete v.transport w now outcome := by
        rw [hb.session, hb.world]
  have hsound : (h.step v.transport (.complete now outcome)).Sound asked :=
    Run.sound_step v.transport hb.sound nofun
  have hstep : h.step v.transport (.complete now outcome) =
      { h.conclude outcome with
        session := (c.session.complete v.transport w now outcome).1
        world := (c.session.complete v.transport w now outcome).2 } := by
    simp only [Run.step, hb.awaiting hsome, if_true, hcomplete]
  rw [hstep] at hsound ⊢
  refine
    { session := rfl, world := rfl, sound := hsound
      awaiting := fun hnone => by cases hnone
      bound := fun e he => ?_
      request := fun request hnone => by cases hnone }
  cases outcome with
  | error failure => exact hb.bound e he
  | ok e' =>
    cases hclosed : h.session.flags.closed with
    | true =>
      simp only [Run.conclude, hclosed, if_true] at he
      exact hb.bound e he
    | false =>
      simp only [Run.conclude, hclosed, Bool.false_eq_true, if_false] at he
      obtain rfl : e' = e := Option.some.inj he
      exact horigin (by rw [← hb.session, hclosed]) e' rfl

end Beside

/-- What is done to the session alone, with no new data for it, is followed. -/
theorem Followed.of_session (hf : Followed v peer origin asked arrived c w h)
    {c' : Connection} {w' : World σ} {h' : Run σ}
    (hb : Beside v peer origin asked arrived c' w' h')
    (hchain : c'.chain = c.chain) (hinput : c'.input = c.input)
    (htopic : c'.topic = c.topic) (hpeer : c'.peer = c.peer)
    (hledger : w'.ledger.allocated = w.ledger.allocated)
    (harrivals : h'.arrivals = h.arrivals) (hheld : h'.held = h.held)
    (hclosed : c.session.flags.closed = true → c'.session.flags.closed = true)
    (hphase : c.session.flags.closed = false →
      (c'.session.flags.phase = .notConnected ↔
        c.session.flags.phase = .notConnected)) :
    Followed v peer origin asked arrived c' w' h' :=
  { hb with
    arrivals := by
      rw [harrivals]
      exact hf.arrivals
    current := fun hopen' => by
      have hopen : c.session.flags.closed = false := by
        cases hcase : c.session.flags.closed with
        | false => rfl
        | true =>
          rw [hclosed hcase] at hopen'
          cases hopen'
      obtain ⟨chain, d, tenancy, os, hresolve, hs, htold⟩ := hf.current hopen
      refine ⟨chain, d, tenancy, os, by rw [hchain, hpeer, hresolve],
        hs.of_session rfl hinput htopic hledger, harrivals.trans htold.arrivals,
        hheld.trans htold.held, ?_⟩
      rw [hb.session, hphase hopen, ← hf.session]
      exact htold.phase
    peer := hpeer.trans hf.peer }

theorem Followed.aside (hf : Followed v peer origin asked arrived c w h)
    {w' : World σ} (hjournal : w'.journal = w.journal)
    (hledger : w'.ledger.allocated = w.ledger.allocated) :
    Followed v peer origin asked arrived c w' { h with world := w' } :=
  hf.of_session (hf.toBeside.aside hjournal) rfl rfl rfl rfl hledger rfl rfl id
    fun _ => Iff.rfl

theorem Followed.shutdown (hf : Followed v peer origin asked arrived c w h)
    (hasked : c.session.flags.closed = false → asked) (cause : Option Failure) :
    Followed v peer origin asked arrived (c.shutdown v w cause).1
      (c.shutdown v w cause).2
      (h.step v.transport (.shutdown cause)) :=
  (hf.toBeside.shutdown hasked cause).followed_of_closed
    (Session.shutdown_closed v.transport c.session w cause) hf.arrivals hf.peer

theorem Followed.checkKeepAlive
    (hf : Followed v peer origin asked arrived c w h) (now : Nat) :
    Followed v peer origin asked arrived
      { c with session := (c.session.checkKeepAlive v.transport w now).1 }
      (c.session.checkKeepAlive v.transport w now).2
      (h.step v.transport (.checkKeepAlive now)) := by
  have hkeeps := Session.checkKeepAlive_keeps v.transport c.session w now
  have haccounts := Session.checkKeepAlive_accounts v.transport c.session w now
  refine hf.of_session (hf.toBeside.checkKeepAlive now) rfl rfl rfl rfl
    haccounts.allocated rfl rfl hkeeps.closed fun _ => ?_
  rw [Session.checkKeepAlive_phase]

/-- The outcome of a CONNECT leaves no session without one. -/
theorem Beside.complete_phase (hb : Beside v peer origin asked arrived c w h)
    (hopen : c.session.flags.closed = false)
    (hsome : c.connecting.isSome = true) (now : Nat)
    (outcome : Except Failure Established) :
    c.session.flags.phase ≠ .notConnected ∧
      (c.session.complete v.transport w now outcome).1.flags.phase ≠
        .notConnected := by
  have hwaiting : h.Waiting := hb.sound.situation.waiting_of_awaiting
    (by rw [hb.session, hopen]) (hb.awaiting hsome)
  have hphase : c.session.flags.phase = .connecting := by
    rw [← hb.session, hwaiting.phase]
  refine ⟨by simp [hphase], ?_⟩
  cases outcome with
  | error failure =>
    simp only [Session.complete]
    rw [Session.shutdown_phase]
    simp [hphase]
  | ok e =>
    have hoffers : w.offers = [] := by rw [← hb.world, hwaiting.offers]
    have hdisposals : w.disposals = [] := by rw [← hb.world, hwaiting.disposals]
    have hcauses : w.causes = [] := by rw [← hb.world, hwaiting.causes]
    rcases Session.conveyed_complete v.transport hopen hoffers hdisposals
      hcauses e now with
      ⟨hflowing, -⟩ | ⟨cause, taken, rest, -, hhalted⟩
    · rw [hflowing.phase]
      decide
    · rw [hhalted.phase]
      decide

theorem Followed.complete (hf : Followed v peer origin asked arrived c w h)
    (hsome : c.connecting.isSome = true) (now : Nat)
    (outcome : Except Failure Established)
    (horigin : c.session.flags.closed = false → ∀ e, outcome = .ok e →
      origin e) :
    Followed v peer origin asked arrived
      { c with
          session := (c.session.complete v.transport w now outcome).1
          connecting := none }
      (c.session.complete v.transport w now outcome).2
      (h.step v.transport (.complete now outcome)) := by
  have hkeeps := Session.complete_keeps v.transport c.session w now outcome
  have haccounts :=
    Session.complete_accounts v.transport c.session w now outcome
  have hhistory := h.conclude_history outcome
  have hawaiting := hf.awaiting hsome
  refine hf.of_session (hf.toBeside.complete hsome now outcome horigin) rfl rfl
    rfl rfl haccounts.allocated ?_ ?_ hkeeps.closed fun hopen => ?_
  · simp only [Run.step, hawaiting, if_true]
    exact hhistory.1
  · simp only [Run.step, hawaiting, if_true]
    exact hhistory.2
  · obtain ⟨hbefore, hafter⟩ :=
      hf.toBeside.complete_phase hopen hsome now outcome
    exact ⟨fun hnot => absurd hnot hafter, fun hnot => absurd hnot hbefore⟩

/-! ## Taking the input up -/

/-- More of the stream comes in. -/
theorem Followed.arrive (hf : Followed v peer origin asked arrived c w h)
    (bytes : List UInt8) :
    Followed v peer origin asked (arrived ++ bytes)
      { c with input := c.input ++ bytes } w h where
  session := hf.session
  world := hf.world
  sound := hf.sound
  awaiting := hf.awaiting
  bound := hf.bound
  request request hrequest := by
    obtain ⟨q, hq, hasks⟩ := hf.request request hrequest
    exact ⟨q, (Services.said_isPrefix arrived bytes).subset hq, hasks⟩
  arrivals := hf.arrivals.trans (Services.packets_isPrefix arrived bytes)
  current hopen := by
    obtain ⟨chain, d, tenancy, os, hresolve, hs, htold⟩ := hf.current hopen
    exact ⟨chain, d, tenancy, os, hresolve,
      { hs with continues := hs.continues.arrive bytes }, htold⟩
  peer := hf.peer

/-- A connection that is followed, with its chain resolved. -/
def Underway (v : Services σ) (peer : Option Peer) (origin : Established → Prop)
    (asked : Prop) (arrived : List UInt8) (c : Connection) (w : World σ)
    (tenancy : Tenancy) : Prop :=
  ∃ h, Followed v peer origin asked arrived c w h ∧
    (c.session.flags.closed = false →
    ∃ d os, InStep v peer arrived os c w d tenancy ∧
      h.Told (v.decodeAll peer os).1)

theorem round_followed (hu : Underway v peer origin asked arrived c w tenancy)
    (hmild : asked ∨ Mild v peer arrived) (now : Nat) :
    let out := c.round v w now tenancy
    (∃ h, Followed v peer origin asked arrived out.2.1 out.2.2 h) ∧
      ∀ tenancy', out.1 = some tenancy' →
        Underway v peer origin asked arrived out.2.1 out.2.2 tenancy' := by
  obtain ⟨h, hf, hstep⟩ := hu
  have hb := hf.toBeside
  have hcase := rounded v c w now tenancy
  intro out
  have hout : c.round v w now tenancy = out := rfl
  clear_value out
  rw [hout] at hcase
  cases hcase with
  | closed hclosed =>
    have hb' := hb.of_session { c with input := [] } rfl fun _ => id
    exact ⟨⟨h, hb'.followed_of_closed hclosed hf.arrivals hf.peer⟩,
      fun _ hnone => by cases hnone⟩
  | throttled hopen hthrottled =>
    exact ⟨⟨h, hf⟩, fun _ hnone => by cases hnone⟩
  | @nothing hopen hreading chain input hnext =>
    obtain ⟨d, os, hs, htold⟩ := hstep hopen
    obtain ⟨d', hs'⟩ := hs.look_none hnext
    have hb' := hb.of_session { c with chain, input } rfl fun _ => id
    exact ⟨⟨h, hb'.followed hs' htold hf.peer⟩,
      fun _ hnone => by cases hnone⟩
  | @frame hopen hreading chain input frame hnext after hafter =>
    obtain ⟨d, os, hs, htold⟩ := hstep hopen
    obtain ⟨h', d', tenancy', hb', hs', htold'⟩ :=
      hb.takeFrame hopen hs htold hnext now
    obtain ⟨_, -, -, hpeer⟩ :=
      takeFrame_rest v { c with chain, input } w now tenancy frame
    rw [hafter] at hb' hs' hpeer
    have hf' := hb'.followed hs' htold' (hpeer.trans hf.peer)
    refine ⟨⟨h', hf'⟩, fun tenancy'' htenancy =>
      ⟨h', hf', fun _ => ⟨d', _, ?_, htold'⟩⟩⟩
    obtain rfl : tenancy' = tenancy'' :=
      Option.some.inj (hs'.ready.tenancy.symm.trans htenancy)
    exact hs'
  | @gap hopen hreading chain input fault hnext hfault f =>
    obtain ⟨d, os, hs, htold⟩ := hstep hopen
    obtain ⟨d', hs'⟩ := hs.look_fault hnext hfault
    have hcounted : Beside v peer origin asked arrived c (w.count f) _ :=
      hb.aside rfl
    have hb' := hcounted.of_session { c with chain, input } rfl fun _ => id
    have hs'' : InStep v peer arrived (os ++ [.error fault])
        { c with chain, input } (w.count f) d' tenancy :=
      hs'.of_session rfl rfl rfl rfl
    have htold' : { h with world := w.count f }.Told (v.decodeAll peer os).1 :=
      htold.aside _
    rw [← v.decodeAll_fault peer os fault] at htold'
    have hf' := hb'.followed hs'' htold' hf.peer
    refine ⟨⟨_, hf'⟩, fun tenancy' htenancy =>
      ⟨_, hf', fun _ => ⟨d', _, ?_, htold'⟩⟩⟩
    obtain rfl := Option.some.inj htenancy
    exact hs''
  | @failed hopen hreading chain input fault hnext hfatal f cause =>
    obtain ⟨d, os, hs, htold⟩ := hstep hopen
    have hasked : asked := by
      rcases hmild with hasked | hmild
      · exact hasked
      · have hgo := hmild _ (hs.look_fatal hnext hfatal)
        simp [goesOn, unlessFatal, hfatal] at hgo
    have hcounted : Beside v peer origin asked arrived c (w.count f) _ :=
      hb.aside rfl
    let stopped := (c.session.shutdown v.transport (w.count f) cause).1
    have hb' := (hcounted.shutdown (fun _ => hasked) cause).of_session
      { c with chain, session := stopped, input := [] } rfl fun _ => id
    have hclosed : stopped.flags.closed = true :=
      Session.shutdown_closed v.transport c.session (w.count f) cause
    exact ⟨⟨_, hb'.followed_of_closed hclosed hf.arrivals hf.peer⟩,
      fun _ hnone => by cases hnone⟩

private theorem processFrames_followed {fuel : Nat}
    (hu : Underway v peer origin asked arrived c w tenancy)
    (hmild : asked ∨ Mild v peer arrived) :
    ∃ h, Followed v peer origin asked arrived
      (processFrames v now fuel tenancy c w).1
      (processFrames v now fuel tenancy c w).2 h := by
  induction fuel generalizing c w tenancy with
  | zero =>
    obtain ⟨h, hf, -⟩ := hu
    exact ⟨h, hf⟩
  | succ fuel ih =>
    have hround := round_followed hu hmild now
    unfold processFrames
    generalize c.round v w now tenancy = out at hround
    obtain ⟨goOn, c', w'⟩ := out
    cases goOn with
    | none => exact hround.1
    | some tenancy' => exact ih (hround.2 tenancy' rfl)

/-- The chain of a connection that is followed can be resolved, unless the
session is closed. -/
theorem Followed.resolve (hf : Followed v peer origin asked arrived c w h) :
    (∃ tenancy chain,
      c.chain.resolve v.table v.maxMessageSize c.peer = .ok (tenancy, chain) ∧
      Underway v peer origin asked arrived { c with chain } w tenancy) ∨
    (∃ fault, c.chain.resolve v.table v.maxMessageSize c.peer = .error fault) ∧
      c.session.flags.closed = true := by
  cases hclosed : c.session.flags.closed with
  | false =>
    obtain ⟨chain, d, tenancy, os, hresolve, hs, htold⟩ := hf.current hclosed
    have hb := hf.toBeside.of_session { c with chain } rfl fun _ => id
    have hf' := hb.followed hs htold hf.peer
    exact .inl ⟨tenancy, chain, hresolve, h, hf', fun _ => ⟨d, os, hs, htold⟩⟩
  | true =>
    cases hresolve : c.chain.resolve v.table v.maxMessageSize c.peer with
    | error fault => exact .inr ⟨⟨fault, rfl⟩, rfl⟩
    | ok resolved =>
      obtain ⟨tenancy, chain⟩ := resolved
      have hb := hf.toBeside.of_session { c with chain } rfl fun _ => id
      have hf' := hb.followed_of_closed hclosed hf.arrivals hf.peer
      refine .inl ⟨tenancy, chain, rfl, h, hf', fun hopen => ?_⟩
      rw [hclosed] at hopen
      cases hopen

/-- What was read is thrown away only when the session is closed. -/
theorem Followed.discard (hf : Followed v peer origin asked arrived c w h)
    (hclosed : c.session.flags.closed = true) :
    Followed v peer origin asked arrived { c with input := [] } w h :=
  (hf.toBeside.of_session { c with input := [] } rfl fun _ =>
    id).followed_of_closed hclosed hf.arrivals hf.peer

theorem process_followed (hf : Followed v peer origin asked arrived c w h)
    (hmild : asked ∨ Mild v peer arrived) (now : Nat) :
    ∃ h', Followed v peer origin asked arrived (c.process v w now).1
      (c.process v w now).2 h' := by
  rcases hf.resolve with ⟨tenancy, chain, hresolve, hu⟩ |
    ⟨⟨fault, hresolve⟩, hclosed⟩
  · rw [process_of_resolve hresolve]
    exact processFrames_followed hu hmild
  · have hnot : c.session.flags.closed = false → asked := by simp [hclosed]
    simp only [process, Connection.resolve, hresolve]
    exact ⟨_, (hf.shutdown hnot _).discard
      (Session.shutdown_closed v.transport c.session _ _)⟩

/-! ## Turns and courses -/

theorem takeOutcome_followed (hf : Followed v peer origin asked arrived c w h)
    (hsome : c.connecting.isSome = true) (now : Nat)
    (outcome : Except Failure Established)
    (horigin : c.session.flags.closed = false → ∀ e, outcome = .ok e → origin e)
    (hmild : asked ∨ Mild v peer arrived) :
    ∃ h', Followed v peer origin asked arrived (c.takeOutcome v w now outcome).1
      (c.takeOutcome v w now outcome).2 h' := by
  have hf' := hf.complete hsome now outcome horigin
  unfold takeOutcome
  dsimp only
  split
  · exact ⟨_, hf'⟩
  · exact process_followed hf' hmild now

/-- A CONNECT that succeeds was authenticated and has brought a client. -/
theorem binds_of_establish {request : Connect}
    (hrequest : c.connecting = some request) {e : Established}
    (h :
      (establish v.transport w
        ((c.chain.tenancy.map Tenancy.tenantId).getD "")
        v.session.maxKeepAlive c.session.connectionId request).1 = .ok e)
    (now : Nat) :
    Binds v (c, w) (.event now .connectReady) e := by
  unfold establish at h
  dsimp only at h
  split at h
  · next hauthenticated =>
    simp only [World.openBridge] at h
    rcases hconnect : v.transport.connect w.backend
      ((c.chain.tenancy.map Tenancy.tenantId).getD "")
      (Identity.authenticate request.deviceId.text request.username
        request.password) with
      ⟨result, backend⟩
    simp only [hconnect] at h
    cases result with
    | error fault => cases h
    | ok client =>
      obtain rfl := Except.ok.inj h
      exact ⟨request, client, hrequest, rfl,
        hauthenticated, by rw [hconnect], rfl⟩
  · cases h

private theorem completeConnect_followed
    (hf : Followed v peer origin asked arrived c w h) {request : Connect}
    (hrequest : c.connecting = some request) (now : Nat)
    (horigin : c.session.flags.closed = false →
      ∀ e, Binds v (c, w) (.event now .connectReady) e → origin e)
    (hmild : asked ∨ Mild v peer arrived) :
    ∃ h',
      Followed v peer origin asked arrived (c.completeConnect v w now request).1
        (c.completeConnect v w now request).2 h' := by
  obtain ⟨backend, hworld⟩ := establish_world v.transport w
    ((c.chain.tenancy.map Tenancy.tenantId).getD "") v.session.maxKeepAlive
    c.session.connectionId request
  unfold completeConnect
  dsimp only
  rw [hworld]
  have hf' : Followed v peer origin asked arrived c { w with backend }
      { h with world := { w with backend } } := hf.aside rfl rfl
  refine takeOutcome_followed hf' (by rw [hrequest]; rfl) now _
    (fun hopen e he => ?_) hmild
  exact horigin hopen e (binds_of_establish hrequest he now)

theorem Followed.finish (hf : Followed v peer origin asked arrived c w h) :
    Followed v peer origin asked arrived
      { c with finished := true, connecting := none } w h :=
  hf.of_session (hf.toBeside.of_session _ rfl nofun) rfl rfl rfl rfl rfl rfl rfl
    id fun _ => Iff.rfl

/-- Whatever comes next, the run beside the connection goes on. -/
theorem turn_followed (hf : Followed v peer origin asked arrived c w h)
    (x : Turn σ) (hasked : x.Closes → asked)
    (hmild : asked ∨ Mild v peer (arrived ++ x.octets))
    (horigin : c.session.flags.closed = false → ∀ e, Binds v (c, w) x e →
      origin e) :
    ∃ h', Followed v peer origin asked (arrived ++ x.octets) (turn v (c, w) x).1
      (turn v (c, w) x).2 h' := by
  cases x with
  | event now event =>
    cases event with
    | read bytes =>
      have hf' : Followed v peer origin asked (arrived ++ bytes)
          { c with input := c.input ++ bytes }
          (w.count fun m => m.recordBytes bytes.length) _ :=
        (hf.arrive bytes).aside rfl rfl
      exact process_followed hf' hmild now
    | connectReady =>
      simp only [Turn.octets, List.append_nil] at hmild ⊢
      simp only [turn, handle]
      cases hrequest : c.connecting with
      | none => exact ⟨h, hf⟩
      | some request =>
        exact completeConnect_followed hf hrequest now horigin hmild
    | keepAliveDue =>
      simp only [Turn.octets, List.append_nil]
      exact ⟨_, hf.checkKeepAlive now⟩
    | sessionClosed =>
      simp only [Turn.octets, List.append_nil]
      exact ⟨h, hf.finish⟩
    | gatewayShutdown =>
      simp only [Turn.octets, List.append_nil]
      exact ⟨_, (hf.shutdown (fun _ => hasked trivial) none).finish⟩
    | hungUp =>
      simp only [Turn.octets, List.append_nil]
      exact ⟨_, (hf.shutdown (fun _ => hasked trivial) none).finish⟩
    | readFailed text =>
      simp only [Turn.octets, List.append_nil]
      exact ⟨_, (hf.shutdown (fun _ => hasked trivial) _).finish⟩
  | outcome now outcome =>
    simp only [Turn.octets, List.append_nil] at hmild ⊢
    simp only [turn]
    split
    · next hsome =>
      exact takeOutcome_followed hf hsome now outcome
        (fun hopen e he => horigin hopen e ⟨hsome, he⟩) hmild
    · exact ⟨h, hf⟩
  | arrive bytes => exact ⟨h, hf.arrive bytes⟩
  | resolve =>
    simp only [Turn.octets, List.append_nil]
    simp only [turn, Connection.resolve]
    rcases hf.resolve with ⟨tenancy, chain, hresolve, h', hf', -⟩ |
      ⟨⟨fault, hresolve⟩, hclosed⟩
    · rw [hresolve]
      exact ⟨h', hf'⟩
    · rw [hresolve]
      exact ⟨_, hf.shutdown (by simp [hclosed]) _⟩
  | round now =>
    simp only [Turn.octets, List.append_nil] at hmild ⊢
    simp only [turn, Connection.resolve]
    rcases hf.resolve with ⟨tenancy, chain, hresolve, hu⟩ |
      ⟨⟨fault, hresolve⟩, hclosed⟩
    · rw [hresolve]
      exact (round_followed hu hmild now).1
    · rw [hresolve]
      exact ⟨_, (hf.shutdown (by simp [hclosed]) _).discard
        (Session.shutdown_closed v.transport c.session _ _)⟩
  | elsewhere backend =>
    simp only [Turn.octets, List.append_nil]
    exact ⟨_, hf.aside rfl rfl⟩

theorem course_followed (hf : Followed v peer origin asked arrived c w h)
    (turns : List (Turn σ)) (hasked : ∀ x ∈ turns, x.Closes → asked)
    (hmild : asked ∨ Mild v peer (arrived ++ turns.flatMap Turn.octets))
    (horigin : ∀ before x after, turns = before ++ x :: after →
      (course v (c, w) before).1.session.flags.closed = false →
      ∀ e, Binds v (course v (c, w) before) x e → origin e) :
    ∃ h', Followed v peer origin asked (arrived ++ turns.flatMap Turn.octets)
      (course v (c, w) turns).1 (course v (c, w) turns).2 h' := by
  induction turns generalizing arrived c w h with
  | nil =>
    rw [List.flatMap_nil, List.append_nil]
    exact ⟨h, hf⟩
  | cons x turns ih =>
    rw [List.flatMap_cons, ← List.append_assoc] at hmild ⊢
    obtain ⟨h', hf'⟩ := turn_followed hf x (hasked x List.mem_cons_self)
      (hmild.imp_right Mild.of_append) (horigin [] x turns rfl)
    refine ih hf' (fun y hy => hasked y (List.mem_cons_of_mem x hy)) hmild ?_
    intro before y after hturns
    exact horigin (x :: before) y after (by rw [hturns]; rfl)

theorem start_followed (v : Services σ) (connectionId : String)
    (peer : Option Peer) (now : Nat) (backend : σ) (metrics : Option Metrics)
    (origin : Established → Prop) (asked : Prop) :
    Followed v peer origin asked [] (start v connectionId peer now)
      { backend, metrics }
      (Run.start v.session connectionId now { backend, metrics }) where
  session := rfl
  world := rfl
  sound := Run.sound_start _ _ _ _
  awaiting := nofun
  bound := nofun
  request := nofun
  arrivals := List.nil_prefix
  current _ := by
    obtain ⟨chain, hresolve, hready⟩ :=
      Chain.initial_resolve v.table v.maxMessageSize peer
    exact ⟨chain, _, _, [], hresolve,
      { ready := hready, continues := .refl _ [], topic := rfl, tenancy := rfl
        ledger := rfl },
      Run.told_start _ _ _ _⟩
  peer := rfl

end Connection

end DeviceGateway
