import DeviceGateway.Proofs.Connection.Settling
import DeviceGateway.Proofs.Session.Metering

/-!
# Holding reading back

A connection whose session does not read lets octets lie in its input, and
nothing that arrives can wake it.  So reading may be held back only while
something else is sure to come, which is the outcome of the CONNECT, and when
that comes what is lying in the input has to be looked at again.

Three parts of a connection have a say in this.  The session keeps its queue
within a bound and holds reading back while the queue is full: it is `Metered`.
The connection has a CONNECT that is worked on for every session that is
connecting: it is `Attended`.  And its input is settled after every turn.  Each
move preserves the first two; the third lasts from turn to turn.

## Main results

* `move_metered`, `move_attended`, `move_unhindered`: what one move preserves.
* `course_throttling`: what follows for a connection that waits for its next
  event.
-/

namespace DeviceGateway

namespace Connection

variable {σ : Type} {v : Services σ}

/-! ## Moves -/

/-- What lasts while a session receives parcels and its flag is heeded lasts
while frames are taken. -/
theorem takeFrame_preserves (P : Session → Prop) (c : Connection) (w : World σ)
    (hreceive : ∀ (w : World σ) (now : Nat) (parcel : Parcel),
      P (c.session.receive v.transport w now parcel).2.1)
    (h : P c.session) (now : Nat) (tenancy : Tenancy) (frame : Wire.Frame) :
    P (c.takeFrame v w now tenancy frame).1.session := by
  have hsession := congrArg Prod.fst (takeFrame_session v c w now tenancy frame)
  dsimp only at hsession
  rw [hsession]
  split
  · exact h
  · exact hreceive _ _ _

theorem move_metered {r r' : Connection × World σ} (hmove : Move v r r')
    (h : r.1.session.Metered) : r'.1.session.Metered := by
  cases hmove with
  | @frame c w chain input now tenancy frame hopen hready hnext htenancy =>
    exact takeFrame_preserves Session.Metered { c with chain, input } w
      (fun w now parcel => Session.receive_metered v.transport h hready w now
        parcel) h _ _ _
  | shutdown cause =>
    exact (Session.shutdown_passes _ _ _ _).metered
      (Session.shutdown_keeps _ _ _ _).setup h
  | checkKeepAlive now =>
    exact (Session.checkKeepAlive_passes _ _ _ _).metered
      (Session.checkKeepAlive_keeps _ _ _ _).setup h
  | complete now outcome hconnecting => exact Session.complete_metered _ h _ _ _
  | _ => exact h

theorem move_unhindered {r r' : Connection × World σ} (hmove : Move v r r')
    (h : r.1.session.Unhindered) : r'.1.session.Unhindered := by
  cases hmove with
  | @frame c w chain input now tenancy frame hopen hready hnext htenancy =>
    exact takeFrame_preserves Session.Unhindered { c with chain, input } w
      (fun w now parcel => Session.receive_unhindered v.transport h w now
        parcel) h _ _ _
  | shutdown cause => exact (Session.shutdown_passes _ _ _ _).unhindered h
  | checkKeepAlive now =>
    exact (Session.checkKeepAlive_passes _ _ _ _).unhindered h
  | complete now outcome hconnecting =>
    exact Session.complete_unhindered _ _ _ _ _
  | _ => exact h

/-- A session that is connecting has a CONNECT that is worked on, as long as the
connection goes on. -/
def Attended (c : Connection) : Prop :=
  c.finished = false → c.session.flags.closed = false →
    c.session.flags.phase = .connecting →
    c.connecting.isSome = true

theorem Attended.passes {c c' : Connection} (h : c.Attended)
    (hfinished : c'.finished = c.finished)
    (hpasses : c.session.Passes c'.session)
    (hconnecting : c'.connecting = c.connecting) :
    c'.Attended := by
  intro hgoing hopen hphase
  rcases hpasses with ⟨-, hflags⟩ | ⟨hclosed, -⟩
  · rw [hconnecting]
    rw [hfinished] at hgoing
    rw [hflags] at hopen hphase
    exact h hgoing hopen hphase
  · rw [hopen] at hclosed
    cases hclosed

/-- A session begins to connect only with a CONNECT that is then worked on. -/
theorem receive_attended {c : Connection} (h : c.Attended) (w : World σ)
    (now : Nat) (parcel : Parcel) : (c.receive v w now parcel).1.Attended := by
  have hcase := Session.received v.transport c.session w now parcel
  unfold receive
  dsimp only
  generalize c.session.receive v.transport w now parcel = out at hcase
  cases hcase with
  | dropped hclosed => exact h
  | empty hopen hdata hconnect => exact h
  | begun hopen hphase request hconnect => exact fun _ _ _ => rfl
  | unexpected hopen hphase hconnect p hdata =>
    exact h.passes rfl (Session.shutdown_passes v.transport
      (c.session.heard now) _ _) rfl
  | queued hopen hphase p hdata => exact fun hgoing _ _ => h hgoing hopen hphase
  | live hopen hphase p hdata =>
    exact h.passes rfl
      (Session.relay_passes v.transport (c.session.heard now) w p) rfl

theorem move_attended {r r' : Connection × World σ} (hmove : Move v r r')
    (h : r.1.Attended) :
    r'.1.Attended := by
  cases hmove with
  | @frame c w chain input now tenancy frame hopen hready hnext htenancy =>
    have hbefore : ∀ topic tenancy,
        ({ c with chain, input }.informed topic tenancy).Attended :=
      fun _ _ => h
    rw [takeFrame_eq]
    dsimp only
    split
    · exact hbefore _ _
    · exact receive_attended (hbefore _ _) _ _ _
  | shutdown cause => exact h.passes rfl (Session.shutdown_passes _ _ _ _) rfl
  | checkKeepAlive now =>
    exact h.passes rfl (Session.checkKeepAlive_passes _ _ _ _) rfl
  | @complete c w now outcome hconnecting =>
    intro _ hopen hphase
    have hunhindered :=
      Session.complete_unhindered v.transport c.session w now outcome
    exact absurd (hphase.symm.trans (hunhindered hopen).1) (by decide)
  | finish =>
    intro hgoing
    cases hgoing
  | _ => exact h

/-! ## Outcomes -/

/-- A turn that brings the outcome of the CONNECT. -/
def Turn.Concludes : Turn σ → Prop
  | .outcome _ _ => True
  | .event _ .connectReady => True
  | _ => False

private theorem takeOutcome_unhindered (v : Services σ) (c : Connection)
    (w : World σ) (now : Nat) (outcome : Except Failure Established) :
    (c.takeOutcome v w now outcome).1.session.Unhindered := by
  have hunhindered :=
    Session.complete_unhindered v.transport c.session w now outcome
  unfold takeOutcome
  dsimp only
  split
  · exact hunhindered
  · exact moves_preserve (fun c _ => c.session.Unhindered) move_unhindered
      process_moves hunhindered

/-- Once its CONNECT has an outcome a session is not held back any more. -/
theorem turn_unhindered {r : Connection × World σ}
    (h : r.1.connecting.isSome = true) {x : Turn σ} (hx : x.Concludes) :
    (turn v r x).1.session.Unhindered := by
  obtain ⟨c, w⟩ := r
  cases x with
  | outcome now outcome =>
    simp only [turn, h, if_true]
    exact takeOutcome_unhindered v c w now outcome
  | event now event =>
    cases event with
    | connectReady =>
      obtain ⟨request, hrequest⟩ := Option.isSome_iff_exists.1 h
      have hrequest' : c.connecting = some request := hrequest
      simp only [turn, handle, hrequest']
      exact takeOutcome_unhindered v c _ now _
    | _ => exact hx.elim
  | _ => exact hx.elim

/-! ## Courses -/

/-- A connection that takes up what it reads, whenever it waits for what comes
next.  Its queue is within the bound.  On an open session reading is held back
exactly if the session is connecting and the queue is full.  If it is held back
and the connection goes on, there is a CONNECT that is worked on, and whatever
its outcome, reading is not held back after it at any time.  If it is not held
back, the input gives nothing more. -/
theorem course_throttling (v : Services σ) (connectionId : String)
    (peer : Option Peer) (now : Nat) (backend : σ) (metrics : Option Metrics)
    (turns : List (Turn σ)) (hturns : ∀ bytes, .arrive bytes ∉ turns) :
    let r :=
      course v (start v connectionId peer now, { backend, metrics }) turns
    let bound := max v.session.maxPending 1
    r.1.session.pending.length ≤ bound ∧
    (r.1.session.flags.closed = false →
      (r.1.session.flags.throttled = true ↔
        r.1.session.flags.phase = .connecting ∧
          bound ≤ r.1.session.pending.length)) ∧
    (r.1.session.flags.closed = false → r.1.session.flags.throttled = true →
      r.1.finished = false →
      r.1.connecting.isSome = true ∧ ∀ x : Turn σ, x.Concludes → ∀ more,
        (course v r (x :: more)).1.session.flags.closed = false →
        (course v r (x :: more)).1.session.flags.throttled = false) ∧
    (r.1.session.flags.closed = false → r.1.session.flags.throttled = false →
      ∃ tenancy chain, r.1.chain.resolve v.table v.maxMessageSize r.1.peer =
        .ok (tenancy, chain) ∧
        (chain.next r.1.input).1 = none) := by
  intro r bound
  have hmoves :=
    course_moves v (start v connectionId peer now, { backend, metrics }) turns
  have hmetered : r.1.session.Metered :=
    moves_preserve (fun c _ => c.session.Metered) move_metered hmoves
      ⟨Nat.zero_le _, fun _ => rfl, fun _ => by simp [start]⟩
  have hattended : r.1.Attended :=
    moves_preserve (fun c _ => c.Attended) move_attended hmoves
      fun _ _ h => by cases h
  have hkept :=
    course_keeps v (start v connectionId peer now, { backend, metrics }) turns
  have hbound : r.1.session.setup.capacity = bound := by rw [hkept.setup]; rfl
  have hbounded := hmetered.bounded
  have hfull := hmetered.full
  rw [hbound] at hbounded hfull
  refine ⟨hbounded, hfull, ?_, ?_⟩
  · intro hopen hthrottled hgoing
    have hconnecting := hattended hgoing hopen ((hfull hopen).1 hthrottled).1
    refine ⟨hconnecting, fun x hx more hopen' => ?_⟩
    have hafter := turn_unhindered (v := v) hconnecting hx
    have hlasting : (course v (turn v r x) more).1.session.Unhindered :=
      moves_preserve (fun c _ => c.session.Unhindered) move_unhindered
        (course_moves v (turn v r x) more) hafter
    exact (hlasting hopen').2
  · intro hopen hreading
    have hstart := start_followed v connectionId peer now backend metrics
      (fun _ => True) True
    have hsettled := course_settled hstart (settled_of_nil v rfl) turns hturns
    obtain ⟨h', hf⟩ := course_followed hstart turns (fun _ _ _ => trivial)
      (.inl trivial) fun _ _ _ _ _ _ _ => trivial
    obtain ⟨tenancy, chain, d, hresolve, hready⟩ := hf.resolves hopen
    refine ⟨tenancy, chain, hresolve, ?_⟩
    have hnone := hsettled.next_eq_none hopen hreading hresolve hready.decoder
    simp only [Chain.next, hready.decoder]
    exact hnone

/-- The lines `T~0~d~x`, `T~0~d~y` and `T~0~d~z` come in with one read.  The
second fills the queue, so the third lies in the input until the CONNECT has its
outcome. -/
theorem course_throttling_three :
    let taking : Backend.Transport Unit :=
      ⟨fun s _ _ => (.ok ⟨0, "d"⟩, s), fun s _ _ => (.ok (), s), fun s _ => s⟩
    let v : Services Unit :=
      ⟨taking, {}, 64, ⟨⟨[("T.d", ⟨"d", "h/d", "s"⟩)]⟩, [], 0⟩, ⟨none, "", 1⟩⟩
    let turns : List (Turn Unit) :=
      [.event 0 (.read [84, 126, 48, 126, 100, 126, 120, 10, 84, 126, 48, 126,
        100, 126, 121, 10, 84, 126, 48, 126, 100, 126, 122, 10])]
    let r := course v (start v "c" none 0, { backend := () }) turns
    let r' := course v r [.event 1 .connectReady]
    (r.1.session.flags.throttled = true ∧ r.1.input.length = 8) ∧
    r.1.session.pending.length ≤ 1 ∧ r.1.connecting.isSome = true ∧
    r'.1.session.flags.throttled = false ∧ r'.1.input = [] := by
  intro taking v turns r r'
  have hopen : r.1.session.flags.closed = false := by decide +kernel
  have hthrottled : r.1.session.flags.throttled = true := by decide +kernel
  have hopen' : r'.1.session.flags.closed = false := by decide +kernel
  have hlength : r.1.input.length = 8 := by decide +kernel
  have hempty : r'.1.input = [] := by decide +kernel
  obtain ⟨hbounded, -, hheld, -⟩ :=
    course_throttling v "c" none 0 () none turns (by simp [turns])
  have hqueue : r.1.session.pending.length ≤ 1 := hbounded
  obtain ⟨hconnecting, hafter⟩ := hheld hopen hthrottled (by decide +kernel)
  clear_value v
  exact ⟨⟨hthrottled, hlength⟩, hqueue, hconnecting,
    hafter (.event 1 .connectReady) trivial [] hopen', hempty⟩

end Connection

end DeviceGateway
