import DeviceGateway.Proofs.Connection.Course
import DeviceGateway.Proofs.Session.Account

/-!
# The ledger of a connection

Payloads are entered by the topic stage, one for each frame that carries data,
and the session answers for them from then on.  The books of a connection are
balanced if the account of its session is a rearrangement of all the numbers the
ledger has given out: none is missing, and none stands there twice.

Between the topic stage and the session a payload is loose.  `Balanced` takes
what is loose along, so that it also holds in the middle of taking a frame.

## Main results

* `move_balanced`: every move of a connection keeps its books balanced.
* `course_ledger`: at every point of every course, what was entered and not
  given up is what the session holds.
-/

namespace DeviceGateway

variable {σ : Type}

/-! ## Balanced books -/

/-- Every number that was given out is answered for once, by the session or by
those who hold what is loose. -/
structure Session.Balanced (s : Session) (w : World σ)
    (loose : List DataPacket) : Prop where
  account : (loose.map DataPacket.serial ++ s.account w).Perm
    (List.range w.ledger.allocated)
  spent : s.flags.closed = true → s.Spent
  unheld : s.flags.phase = .notConnected → s.held = none

namespace Session.Balanced

variable {s : Session} {w : World σ} {loose : List DataPacket}

/-- A session that takes in what is loose leaves nothing loose. -/
theorem after (h : s.Balanced w loose) {out : Session × World σ}
    (haccounts : Accounts loose s w out) (hkeeps : s.Keeps out.1) :
    out.1.Balanced out.2 [] where
  account := by
    rw [haccounts.allocated]
    exact haccounts.account.trans h.account
  spent := hkeeps.spent h.spent
  unheld := hkeeps.unheld h.unheld

/-- What is done to the metrics or to the backend does not touch the books. -/
theorem of_ledger (h : s.Balanced w loose) {w' : World σ}
    (hledger : w'.ledger = w.ledger) :
    s.Balanced w' loose where
  account := by
    simp only [Session.account, hledger]
    exact h.account
  spent := h.spent
  unheld := h.unheld

private theorem released_add_length (h : s.Balanced w []) :
    w.ledger.released + (s.pending.length + s.held.toList.length) =
      w.ledger.allocated := by
  have hlength := h.account.length_eq
  simpa [Session.account, holdings, Ledger.released] using hlength

private theorem nodup_given (h : s.Balanced w []) : w.ledger.given.Nodup := by
  have hnodup : (s.account w).Nodup := h.account.nodup_iff.mpr List.nodup_range
  exact (List.nodup_append.mp hnodup).1

private theorem lt_allocated (h : s.Balanced w []) {serial : Nat}
    (hgiven : serial ∈ w.ledger.given) :
    serial < w.ledger.allocated := by
  have hmem : serial ∈ s.account w := List.mem_append_left _ hgiven
  exact List.mem_range.mp (h.account.mem_iff.mp hmem)

end Session.Balanced

/-! ## Taking a frame -/

/-- The topic stage enters a payload exactly if it hands data over. -/
theorem Topic.decode_ledger (t : Topic) (tenancy : Tenancy)
    (needsConnect : Bool) (frame : Wire.Frame) (l : Ledger) :
    let out := t.decode tenancy needsConnect frame l
    out.2.2.2.given = l.given ∧
      ((out.1.bind Parcel.data).toList.map DataPacket.serial ++
        List.range l.allocated).Perm (List.range out.2.2.2.allocated) := by
  have hentered : ([l.allocated] ++ List.range l.allocated).Perm
      (List.range (l.allocated + 1)) := by
    rw [List.range_succ]
    exact List.perm_append_comm
  cases frame with
  | connect request => exact ⟨rfl, .refl _⟩
  | heartbeat => exact ⟨rfl, .refl _⟩
  | skipped kind => exact ⟨rfl, .refl _⟩
  | data reading => exact ⟨rfl, hentered⟩
  | line bytes =>
    unfold decode
    dsimp only
    generalize tenancy.decodeLine bytes = out
    obtain ⟨reading, tenancy'⟩ := out
    cases reading with
    | none => exact ⟨rfl, .refl _⟩
    | some reading => exact ⟨rfl, hentered⟩

namespace Connection

variable {v : Services σ} {c : Connection} {w : World σ}

private theorem takeFrame_balanced (h : c.session.Balanced w []) (now : Nat)
    (tenancy : Tenancy) (frame : Wire.Frame) :
    (c.takeFrame v w now tenancy frame).1.session.Balanced
      (c.takeFrame v w now tenancy frame).2 [] := by
  have hsession := takeFrame_session v c w now tenancy frame
  have hdecode := c.topic.decode_ledger tenancy
    (c.session.needsConnect && c.connecting.isNone) frame w.ledger
  generalize c.topic.decode tenancy
    (c.session.needsConnect && c.connecting.isNone) frame w.ledger =
      out at hsession hdecode
  obtain ⟨parcel, topic, tenancy', ledger⟩ := out
  obtain ⟨hgiven, hentered⟩ := hdecode
  dsimp only at hsession hgiven hentered
  have hloose : c.session.Balanced { w.count Metrics.recordFrame with ledger }
      (parcel.bind Parcel.data).toList :=
    { account := by
        have haccount : c.session.account { w.count Metrics.recordFrame with
            ledger } =
            c.session.account w := by
          simp only [Session.account, hgiven]
        rw [haccount]
        exact (h.account.append_left _).trans hentered
      spent := h.spent
      unheld := h.unheld }
  obtain ⟨hs, hw⟩ := Prod.ext_iff.mp hsession
  dsimp only at hs hw
  rw [hs, hw]
  cases parcel with
  | none => exact hloose
  | some parcel =>
    exact hloose.after
      (Session.receive_accounts v.transport h.unheld _ now parcel)
      (Session.receive_keeps v.transport _ _ now parcel)

/-! ## Moves -/

theorem move_balanced {r r' : Connection × World σ} (h : Move v r r')
    (hr : r.1.session.Balanced r.2 []) : r'.1.session.Balanced r'.2 [] := by
  cases h with
  | arrive bytes => exact hr
  | discard => exact hr
  | count f => exact hr.of_ledger rfl
  | resolve h => exact hr
  | frame now tenancy frame hopen hready hnext htenancy =>
    refine takeFrame_balanced ?_ now tenancy frame
    exact hr
  | gap fault hopen hready hnext => exact hr
  | shutdown cause =>
    exact hr.after (Session.shutdown_accounts _ _ _ _)
      (Session.shutdown_keeps _ _ _ _)
  | checkKeepAlive now =>
    exact hr.after (Session.checkKeepAlive_accounts _ _ _ _)
      (Session.checkKeepAlive_keeps _ _ _ _)
  | complete now outcome h =>
    exact hr.after (Session.complete_accounts _ _ _ _ _)
      (Session.complete_keeps _ _ _ _ _)
  | finish => exact hr
  | elsewhere backend => exact hr.of_ledger rfl

/-! ## What gives no data enters nothing -/

/-- A fault may end the connection, but nothing is entered for it. -/
theorem allocated_round {fault : Wire.Fault}
    (h : (c.chain.next c.input).1 = some (.error fault)) (now : Nat)
    (tenancy : Tenancy) :
    (c.round v w now tenancy).2.2.ledger.allocated = w.ledger.allocated := by
  unfold round
  split
  · rfl
  · split
    · rfl
    · generalize c.chain.next c.input = out at h
      obtain ⟨outcome, chain, input⟩ := out
      obtain rfl : outcome = some (.error fault) := h
      dsimp only
      split
      · exact (Session.shutdown_accounts v.transport c.session _ _).allocated
      · rfl

/-- A line that cannot be read is counted as a frame and forgotten. -/
theorem ledger_takeFrame_line {tenancy : Tenancy} {bytes : List UInt8}
    (h : (tenancy.decodeLine bytes).1 = none) (now : Nat) :
    (c.takeFrame v w now tenancy (.line bytes)).2.ledger = w.ledger := by
  have hdecode : ∀ needsConnect l,
      c.topic.decode tenancy needsConnect (.line bytes) l =
      (none, c.topic, (tenancy.decodeLine bytes).2, l) := by
    intro needsConnect l
    simp only [Topic.decode]
    generalize tenancy.decodeLine bytes = out at h
    obtain ⟨reading, tenancy'⟩ := out
    obtain rfl : reading = none := h
    rfl
  simp only [takeFrame, hdecode]
  rfl

/-! ## Courses -/

private theorem start_balanced (v : Services σ) (connectionId : String)
    (peer : Option Peer) (now : Nat) (backend : σ) (metrics : Option Metrics) :
    (start v connectionId peer now).session.Balanced
      ({ backend, metrics } : World σ) [] where
  account := .refl _
  spent h := by cases h
  unheld _ := rfl

private theorem course_balanced {r : Connection × World σ}
    (hr : r.1.session.Balanced r.2 []) (turns : List (Turn σ)) :
    (course v r turns).1.session.Balanced (course v r turns).2 [] :=
  moves_preserve (fun c w => c.session.Balanced w []) move_balanced
    (course_moves v r turns) hr

/-- At every point of every course of a connection, the payloads that were
entered and not given up are those in the queue and the one that came with the
CONNECT.  None is lost, given up twice, or given up without having been entered.
Once the session is closed nothing is outstanding, whatever happens after.  A
frame at fault and a line that cannot be read enter nothing. -/
theorem course_ledger (v : Services σ) (connectionId : String)
    (peer : Option Peer) (now : Nat) (backend : σ) (metrics : Option Metrics)
    (turns : List (Turn σ)) :
    let r :=
      course v (start v connectionId peer now, { backend, metrics }) turns
    r.2.ledger.released ≤ r.2.ledger.allocated ∧
    r.2.ledger.allocated - r.2.ledger.released =
      r.1.session.pending.length + (if r.1.session.held.isSome then 1 else 0) ∧
    (r.2.ledger.given ++ r.1.session.holdings.map DataPacket.serial).Perm
      (List.range r.2.ledger.allocated) ∧
    r.2.ledger.given.Nodup ∧
    (∀ serial ∈ r.2.ledger.given, serial < r.2.ledger.allocated) ∧
    (r.1.session.flags.closed = true → ∀ more,
      (course v r more).1.session.flags.closed = true ∧
        (course v r more).2.ledger.allocated =
          (course v r more).2.ledger.released) ∧
    (∀ later tenancy fault, (r.1.chain.next r.1.input).1 = some (.error fault) →
      (r.1.round v r.2 later tenancy).2.2.ledger.allocated =
        r.2.ledger.allocated) ∧
    (∀ later tenancy bytes, (tenancy.decodeLine bytes).1 = none →
      (r.1.takeFrame v r.2 later tenancy (.line bytes)).2.ledger =
        r.2.ledger) := by
  intro r
  have hbalanced : r.1.session.Balanced r.2 [] :=
    course_balanced (start_balanced v connectionId peer now backend metrics)
      turns
  have hlength := hbalanced.released_add_length
  have hheld : r.1.session.held.toList.length = if r.1.session.held.isSome then
      1 else 0 := by
    cases r.1.session.held <;> rfl
  refine ⟨by omega, by omega, hbalanced.account, hbalanced.nodup_given,
    fun _ => hbalanced.lt_allocated, ?_,
    fun later tenancy fault h => allocated_round h later tenancy,
    fun later tenancy bytes h => ledger_takeFrame_line h later⟩
  intro hclosed more
  have hclosed' := (course_keeps v r more).closed hclosed
  have hafter : (course v r more).1.session.Balanced (course v r more).2 [] :=
    course_balanced hbalanced more
  have hspent := hafter.spent hclosed'
  have hnothing := hafter.released_add_length
  rw [hspent.pending, hspent.held] at hnothing
  exact ⟨hclosed', hnothing.symm⟩

/-- The line `T~0~d~x` waits with its CONNECT until the device hangs up. -/
example :
    let taking : Backend.Transport Unit :=
      ⟨fun s _ _ => (.ok ⟨0, "d"⟩, s), fun s _ _ => (.ok (), s), fun s _ => s⟩
    let v : Services Unit := ⟨taking, {}, 64, ⟨{}, [], 0⟩, ⟨none, "", 5⟩⟩
    let r := course v (start v "c" none 0, { backend := () })
      [.event 0 (.read [84, 126, 48, 126, 100, 126, 120, 10])]
    let r' := course v r [.event 1 .hungUp]
    (r.1.session.held.isSome, r.2.ledger.outstanding, r'.2.ledger.outstanding) =
      (true, 1, 0) := by
  decide

end Connection

end DeviceGateway
