import DeviceGateway.Proofs.Session.Stranger

/-!
# What arrives in a run

The data of a run comes with its parcels, and the history of the run keeps it in
three places.  Read one after the other they give it in the order of its arrival
as long as the session is open, whichever of the three a packet went to: what
came with the CONNECT came first, then what had to wait, then what was relayed
at once.  A session that is closed takes nothing into its history.

## Main results

* `Situation.receive_history`: a parcel adds its data at the end.
* `conclude_history`: an outcome of the CONNECT adds nothing.
-/

namespace DeviceGateway

namespace Session

variable {σ : Type} (t : Backend.Transport σ)

theorem shutdown_phase (s : Session) (w : World σ) (cause : Option Failure) :
    (s.shutdown t w cause).1.flags.phase = s.flags.phase := by
  rw [shutdown_flags]
  rfl

theorem relay_phase (s : Session) (w : World σ) (p : DataPacket) :
    (s.relay t w p).1.flags.phase = s.flags.phase := by
  cases hclosed : s.flags.closed with
  | true => rw [relay_of_closed t hclosed]
  | false =>
    have hcase := relayed t hclosed w p
    generalize s.relay t w p = out at hcase
    cases hcase with
    | stranger bound hbound hid => exact shutdown_phase t _ _ _
    | bridgeless hown hbridge => rfl
    | unserved hown bridge hbridge hclient => exact shutdown_phase t _ _ _
    | accepted hown bridge hbridge client hclient u hsend => rfl
    | refused hown bridge hbridge client hclient fault hsend =>
      exact shutdown_phase t _ _ _

theorem checkKeepAlive_phase (s : Session) (w : World σ) (now : Nat) :
    (s.checkKeepAlive t w now).1.flags.phase = s.flags.phase := by
  have hcase := checked t s w now
  generalize s.checkKeepAlive t w now = out at hcase
  cases hcase with
  | unsupervised h => rfl
  | silent hopen hpos hlate => exact shutdown_phase t _ _ _
  | timely hopen hpos htimely => rfl

end Session

namespace Run

variable {σ : Type} {r : Run σ}

/-- The data that came while the session was open. -/
def arrivals (r : Run σ) : List DataPacket :=
  r.held.toList ++ r.queued ++ r.live

/-- What is to be relayed has arrived. -/
theorem mem_arrivals_of_mem_line {p : DataPacket} (h : p ∈ r.line) :
    p ∈ r.arrivals := by
  simp only [line, arrivals, List.mem_append] at h ⊢
  rcases h with (hqueued | hladen) | hlive
  · exact .inl (.inr hqueued)
  · exact .inl (.inl ((List.mem_filter.1 hladen).1))
  · exact .inr hlive

/-- What has arrived with a payload is to be relayed. -/
theorem mem_line_of_mem_arrivals {p : DataPacket} (h : p ∈ r.arrivals)
    (hladen : p.payload.bytes.isEmpty = false) : p ∈ r.line := by
  simp only [line, arrivals, List.mem_append] at h ⊢
  rcases h with (hheld | hqueued) | hlive
  · exact .inl (.inr (List.mem_filter.2 ⟨hheld, by simp [hladen]⟩))
  · exact .inl (.inl hqueued)
  · exact .inr hlive

theorem Situation.idle_of_open (h : r.Situation)
    (hopen : r.session.flags.closed = false)
    (hphase : r.session.flags.phase = .notConnected) : r.Idle := by
  cases h with
  | idle h => exact h
  | waiting h => exact absurd (hphase.symm.trans h.phase) (by decide)
  | dropped h => exact absurd h.spent.closed (by simp [hopen])
  | serving e h => exact absurd (hphase.symm.trans h.flowing.phase) (by decide)
  | served e cause taken rest h =>
    exact absurd h.halted.spent.closed (by simp [hopen])

theorem Situation.waiting_of_awaiting (h : r.Situation)
    (hopen : r.session.flags.closed = false) (hawaiting : r.awaiting = true) :
    r.Waiting := by
  cases h with
  | idle h => exact absurd hawaiting (by simp [h.awaiting])
  | waiting h => exact h
  | dropped h => exact absurd h.spent.closed (by simp [hopen])
  | serving e h => exact absurd hawaiting (by simp [h.awaiting])
  | served e cause taken rest h => exact absurd hawaiting (by simp [h.awaiting])

/-- Before the session is connected, nothing was relayed at once. -/
theorem Situation.live_of_phase (h : r.Situation)
    (hphase : r.session.flags.phase ≠ .connected) :
    r.live = [] := by
  cases h with
  | idle h => exact h.live
  | waiting h => exact h.live
  | dropped h => exact h.live
  | serving e h => exact absurd h.flowing.phase hphase
  | served e cause taken rest h => exact absurd h.halted.phase hphase

/-- Who begins a CONNECT waits for its outcome. -/
theorem note_awaiting (r : Run σ) (parcel : Parcel) (reception : Reception) :
    (r.note parcel reception).awaiting = match reception with
      | .handled => r.awaiting
      | .beginConnect _ => true := by
  cases reception with
  | beginConnect request => rfl
  | handled =>
    simp only [note]
    split
    · rfl
    · split <;> rfl

/-- A parcel adds its data to what has arrived, at the end.  The one that begins
the CONNECT has its data held. -/
theorem Situation.receive_history (t : Backend.Transport σ) (h : r.Situation)
    (hopen : r.session.flags.closed = false) (now : Nat) {parcel : Parcel}
    (hfirst : r.session.flags.phase = .notConnected →
      r.held = none ∧ (parcel.connect = none → parcel.data = none)) :
    let r' := r.step t (.receive now parcel)
    r'.arrivals = r.arrivals ++ parcel.data.toList ∧
    (r.session.flags.phase = .notConnected → r'.held = parcel.data) ∧
    (r.session.flags.phase ≠ .notConnected → r'.held = r.held) ∧
    (r'.session.flags.phase = .notConnected ↔
      r.session.flags.phase = .notConnected ∧ parcel.connect = none) := by
  intro r'
  have hcase := Session.received t r.session r.world now parcel
  have hr' :
    r' = { r.note parcel (r.session.receive t r.world now parcel).1 with
      session := (r.session.receive t r.world now parcel).2.1
      world := (r.session.receive t r.world now parcel).2.2 } := rfl
  rw [hr']
  clear_value r'
  generalize r.session.receive t r.world now parcel = out at hcase
  cases hcase with
  | dropped hclosed => exact absurd hclosed (by simp [hopen])
  | empty _ hdata hconnect =>
    have hsame : (r.note parcel .handled).arrivals = r.arrivals ∧
        (r.note parcel .handled).held = r.held := by
      simp only [note, hopen, hdata, Option.toList_none, List.append_nil,
        Bool.false_eq_true, if_false]
      split <;> exact ⟨rfl, rfl⟩
    refine ⟨?_, fun hphase => ?_, fun _ => hsame.2, fun hphase =>
      ⟨hphase, hconnect hphase⟩, fun hphase => hphase.1⟩
    · rw [hdata, Option.toList_none, List.append_nil]
      exact hsame.1
    · rw [hdata]
      exact hsame.2.trans (hfirst hphase).1
  | begun _ hphase request hconnect =>
    have hidle := h.idle_of_open hopen hphase
    refine ⟨?_, fun _ => rfl, fun hnot => absurd hphase hnot, ?_⟩
    · simp [arrivals, note, hidle.queued, hidle.live, (hfirst hphase).1]
    · simp [hconnect, Flags.enter]
  | unexpected _ hphase hconnect p hdata =>
    have hnone := (hfirst hphase).2 hconnect
    rw [hdata] at hnone
    cases hnone
  | queued _ hphase p hdata =>
    have hlive := h.live_of_phase (by simp [hphase])
    have hstill := (Session.enqueue_flags (r.session.heard now) p).2.2
    refine ⟨?_, fun hnot => absurd (hphase.symm.trans hnot) (by decide),
      fun _ => ?_, ?_⟩
    · simp [arrivals, note, hopen, hphase, hdata, hlive]
    · simp [note, hopen, hphase]
    · rw [hstill]
      simp [Session.heard, hphase]
  | live _ hphase p hdata =>
    refine ⟨?_, fun hnot => absurd (hphase.symm.trans hnot) (by decide),
      fun _ => ?_, ?_⟩
    · simp [arrivals, note, hopen, hphase, hdata]
    · simp [note, hopen, hphase]
    · rw [Session.relay_phase]
      simp [Session.heard, hphase]

/-- An outcome of the CONNECT does not change what has arrived. -/
theorem conclude_history (r : Run σ) (outcome : Except Failure Established) :
    (r.conclude outcome).arrivals = r.arrivals ∧
      (r.conclude outcome).held = r.held := by
  cases outcome with
  | error failure => exact ⟨rfl, rfl⟩
  | ok e =>
    simp only [conclude]
    split <;> exact ⟨rfl, rfl⟩

end Run

end DeviceGateway
