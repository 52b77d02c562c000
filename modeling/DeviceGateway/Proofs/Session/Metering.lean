import DeviceGateway.Proofs.Session.Effect

/-!
# The queue of a session

Data waits in the queue of a session while its CONNECT is worked on, and reading
is held back as soon as the queue is as long as it may get.  The flag that holds
reading back says nothing of its own therefore: on an open session it is set
exactly if the session is connecting and its queue is full.  It follows that the
queue grows no longer, since only a session that reads is handed data to wait.

A session that is connected reads.  Nothing but a CONNECT that begins ends that,
and none begins any more.

## Main results

* `receive_metered`: a parcel leaves the queue within its bound.
* `complete_metered`, `complete_unhindered`: an outcome of the CONNECT empties
  the queue, and reading goes on.
* `receive_unhindered`: and from then on it is not held back again.
-/

namespace DeviceGateway

/-- The length of a full queue. -/
def SessionSetup.capacity (setup : SessionSetup) : Nat := max setup.maxPending 1

namespace Session

variable {σ : Type} {s s' : Session}

/-- The queue is within its bound and holds data only while the session is
connecting, and reading is held back while it is full. -/
structure Metered (s : Session) : Prop where
  bounded : s.pending.length ≤ s.setup.capacity
  idle : s.flags.phase ≠ .connecting → s.pending = []
  full : s.flags.closed = false →
    (s.flags.throttled = true ↔
      s.flags.phase = .connecting ∧ s.setup.capacity ≤ s.pending.length)

/-- A session that is open is connected, and reads. -/
def Unhindered (s : Session) : Prop :=
  s.flags.closed = false →
    s.flags.phase = .connected ∧ s.flags.throttled = false

/-- With nothing in the queue there is nothing to hold reading back for. -/
theorem Unhindered.metered (h : s.Unhindered) (hempty : s.pending = []) :
    s.Metered where
  bounded := by simp [hempty]
  idle _ := hempty
  full hopen := by
    obtain ⟨hphase, hreading⟩ := h hopen
    simp [hphase, hreading]

/-! ## Operations that have no part in the queue -/

/-- What becomes of the queue where nothing is put into it or taken from it: it
stays as it is, or the session is closed and the queue is gone. -/
def Passes (s s' : Session) : Prop :=
  (s'.pending = s.pending ∧ s'.flags = s.flags) ∨
    (s'.flags.closed = true ∧ s'.pending = [])

theorem Passes.refl (s : Session) : s.Passes s := .inl ⟨rfl, rfl⟩

theorem Passes.unhindered (hp : s.Passes s') (h : s.Unhindered) :
    s'.Unhindered := by
  intro hopen
  rcases hp with ⟨-, hflags⟩ | ⟨hclosed, -⟩
  · rw [hflags] at hopen ⊢
    exact h hopen
  · rw [hopen] at hclosed
    cases hclosed

theorem Passes.metered (hp : s.Passes s') (hsetup : s'.setup = s.setup)
    (h : s.Metered) :
    s'.Metered := by
  rcases hp with ⟨hpending, hflags⟩ | ⟨hclosed, hempty⟩
  · refine ⟨?_, ?_, ?_⟩
    · rw [hpending, hsetup]
      exact h.bounded
    · rw [hpending, hflags]
      exact h.idle
    · rw [hpending, hflags, hsetup]
      exact h.full
  · refine Unhindered.metered (fun hopen => ?_) hempty
    rw [hopen] at hclosed
    cases hclosed

/-- A queue without data stays without. -/
theorem Passes.empty (hp : s.Passes s') (h : s.pending = []) :
    s'.pending = [] :=
  hp.elim (fun hsame => hsame.1.trans h) fun hclosed => hclosed.2

theorem shutdown_passes (t : Backend.Transport σ) (s : Session) (w : World σ)
    (cause : Option Failure) : s.Passes (s.shutdown t w cause).1 := by
  cases hclosed : s.flags.closed with
  | true =>
    rw [shutdown_of_closed t hclosed]
    exact .refl s
  | false =>
    rw [shutdown_of_open t hclosed]
    exact .inr ⟨rfl, rfl⟩

theorem relay_passes (t : Backend.Transport σ) (s : Session) (w : World σ)
    (p : DataPacket) :
    s.Passes (s.relay t w p).1 := by
  cases hclosed : s.flags.closed with
  | true =>
    rw [relay_of_closed t hclosed]
    exact .refl s
  | false =>
    have hcase := relayed t hclosed w p
    generalize s.relay t w p = out at hcase
    cases hcase with
    | stranger bound hbound hid =>
      have hmarked :
          { s with flags := s.flags.markMisconfigured }.flags.closed = false :=
            hclosed
      rw [shutdown_of_open t hmarked]
      exact .inr ⟨rfl, rfl⟩
    | bridgeless hown hbridge => exact .refl s
    | unserved hown bridge hbridge hclient => exact shutdown_passes t s _ _
    | accepted hown bridge hbridge client hclient u hsend => exact .refl s
    | refused hown bridge hbridge client hclient fault hsend =>
      exact shutdown_passes t s _ _

theorem checkKeepAlive_passes (t : Backend.Transport σ) (s : Session)
    (w : World σ) (now : Nat) :
    s.Passes (s.checkKeepAlive t w now).1 := by
  have hcase := checked t s w now
  generalize s.checkKeepAlive t w now = out at hcase
  cases hcase with
  | unsupervised h => exact .refl s
  | silent hopen hpos hlate =>
    exact shutdown_passes t { s with deadline := none } _ _
  | timely hopen hpos htimely => exact .refl s

private theorem supervise_passes (t : Backend.Transport σ) (s : Session)
    (w : World σ) (now : Nat) :
    s.Passes (s.supervise t w now).1 := by
  unfold supervise
  split
  · exact .refl s
  · exact checkKeepAlive_passes t s w now

theorem relayHeld_passes (t : Backend.Transport σ) (s : Session) (w : World σ) :
    s.Passes (s.relayHeld t w).1 := by
  unfold relayHeld
  split
  · exact .refl s
  · dsimp only
    split
    · exact .refl s
    · exact relay_passes t { s with held := none } _ _

/-! ## Operations that have -/

/-- Relaying as many packets as wait leaves none. -/
theorem relayPending_empties (t : Backend.Transport σ) {count : Nat}
    (h : s.pending.length ≤ count) (w : World σ) :
    (relayPending t count s w).1.pending = [] := by
  induction count generalizing s w with
  | zero => exact List.length_eq_zero_iff.1 (Nat.le_zero.1 h)
  | succ count ih =>
    unfold relayPending
    split
    · next hnil => exact hnil
    · next p rest hcons =>
      rw [hcons, List.length_cons] at h
      have hfewer : ({ s with pending := rest }.relay t w p).1.pending.length ≤
          count := by
        rcases relay_passes t { s with pending := rest } w p with
          ⟨hpending, -⟩ | ⟨-, hnone⟩
        · rw [hpending]
          exact Nat.le_of_succ_le_succ h
        · simp [hnone]
      exact ih hfewer _

private theorem relayPending_unhindered (t : Backend.Transport σ) (count : Nat)
    (h : s.Unhindered) (w : World σ) :
    (relayPending t count s w).1.Unhindered := by
  induction count generalizing s w with
  | zero => exact h
  | succ count ih =>
    unfold relayPending
    split
    · exact h
    · next p rest hcons =>
      have hrest : { s with pending := rest }.Unhindered := h
      exact ih ((relay_passes t _ w p).unhindered hrest) _

/-- An outcome of the CONNECT leaves a session that reads, or none. -/
theorem complete_unhindered (t : Backend.Transport σ) (s : Session)
    (w : World σ) (now : Nat) (outcome : Except Failure Established) :
    (s.complete t w now outcome).1.Unhindered := by
  have hclosed' : ∀ {s : Session}, s.flags.closed = true → s.Unhindered := by
    intro s hclosed hopen
    rw [hopen] at hclosed
    cases hclosed
  cases outcome with
  | error failure => exact hclosed' (shutdown_closed t s _ _)
  | ok e =>
    cases hclosed : s.flags.closed with
    | true =>
      rw [complete_of_closed t hclosed]
      exact hclosed' hclosed
    | false =>
      rw [complete_of_open t hclosed]
      have hbind : (s.bind e).Unhindered := fun _ => ⟨rfl, rfl⟩
      have hchecked := (supervise_passes t (s.bind e)
        (w.count fun m => m.recordConnect none) now).unhindered hbind
      exact (relayHeld_passes t _ _).unhindered
        (relayPending_unhindered t _ hchecked _)

theorem complete_metered (t : Backend.Transport σ) (h : s.Metered) (w : World σ)
    (now : Nat) (outcome : Except Failure Established) :
    (s.complete t w now outcome).1.Metered := by
  cases outcome with
  | error failure =>
    exact (shutdown_passes t s _ _).metered (shutdown_keeps t s _ _).setup h
  | ok e =>
    cases hclosed : s.flags.closed with
    | true =>
      rw [complete_of_closed t hclosed]
      exact h
    | false =>
      refine (complete_unhindered t s w now (.ok e)).metered ?_
      rw [complete_of_open t hclosed]
      exact (relayHeld_passes t _ _).empty
        (relayPending_empties t (Nat.le_refl _) _)

/-- Data that has to wait fills the queue by one, and the last place holds
reading back. -/
theorem enqueue_metered (h : s.Metered) (hopen : s.flags.closed = false)
    (hphase : s.flags.phase = .connecting)
    (hreading : s.flags.throttled = false) (p : DataPacket) :
    (s.enqueue p).Metered := by
  have hroom : s.pending.length < s.setup.capacity := by
    refine Nat.lt_of_not_le fun hfull => ?_
    have hthrottled := (h.full hopen).2 ⟨hphase, hfull⟩
    rw [hreading] at hthrottled
    cases hthrottled
  obtain ⟨hclosed, -, hphase'⟩ := enqueue_flags s p
  have hlength : (s.enqueue p).pending.length = s.pending.length + 1 := by
    simp [enqueue]
  have hsetup : (s.enqueue p).setup = s.setup := rfl
  have hfull : s.setup.maxPending ≤ s.pending.length + 1 ↔
      s.setup.capacity ≤ s.pending.length + 1 := by
    unfold SessionSetup.capacity
    omega
  refine ⟨?_, fun hnot => absurd (hphase'.trans hphase) hnot, fun _ => ?_⟩
  · rw [hlength, hsetup]
    exact hroom
  · rw [hphase', hlength, hsetup, ← hfull]
    simp only [hphase, true_and]
    by_cases hlong : s.setup.maxPending ≤ s.pending.length + 1 <;>
      simp [enqueue, Flags.throttle, hlong, hreading]

/-- A session that reads keeps its queue within the bound. -/
theorem receive_metered (t : Backend.Transport σ) (h : s.Metered)
    (hreading : s.flags.throttled = false) (w : World σ) (now : Nat)
    (parcel : Parcel) :
    (s.receive t w now parcel).2.1.Metered := by
  have hheard : (s.heard now).Metered := ⟨h.bounded, h.idle, h.full⟩
  have hcase := received t s w now parcel
  generalize s.receive t w now parcel = out at hcase
  cases hcase with
  | dropped hclosed => exact h
  | empty hopen hdata hconnect => exact hheard
  | begun hopen hphase request hconnect =>
    have hempty : s.pending = [] := h.idle (by simp [hphase])
    have hsome : 1 ≤ s.setup.capacity := Nat.le_max_right _ _
    refine ⟨?_, fun hnot => absurd rfl hnot, fun _ => ?_⟩
    · simp [heard, hempty]
    · simp only [heard, Flags.enter, hempty, hreading, List.length_nil]
      simp only [Bool.false_eq_true, true_and, false_iff]
      omega
  | unexpected hopen hphase hconnect p hdata =>
    exact (shutdown_passes t (s.heard now) _ _).metered
      (shutdown_keeps t _ _ _).setup hheard
  | queued hopen hphase p hdata =>
    exact enqueue_metered hheard hopen hphase hreading p
  | live hopen hphase p hdata =>
    exact (relay_passes t (s.heard now) w p).metered
      (relay_keeps t _ w p).setup hheard

/-- A session that is connected goes on reading. -/
theorem receive_unhindered (t : Backend.Transport σ) (h : s.Unhindered)
    (w : World σ) (now : Nat) (parcel : Parcel) :
    (s.receive t w now parcel).2.1.Unhindered := by
  have hheard : (s.heard now).Unhindered := h
  have hcase := received t s w now parcel
  generalize s.receive t w now parcel = out at hcase
  cases hcase with
  | dropped hclosed => exact h
  | empty hopen hdata hconnect => exact hheard
  | begun hopen hphase request hconnect =>
    exact absurd (hphase.symm.trans (h hopen).1) (by decide)
  | unexpected hopen hphase hconnect p hdata =>
    exact (shutdown_passes t (s.heard now) _ _).unhindered hheard
  | queued hopen hphase p hdata =>
    exact absurd (hphase.symm.trans (h hopen).1) (by decide)
  | live hopen hphase p hdata =>
    exact (relay_passes t (s.heard now) w p).unhindered hheard

end Session

end DeviceGateway
