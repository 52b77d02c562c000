import DeviceGateway.Proofs.Session.Arrivals
import DeviceGateway.Proofs.Session.Pace
import Mathlib.Logic.ExistsUnique

/-!
# How a session stands

Six flags and five stores of a session are written one at a time, by operations
that may close the session half way through.  What they amount to together holds
between operations only: in the middle of binding, for instance, a session is
connected and still has its queue.  So nothing here is proved of a single
assignment.  It is read off the situation a run is in, which every operation
re-establishes as a whole.

The flags of a session move in one direction.  Its phases follow each other, and
what lasts is not taken back.  Since the first phase is left for good when a
CONNECT begins, no second one begins.

## Main results

* `Flags.testBit_bits`: the number that shows the flags shows each of them.
* `step_precedes`: how the flags move when one thing is asked.
* `length_begun_le`: a CONNECT is begun once at most.
* `run_standing`: all of this in any run.
-/

namespace DeviceGateway

/-! ## Flags -/

/-- The place of a phase in their order. -/
def Phase.rank : Phase → Nat
  | notConnected => 0
  | connecting => 1
  | connected => 2

namespace Flags

/-- Bits 0 to 2 are those of the phases, and the one of the phase is set. -/
theorem testBit_bits (f : Flags) :
    (∀ i < 3, f.bits.testBit i = decide (i = f.phase.rank)) ∧
      f.bits.testBit 3 = f.closed ∧
      f.bits.testBit 4 = f.throttled ∧ f.bits.testBit 5 = f.misconfigured := by
  obtain ⟨phase, closed, throttled, misconfigured⟩ := f
  cases phase <;> cases closed <;> cases throttled <;> cases misconfigured <;>
    decide

private theorem exists_unique_phase (f : Flags) :
    ∃! i, i < 3 ∧ f.bits.testBit i = true := by
  have hbits := f.testBit_bits.1
  have hrank : f.phase.rank < 3 := by
    cases f.phase <;> decide
  refine ⟨f.phase.rank, ⟨hrank, ?_⟩, ?_⟩
  · rw [hbits _ hrank, decide_eq_true_iff]
  · intro i hi
    have hset := hi.2
    rw [hbits i hi.1, decide_eq_true_iff] at hset
    exact hset

/-- Flags that may be followed by others: the phase stays or gives way to the
next one, and a flag that lasts is not taken back. -/
structure Precedes (f f' : Flags) : Prop where
  phase : f'.phase = f.phase ∨ f'.phase.rank = f.phase.rank + 1
  closed : f.closed = true → f'.closed = true
  misconfigured : f.misconfigured = true → f'.misconfigured = true

end Flags

namespace Session

variable {σ : Type} {s : Session} {w : World σ}

/-! ## Telling the connection -/

/-- The connection was told that the session has closed exactly if it has. -/
def Announced (s : Session) : Prop := s.signalled = s.flags.closed

theorem Paced.announced {out : Session × World σ} (hpaced : s.Paced w out)
    (h : s.Announced) :
    out.1.Announced := by
  unfold Announced at h ⊢
  rcases hpaced.outcome with ⟨hclosed, -, hsignalled⟩ | ⟨hclosed, -, hsignalled⟩
  · rw [hclosed, hsignalled]
    exact h
  · rw [hclosed, hsignalled]

section

variable (t : Backend.Transport σ)

theorem shutdown_announced (h : s.Announced) (w : World σ)
    (cause : Option Failure) :
    (s.shutdown t w cause).1.Announced := by
  by_cases hclosed : s.flags.closed = true
  · rw [shutdown_of_closed t hclosed]
    exact h
  · rw [shutdown_of_open t (Bool.eq_false_iff.2 hclosed)]
    rfl

theorem checkKeepAlive_announced (h : s.Announced) (w : World σ) (now : Nat) :
    (s.checkKeepAlive t w now).1.Announced := by
  have hcase := checked t s w now
  generalize s.checkKeepAlive t w now = out at hcase
  cases hcase with
  | unsupervised hquiet => exact h
  | silent hopen hpos hlate =>
    have hunscheduled : { s with deadline := none }.Announced := h
    exact shutdown_announced t hunscheduled w _
  | timely hopen hpos htimely => exact h

theorem receive_announced (h : s.Announced) (w : World σ) (now : Nat)
    (parcel : Parcel) :
    (s.receive t w now parcel).2.1.Announced := by
  have hheard : (s.heard now).Announced := h
  have hcase := received t s w now parcel
  generalize s.receive t w now parcel = out at hcase
  cases hcase with
  | dropped hclosed => exact h
  | empty hopen hdata hconnect => exact h
  | begun hopen hphase request hconnect => exact h
  | unexpected hopen hphase hconnect p hdata =>
    exact shutdown_announced t hheard _ _
  | queued hopen hphase p hdata =>
    show s.signalled = ((s.heard now).enqueue p).flags.closed
    rw [(enqueue_flags (s.heard now) p).1]
    exact h
  | live hopen hphase p hdata =>
    exact (relay_paced t (s.heard now) w p).announced hheard

theorem complete_announced (h : s.Announced) (w : World σ) (now : Nat)
    (outcome : Except Failure Established) :
    (s.complete t w now outcome).1.Announced := by
  cases outcome with
  | error failure => exact shutdown_announced t h _ _
  | ok e =>
    by_cases hclosed : s.flags.closed = true
    · rw [complete_of_closed t hclosed]
      exact h
    · rw [complete_of_open t (Bool.eq_false_iff.2 hclosed)]
      have hbind : (s.bind e).Announced := h
      have hchecked : ((s.bind e).supervise t
          (w.count fun m => m.recordConnect none) now).1.Announced := by
        unfold supervise
        split
        · exact hbind
        · exact checkKeepAlive_announced t hbind _ now
      exact (relayHeld_paced t _ _).announced
        ((relayPending_paced t _ _ _).announced hchecked)

/-! ## Phases -/

/-- A CONNECT that succeeds connects an open session, also if it is closed at
once. -/
theorem complete_phase (hopen : s.flags.closed = false) (w : World σ)
    (now : Nat) (e : Established) :
    (s.complete t w now (.ok e)).1.flags.phase = .connected := by
  rw [complete_of_open t hopen]
  dsimp only
  rw [(relayHeld_paced t _ _).phase, (relayPending_paced t _ _ _).phase]
  unfold supervise
  split
  · rfl
  · exact checkKeepAlive_phase t (s.bind e) _ now

/-- Taking a parcel in leaves the phase, or leaves the first one for the
second. -/
theorem receive_phase (s : Session) (w : World σ) (now : Nat)
    (parcel : Parcel) :
    let out := s.receive t w now parcel
    match out.1 with
    | .handled => out.2.1.flags.phase = s.flags.phase
    | .beginConnect _ =>
        s.flags.phase = .notConnected ∧ out.2.1.flags.phase = .connecting := by
  intro out
  have hcase := received t s w now parcel
  show match (s.receive t w now parcel).1 with
    | .handled => (s.receive t w now parcel).2.1.flags.phase = s.flags.phase
    | .beginConnect _ => s.flags.phase = .notConnected ∧
      (s.receive t w now parcel).2.1.flags.phase = .connecting
  generalize s.receive t w now parcel = out at hcase
  cases hcase with
  | dropped hclosed => rfl
  | empty hopen hdata hconnect => rfl
  | begun hopen hphase request hconnect => exact ⟨hphase, rfl⟩
  | unexpected hopen hphase hconnect p hdata =>
    exact shutdown_phase t (s.heard now) _ _
  | queued hopen hphase p hdata => exact (enqueue_flags (s.heard now) p).2.2
  | live hopen hphase p hdata => exact relay_phase t (s.heard now) w p

end

/-- A session that is in order: one phase is set, a session that is configured
wrongly is closed, a bridge is there for a connected session that is open, data
is kept for one that is connecting, and the connection knows when it has
closed. -/
structure Standing (s : Session) : Prop where
  phase : ∃! i, i < 3 ∧ s.flags.bits.testBit i = true
  closed : s.flags.misconfigured = true → s.flags.closed = true
  bridge : s.bridge.isSome = true ↔
    s.flags.closed = false ∧ s.flags.phase = .connected
  stores : s.pending ≠ [] ∨ s.held ≠ none →
    s.flags.closed = false ∧ s.flags.phase = .connecting
  announced : s.flags.closed = true ↔ s.signalled = true

end Session

namespace Run

variable {σ : Type} {r : Run σ} {asked : Prop}

/-! ## Steps -/

private theorem step_announced (t : Backend.Transport σ)
    (h : r.session.Announced) (d : Demand) :
    (r.step t d).session.Announced := by
  cases d with
  | receive now parcel => exact Session.receive_announced t h _ now parcel
  | complete now outcome =>
    simp only [step]
    split
    · exact Session.complete_announced t h _ now outcome
    · exact h
  | checkKeepAlive now => exact Session.checkKeepAlive_announced t h _ now
  | shutdown cause => exact Session.shutdown_announced t h _ cause

private theorem run_announced (t : Backend.Transport σ)
    (h : r.session.Announced) (demands : List Demand) :
    (r.run t demands).session.Announced := by
  induction demands generalizing r with
  | nil => exact h
  | cons d demands ih => exact ih (step_announced t h d)

theorem step_phase (t : Backend.Transport σ) (h : r.Situation) (d : Demand) :
    (r.step t d).session.flags.phase = r.session.flags.phase ∨
      (r.step t d).session.flags.phase.rank =
        r.session.flags.phase.rank + 1 := by
  cases d with
  | receive now parcel =>
    have hphase := Session.receive_phase t r.session r.world now parcel
    simp only [step]
    generalize r.session.receive t r.world now parcel = out at hphase
    obtain ⟨reception, session, world⟩ := out
    cases reception with
    | handled => exact .inl hphase
    | beginConnect request =>
      right
      rw [hphase.1, hphase.2]
      rfl
  | complete now outcome =>
    by_cases hawaiting : r.awaiting = true
    · simp only [step, hawaiting, if_true]
      cases outcome with
      | error failure => exact .inl (Session.shutdown_phase t _ _ _)
      | ok e =>
        by_cases hclosed : r.session.flags.closed = true
        · rw [Session.complete_of_closed t hclosed]
          exact .inl rfl
        · have hopen := Bool.eq_false_iff.2 hclosed
          right
          rw [Session.complete_phase t hopen,
            (h.waiting_of_awaiting hopen hawaiting).phase]
          rfl
    · simp only [step, hawaiting]
      exact .inl rfl
  | checkKeepAlive now => exact .inl (Session.checkKeepAlive_phase t _ _ now)
  | shutdown cause => exact .inl (Session.shutdown_phase t _ _ cause)

theorem step_precedes (t : Backend.Transport σ) (h : r.Situation) (d : Demand) :
    r.session.flags.Precedes (r.step t d).session.flags where
  phase := step_phase t h d
  closed := (step_keeps t r d).closed
  misconfigured := (step_keeps t r d).misconfigured

/-! ## CONNECTs that are begun -/

/-- The CONNECT that a demand has the caller work on. -/
def opening (t : Backend.Transport σ) (r : Run σ) : Demand → Option Connect
  | .receive now parcel =>
    match (r.session.receive t r.world now parcel).1 with
    | .handled => none
    | .beginConnect request => some request
  | _ => none

/-- The CONNECTs that a run has the caller work on. -/
def begun (t : Backend.Transport σ) (r : Run σ) : List Demand → List Connect
  | [] => []
  | d :: demands => (r.opening t d).toList ++ begun t (r.step t d) demands

theorem opening_phase (t : Backend.Transport σ) {d : Demand} {request : Connect}
    (h : r.opening t d = some request) :
    r.session.flags.phase = .notConnected ∧
      (r.step t d).session.flags.phase = .connecting := by
  cases d with
  | receive now parcel =>
    have hphase := Session.receive_phase t r.session r.world now parcel
    simp only [opening] at h
    simp only [step]
    generalize r.session.receive t r.world now parcel = out at h hphase
    obtain ⟨reception, session, world⟩ := out
    cases reception with
    | handled => cases h
    | beginConnect request => exact hphase
  | complete now outcome => cases h
  | checkKeepAlive now => cases h
  | shutdown cause => cases h

/-- Once the first phase is left, no CONNECT is begun. -/
theorem begun_eq_nil (t : Backend.Transport σ) (h : r.Situation)
    (hphase : r.session.flags.phase ≠ .notConnected) (demands : List Demand) :
    r.begun t demands = [] := by
  induction demands generalizing r with
  | nil => rfl
  | cons d demands ih =>
    have hnone : r.opening t d = none := by
      cases hopening : r.opening t d with
      | none => rfl
      | some request => exact absurd (opening_phase t hopening).1 hphase
    have hleft : (r.step t d).session.flags.phase ≠ .notConnected := by
      intro hfirst
      rcases step_phase t h d with hsame | hnext
      · exact hphase (hsame.symm.trans hfirst)
      · rw [hfirst] at hnext
        cases hnext
    show (r.opening t d).toList ++ begun t (r.step t d) demands = []
    rw [hnone, ih (situation_step t h d) hleft]
    rfl

theorem length_begun_le (t : Backend.Transport σ) (h : r.Situation)
    (demands : List Demand) :
    (r.begun t demands).length ≤ 1 := by
  induction demands generalizing r with
  | nil => exact Nat.zero_le 1
  | cons d demands ih =>
    have hrest := ih (situation_step t h d)
    show ((r.opening t d).toList ++ begun t (r.step t d) demands).length ≤ 1
    cases hopening : r.opening t d with
    | none =>
      rw [Option.toList_none, List.nil_append]
      exact hrest
    | some request =>
      have hconnecting := (opening_phase t hopening).2
      rw [begun_eq_nil t (situation_step t h d) (by simp [hconnecting])]
      exact Nat.le_refl 1

/-! ## Runs -/

theorem Conduct.closed (h : r.Conduct asked)
    (hflag : r.session.flags.misconfigured = true) :
    r.session.flags.closed = true := by
  cases h with
  | unbound hbound hnot => rw [hflag] at hnot; cases hnot
  | loyal e hbound hloyal => rw [hloyal.configured] at hflag; cases hflag
  | fallen e cause taken rest hbound hclosed => exact hclosed
  | asked _ e hbound hclosed => exact hclosed

/-- Whether there is a bridge and what is stored is told by the situation. -/
theorem Situation.resources (h : r.Situation) :
    (r.session.bridge.isSome = true ↔
      r.session.flags.closed = false ∧ r.session.flags.phase = .connected) ∧
    (r.session.pending ≠ [] ∨ r.session.held ≠ none →
      r.session.flags.closed = false ∧
        r.session.flags.phase = .connecting) := by
  cases h with
  | idle h => simp [h.bridge, h.phase, h.pending, h.held]
  | waiting h => simp [h.bridge, h.phase, h.opened]
  | dropped h => simp [h.bridge, h.spent.closed, h.spent.pending, h.spent.held]
  | serving e h => simp [h.flowing.bridge, h.flowing.opened, h.flowing.phase,
    h.pending, h.held]
  | served e cause taken rest h =>
    have hspent := h.halted.spent
    simp [hspent.bridge, hspent.closed, hspent.pending, hspent.held]

theorem Sound.standing (h : r.Sound asked) (hannounced : r.session.Announced) :
    r.session.Standing where
  phase := r.session.flags.exists_unique_phase
  closed := h.conduct.closed
  bridge := h.situation.resources.1
  stores := h.situation.resources.2
  announced := by
    rw [show r.session.signalled = r.session.flags.closed from hannounced]

/-- A session is in order after whatever was asked of it, its flags only move
on, and at most one CONNECT is begun. -/
theorem run_standing (t : Backend.Transport σ) (setup : SessionSetup)
    (connectionId : String) (now : Nat) (w : World σ) (demands : List Demand) :
    let r₀ := start setup connectionId now w
    let r := r₀.run t demands
    r.session.Standing ∧ (r₀.begun t demands).length ≤ 1 ∧
      ∀ d, r.session.flags.Precedes (r.step t d).session.flags := by
  intro r₀ r
  have hstart : r₀.Sound True := sound_start setup connectionId now w
  have hsound : r.Sound True := sound_run t hstart demands
  have hannounced : r.session.Announced := run_announced t (r := r₀) rfl demands
  refine ⟨hsound.standing hannounced, ?_, ?_⟩
  · exact length_begun_le t hstart.situation demands
  · intro d
    exact step_precedes t hsound.situation d

end Run

end DeviceGateway
