import DeviceGateway.Proofs.Session.Standing

/-!
# Supervision of a device

A device that says nothing for longer than its timeout is to be closed, and no
other.  The deadline that a session gives for its next check is stale most of
the time, since it is not moved when the device is heard from, so a check may
come when the device was heard from a moment ago, and then it sets the next
deadline.  A check at the very instant at which the timeout expires closes
nothing yet, and it must not set the same instant again: this is what the
millisecond is for.

The run is watched from outside.  `heardAt` is read off what was asked, not off
the session, and so is the clock.  `Attentive` joins both to the session: it
holds the time at which its device was last heard from, and its deadline is
within its bound.  A step at a time not before the clock keeps it, and every run
is attentive by induction.

A run is `Punctual` if nothing is asked later than a check that is due.  In such
a run the clock never passes the deadline, and so a silent device has at most
one more millisecond than its timeout.

## Main results

* `step_attentive`, `run_attentive`: the session is as it looks from outside.
* `Lapse.lapsed`, `not_lapse`: when a device is found silent, and that it is
  closed then.
* `vigil_closes`: checks made when they are due close a silent device in time.
* `run_supervision`: all of this in any run whose clock does not go back.
-/

namespace DeviceGateway

namespace Demand

/-- The time at which something is asked, if it matters. -/
def time? : Demand → Option Nat
  | .receive now _ => some now
  | .complete now _ => some now
  | .checkKeepAlive now => some now
  | .shutdown _ => none

/-- The failure that is handed to the session from outside. -/
def cause? : Demand → Option Failure
  | .complete _ (.error failure) => some failure
  | .shutdown cause => cause
  | _ => none

/-- Demands whose clock starts at some time and does not go back. -/
def Steady (clock : Nat) (demands : List Demand) : Prop :=
  (clock :: demands.filterMap time?).Pairwise (· ≤ ·)

/-- The clock after some demands. -/
def clockAt (clock : Nat) (demands : List Demand) : Nat :=
  demands.foldl (fun clock d => d.time?.getD clock) clock

theorem Steady.tail {clock : Nat} {d : Demand} {demands : List Demand}
    (h : Steady clock (d :: demands)) :
    (∀ now, d.time? = some now → clock ≤ now) ∧
      Steady (d.time?.getD clock) demands := by
  unfold Steady at h ⊢
  cases htime : d.time? with
  | none =>
    rw [List.filterMap_cons_none htime] at h
    exact ⟨nofun, h⟩
  | some now =>
    rw [List.filterMap_cons_some htime] at h
    rw [List.pairwise_cons] at h
    refine ⟨?_, h.2⟩
    intro now' hsome
    cases hsome
    exact h.1 now (List.mem_cons_self)

theorem Steady.cons {clock now : Nat} {d : Demand} {demands : List Demand}
    (htime : d.time? = some now) (hclock : clock ≤ now)
    (h : Steady now demands) :
    Steady clock (d :: demands) := by
  unfold Steady at h ⊢
  rw [List.filterMap_cons_some htime, List.pairwise_cons]
  refine ⟨?_, h⟩
  intro later hlater
  rcases List.mem_cons.1 hlater with rfl | hrest
  · exact hclock
  · exact Nat.le_trans hclock (List.rel_of_pairwise_cons h hrest)

end Demand

namespace Run

open Demand (Steady clockAt)

variable {σ : Type} {r : Run σ} {heard clock : Nat}

/-! ## Seen from outside -/

/-- When the device was last heard from, after one more thing was asked. -/
def hears (r : Run σ) (heard : Nat) : Demand → Nat
  | .receive now _ => if r.session.flags.closed then heard else now
  | _ => heard

/-- When the device was last heard from: at the last parcel that came to an open
session. -/
def heardAt (t : Backend.Transport σ) (r : Run σ) (heard : Nat) :
    List Demand → Nat
  | [] => heard
  | d :: demands => heardAt t (r.step t d) (r.hears heard d) demands

/-- A run whose session knows when its device was last heard from, and is looked
at in time. -/
structure Attentive (r : Run σ) (heard clock : Nat) : Prop where
  situation : r.Situation
  onTime : r.session.OnTime
  last : r.session.lastActivity = heard
  past : heard ≤ clock

private theorem start_attentive (setup : SessionSetup) (connectionId : String)
    (now : Nat) (w : World σ) :
    (start setup connectionId now w).Attentive now now where
  situation := situation_start setup connectionId now w
  onTime :=
    { connected := fun hpos => absurd rfl hpos
      scheduled := fun hsupervised => absurd rfl hsupervised.2.2
      unscheduled := fun _ => rfl }
  last := rfl
  past := Nat.le_refl now

private theorem step_heard (t : Backend.Transport σ)
    (hheard : r.session.lastActivity = heard) (d : Demand) :
    (r.step t d).session.lastActivity = r.hears heard d := by
  cases d with
  | receive now parcel =>
    rw [hears, ← hheard]
    exact (Session.receive_heard t _ _ now parcel).1
  | complete now outcome =>
    simp only [step]
    split
    · exact (Session.complete_heard t _ _ now outcome).trans hheard
    · exact hheard
  | checkKeepAlive now =>
    exact (Session.checkKeepAlive_heard t _ _ now).trans hheard
  | shutdown cause => exact (Session.shutdown_heard t _ _ cause).trans hheard

private theorem step_onTime (t : Backend.Transport σ)
    (h : r.Attentive heard clock) {d : Demand}
    (hclock : ∀ now, d.time? = some now → clock ≤ now) :
    (r.step t d).session.OnTime := by
  have hlast : ∀ now, d.time? = some now → r.session.lastActivity ≤ now := by
    intro now htime
    rw [h.last]
    exact Nat.le_trans h.past (hclock now htime)
  cases d with
  | receive now parcel =>
    exact Session.receive_onTime t h.onTime _ (hlast now rfl) parcel
  | complete now outcome =>
    by_cases hawaiting : r.awaiting = true
    · simp only [step, hawaiting, if_true]
      by_cases hclosed : r.session.flags.closed = true
      · cases outcome with
        | error failure => exact Session.shutdown_onTime t h.onTime _ _
        | ok e =>
          rw [Session.complete_of_closed t hclosed]
          exact h.onTime
      · have hwaiting := h.situation.waiting_of_awaiting
          (Bool.eq_false_iff.2 hclosed) hawaiting
        exact Session.complete_onTime t h.onTime (by simp [hwaiting.phase]) _
          (hlast now rfl) _
    · simp only [step, hawaiting]
      exact h.onTime
  | checkKeepAlive now =>
    exact Session.checkKeepAlive_onTime t h.onTime.connected _ (hlast now rfl)
  | shutdown cause => exact Session.shutdown_onTime t h.onTime _ cause

theorem step_attentive (t : Backend.Transport σ) (h : r.Attentive heard clock)
    {d : Demand} (hclock : ∀ now, d.time? = some now → clock ≤ now) :
    (r.step t d).Attentive (r.hears heard d) (d.time?.getD clock) where
  situation := situation_step t h.situation d
  onTime := step_onTime t h hclock
  last := step_heard t h.last d
  past := by
    have hpast := h.past
    cases d with
    | receive now parcel =>
      have hnow := hclock now rfl
      show (if r.session.flags.closed then heard else now) ≤ now
      split <;> omega
    | complete now outcome => exact Nat.le_trans hpast (hclock now rfl)
    | checkKeepAlive now => exact Nat.le_trans hpast (hclock now rfl)
    | shutdown cause => exact hpast

theorem run_attentive (t : Backend.Transport σ) (h : r.Attentive heard clock)
    {demands : List Demand} (hsteady : Steady clock demands) :
    (r.run t demands).Attentive (r.heardAt t heard demands)
      (clockAt clock demands) := by
  induction demands generalizing r heard clock with
  | nil => exact h
  | cons d demands ih =>
    obtain ⟨hclock, hrest⟩ := hsteady.tail
    exact ih (step_attentive t h hclock) hrest

/-! ## Finding a device silent -/

/-- What finds a device silent at some time for longer than some timeout: a
check of a session that is looked at, or a CONNECT that succeeds when the device
has been silent for too long already. -/
inductive Lapse (r : Run σ) (heard : Nat) : Demand → Nat → Nat → Prop
  | check (now : Nat) (hsupervised : r.session.Supervised)
      (hlate : r.session.keepAlive < now - heard) :
      Lapse r heard (.checkKeepAlive now) now r.session.keepAlive
  | completion (now : Nat) (e : Established)
      (hopen : r.session.flags.closed = false) (hawaiting : r.awaiting = true)
      (hpos : e.keepAlive ≠ 0) (hlate : e.keepAlive < now - heard) :
      Lapse r heard (.complete now (.ok e)) now e.keepAlive

/-- A session that was connected and was closed at some time because its device
was silent for longer than its timeout. -/
structure Lapsed (r r' : Run σ) (heard now timeout : Nat) : Prop where
  closed : r'.session.flags.closed = true
  phase : r'.session.flags.phase = .connected
  deadline : r'.session.deadline = none
  keepAlive : r'.session.keepAlive = timeout
  late : heard + timeout < now
  timeouts : r'.world.timeouts =
    r.world.timeouts ++ [r'.session.silenceFailure (now - heard)]

/-- The failure of a silent device speaks of the connection and the timeout. -/
theorem silenceFailure_congr {s s' : Session}
    (hconnection : s'.connectionId = s.connectionId)
    (hkeepAlive : s'.keepAlive = s.keepAlive) (elapsed : Nat) :
    s'.silenceFailure elapsed = s.silenceFailure elapsed := by
  unfold Session.silenceFailure
  rw [hconnection, hkeepAlive]

theorem Lapse.lapsed (t : Backend.Transport σ)
    (hlast : r.session.lastActivity = heard) {d : Demand} {now timeout : Nat}
    (hlapse : r.Lapse heard d now timeout) :
    Lapsed r (r.step t d) heard now timeout := by
  have hconnection := (step_keeps t r d).connectionId
  cases hlapse with
  | check now hsupervised hlate =>
    rw [← hlast] at hlate
    have hlapsed := Session.checkKeepAlive_lapsed t hsupervised r.world hlate
    constructor
    · exact hlapsed.closed
    · exact hlapsed.phase.trans hsupervised.2.1
    · exact hlapsed.deadline
    · exact hlapsed.keepAlive
    · omega
    · rw [silenceFailure_congr hconnection hlapsed.keepAlive, ← hlast]
      exact hlapsed.timeouts
  | completion now e hopen hawaiting hpos hlate =>
    rw [← hlast] at hlate
    have hlapsed := Session.complete_lapsed t hopen r.world hpos hlate
    have hstep : r.step t (.complete now (.ok e)) = { r.conclude (.ok e) with
        session := (r.session.complete t r.world now (.ok e)).1
        world := (r.session.complete t r.world now (.ok e)).2 } := by
      simp only [step, hawaiting, if_true]
    rw [hstep] at hconnection ⊢
    constructor
    · exact hlapsed.closed
    · exact hlapsed.phase
    · exact hlapsed.deadline
    · exact hlapsed.keepAlive
    · omega
    · rw [silenceFailure_congr (s := r.session.bind e) hconnection
        hlapsed.keepAlive, ← hlast]
      exact hlapsed.timeouts

/-- Nothing else finds a device silent, unless somebody outside says that it
was. -/
theorem not_lapse (t : Backend.Transport σ) (h : r.Attentive heard clock)
    {d : Demand} (hd : Failure.Unlike d.cause?)
    (hnot : ∀ now timeout, ¬ r.Lapse heard d now timeout) :
    (r.step t d).world.timeouts = r.world.timeouts := by
  cases d with
  | receive now parcel => exact (Session.receive_heard t _ _ now parcel).2
  | complete now outcome =>
    by_cases hawaiting : r.awaiting = true
    · simp only [step, hawaiting, if_true]
      cases outcome with
      | error failure =>
        have hpaced := Session.shutdown_paced t r.session
          (r.world.count fun m => m.recordConnect (some failure.code)) hd
        exact hpaced.timeouts
      | ok e =>
        by_cases hclosed : r.session.flags.closed = true
        · rw [Session.complete_of_closed t hclosed]
          simp [World.timeouts, Happening.timeout?]
        · apply Session.complete_timely
          rw [h.last]
          by_cases hzero : e.keepAlive = 0
          · exact .inl hzero
          · right
            apply Nat.le_of_not_lt
            intro hlate
            exact hnot _ _ (.completion now e (Bool.eq_false_iff.2 hclosed)
              hawaiting hzero hlate)
    · simp only [step, hawaiting]
      rfl
  | checkKeepAlive now =>
    simp only [step]
    by_cases hsupervised : r.session.Supervised
    · by_cases hlate : r.session.keepAlive < now - heard
      · exact absurd (.check now hsupervised hlate) (hnot _ _)
      · have hcase := Session.checked t r.session r.world now
        generalize r.session.checkKeepAlive t r.world now = out at hcase
        cases hcase with
        | unsupervised hquiet => rfl
        | silent hopen hpos hlate' =>
          rw [h.last] at hlate'
          exact absurd hlate' hlate
        | timely hopen hpos htimely => rfl
    · rw [Session.checkKeepAlive_idle t h.onTime hsupervised]
  | shutdown cause =>
    exact (Session.shutdown_paced t r.session r.world hd).timeouts

/-! ## Checks that are made when they are due -/

/-- Demands of which none comes later than a check that is due before it. -/
def Punctual (t : Backend.Transport σ) (r : Run σ) : List Demand → Prop
  | [] => True
  | d :: demands =>
    (∀ now due, d.time? = some now → r.session.deadline = some due →
      now ≤ due) ∧
      Punctual t (r.step t d) demands

/-- The checks that are made when they are due, up to a number of them. -/
def vigil (t : Backend.Transport σ) : Nat → Run σ → List Demand
  | 0, _ => []
  | count + 1, r =>
    match r.session.deadline with
    | none => []
    | some due =>
      .checkKeepAlive due :: vigil t count (r.step t (.checkKeepAlive due))

/-- The clock does not pass a check that is due. -/
def Abreast (r : Run σ) (clock : Nat) : Prop :=
  ∀ due, r.session.deadline = some due → clock ≤ due

private theorem step_reschedules (t : Backend.Transport σ) (r : Run σ)
    {d : Demand} {now : Nat} (htime : d.time? = some now) :
    Session.Reschedules now r.session (r.step t d).session := by
  cases d with
  | receive now' parcel =>
    cases htime
    exact Session.receive_reschedules t _ _ now parcel
  | complete now' outcome =>
    cases htime
    simp only [step]
    split
    · exact Session.complete_reschedules t _ _ now outcome
    · exact .of_eq rfl
  | checkKeepAlive now' =>
    cases htime
    exact Session.checkKeepAlive_reschedules t _ _ now
  | shutdown cause => cases htime

/-- Closing does not look at the clock, so any time that is too late will do for
it. -/
private theorem step_abreast (t : Backend.Transport σ) (h : r.Abreast clock)
    {d : Demand}
    (hpunctual : ∀ now due, d.time? = some now →
      r.session.deadline = some due → now ≤ due) :
    (r.step t d).Abreast (d.time?.getD clock) := by
  intro due hdue
  cases htime : d.time? with
  | some now =>
    rcases step_reschedules t r htime due hdue with hbefore | hahead
    · exact hpunctual now due htime hbefore
    · exact hahead
  | none =>
    cases d with
    | receive now parcel => cases htime
    | complete now outcome => cases htime
    | checkKeepAlive now => cases htime
    | shutdown cause =>
      rcases Session.shutdown_reschedules t r.session r.world cause
        (due + 1) due hdue with
        hbefore | hahead
      · exact h due hbefore
      · omega

private theorem run_abreast (t : Backend.Transport σ) (h : r.Abreast clock)
    {demands : List Demand} (hpunctual : r.Punctual t demands) :
    (r.run t demands).Abreast (clockAt clock demands) := by
  induction demands generalizing r clock with
  | nil => exact h
  | cons d demands ih => exact ih (step_abreast t h hpunctual.1) hpunctual.2

/-- A check before the timeout sets the next one, and does nothing else. -/
theorem step_timely (t : Backend.Transport σ)
    (hsupervised : r.session.Supervised)
    (hlast : r.session.lastActivity = heard) {now : Nat} (hpast : heard ≤ now)
    (htimely : now - heard ≤ r.session.keepAlive) :
    r.step t (.checkKeepAlive now) = { r with session := { r.session with
      deadline := some (max (heard + r.session.keepAlive) (now + millisecond))
        } } := by
  subst hlast
  simp only [step, Session.checkKeepAlive_timely t hsupervised r.world hpast
    htimely]

/-- A silent device is closed by the checks that are made when they are due,
within a millisecond after its timeout.  Before the timeout a check only sets
the next one: when the timeout expires or, if that is less than a millisecond
ahead, a millisecond later. -/
theorem vigil_closes (t : Backend.Transport σ) {due count : Nat}
    (hsupervised : r.session.Supervised)
    (hlast : r.session.lastActivity = heard)
    (hdue : r.session.deadline = some due) (hpast : heard ≤ due)
    (hclock : clock ≤ due)
    (hbound : due ≤ heard + r.session.keepAlive + millisecond)
    (hcount : (heard + r.session.keepAlive < due ∧ 1 ≤ count) ∨
      (heard + r.session.keepAlive < due + millisecond ∧ 2 ≤ count) ∨
        3 ≤ count) :
    Steady clock (r.vigil t count) ∧
    ∃ now, (r.vigil t count).getLast? = some (.checkKeepAlive now) ∧
      now ≤ heard + r.session.keepAlive + millisecond ∧
      Lapsed r (r.run t (r.vigil t count)) heard now r.session.keepAlive := by
  induction count generalizing r due clock with
  | zero => omega
  | succ count ih =>
    have hvigil : r.vigil t (count + 1) =
        .checkKeepAlive due ::
          (r.step t (.checkKeepAlive due)).vigil t count := by
      simp only [vigil, hdue]
    rw [hvigil]
    by_cases hlate : r.session.keepAlive < due - heard
    · have hlapsed := Lapse.lapsed t hlast (.check due hsupervised hlate)
      have hnothing : (r.step t (.checkKeepAlive due)).vigil t count = [] := by
        cases count with
        | zero => rfl
        | succ count => simp only [vigil, hlapsed.deadline]
      rw [hnothing]
      refine ⟨?_, due, rfl, hbound, hlapsed⟩
      exact .cons rfl hclock (List.pairwise_singleton _ _)
    · have hstep := step_timely t hsupervised hlast hpast
        (Nat.le_of_not_lt hlate)
      have hahead : due < due + millisecond :=
        Nat.lt_add_of_pos_right (by decide)
      generalize hnext : max (heard + r.session.keepAlive) (due + millisecond) =
        next at hstep
      obtain ⟨hsteady, now, hfound, hwithin, hlapsed⟩ :=
        @ih (r.step t (.checkKeepAlive due)) due next
          (by rw [hstep]; exact hsupervised) (by rw [hstep]; exact hlast)
          (by rw [hstep]) (by omega) (by omega)
          (by rw [hstep]; show next ≤ heard + r.session.keepAlive + _; omega)
          (by
            rw [hstep]
            show (heard + r.session.keepAlive < next ∧ 1 ≤ count) ∨
              (heard + r.session.keepAlive < next + millisecond ∧ 2 ≤ count) ∨
                3 ≤ count
            omega)
      refine ⟨.cons rfl hclock hsteady, now, ?_, ?_, ?_⟩
      · rw [List.getLast?_cons, hfound]
        rfl
      · rw [hstep] at hwithin
        exact hwithin
      · have hsame : (r.step t (.checkKeepAlive due)).session.keepAlive =
            r.session.keepAlive ∧
            (r.step t (.checkKeepAlive due)).world = r.world := by
          rw [hstep]
          exact ⟨rfl, rfl⟩
        rw [hsame.1] at hlapsed
        have htimeouts := hlapsed.timeouts
        rw [hsame.2] at htimeouts
        exact { hlapsed with timeouts := htimeouts }

/-- A run whose clock does not go back, seen from outside.  A session that is
looked at has its next check scheduled, at most a millisecond after the timeout
would expire, and no other session has one.  A check closes the session if its
device has been silent for longer than the timeout; otherwise it sets the next
check, later than itself, and does nothing else.  Nothing but such a check finds
a device silent, or a CONNECT that takes longer than the device may be silent.

If checks are made when they are due, no session that is looked at is found
later than a millisecond after its timeout, none is closed before, and one whose
device says nothing more is closed in this millisecond. -/
theorem run_supervision (t : Backend.Transport σ) (setup : SessionSetup)
    (connectionId : String) (began : Nat) (w : World σ) (demands : List Demand)
    (hsteady : Steady began demands) :
    let r₀ := start setup connectionId began w
    let r := r₀.run t demands
    let heard := r₀.heardAt t began demands
    let clock := clockAt began demands
    let timeout := r.session.keepAlive
    r.session.lastActivity = heard ∧
    (r.session.Supervised → ∃ due, r.session.deadline = some due ∧
      due ≤ heard + timeout + millisecond) ∧
    (¬ r.session.Supervised → r.session.deadline = none) ∧
    (∀ now, clock ≤ now → r.session.Supervised →
      (timeout < now - heard →
        Lapsed r (r.step t (.checkKeepAlive now)) heard now timeout) ∧
      (now - heard ≤ timeout → ∃ due,
        due = max (heard + timeout) (now + millisecond) ∧
        now < due ∧ r.step t (.checkKeepAlive now) =
          { r with session := { r.session with deadline := some due } })) ∧
    (∀ d, Failure.Unlike d.cause? →
      (∀ now timeout, r.Lapse heard d now timeout →
        Lapsed r (r.step t d) heard now timeout) ∧
      ((∀ now timeout, ¬ r.Lapse heard d now timeout) →
        (r.step t d).world.timeouts = r.world.timeouts)) ∧
    (r₀.Punctual t demands → r.session.Supervised →
      clock ≤ heard + timeout + millisecond ∧
      (∀ now due, r.session.deadline = some due → now ≤ due →
        r.Lapse heard (.checkKeepAlive now) now timeout →
        heard + timeout < now ∧ now ≤ heard + timeout + millisecond) ∧
      Steady clock (r.vigil t 3) ∧
      ∃ now, (r.vigil t 3).getLast? = some (.checkKeepAlive now) ∧
        now ≤ heard + timeout + millisecond ∧
        Lapsed r (r.run t (r.vigil t 3)) heard now timeout) := by
  intro r₀ r heard clock timeout
  have hattentive : r.Attentive heard clock :=
    run_attentive t (start_attentive setup connectionId began w) hsteady
  have hlast := hattentive.last
  have hpast := hattentive.past
  refine ⟨hlast, ?_, hattentive.onTime.unscheduled, ?_, ?_, ?_⟩
  · intro hsupervised
    rw [← hlast]
    exact hattentive.onTime.scheduled hsupervised
  · intro now hclock hsupervised
    constructor
    · intro hlate
      exact Lapse.lapsed t hlast (.check now hsupervised hlate)
    · intro htimely
      refine ⟨_, rfl, ?_, ?_⟩
      · have hahead : now < now + millisecond :=
          Nat.lt_add_of_pos_right (by decide)
        omega
      · exact step_timely t hsupervised hlast
          (Nat.le_trans hpast hclock) htimely
  · intro d hd
    constructor
    · intro now timeout hlapse
      exact hlapse.lapsed t hlast
    · exact not_lapse t hattentive hd
  · intro hpunctual hsupervised
    have habreast : r.Abreast clock :=
      run_abreast t (r := r₀) (fun _ h => by cases h) hpunctual
    obtain ⟨due, hdue, hbound⟩ := hattentive.onTime.scheduled hsupervised
    rw [hlast] at hbound
    have hclock := habreast due hdue
    refine ⟨Nat.le_trans hclock hbound, ?_, ?_⟩
    · intro now due' hdue' hnow hlapse
      cases hdue.symm.trans hdue'
      cases hlapse with
      | check _ _ hlate =>
        have hlate' : timeout < now - heard := hlate
        exact ⟨by omega, Nat.le_trans hnow hbound⟩
    · exact vigil_closes t hsupervised hlast hdue (Nat.le_trans hpast hclock)
        hclock hbound (.inr (.inr (Nat.le_refl 3)))

/-- A device with a timeout of three milliseconds, bound after one and heard
from after two, is checked three times before it is closed, at six. -/
theorem run_supervision_three :
    let device : DeviceId := ⟨"d", by decide, by decide⟩
    let taking : Backend.Transport Unit :=
      ⟨fun s _ _ => (.ok ⟨0, "d"⟩, s), fun s _ _ => (.ok (), s), fun s _ => s⟩
    let demands : List Demand :=
      [.receive 0 ⟨some ⟨device, "", "", 2⟩, none⟩,
        .complete millisecond
          (.ok ⟨⟨"d", "", none, true⟩, ⟨some ⟨0, "d"⟩, false⟩,
            3 * millisecond⟩),
        .receive (2 * millisecond)
          ⟨none, some ⟨device, "a", ⟨0, [7]⟩, 0, none⟩⟩]
    let r₀ := start ⟨none, "", 5⟩ "c" 0 { backend := () }
    let r := r₀.run taking demands
    Steady 0 demands ∧ r₀.Punctual taking demands ∧ r.session.Supervised ∧
      r.session.deadline = some (3 * millisecond) ∧
      (r.vigil taking 3).length = 3 ∧
      ∃ now, (r.vigil taking 3).getLast? = some (.checkKeepAlive now) ∧
        now ≤ 2 * millisecond + 3 * millisecond + millisecond ∧
        Lapsed r (r.run taking (r.vigil taking 3)) (2 * millisecond) now
          (3 * millisecond) := by
  intro device taking demands r₀ r
  have hsteady : Steady 0 demands := by
    show List.Pairwise (· ≤ ·) [0, 0, millisecond, 2 * millisecond]
    decide
  have hbound : (r₀.run taking (demands.take 2)).session.deadline =
      some (3 * millisecond) := by
    decide
  have hpunctual : r₀.Punctual taking demands := by
    refine ⟨nofun, nofun, ?_, trivial⟩
    intro now due htime hdue
    obtain rfl : 2 * millisecond = now := Option.some.inj htime
    obtain rfl : 3 * millisecond = due :=
      Option.some.inj (hbound.symm.trans hdue)
    decide
  have hsupervised : r.session.Supervised := ⟨by decide, by decide, by decide⟩
  have hheard : r₀.heardAt taking 0 demands = 2 * millisecond := by decide
  have htimeout : r.session.keepAlive = 3 * millisecond := by decide
  obtain ⟨-, -, -, -, -, hclosing⟩ :=
    run_supervision taking ⟨none, "", 5⟩ "c" 0 { backend := () } demands hsteady
  obtain ⟨-, -, -, hlast⟩ := hclosing hpunctual hsupervised
  rw [hheard, htimeout] at hlast
  exact ⟨hsteady, hpunctual, hsupervised, by decide, by decide, hlast⟩

end Run

end DeviceGateway
