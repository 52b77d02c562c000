import DeviceGateway.Proofs.Session.Pace
import DeviceGateway.Proofs.Session.Run
import DeviceGateway.Settings.Check

/-!
# The upper bound of timeouts

Zero is said twice about a timeout.  A device that declares a keep-alive of zero
wants none, and a session whose timeout is zero is not looked at.  An upper
bound keeps the two apart: it takes the place of a timeout that is zero, so a
device cannot have itself left alone.  The bound itself is taken as it is, and
settings are not refused for one that is zero.  Such a bound is below every
other timeout and takes its place too, and then no device is looked at.

A session whose timeout was computed under any other bound is `Guarded`: when it
is connected it has a timeout within the bound, and a check is scheduled.  What
closes a session or relays for it has no part in this, so the only operations to
be looked at are the check, which sets the next one, and the outcome of the
CONNECT, which brings the timeout.

## Main results

* `keepAliveTimeout_bounds`: a timeout under a bound.
* `step_guarded`: each thing that can be asked leaves a session guarded.
* `run_guarded`: every run under settings with a bound.
* `run_unguarded`: the same with a bound of zero, where it fails.
-/

namespace DeviceGateway

/-- Whatever is declared, the timeout is neither zero nor above the bound. -/
theorem keepAliveTimeout_bounds (secs : UInt16) {bound : Nat}
    (hbound : bound ≠ 0) :
    keepAliveTimeout secs (some bound) ≠ 0 ∧
      keepAliveTimeout secs (some bound) ≤ bound := by
  show (if bound < secs.toNat * 1500 * millisecond ∨
      secs.toNat * 1500 * millisecond =
        0 then bound else secs.toNat * 1500 * millisecond) ≠ 0 ∧
    (if bound < secs.toNat * 1500 * millisecond ∨
      secs.toNat * 1500 * millisecond =
        0 then bound else secs.toNat * 1500 * millisecond) ≤ bound
  split
  · exact ⟨hbound, Nat.le_refl bound⟩
  · next hkept =>
    rw [not_or] at hkept
    exact ⟨hkept.2, Nat.le_of_not_lt hkept.1⟩

/-- What a CONNECT brings was worked out under a bound. -/
def Established.MadeUnder (maxKeepAlive : Option Nat) (e : Established) :
    Prop :=
  ∃ (σ : Type) (t : Backend.Transport σ) (w : World σ)
    (tenantId connectionId : String) (request : Connect),
    (establish t w tenantId maxKeepAlive connectionId request).1 = .ok e

/-- A CONNECT that is worked out has its timeout from what it declares and the
bound. -/
theorem keepAlive_of_establish {σ : Type} {t : Backend.Transport σ}
    {w : World σ} {tenantId connectionId : String} {maxKeepAlive : Option Nat}
    {request : Connect} {e : Established}
    (h : (establish t w tenantId maxKeepAlive connectionId request).1 = .ok e) :
    e.keepAlive = keepAliveTimeout request.keepAliveSecs maxKeepAlive := by
  unfold establish at h
  dsimp only at h
  split at h
  · split at h
    · cases h
    · cases h
      rfl
  · cases h

theorem Established.MadeUnder.bounds {bound : Nat} (hbound : bound ≠ 0)
    {e : Established} (h : e.MadeUnder (some bound)) :
    e.keepAlive ≠ 0 ∧ e.keepAlive ≤ bound := by
  obtain ⟨σ, t, w, tenantId, connectionId, request, hmade⟩ := h
  rw [keepAlive_of_establish hmade]
  exact keepAliveTimeout_bounds request.keepAliveSecs hbound

namespace Session

variable {σ : Type} {s : Session} {w : World σ} {bound : Nat}

/-- A session that is looked at whenever it is connected, and within a bound. -/
def Guarded (bound : Nat) (s : Session) : Prop :=
  s.flags.closed = false → s.flags.phase = .connected →
    s.keepAlive ≠ 0 ∧ s.keepAlive ≤ bound ∧ s.deadline.isSome = true

theorem Guarded.of_closed (hclosed : s.flags.closed = true) :
    s.Guarded bound := by
  intro hopen
  rw [hopen] at hclosed
  cases hclosed

theorem Guarded.of_phase (hphase : s.flags.phase ≠ .connected) :
    s.Guarded bound := by
  intro _ hconnected
  exact absurd hconnected hphase

theorem Paced.guarded {out : Session × World σ} (hpaced : s.Paced w out)
    (h : s.Guarded bound) :
    out.1.Guarded bound := by
  rcases hpaced.outcome with ⟨hclosed, hdeadline, -⟩ | ⟨hclosed, -, -⟩
  · intro hopen hphase
    rw [hclosed] at hopen
    rw [hpaced.phase] at hphase
    rw [hpaced.keepAlive, hdeadline]
    exact h hopen hphase
  · exact .of_closed hclosed

section

variable (t : Backend.Transport σ)

theorem shutdown_guarded (s : Session) (w : World σ) (cause : Option Failure) :
    (s.shutdown t w cause).1.Guarded bound :=
  .of_closed (shutdown_closed t s w cause)

/-- A check schedules the next one, whether or not one was scheduled. -/
theorem checkKeepAlive_guarded
    (h : s.flags.closed = false → s.flags.phase = .connected →
      s.keepAlive ≠ 0 ∧ s.keepAlive ≤ bound)
    (w : World σ) (now : Nat) :
    (s.checkKeepAlive t w now).1.Guarded bound := by
  have hcase := checked t s w now
  generalize s.checkKeepAlive t w now = out at hcase
  cases hcase with
  | unsupervised hquiet =>
    rcases hquiet with hclosed | hzero
    · exact .of_closed hclosed
    · intro hopen hphase
      exact absurd hzero (h hopen hphase).1
  | silent hopen hpos hlate => exact shutdown_guarded t _ w _
  | timely hopen hpos htimely =>
    intro _ hphase
    obtain ⟨-, hbelow⟩ := h hopen hphase
    exact ⟨hpos, hbelow, rfl⟩

private theorem receive_guarded (h : s.Guarded bound) (w : World σ) (now : Nat)
    (parcel : Parcel) :
    (s.receive t w now parcel).2.1.Guarded bound := by
  have hheard : (s.heard now).Guarded bound := h
  have hcase := received t s w now parcel
  generalize s.receive t w now parcel = out at hcase
  cases hcase with
  | dropped hclosed => exact h
  | empty hopen hdata hconnect => exact hheard
  | begun hopen hphase request hconnect =>
    exact .of_phase (by simp [Flags.enter])
  | unexpected hopen hphase hconnect p hdata => exact shutdown_guarded t _ _ _
  | queued hopen hphase p hdata =>
    have hconnecting : ((s.heard now).enqueue p).flags.phase = .connecting :=
      (enqueue_flags (s.heard now) p).2.2.trans hphase
    exact .of_phase (by simp [hconnecting])
  | live hopen hphase p hdata =>
    exact (relay_paced t (s.heard now) w p).guarded hheard

private theorem complete_guarded (h : s.Guarded bound) (w : World σ) (now : Nat)
    {outcome : Except Failure Established}
    (hmade : ∀ e, outcome = .ok e → e.keepAlive ≠ 0 ∧ e.keepAlive ≤ bound) :
    (s.complete t w now outcome).1.Guarded bound := by
  cases outcome with
  | error failure => exact shutdown_guarded t s _ _
  | ok e =>
    by_cases hclosed : s.flags.closed = true
    · rw [complete_of_closed t hclosed]
      exact h
    · obtain ⟨hpos, hbound⟩ := hmade e rfl
      have hchecked : ((s.bind e).supervise t
          (w.count fun m => m.recordConnect none) now).1.Guarded bound := by
        unfold supervise
        rw [if_neg (show (s.bind e).keepAlive ≠ 0 from hpos)]
        exact checkKeepAlive_guarded t (fun _ _ => ⟨hpos, hbound⟩) _ now
      rw [complete_of_open t (Bool.eq_false_iff.2 hclosed)]
      exact (relayHeld_paced t _ _).guarded
        ((relayPending_paced t _ _ _).guarded hchecked)

end

end Session

namespace Run

variable {σ : Type} {r : Run σ} {bound : Nat}

/-- Demands whose CONNECTs were worked out under a bound. -/
def MadeUnder (maxKeepAlive : Option Nat) (demands : List Demand) : Prop :=
  ∀ now e, .complete now (.ok e) ∈ demands → e.MadeUnder maxKeepAlive

theorem step_guarded (t : Backend.Transport σ) (hbound : bound ≠ 0)
    (h : r.session.Guarded bound) {d : Demand}
    (hmade : ∀ now e, d = .complete now (.ok e) → e.MadeUnder (some bound)) :
    (r.step t d).session.Guarded bound := by
  cases d with
  | receive now parcel => exact Session.receive_guarded t h _ now parcel
  | complete now outcome =>
    simp only [step]
    split
    · apply Session.complete_guarded t h
      intro e he
      exact (hmade now e (by rw [he])).bounds hbound
    · exact h
  | checkKeepAlive now =>
    apply Session.checkKeepAlive_guarded t
    intro hopen hphase
    obtain ⟨hpos, hbelow, -⟩ := h hopen hphase
    exact ⟨hpos, hbelow⟩
  | shutdown cause => exact Session.shutdown_guarded t _ _ cause

private theorem steps_guarded (t : Backend.Transport σ) (hbound : bound ≠ 0)
    (h : r.session.Guarded bound) {demands : List Demand}
    (hmade : MadeUnder (some bound) demands) :
    (r.run t demands).session.Guarded bound := by
  induction demands generalizing r with
  | nil => exact h
  | cons d demands ih =>
    apply ih
    · apply step_guarded t hbound h
      intro now e hd
      exact hmade now e (by rw [hd]; exact List.mem_cons_self)
    · intro now e hmem
      exact hmade now e (List.mem_cons_of_mem d hmem)

/-- Settings with an upper bound that is not zero leave no device alone: in any
run, an open session that is connected has a timeout that is not zero and within
the bound, and a check is scheduled. -/
theorem run_guarded (t : Backend.Transport σ) (settings : Settings) {secs : Nat}
    (hmax : settings.session.maxKeepAliveSecs = some secs) (hpos : secs ≠ 0)
    (connectionId : String) (began : Nat) (w : World σ) (demands : List Demand)
    (hmade : MadeUnder (SessionSetup.ofSettings settings.session).maxKeepAlive
      demands) :
    let setup := SessionSetup.ofSettings settings.session
    let s := ((start setup connectionId began w).run t demands).session
    s.flags.closed = false → s.flags.phase = .connected →
      s.keepAlive ≠ 0 ∧ s.keepAlive ≤ secs * 1000 * millisecond ∧
        s.deadline.isSome = true := by
  intro setup s
  have hsetup : setup.maxKeepAlive = some (secs * 1000 * millisecond) := by
    show (settings.session.maxKeepAliveSecs.map (· * 1000)).map (· *
      millisecond) = _
    rw [hmax]
    rfl
  have hbound : secs * 1000 * millisecond ≠ 0 := by
    unfold millisecond
    omega
  exact steps_guarded t hbound (.of_phase (by simp [start])) (hsetup ▸ hmade)

/-- Under a bound of ninety seconds, a device that declares no keep-alive has
ninety. -/
theorem run_guarded_ninety :
    let settings : Settings := { session := { maxKeepAliveSecs := some 90 } }
    let setup := SessionSetup.ofSettings settings.session
    let taking : Backend.Transport Unit :=
      ⟨fun s _ _ => (.ok ⟨0, "d"⟩, s), fun s _ _ => (.ok (), s), fun s _ => s⟩
    let request : Connect := ⟨⟨"d", by decide, by decide⟩, "h/d", "s", 0⟩
    let w : World Unit := { backend := () }
    let outcome := (establish taking w "T" setup.maxKeepAlive "c" request).1
    let s := ((start setup "c" 0 w).run taking
      [.receive 0 ⟨some request, none⟩, .complete millisecond outcome]).session
    settings.session.maxKeepAliveSecs = some 90 ∧
      (s.flags.closed = false ∧ s.flags.phase = .connected) ∧
      s.keepAlive ≠ 0 ∧ s.keepAlive ≤ 90 * 1000 * millisecond ∧
        s.deadline.isSome = true := by
  intro settings setup taking request w outcome s
  have hopen : s.flags.closed = false := by decide +kernel
  have hphase : s.flags.phase = .connected := by decide +kernel
  have hmade : MadeUnder setup.maxKeepAlive
      [.receive 0 ⟨some request, none⟩, .complete millisecond outcome] := by
    intro now e hmem
    have hcomplete : Demand.complete now (.ok e) =
        .complete millisecond outcome := by
      simpa using hmem
    exact ⟨Unit, taking, w, "T", "c", request,
      (Demand.complete.inj hcomplete).2.symm⟩
  exact ⟨rfl, ⟨hopen, hphase⟩,
    run_guarded taking settings rfl (by decide) "c" 0 w _ hmade hopen hphase⟩

/-- Settings with a bound of zero pass the check, and a device that declares a
keep-alive of a minute is connected with no check scheduled. -/
theorem run_unguarded :
    let settings : Settings := { session := { maxKeepAliveSecs := some 0 } }
    let setup := SessionSetup.ofSettings settings.session
    let taking : Backend.Transport Unit :=
      ⟨fun s _ _ => (.ok ⟨0, "d"⟩, s), fun s _ _ => (.ok (), s), fun s _ => s⟩
    let request : Connect := ⟨⟨"d", by decide, by decide⟩, "h/d", "s", 60⟩
    let w : World Unit := { backend := () }
    let outcome := (establish taking w "T" setup.maxKeepAlive "c" request).1
    let demands : List Demand :=
      [.receive 0 ⟨some request, none⟩, .complete millisecond outcome]
    let s := ((start setup "c" 0 w).run taking demands).session
    settings.check = .ok () ∧ MadeUnder setup.maxKeepAlive demands ∧
      s.flags.closed = false ∧ s.flags.phase = .connected ∧
      s.keepAlive = 0 ∧ s.deadline = none := by
  intro settings setup taking request w outcome demands s
  have hpasses : settings.check.isOk = true := by decide +kernel
  have hcheck : settings.check = .ok () := by
    cases hresult : settings.check with
    | ok _ => rfl
    | error fault =>
      rw [hresult] at hpasses
      cases hpasses
  refine ⟨hcheck, ?_, by decide +kernel, by decide +kernel, by decide +kernel,
    by decide +kernel⟩
  intro now e hmem
  have hcomplete : Demand.complete now (.ok e) =
      .complete millisecond outcome := by
    simpa [demands] using hmem
  exact ⟨Unit, taking, w, "T", "c", request,
    (Demand.complete.inj hcomplete).2.symm⟩

end Run

end DeviceGateway
