import DeviceGateway.Proofs.Session.Order

/-!
# Closing is final

A session that is closed stays as it is, whatever it is asked for: even the
outcome of a CONNECT that was begun before finds it closed, and then the bridge
that the outcome brings is put away at once.  So a bridge cannot be left over.
Every bridge that a run brought to a session is put away exactly once when the
session is closed, and none before.

A session may be asked to close more than once, by others or by itself in the
middle of an operation.  The bridge it was bound to is told of the first cause
only, under the operation that this cause names, and under `Shutdown` if it
names none.

## Main results

* `closing_final`: what closes a session, what is left of a closed one, and that
  this stays so.
* `told_scope`: the scope of the cause a bridge is told of.
-/

namespace DeviceGateway

/-- The innermost scope of a cause wins, and what it lacks is filled in. -/
theorem Session.told_scope (s : Session) (cause : Option Failure) :
    s.told cause = cause.map fun f =>
      { f with
        scope :=
          ⟨some (f.scope.operation.getD "Shutdown"),
            some (f.scope.connection.getD s.connectionId)⟩ } := by
  cases cause with
  | none => rfl
  | some f =>
    obtain ⟨code, message, transient, ⟨operation, connection⟩⟩ := f
    cases operation <;> cases connection <;> rfl

namespace Run

variable {σ : Type}

/-- The bridges that a run has to put away, each with what it is told. -/
def dues (r : Run σ) (cause : Option Failure) :
    List (Bridge × Option Failure) :=
  (r.bound.toList.map fun e => (e.bridge, cause)) ++ r.late.toList.map fun e =>
    (e.bridge, none)

theorem Situation.spent {r : Run σ} (h : r.Situation)
    (hclosed : r.session.flags.closed = true) :
    r.session.Spent := by
  cases h with
  | idle h => exact absurd hclosed (by simp [h.opened])
  | waiting h => exact absurd hclosed (by simp [h.opened])
  | dropped h => exact h.spent
  | serving e h => exact absurd hclosed (by simp [h.flowing.opened])
  | served e cause taken rest h => exact h.halted.spent

theorem Situation.untouched {r : Run σ} (h : r.Situation)
    (hopen : r.session.flags.closed = false) :
    r.world.disposals = [] ∧ r.world.causes = [] := by
  cases h with
  | idle h => exact ⟨h.disposals, h.causes⟩
  | waiting h => exact ⟨h.disposals, h.causes⟩
  | dropped h => exact absurd h.spent.closed (by simp [hopen])
  | serving e h => exact ⟨h.flowing.disposals, h.flowing.causes⟩
  | served e cause taken rest h =>
    exact absurd h.halted.spent.closed (by simp [hopen])

/-- A run brings one bridge at most, and a closed session has put it away. -/
theorem Situation.disposed {r : Run σ} (h : r.Situation)
    (hclosed : r.session.flags.closed = true) :
    (r.bound = none ∨ r.late = none) ∧
      ∃ cause, r.world.causes.head? = some cause ∧
        r.world.disposals = r.dues (r.session.told cause) := by
  cases h with
  | idle h => exact absurd hclosed (by simp [h.opened])
  | waiting h => exact absurd hclosed (by simp [h.opened])
  | dropped h =>
    obtain ⟨cause, hcause⟩ := h.causes
    refine ⟨.inl h.bound, cause, hcause, ?_⟩
    rw [h.disposals, dues, h.bound]
    rfl
  | serving e h => exact absurd hclosed (by simp [h.flowing.opened])
  | served e cause taken rest h =>
    refine ⟨.inr h.late, cause, h.halted.causes, ?_⟩
    rw [h.halted.disposals, dues, h.bound, h.late]
    rfl

/-- Asking a session to close closes it, and if it was open, this cause is the
first. -/
theorem Situation.closes {r : Run σ} (h : r.Situation) (t : Backend.Transport σ)
    (cause : Option Failure) :
    (r.step t (.shutdown cause)).session.flags.closed = true ∧
      (r.session.flags.closed = false →
        (r.step t (.shutdown cause)).world.causes = [cause]) := by
  refine ⟨Session.shutdown_closed t r.session r.world cause, fun hopen => ?_⟩
  have hcauses := (h.untouched hopen).2
  simp [step, Session.view_shutdown t hopen, hcauses]

/-- In every run, a session that is open was not asked to close, and no bridge
was put away; asking it to close closes it, and this cause is the first.  One
that is closed holds nothing, stays as it is whatever it is asked for next, and
offers nothing more; and each bridge that the run brought was put away once,
with the first cause if the session was bound to it, and without a cause if it
came too late. -/
theorem closing_final (t : Backend.Transport σ) (setup : SessionSetup)
    (connectionId : String) (now : Nat) (w : World σ) (demands : List Demand) :
    let r := (start setup connectionId now w).run t demands
    (r.session.flags.closed = false →
      r.world.disposals = [] ∧ r.world.causes = []) ∧
    (∀ cause, (r.step t (.shutdown cause)).session.flags.closed = true ∧
      (r.session.flags.closed = false →
        (r.step t (.shutdown cause)).world.causes = [cause])) ∧
    (r.session.flags.closed = true →
      (r.session.pending = [] ∧ r.session.held = none ∧
        r.session.deadline = none ∧ r.session.bridge = none) ∧
      (∀ d, (r.step t d).session = r.session ∧
        (r.step t d).world.offers = r.world.offers) ∧
      (∀ now' parcel, (r.session.receive t r.world now' parcel).1 = .handled) ∧
      (r.bound = none ∨ r.late = none) ∧
      ∃ cause, r.world.causes.head? = some cause ∧
        r.world.disposals = r.dues (cause.map fun f =>
          { f with
            scope :=
              ⟨some (f.scope.operation.getD "Shutdown"),
                some (f.scope.connection.getD connectionId)⟩ })) := by
  intro r
  have hconnection : r.session.connectionId = connectionId :=
    (run_keeps t _ demands).connectionId
  have hsituation : r.Situation :=
    situation_run t (situation_start setup connectionId now w) demands
  clear_value r
  refine ⟨hsituation.untouched, hsituation.closes t, fun hclosed => ?_⟩
  have hspent := hsituation.spent hclosed
  obtain ⟨hone, cause, hcause, hdisposals⟩ := hsituation.disposed hclosed
  refine ⟨⟨hspent.pending, hspent.held, hspent.deadline, hspent.bridge⟩,
    fun d => ?_, fun now' parcel => ?_, hone, cause, hcause, ?_⟩
  · have hstep := unmoved_of_spent t hspent d
    exact ⟨hstep.session, hstep.offers⟩
  · rw [Session.receive_of_closed t hclosed]
  · rw [hdisposals, Session.told_scope, hconnection]

end Run

end DeviceGateway
