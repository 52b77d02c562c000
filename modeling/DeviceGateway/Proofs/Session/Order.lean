import DeviceGateway.Proofs.Session.Run

/-!
# The order of relayed packets

A session stores packets in two places while its CONNECT is worked on, and in
none afterwards, so the order in which packets reach the backend is that of
neither store.  It is the order of the line of a run: what waited, then what
came with the CONNECT unless it has no payload, then what came since.

Along this line nothing is lost, repeated or put out of order.  What the
backend accepted is the front of the line.  It is the whole line as long as the
session is open; a session that is closed accepts nothing more, and if it was
closed before the end of its line, then because of the first packet that is
missing, or because its device was silent before anything was relayed.

## Main results

* `relay_order`: what the backend accepted in any run.
* `step_keeps`, `run_keeps`: what lasts in a run.
-/

namespace DeviceGateway.Run

open Session (Stop OfferedBy)

variable {σ : Type}

theorem step_keeps (t : Backend.Transport σ) (r : Run σ) (d : Demand) :
    r.session.Keeps (r.step t d).session := by
  cases d with
  | receive now parcel => exact Session.receive_keeps t _ _ now parcel
  | complete now outcome =>
    simp only [step]
    split
    · exact Session.complete_keeps t _ _ now outcome
    · exact .refl _
  | checkKeepAlive now => exact Session.checkKeepAlive_keeps t _ _ now
  | shutdown cause => exact Session.shutdown_keeps t _ _ cause

theorem run_keeps (t : Backend.Transport σ) (r : Run σ)
    (demands : List Demand) :
    r.session.Keeps (r.run t demands).session := by
  induction demands generalizing r with
  | nil => exact .refl _
  | cons d demands ih => exact (step_keeps t r d).trans (ih (r.step t d))

/-- However a run goes on, a closed session offers nothing more. -/
theorem offers_run_of_spent (t : Backend.Transport σ) {r : Run σ}
    (h : r.session.Spent) (demands : List Demand) :
    (r.run t demands).world.offers = r.world.offers := by
  induction demands generalizing r with
  | nil => rfl
  | cons d demands ih =>
    have hstep := unmoved_of_spent t h d
    have hspent : (r.step t d).session.Spent := by
      rw [hstep.session]
      exact h
    exact (ih hspent).trans hstep.offers

/-- The first CONNECT that reaches an open session begins, whatever data comes
with it. -/
theorem receive_connect (t : Backend.Transport σ) {r : Run σ}
    (hopen : r.session.flags.closed = false)
    (hphase : r.session.flags.phase = .notConnected) (now : Nat)
    (request : Connect) (data : Option DataPacket) :
    (r.session.receive t r.world now ⟨some request, data⟩).1 =
      .beginConnect request ∧
      (r.step t (.receive now ⟨some request, data⟩)).awaiting = true ∧
      (r.step t (.receive now ⟨some request, data⟩)).held = data := by
  have hbegun : (r.session.receive t r.world now ⟨some request, data⟩).1 =
      .beginConnect request := by
    simp [Session.receive, hopen, hphase]
  simp only [step, hbegun, note, and_self]

/-- A CONNECT that succeeds binds the session that waits for it, if it is
open. -/
theorem complete_binds (t : Backend.Transport σ) {r : Run σ}
    (hopen : r.session.flags.closed = false) (hawaiting : r.awaiting = true)
    (now : Nat) (e : Established) :
    (r.step t (.complete now (.ok e))).bound = some e := by
  simp [step, hawaiting, conclude, hopen]

/-- In every run, the first CONNECT that reaches an open session begins, and
binds it if it succeeds while the session is open; nothing is offered before.
From then on the messages that the backend accepted are those of the front of
the line, in order; nothing of the line is missing while the session is open,
and a session that is closed has stopped at the first packet missing and accepts
nothing more. -/
theorem relay_order (t : Backend.Transport σ) (setup : SessionSetup)
    (connectionId : String) (now : Nat) (w : World σ) (demands : List Demand) :
    let r := (start setup connectionId now w).run t demands
    (r.session.flags.closed = false → r.session.flags.phase = .notConnected →
      ∀ now' request data,
        (r.session.receive t r.world now' ⟨some request, data⟩).1 =
          .beginConnect request ∧
          (r.step t (.receive now' ⟨some request, data⟩)).awaiting = true ∧
          (r.step t (.receive now' ⟨some request, data⟩)).held = data) ∧
    (r.session.flags.closed = false → r.awaiting = true →
      ∀ now' e, (r.step t (.complete now' (.ok e))).bound = some e) ∧
    (r.bound = none → r.world.offers = []) ∧
    ∀ e, r.bound = some e → OfferedBy e r.world ∧
      ∃ taken rest, r.line = taken ++ rest ∧
        r.world.accepted = taken.map setup.message ∧
        (r.session.flags.closed = false → rest = []) ∧
        (∀ p, rest.head? = some p → r.session.flags.closed = true ∧
          ∃ cause, r.world.causes.head? = some cause ∧
            Stop e r.session cause r.world.offers taken p) ∧
        (r.session.flags.closed = true →
          ∀ more, (r.run t more).world.accepted = r.world.accepted) := by
  intro r
  have hsetup : r.session.setup = setup := (run_keeps t _ demands).setup
  have hsituation : r.Situation :=
    situation_run t (situation_start setup connectionId now w) demands
  clear_value r
  refine ⟨fun hopen hphase => receive_connect t hopen hphase,
    fun hopen hawaiting => complete_binds t hopen hawaiting, ?_⟩
  cases hsituation with
  | idle h =>
    exact ⟨fun _ => h.offers, fun e he => absurd he (by simp [h.bound])⟩
  | waiting h =>
    exact ⟨fun _ => h.offers, fun e he => absurd he (by simp [h.bound])⟩
  | dropped h =>
    exact ⟨fun _ => h.offers, fun e he => absurd he (by simp [h.bound])⟩
  | serving e h =>
    have hopen := h.flowing.opened
    refine ⟨fun hnone => absurd hnone (by simp [h.bound]), fun e' he' => ?_⟩
    obtain rfl : e = e' := Option.some.inj (h.bound.symm.trans he')
    refine ⟨h.flowing.offers, r.line, [], (List.append_nil _).symm, ?_,
      fun _ => rfl, fun p hp => (by cases hp), fun hclosed => ?_⟩
    · rw [← hsetup]
      exact h.flowing.accepted
    · rw [hopen] at hclosed
      cases hclosed
  | served e cause taken rest h =>
    have hhalted := h.halted
    refine ⟨fun hnone => absurd hnone (by simp [h.bound]), fun e' he' => ?_⟩
    obtain rfl : e = e' := Option.some.inj (h.bound.symm.trans he')
    refine ⟨hhalted.offers, taken, rest, h.line, ?_, fun hopen => ?_,
      fun p hp => ?_, fun _ more => ?_⟩
    · rw [← hsetup]
      exact hhalted.accepted
    · rw [hhalted.spent.closed] at hopen
      cases hopen
    · exact ⟨hhalted.spent.closed, cause, hhalted.causes, hhalted.stop p hp⟩
    · exact World.accepted_congr (offers_run_of_spent t hhalted.spent more)

/-- What waited goes before what came with the CONNECT. -/
example :
    let device : DeviceId := ⟨"d", by decide, by decide⟩
    let packet (n : Nat) : DataPacket := ⟨device, "a", ⟨n, [7]⟩, n, none⟩
    let taking : Backend.Transport Unit :=
      ⟨fun s _ _ => (.ok ⟨0, "d"⟩, s), fun s _ _ => (.ok (), s), fun s _ => s⟩
    let r := (start ⟨none, "", 5⟩ "c" 0 { backend := () }).run taking
      [.receive 0 ⟨some ⟨device, "", "", 0⟩, some (packet 0)⟩,
        .receive 1 ⟨none, some (packet 1)⟩,
        .complete 2 (.ok ⟨⟨"d", "", none, true⟩, ⟨some ⟨0, "d"⟩, false⟩, 0⟩),
        .receive 3 ⟨none, some (packet 2)⟩]
    r.world.accepted.map (·.payload.serial) = [1, 0, 2] := by
  decide

end DeviceGateway.Run
