import DeviceGateway.Proofs.Connection.Hearing

/-!
# The loop of a connection in time

The loop of a connection takes the events that are ready at one instant, one
after the other, until none is ready.  In time it does the same: an event is
served, or it begins something that is gone on with round by round.  So the loop
is a run in which no time passes, and what holds of all runs of a connection in
time holds of what the loop does, whatever comes in between.

## Main results

* `ready_worksOff`: the event that is ready is worked off by what happens in
  time.
* `settle_run`: the loop is a run.
-/

namespace DeviceGateway

namespace Clocked

variable {σ : Type} {v : Services σ} {peer : Option Peer} {r r' : Clocked σ}

/-- The surroundings of a connection that waits for its next event. -/
structure Within (r : Clocked σ) (o : Connection.Surroundings) : Prop where
  idle : r.busy = false
  clock : r.clock = o.now
  socket : r.socket.map Prod.snd = o.arrived

/-- An event is worked off at once, and then the connection waits within
surroundings. -/
def WorksOff (v : Services σ) (r : Clocked σ) (e : Connection.Event)
    (o : Connection.Surroundings) : Prop :=
  ∃ steps : List (Nat × Incident σ), (∀ x ∈ steps, x.1 = 0) ∧
    (r.run v steps).Within o ∧
    ((r.run v steps).connection, (r.run v steps).world) =
      r.connection.handle v r.world o.now e

/-- Something happens, and rounds follow at once. -/
theorem worksOff_of_rounds {x : Incident σ} {more : Nat} {e : Connection.Event}
    {o : Connection.Surroundings} (h : (r.happen v x).rounds v more = r')
    (hwithin : r'.Within o)
    (hhandled : (r'.connection, r'.world) =
      r.connection.handle v r.world o.now e) :
    r.WorksOff v e o := by
  refine ⟨(0, x) :: List.replicate more (0, .round), ?_, ?_⟩
  · intro y hy
    rcases List.mem_cons.1 hy with rfl | hround
    · rfl
    · rw [List.eq_of_mem_replicate hround]
  · have hrun : r.run v ((0, x) :: List.replicate more (0, .round)) = r' := h
    rw [hrun]
    exact ⟨hwithin, hhandled⟩

/-- An event that is served takes no rounds. -/
theorem Within.worksOff {o : Connection.Surroundings} (h : r.Within o)
    {x : Incident σ} {e : Connection.Event} (hx : r.happen v x = r.serve v e) :
    r.WorksOff v e o := by
  have hrounds : (r.happen v x).rounds v 0 = r.serve v e := hx
  apply worksOff_of_rounds hrounds ⟨rfl, h.clock, h.socket⟩
  rw [← h.clock]
  rfl

/-- The event that is ready is worked off at once, whichever source it comes
from. -/
theorem ready_worksOff (hears : r.Hears v peer) {o o' : Connection.Surroundings}
    (h : r.Within o) {e : Connection.Event}
    (hready : r.connection.ready o = some (e, o')) :
    r.WorksOff v e o' := by
  obtain ⟨h', hf⟩ := hears.followed
  have hidle := h.idle
  have hwaiting : ¬ r.connection.finished = true →
      ¬ r.connection.session.signalled = true →
      r.waiting = true := by
    intro hgoing hunsignalled
    simp [waiting, hidle, hgoing, hunsignalled]
  unfold Connection.ready at hready
  split at hready
  · cases hready
  next hgoing =>
  split at hready
  · next hsignalled =>
    cases hready
    apply h.worksOff (x := .finish)
    simp [happen, hidle, hsignalled]
  next hunsignalled =>
  have hwaits := hwaiting hgoing hunsignalled
  split at hready
  · cases hready
    apply h.worksOff (x := .leave none)
    simp [happen, hwaits, ending]
  split at hready
  · next hconnecting =>
    rw [Bool.and_eq_true] at hconnecting
    obtain ⟨request, hrequest⟩ := Option.isSome_iff_exists.1 hconnecting.1
    cases hready
    obtain ⟨more, hmore⟩ := conclude_handled hf.resolves hrequest
    have hconclude : r.happen v .conclude = r.conclude v request := by
      simp [happen, hrequest, hwaits]
    rw [← hconclude] at hmore
    refine worksOff_of_rounds hmore ⟨rfl, h.clock, h.socket⟩ ?_
    rw [← h.clock]
    rfl
  split at hready
  · next hdue =>
    cases hready
    apply h.worksOff (x := .check)
    simp only [happen, hwaits, h.clock, hdue]
    rfl
  split at hready
  · cases hready
  next hreading =>
  split at hready
  · cases hready
    obtain ⟨more, hmore⟩ := read_handled hf.resolves r.socket.length
    have hread : r.happen v (.read r.socket.length) =
        r.read r.socket.length := by
      simp [happen, hwaits, hreading]
    rw [← hread] at hmore
    refine worksOff_of_rounds hmore ?_ ?_
    · rw [hread]
      refine ⟨rfl, h.clock, ?_⟩
      show (r.socket.drop r.socket.length).map Prod.snd = []
      rw [List.drop_length]
      rfl
    · rw [hread, List.take_length, h.socket, ← h.clock]
      rfl
  split at hready
  · cases hready
    apply h.worksOff (x := .leave none)
    simp only [happen, hwaits]
    rfl
  · cases hready

/-- Whatever the loop of a connection does at one instant is a run in which no
time passes. -/
theorem settle_run (hears : r.Hears v peer) {o : Connection.Surroundings}
    (h : r.Within o) (fuel : Nat) :
    let out := Connection.settleWith v fuel r.connection r.world o
    ∃ steps : List (Nat × Incident σ), (∀ x ∈ steps, x.1 = 0) ∧
      (r.run v steps).Within out.2.2 ∧
      (r.run v steps).connection = out.1 ∧ (r.run v steps).world = out.2.1 := by
  induction fuel generalizing r o with
  | zero => exact ⟨[], by simp, h, rfl, rfl⟩
  | succ fuel ih =>
    unfold Connection.settleWith
    cases hready : r.connection.ready o with
    | none => exact ⟨[], by simp, h, rfl, rfl⟩
    | some next =>
      obtain ⟨e, o'⟩ := next
      obtain ⟨steps, hzero, hwithin, hhandled⟩ := ready_worksOff hears h hready
      obtain ⟨more, hzero', hrest⟩ := ih (run_hears hears steps) hwithin
      refine ⟨steps ++ more, ?_, ?_⟩
      · intro x hx
        rcases List.mem_append.1 hx with hfront | hback
        · exact hzero x hfront
        · exact hzero' x hback
      · obtain ⟨hconnection, hworld⟩ := Prod.mk.inj hhandled
        rw [run_append]
        rw [hconnection, hworld] at hrest
        exact hrest

end Clocked

end DeviceGateway
