import DeviceGateway.Proofs.Session.Effect

/-!
# Counts decide nothing

A world carries counts beside the backend, the ledger and the journal.  Every
operation adds to them and none looks at them.  So two worlds that differ in
their counts only are alike to a session: an operation does the same in both,
and leaves them as alike as they were.

`Blind` says this of an operation: done where nothing is counted, it gives the
same and differs in nothing but the counts.  It is shown of each operation once.

## Main results

* `Blind.congr`: a blind operation does the same in worlds that are alike.
* `Session.blind_shutdown` to `Session.blind_complete`, `blind_establish`: every
  operation is blind.
-/

namespace DeviceGateway

variable {σ α β : Type}

namespace World

/-- A world in which nothing is counted. -/
def unmetered (w : World σ) : World σ := { w with metrics := none }

/-- An operation that does not look at the counts. -/
def Blind (op : World σ → α × World σ) : Prop :=
  ∀ w, op w.unmetered = ((op w).1, (op w).2.unmetered)

theorem Blind.congr {op : World σ → α × World σ} (h : Blind op) {w w' : World σ}
    (halike : w'.unmetered = w.unmetered) :
    (op w').1 = (op w).1 ∧ (op w').2.unmetered = (op w).2.unmetered := by
  have hsame : ((op w').1, (op w').2.unmetered) =
      ((op w).1, (op w).2.unmetered) := by
    rw [← h w', ← h w, halike]
  exact Prod.mk.inj hsame

/-- One blind operation after the other is blind. -/
theorem Blind.andThen {op : World σ → α × World σ}
    {next : α → World σ → β × World σ} (h : Blind op)
    (hnext : ∀ a, Blind (next a)) : Blind fun w => next (op w).1 (op w).2 := by
  intro w
  dsimp only
  rw [h w]
  exact hnext _ _

theorem Blind.pair {op : World σ → α × World σ} (h : Blind op) (b : β) :
    Blind fun w => ((b, (op w).1), (op w).2) := by
  intro w
  dsimp only
  rw [h w]

@[simp] theorem unmetered_releaseAll (w : World σ) (ps : List DataPacket) :
    (w.releaseAll ps).unmetered = w.unmetered.releaseAll ps := by
  unfold releaseAll
  induction ps generalizing w with
  | nil => rfl
  | cons p ps ih => exact ih (w.release p)

section Backend

variable (t : Backend.Transport σ)

@[simp] theorem unmetered_dispose (w : World σ) (b : Bridge)
    (cause : Option Failure) :
    (w.dispose t b cause).2.unmetered = (w.unmetered.dispose t b cause).2 := by
  unfold dispose
  split <;> rfl

private theorem blind_send (client : Backend.Client) (deviceId : DeviceId)
    (m : Backend.Message) :
    Blind fun w : World σ => w.send t client deviceId m :=
  fun _ => rfl

private theorem blind_openBridge (tenantId : String) (identity : Identity) :
    Blind fun w : World σ => w.openBridge t tenantId identity := by
  intro w
  rcases hconnect : t.connect w.backend tenantId identity with ⟨result, backend⟩
  cases result <;> simp [openBridge, unmetered, hconnect]

end Backend

end World

open World (Blind)

variable (t : Backend.Transport σ)

namespace Session

theorem blind_shutdown (s : Session) (cause : Option Failure) :
    Blind fun w : World σ => s.shutdown t w cause := by
  intro w
  by_cases hclosed : s.flags.closed = true
  · simp only [shutdown, hclosed, if_true]
    rfl
  · cases hbridge : s.bridge <;> simp [shutdown, hclosed, hbridge] <;> rfl

private theorem blind_forward (s : Session) (p : DataPacket) :
    Blind fun w : World σ => s.forward t w p := by
  intro w
  dsimp only [forward]
  cases s.bridge with
  | none => rfl
  | some bridge =>
    dsimp only
    cases bridge.resolve Bridge.events with
    | none => exact blind_shutdown t s _ (w.release p)
    | some client =>
      have hsend := World.blind_send t client p.deviceId (s.messageOf p) w
      dsimp only at hsend ⊢
      rw [hsend]
      generalize w.send t client p.deviceId (s.messageOf p) = out
      obtain ⟨result, w'⟩ := out
      cases result with
      | ok u => rfl
      | error fault =>
        exact blind_shutdown t s _ (w'.count Metrics.recordRelayFailure)

theorem blind_relay (s : Session) (p : DataPacket) :
    Blind fun w : World σ => s.relay t w p := by
  intro w
  unfold relay
  by_cases hclosed : s.flags.closed = true
  · simp only [hclosed, if_true]
    rfl
  · simp only [hclosed, Bool.false_eq_true, if_false]
    cases s.identity with
    | none => exact blind_forward t s p w
    | some bound =>
      dsimp only
      split
      · exact blind_forward t s p w
      · exact blind_shutdown t _ _ (w.release p)

theorem blind_checkKeepAlive (s : Session) (now : Nat) :
    Blind fun w : World σ => s.checkKeepAlive t w now := by
  intro w
  unfold checkKeepAlive
  dsimp only
  split
  · rfl
  · split
    · exact blind_shutdown t _ _ w
    · rfl

/-- What is to be done next belongs to what taking a parcel in gives. -/
theorem blind_receive (s : Session) (now : Nat) (parcel : Parcel) :
    Blind fun w : World σ =>
      (((s.receive t w now parcel).1, (s.receive t w now parcel).2.1),
        (s.receive t w now parcel).2.2) := by
  intro w
  by_cases hclosed : s.flags.closed = true
  · simp [receive, hclosed]
  · obtain ⟨connect, data⟩ := parcel
    simp only [receive, hclosed, Bool.false_eq_true, if_false]
    cases hphase : s.flags.phase <;> cases data <;> cases connect <;> dsimp only
    case notConnected.some.none p =>
      exact (blind_shutdown t _ _).pair Reception.handled (w.release p)
    case connected.some.none p =>
      exact (blind_relay t _ p).pair Reception.handled w
    case connected.some.some p _ =>
      exact (blind_relay t _ p).pair Reception.handled w

private theorem blind_relayPending (count : Nat) (s : Session) :
    Blind fun w : World σ => relayPending t count s w := by
  induction count generalizing s with
  | zero => exact fun _ => rfl
  | succ count ih =>
    intro w
    simp only [relayPending]
    cases s.pending with
    | nil => rfl
    | cons p rest =>
      exact (blind_relay t { s with pending := rest } p).andThen ih w

private theorem blind_relayHeld (s : Session) :
    Blind fun w : World σ => s.relayHeld t w := by
  intro w
  unfold relayHeld
  cases s.held with
  | none => rfl
  | some p =>
    dsimp only
    split
    · rfl
    · exact blind_relay t _ p w

private theorem blind_supervise (s : Session) (now : Nat) :
    Blind fun w : World σ => s.supervise t w now := by
  intro w
  unfold supervise
  dsimp only
  split
  · rfl
  · exact blind_checkKeepAlive t s now w

theorem blind_complete (s : Session) (now : Nat)
    (outcome : Except Failure Established) :
    Blind fun w : World σ => s.complete t w now outcome := by
  intro w
  cases outcome with
  | error failure => exact blind_shutdown t s _ (w.count _)
  | ok e =>
    cases hclosed : s.flags.closed with
    | true => simp [complete_of_closed t hclosed]
    | false =>
      simp only [complete_of_open t hclosed]
      have hdrained := (blind_supervise t (s.bind e) now).andThen
        fun checked => blind_relayPending t checked.pending.length checked
      exact hdrained.andThen (blind_relayHeld t)
        (w.count fun m => m.recordConnect none)

end Session

theorem blind_establish (tenantId : String) (maxKeepAlive : Option Nat)
    (connectionId : String) (request : Connect) :
    Blind fun w : World σ => establish t w tenantId maxKeepAlive connectionId
      request := by
  intro w
  unfold establish
  dsimp only
  split
  · have hopened := World.blind_openBridge t tenantId
      (Identity.authenticate request.deviceId.text request.username
        request.password) w
    dsimp only at hopened
    rw [hopened]
    generalize w.openBridge t tenantId _ = out
    obtain ⟨result, w'⟩ := out
    cases result <;> rfl
  · rfl

end DeviceGateway
