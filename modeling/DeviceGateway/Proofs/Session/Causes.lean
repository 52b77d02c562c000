import DeviceGateway.Proofs.Session.Effect

/-!
# Where the cause of closing arose

A failure names the operation in which it arose, and the journal keeps the
failures with which a session was asked to close.  A session that closes by
itself names its own operations: relaying, connecting, or checking the
keep-alive.  So if the journal has a failure that arose in decoding, it came
from outside of the session.  It came from the frames of the connection, or with
the outcome of a CONNECT.

`decodings` are the failures that arose in decoding.  No operation of a session
adds to them.

## Main results

* `shutdown_decodings`: what closing for a cause adds.
* `receive_decodings`, `checkKeepAlive_decodings`, `complete_decodings`: what a
  session is asked for adds nothing of its own.
-/

namespace DeviceGateway

/-- The failure with which a happening asks a session to close, if it arose in
decoding. -/
@[simp] def Happening.decoding? : Happening → Option Failure
  | .asked (some failure) =>
    if failure.scope.operation = some "Decode" then some failure else none
  | _ => none

variable {σ : Type}

/-- The failures that arose in decoding and with which a session was asked to
close. -/
abbrev World.decodings (w : World σ) : List Failure :=
  w.view Happening.decoding?

theorem World.scope_of_mem_decodings {w : World σ} {failure : Failure}
    (h : failure ∈ w.decodings) : failure.scope.operation = some "Decode" := by
  obtain ⟨happening, -, hdecoding⟩ := List.mem_filterMap.1 h
  unfold Happening.decoding? at hdecoding
  split at hdecoding
  · split at hdecoding
    · next hscope =>
      rw [← Option.some.inj hdecoding]
      exact hscope
    · cases hdecoding
  · cases hdecoding

namespace Session

variable (t : Backend.Transport σ)

/-- Closing adds its cause. -/
theorem shutdown_decodings (s : Session) (w : World σ)
    (cause : Option Failure) :
    (s.shutdown t w cause).2.decodings =
      w.decodings ++ (Happening.decoding? (.asked cause)).toList := by
  by_cases hclosed : s.flags.closed = true
  · rw [shutdown_of_closed t hclosed]
    exact World.view_ask w cause _
  · rw [World.decodings, view_shutdown t (Bool.eq_false_iff.2 hclosed)]
    cases s.bridge <;> simp

/-- A cause that arose elsewhere adds nothing. -/
theorem shutdown_decodings_of_ne (s : Session) (w : World σ) {failure : Failure}
    (h : failure.scope.operation ≠ some "Decode") :
    (s.shutdown t w (some failure)).2.decodings = w.decodings := by
  rw [shutdown_decodings]
  simp [h]

theorem relay_decodings (s : Session) (w : World σ) (p : DataPacket) :
    (s.relay t w p).2.decodings = w.decodings := by
  by_cases hclosed : s.flags.closed = true
  · rw [relay_of_closed t hclosed]
    rfl
  · have hcase := relayed t (Bool.eq_false_iff.2 hclosed) w p
    generalize s.relay t w p = out at hcase
    cases hcase with
    | stranger bound hbound hid =>
      exact shutdown_decodings_of_ne t _ (w.release p)
        (by show some "Relay" ≠ _; decide)
    | bridgeless hown hbridge => rfl
    | unserved hown bridge hbridge hclient =>
      exact shutdown_decodings_of_ne t s (w.release p)
        (by show some "Relay" ≠ _; decide)
    | accepted hown bridge hbridge client hclient u hsend => simp
    | refused hown bridge hbridge client hclient fault hsend =>
      rw [shutdown_decodings_of_ne t s _ (by show some "Relay" ≠ _; decide)]
      simp

theorem checkKeepAlive_decodings (s : Session) (w : World σ) (now : Nat) :
    (s.checkKeepAlive t w now).2.decodings = w.decodings := by
  have hcase := checked t s w now
  generalize s.checkKeepAlive t w now = out at hcase
  cases hcase with
  | unsupervised h => rfl
  | silent hopen hpos hlate =>
    exact shutdown_decodings_of_ne t _ w (by show some "KeepAlive" ≠ _; decide)
  | timely hopen hpos htimely => rfl

theorem receive_decodings (s : Session) (w : World σ) (now : Nat)
    (parcel : Parcel) :
    (s.receive t w now parcel).2.2.decodings = w.decodings := by
  have hcase := received t s w now parcel
  generalize s.receive t w now parcel = out at hcase
  cases hcase with
  | dropped hclosed => exact World.view_releaseAll w _ _
  | empty hopen hdata hconnect => rfl
  | begun hopen hphase request hconnect => rfl
  | unexpected hopen hphase hconnect p hdata =>
    exact shutdown_decodings_of_ne t _ (w.release p)
      (by show some "Connect" ≠ _; decide)
  | queued hopen hphase p hdata => rfl
  | live hopen hphase p hdata => exact relay_decodings t _ w p

private theorem relayPending_decodings (count : Nat) (s : Session)
    (w : World σ) :
    (relayPending t count s w).2.decodings = w.decodings := by
  induction count generalizing s w with
  | zero => rfl
  | succ count ih =>
    unfold relayPending
    split
    · rfl
    · next p rest hpending => rw [ih, relay_decodings]

private theorem relayHeld_decodings (s : Session) (w : World σ) :
    (s.relayHeld t w).2.decodings = w.decodings := by
  unfold relayHeld
  split
  · rfl
  · dsimp only
    split
    · rfl
    · exact relay_decodings t _ w _

/-- The outcome of a CONNECT adds its own failure, if it is one. -/
theorem complete_decodings (s : Session) (w : World σ) (now : Nat)
    (outcome : Except Failure Established) {failure : Failure}
    (h : failure ∈ (s.complete t w now outcome).2.decodings) :
    failure ∈ w.decodings ∨ outcome = .error failure := by
  cases outcome with
  | error failed =>
    simp only [complete] at h
    rw [shutdown_decodings, List.mem_append] at h
    refine h.imp_right fun hfailed => ?_
    rw [Option.mem_toList] at hfailed
    simp only [Happening.decoding?] at hfailed
    split at hfailed
    · rw [Option.some.inj hfailed]
    · cases hfailed
  | ok e =>
    left
    by_cases hclosed : s.flags.closed = true
    · rw [complete_of_closed t hclosed] at h
      simpa using h
    · rw [complete_of_open t (Bool.eq_false_iff.2 hclosed)] at h
      dsimp only at h
      rw [relayHeld_decodings, relayPending_decodings] at h
      unfold supervise at h
      split at h
      · exact h
      · rw [checkKeepAlive_decodings] at h
        exact h

end Session

/-- A CONNECT that fails does so in connecting. -/
theorem establish_scope {t : Backend.Transport σ} {w : World σ}
    {tenantId connectionId : String} {maxKeepAlive : Option Nat}
    {request : Connect} {failure : Failure}
    (h : (establish t w tenantId maxKeepAlive connectionId request).1 =
      .error failure) :
    failure.scope.operation = some "Connect" := by
  unfold establish at h
  dsimp only at h
  split at h
  · rcases hconnect : t.connect w.backend tenantId
      (Identity.authenticate request.deviceId.text request.username
        request.password) with
      ⟨result, backend⟩
    simp only [World.openBridge, hconnect] at h
    cases result with
    | error fault =>
      cases h
      rfl
    | ok client => cases h
  · cases h
    rfl

end DeviceGateway
