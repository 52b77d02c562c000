/-!
# The flags of a session

A session is in one of three phases: not connected, connecting, connected.
Beside the phase it may be closed, its reads may be held back, and it may have
been found to be configured wrongly.  Being closed and being configured wrongly
last; holding reads back is taken back.

The flags are shown as a number with one bit for each phase and one for each of
the other three.  On this number an operation is one on its bits: to enter a
phase is to clear the bits of all phases and to set one, what lasts is only ever
set, and reads are held back by setting a bit and no longer by clearing it.

## Main results

* `bits_enter`, `bits_markClosed`, `bits_markMisconfigured`, `bits_throttle`:
  what the operations do to the bits.
* `bits_and_mask`: the phase is read off its own bits.
-/

namespace DeviceGateway

/-- How far a session has come. -/
inductive Phase where
  | notConnected
  | connecting
  | connected
  deriving DecidableEq, Repr

/-- The bit of a phase. -/
def Phase.bits : Phase → Nat
  | notConnected => 1
  | connecting => 2
  | connected => 4

/-- The bits of all phases. -/
def Phase.mask : Nat := notConnected.bits ||| connecting.bits ||| connected.bits

/-- The flags of a session. -/
structure Flags where
  phase : Phase := .notConnected
  closed : Bool := false
  throttled : Bool := false
  misconfigured : Bool := false
  deriving DecidableEq, Repr

namespace Flags

/-- A flag that is set counts as its bit. -/
def bit (flag : Bool) (value : Nat) : Nat :=
  if flag then value else 0

/-- All flags as a number. -/
def bits (f : Flags) : Nat :=
  f.phase.bits + bit f.closed 8 + bit f.throttled 16 + bit f.misconfigured 32

/-- Moves on to a phase. -/
def enter (f : Flags) (phase : Phase) : Flags :=
  { f with phase }

/-- Closes the session, and tells whether it was open. -/
def markClosed (f : Flags) : Bool × Flags :=
  (!f.closed, { f with closed := true })

/-- Notes that the session is configured wrongly. -/
def markMisconfigured (f : Flags) : Flags :=
  { f with misconfigured := true }

/-- Holds reads back, or no longer. -/
def throttle (f : Flags) (on : Bool) : Flags :=
  { f with throttled := on }

/-- Whether the session is connected. -/
def isConnected (f : Flags) : Bool :=
  f.phase == .connected

/-- Whether the session is connecting. -/
def isConnecting (f : Flags) : Bool :=
  f.phase == .connecting

theorem bits_and_mask (f : Flags) : f.bits &&& Phase.mask = f.phase.bits := by
  obtain ⟨phase, closed, throttled, misconfigured⟩ := f
  cases phase <;> cases closed <;> cases throttled <;> cases misconfigured <;>
    rfl

/-- Only the bits of the phases give way to the one of the new phase. -/
theorem bits_enter (f : Flags) (phase : Phase) :
    (f.enter phase).bits = f.bits - (f.bits &&& Phase.mask) ||| phase.bits := by
  obtain ⟨old, closed, throttled, misconfigured⟩ := f
  cases phase <;> cases old <;> cases closed <;> cases throttled <;>
    cases misconfigured <;> rfl

/-- The bit of a closed session is set, and it is told whether it was not. -/
theorem bits_markClosed (f : Flags) :
    f.markClosed.2.bits = f.bits ||| 8 ∧
      (f.markClosed.1 = true ↔ f.bits &&& 8 = 0) := by
  obtain ⟨phase, closed, throttled, misconfigured⟩ := f
  cases phase <;> cases closed <;> cases throttled <;> cases misconfigured <;>
    decide

theorem bits_markMisconfigured (f : Flags) :
    f.markMisconfigured.bits = f.bits ||| 32 := by
  obtain ⟨phase, closed, throttled, misconfigured⟩ := f
  cases phase <;> cases closed <;> cases throttled <;> cases misconfigured <;>
    rfl

/-- The bit of reads that are held back is cleared and then set, if at all. -/
theorem bits_throttle (f : Flags) (on : Bool) :
    (f.throttle on).bits = f.bits - (f.bits &&& 16) ||| bit on 16 := by
  obtain ⟨phase, closed, throttled, misconfigured⟩ := f
  cases on <;> cases phase <;> cases closed <;> cases throttled <;>
    cases misconfigured <;> rfl

end Flags

end DeviceGateway
