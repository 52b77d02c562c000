import DeviceGateway.Wire.Binary
import DeviceGateway.Wire.Layout
import DeviceGateway.Wire.Lines

/-!
# Frame decoders

The format a tenant speaks decides which decoder a connection gets: the binary
one, or the line decoder, whose lines are read later by the tenant's layout.
Both are pure state machines on the octets that have arrived, and share one
loop, `drain`, which takes frames until the input gives nothing more or cannot
be trusted any longer.

## Main results

* `next_lines`: a line decoder gives lines and nothing else.
-/

namespace DeviceGateway.Wire

/-- The format a tenant's devices speak. -/
inductive Format where
  | binary
  | text (layout : Layout)
  deriving DecidableEq, Repr

/-- The decoder of a connection. -/
inductive Decoder where
  | binary (state : Binary.Decoder)
  | lines (state : Lines.Decoder)
  deriving DecidableEq, Repr

/-- A fresh decoder for a format and the largest message it may take. -/
def Format.decoder (f : Format) (max : Nat) : Decoder :=
  match f with
  | .binary => .binary ⟨max, false⟩
  | .text _ => .lines ⟨max, false⟩

namespace Decoder

/-- Takes the next frame or fault off the input. -/
def next (d : Decoder) (input : List UInt8) :
    Option (Except Fault Frame) × Decoder × List UInt8 :=
  match d with
  | binary state =>
    let (outcome, state, rest) := state.next input
    (outcome, binary state, rest)
  | lines state =>
    let (outcome, state, rest) := state.next input
    (outcome.map (Except.map Frame.line), lines state, rest)

/-- Takes outcomes off the input while `goOn` allows it.  `done` holds them, the
last one first. -/
def drainWith (goOn : Fault → Bool) (done : List (Except Fault Frame)) :
    Nat → Decoder → List UInt8 →
      List (Except Fault Frame) × Decoder × List UInt8
  | 0, d, input => (done.reverse, d, input)
  | fuel + 1, d, input =>
    match d.next input with
    | (none, d, rest) => (done.reverse, d, rest)
    | (some (.ok frame), d, rest) =>
      drainWith goOn (.ok frame :: done) fuel d rest
    | (some (.error fault), d, rest) =>
      if goOn fault then drainWith goOn (.error fault :: done) fuel d rest
      else ((.error fault :: done).reverse, d, rest)

/-- More steps than a drain can take: each takes an octet off the input or
follows the report of an over-long line. -/
def drainFuel (input : List UInt8) : Nat :=
  2 * input.length + 2

/-- Takes outcomes off the input until it gives nothing more or a fault arises,
fatal or not. -/
def drainToFault (d : Decoder) (input : List UInt8) :
    List (Except Fault Frame) × Decoder × List UInt8 :=
  drainWith (fun _ => false) [] (drainFuel input) d input

/-- Takes outcomes off the input until it gives nothing more or a fatal fault
arises. -/
def drain (d : Decoder) (input : List UInt8) :
    List (Except Fault Frame) × Decoder × List UInt8 :=
  drainWith (fun fault => !fault.isFatal) [] (drainFuel input) d input

theorem next_lines {state : Lines.Decoder} {input : List UInt8} {frame : Frame}
    {d : Decoder} {rest : List UInt8}
    (h : (lines state).next input = (some (.ok frame), d, rest)) :
    ∃ bytes, frame = .line bytes := by
  simp only [next, Prod.mk.injEq, Option.map_eq_some_iff] at h
  obtain ⟨⟨result, _, hresult⟩, _⟩ := h
  cases result with
  | error fault => exact absurd hresult (by simp [Except.map])
  | ok bytes =>
    simp only [Except.map, Except.ok.injEq] at hresult
    exact ⟨bytes, hresult.symm⟩

end Decoder

end DeviceGateway.Wire
