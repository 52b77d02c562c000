import DeviceGateway.Wire.Fault

/-!
# Text lines

A text connection is a sequence of lines that end in a line feed; a carriage
return before it belongs to the line end.  A line may have `max` octets before
the line feed, the carriage return among them.

A longer line is reported once, as soon as more than `max` octets have arrived
without a line feed, and from then on dropped up to its end, so a device that
never sends one cannot make the gateway hold more than that.

## Main results

* `cut_eq_some`: the reader splits the input at a line feed and loses nothing.
* `stripReturn_eq_or`: a line loses one carriage return at most.
-/

namespace DeviceGateway.Wire.Lines

/-- The octet that ends a line. -/
def lineFeed : UInt8 := 10

/-- The octet that may stand before the line feed. -/
def carriageReturn : UInt8 := 13

/-- Cuts the input at the first line feed, if it is among the first `room`
octets.  `done` holds what stands before the input, the last octet first. -/
def cutFrom (done : List UInt8) :
    Nat → List UInt8 → Option (List UInt8 × List UInt8)
  | 0, _ => none
  | _ + 1, [] => none
  | room + 1, b :: rest =>
    if b = lineFeed then some (done.reverse, rest)
    else cutFrom (b :: done) room rest

/-- What stands before and after the first line feed, if it is among the first
`room` octets. -/
def cut (room : Nat) (input : List UInt8) : Option (List UInt8 × List UInt8) :=
  cutFrom [] room input

/-- Drops everything up to and with the first line feed. -/
def skipLine : List UInt8 → Option (List UInt8)
  | [] => none
  | b :: rest => if b = lineFeed then some rest else skipLine rest

/-- Takes one carriage return off the end. -/
def stripReturn (line : List UInt8) : List UInt8 :=
  if line.getLast? = some carriageReturn then line.dropLast else line

/-- The state of a connection's line decoder. -/
structure Decoder where
  max : Nat := 262144
  /-- Whether the input is inside a line that was reported as too long. -/
  discarding : Bool := false
  deriving DecidableEq, Repr

/-- Takes the next line or fault off an input that does not lie inside an
over-long line. -/
def Decoder.nextLine (d : Decoder) (input : List UInt8) :
    Option (Except Fault (List UInt8)) × Decoder × List UInt8 :=
  match cut (d.max + 1) input with
  | some (line, rest) =>
    (some (.ok (stripReturn line)), { d with discarding := false }, rest)
  | none =>
    if (input.drop d.max).isEmpty then
      (none, { d with discarding := false }, input)
    else (some (.error (.lineTooLong d.max)), { d with discarding := true },
      input)

/-- Takes the next line or fault off the input. -/
def Decoder.next (d : Decoder) (input : List UInt8) :
    Option (Except Fault (List UInt8)) × Decoder × List UInt8 :=
  if d.discarding then
    match skipLine input with
    | none => (none, d, [])
    | some rest => d.nextLine rest
  else d.nextLine input

private theorem cutFrom_eq_some {done input line rest : List UInt8} {room : Nat}
    (h : cutFrom done room input = some (line, rest)) :
    done.reverse ++ input = line ++ lineFeed :: rest := by
  induction room generalizing done input with
  | zero => exact absurd h (by simp [cutFrom])
  | succ room ih =>
    cases input with
    | nil => exact absurd h (by simp [cutFrom])
    | cons b tail =>
      simp only [cutFrom] at h
      split at h
      · next hb =>
        simp only [Option.some.injEq, Prod.mk.injEq] at h
        obtain ⟨rfl, rfl⟩ := h
        rw [hb]
      · have := ih h
        simpa using this

theorem cut_eq_some {input line rest : List UInt8} {room : Nat}
    (h : cut room input = some (line, rest)) :
    input = line ++ lineFeed :: rest := by
  simpa using cutFrom_eq_some h

theorem stripReturn_eq_or (line : List UInt8) :
    stripReturn line = line ∨ stripReturn line ++ [carriageReturn] = line := by
  unfold stripReturn
  split
  · next h =>
    obtain ⟨front, rfl⟩ := List.getLast?_eq_some_iff.1 h
    exact .inr (by rw [List.dropLast_concat])
  · exact .inl rfl

end DeviceGateway.Wire.Lines
