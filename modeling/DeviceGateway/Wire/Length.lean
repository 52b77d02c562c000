/-!
# The remaining length field

A frame states the length of its body in one to four octets of seven bits each,
the low bits first.  The high bit of an octet says that another one follows, so
a field whose fourth octet has it set is an error, and the largest body has
268435455 octets.

A length may be written with more octets than it needs; the reader takes such a
field and the writer never produces one.

## Main results

* `encode_eq_none_iff`: a length that does not fit is refused and no other.
* `decodeWithin_encodeWithin`: what is written reads back, whatever follows.
* `decode_encode`: the same for the four octets of the protocol.
-/

namespace DeviceGateway.Wire.Length

/-- What stands at the front of the octets after a signature. -/
inductive Field where
  /-- A length, and how many octets stated it. -/
  | value (length size : Nat)
  /-- The field goes on beyond what has arrived. -/
  | unfinished
  /-- The last octet that the field may have asks for another one. -/
  | tooLarge
  deriving DecidableEq, Repr

/-- How many octets the field may have. -/
def maxSize : Nat := 4

/-- The largest length that the field can state. -/
def maxLength : Nat := 268435455

/-- Reads a field of at most so many octets. -/
def decodeWithin : Nat → List UInt8 → Field
  | 0, _ => .tooLarge
  | _ + 1, [] => .unfinished
  | room + 1, b :: rest =>
    if b.toNat < 128 then .value b.toNat 1
    else
      match decodeWithin room rest with
      | .value length size => .value (b.toNat - 128 + 128 * length) (size + 1)
      | other => other

/-- Reads the field of a frame. -/
def decode (bytes : List UInt8) : Field :=
  decodeWithin maxSize bytes

/-- Writes a length in at most so many octets. -/
def encodeWithin : Nat → Nat → Option (List UInt8)
  | 0, _ => none
  | room + 1, length =>
    if length < 128 then some [UInt8.ofNat length]
    else (encodeWithin room (length / 128)).map
      (UInt8.ofNat (length % 128 + 128) :: ·)

/-- Writes the field of a frame. -/
def encode (length : Nat) : Option (List UInt8) :=
  encodeWithin maxSize length

/-- Exactly the lengths with more than seven bits an octet are refused. -/
theorem encodeWithin_eq_none_iff {room length : Nat} :
    encodeWithin (room + 1) length = none ↔
      Nat.pow 128 (room + 1) ≤ length := by
  induction room generalizing length with
  | zero =>
    simp only [encodeWithin]
    split <;> simp <;> omega
  | succ room ih =>
    have hsucc (n : Nat) : Nat.pow 128 (n + 1) = Nat.pow 128 n * 128 := rfl
    have hpow : 128 ≤ Nat.pow 128 (room + 1) := by
      rw [hsucc]
      exact Nat.le_mul_of_pos_left _ (Nat.pow_pos (by omega))
    rw [encodeWithin, hsucc]
    split
    · simp only [reduceCtorEq, false_iff]
      omega
    · rw [Option.map_eq_none_iff, ih, Nat.le_div_iff_mul_le (by omega)]

/-- Exactly the lengths above `maxLength` have no field. -/
theorem encode_eq_none_iff {length : Nat} :
    encode length = none ↔ maxLength < length := by
  have h : encode length = none ↔ Nat.pow 128 (3 + 1) ≤ length :=
    encodeWithin_eq_none_iff
  have hpow : Nat.pow 128 (3 + 1) = 268435456 := rfl
  rw [hpow] at h
  exact h.trans Nat.lt_iff_add_one_le.symm

theorem decodeWithin_encodeWithin {room length : Nat} {field : List UInt8}
    (h : encodeWithin room length = some field) (rest : List UInt8) :
    decodeWithin room (field ++ rest) = .value length field.length := by
  induction room generalizing length field with
  | zero => exact absurd h (by simp [encodeWithin])
  | succ room ih =>
    simp only [encodeWithin] at h
    split at h
    · next hlow =>
      obtain rfl := Option.some.inj h
      have hb : (UInt8.ofNat length).toNat = length := by
        rw [UInt8.toNat_ofNat']
        exact Nat.mod_eq_of_lt (by omega)
      simp [decodeWithin, hb, hlow]
    · next hhigh =>
      obtain ⟨tail, htail, rfl⟩ := Option.map_eq_some_iff.1 h
      have hb : (UInt8.ofNat (length % 128 + 128)).toNat =
          length % 128 + 128 := by
        rw [UInt8.toNat_ofNat']
        exact Nat.mod_eq_of_lt (by omega)
      have hge : ¬ length % 128 + 128 < 128 := by omega
      simp only [List.cons_append, decodeWithin, hb, hge, if_false, ih htail,
        List.length_cons]
      congr 1
      omega

theorem decode_encode {length : Nat} {field : List UInt8}
    (h : encode length = some field) (rest : List UInt8) :
    decode (field ++ rest) = .value length field.length :=
  decodeWithin_encodeWithin h rest

end DeviceGateway.Wire.Length
