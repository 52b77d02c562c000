import DeviceGateway.Proofs.Wire.Grammar
import DeviceGateway.Proofs.Wire.Writing

/-!
# Length fields without waste

A number has many length fields: behind octets that ask for another one, an
octet that is zero adds nothing, so a field may be drawn out until the four
octets are used up.  A reader takes all of them for the same number.  Only one
is written, and it is told from the others by its end: it is a single octet, or
its last octet is not zero.

That this field is the shortest one comes from the way numbers are taken apart.
Writing stops as soon as seven bits are enough, and reading a field that goes on
has already put seven bits aside, so the writer is never behind the reader.

## Main results

* `spelled_lt`: how large a number is that so many octets spell.
* `encodeWithin_le`: no field of a number is shorter than the one that is
  written.
* `encodeWithin_spelled_iff`: which fields are written.
* `coded_shortest`: all of this for the four octets of the protocol, with what a
  reader finds in any octets.
-/

namespace DeviceGateway.Wire.Length

/-! ## Numbers -/

theorem spelled_lt (field : List UInt8) :
    spelled field < 128 ^ field.length := by
  induction field with
  | nil => exact Nat.one_pos
  | cons b rest ih =>
    show b.toNat % 128 + 128 * spelled rest < 128 ^ (rest.length + 1)
    have hlow : b.toNat % 128 < 128 := Nat.mod_lt _ (by omega)
    rw [Nat.pow_succ]
    omega

theorem Finished.length_pos {field : List UInt8} (hfield : Finished field) :
    0 < field.length := by
  obtain ⟨front, last, rfl, -⟩ := hfield
  simp

/-- A finished field that spells zero ends with a zero. -/
theorem getLast?_of_spelled {field : List UInt8} (hfield : Finished field)
    (hzero : spelled field = 0) : field.getLast? = some 0 := by
  induction field with
  | nil => exact absurd hfield.length_pos (Nat.lt_irrefl 0)
  | cons b rest ih =>
    have hsum : b.toNat % 128 + 128 * spelled rest = 0 := hzero
    rcases finished_cons.1 hfield with ⟨hb, rfl⟩ | ⟨-, hrest⟩
    · have hb : b = 0 := UInt8.toNat_inj.1 (show b.toNat = 0 by omega)
      rw [hb]
      rfl
    · rw [List.getLast?_cons, ih hrest (by omega)]
      rfl

/-! ## What is written -/

/-- No finished field of a number is shorter than the one that is written: each
octet of the other field that goes on is one that may have been written. -/
theorem encodeWithin_le {room : Nat} {field other : List UInt8}
    (hother : Finished other)
    (h : encodeWithin room (spelled other) = some field) :
    field.length ≤ other.length := by
  induction other generalizing room field with
  | nil => exact absurd hother.length_pos (Nat.lt_irrefl 0)
  | cons b rest ih =>
    cases room with
    | zero => exact absurd h (by simp [encodeWithin])
    | succ room =>
      have hpos : 1 ≤ (b :: rest).length := Nat.succ_pos _
      by_cases hshort : spelled (b :: rest) < 128
      · rw [encodeWithin_short h hshort]
        exact hpos
      · obtain ⟨tail, htail, hlength⟩ := encodeWithin_cons h hshort
        have hsum : spelled (b :: rest) = b.toNat % 128 + 128 * spelled rest :=
          rfl
        rcases finished_cons.1 hother with ⟨-, rfl⟩ | ⟨-, hrest⟩
        · have hnone : spelled ([] : List UInt8) = 0 := rfl
          omega
        · have hquotient : spelled (b :: rest) / 128 = spelled rest := by omega
          rw [hquotient] at htail
          rw [hlength]
          exact Nat.succ_le_succ (ih hrest htail)

/-- An octet that goes on is written if what follows it adds anything. -/
theorem encodeWithin_spelled_cons {room : Nat} {b : UInt8} {rest : List UInt8}
    (hb : 128 ≤ b.toNat) (hrest : spelled rest ≠ 0) :
    encodeWithin (room + 1) (spelled (b :: rest)) =
      (encodeWithin room (spelled rest)).map (b :: ·) := by
  have hbound := b.toNat_lt
  have hsum : spelled (b :: rest) = b.toNat % 128 + 128 * spelled rest := rfl
  have hlong : ¬ spelled (b :: rest) < 128 := by omega
  have hquotient : spelled (b :: rest) / 128 = spelled rest := by omega
  have hfirst : spelled (b :: rest) % 128 + 128 = b.toNat := by omega
  rw [encodeWithin, if_neg hlong, hquotient, hfirst, UInt8.ofNat_toNat]

/-- A field is the one that is written for its number if it is one octet long or
does not end with a zero.  If what follows the first octet adds nothing, it is
not written. -/
theorem encodeWithin_spelled_iff {room : Nat} {field : List UInt8}
    (hfield : Finished field) (hroom : field.length ≤ room) :
    encodeWithin room (spelled field) = some field ↔
      field.length = 1 ∨ field.getLast? ≠ some 0 := by
  induction field generalizing room with
  | nil => exact absurd hfield.length_pos (Nat.lt_irrefl 0)
  | cons b rest ih =>
    obtain ⟨room, rfl⟩ : ∃ less, room = less + 1 :=
      Nat.exists_eq_succ_of_ne_zero (by rw [List.length_cons] at hroom; omega)
    have hsum : spelled (b :: rest) = b.toNat % 128 + 128 * spelled rest := rfl
    rcases finished_cons.1 hfield with ⟨hb, rfl⟩ | ⟨hb, hrest⟩
    · have hnone : spelled ([] : List UInt8) = 0 := rfl
      have hone : spelled [b] = b.toNat := by omega
      simp [encodeWithin, hone, hb]
    · have hne : rest ≠ [] := List.ne_nil_of_length_pos hrest.length_pos
      have hlast : (b :: rest).getLast? = rest.getLast? :=
        List.getLast?_cons_of_ne_nil hne
      by_cases hzero : spelled rest = 0
      · have hshort : spelled (b :: rest) < 128 := by omega
        rw [hlast, encodeWithin, if_pos hshort, getLast?_of_spelled hrest hzero]
        simp [hne.symm, hne]
      · have hmap : (encodeWithin room (spelled rest)).map (b :: ·) =
            some (b :: rest) ↔
            encodeWithin room (spelled rest) = some rest := by
          cases encodeWithin room (spelled rest) <;> simp
        rw [encodeWithin_spelled_cons hb hzero, hmap,
          ih hrest (Nat.le_of_succ_le_succ hroom), hlast]
        constructor
        · rintro (hone | hend)
          · obtain ⟨c, rfl⟩ := List.length_eq_one_iff.1 hone
            refine .inr fun hend => hzero ?_
            obtain rfl : c = 0 := Option.some.inj hend
            rfl
          · exact .inr hend
        · rintro (hone | hend)
          · exact absurd (List.length_eq_zero_iff.1 (Nat.succ.inj hone)) hne
          · exact .inr hend

/-! ## What is read -/

/-- Two fields of one size spell different numbers. -/
theorem spelled_injective {field other : List UInt8} (hfield : Finished field)
    (hother : Finished other) (hlength : field.length = other.length)
    (h : spelled field = spelled other) : field = other := by
  induction field generalizing other with
  | nil => exact (List.length_eq_zero_iff.1 hlength.symm).symm
  | cons b rest ih =>
    cases other with
    | nil => cases hlength
    | cons c rest' =>
      have hrests : rest.length = rest'.length := Nat.succ.inj hlength
      have hsum : b.toNat % 128 + 128 * spelled rest =
          c.toNat % 128 + 128 * spelled rest' := h
      have hb := b.toNat_lt
      have hc := c.toNat_lt
      rcases finished_cons.1 hfield with ⟨hlow, rfl⟩ | ⟨hhigh, hrest⟩
      · rcases finished_cons.1 hother with ⟨hlow', rfl⟩ | ⟨-, hrest'⟩
        · have hsame : b = c := UInt8.toNat_inj.1 (by omega)
          rw [hsame]
        · exact absurd hrests hrest'.length_pos.ne
      · rcases finished_cons.1 hother with ⟨-, rfl⟩ | ⟨hhigh', hrest'⟩
        · exact absurd hrests hrest.length_pos.ne'
        · have hsame : b = c := UInt8.toNat_inj.1 (by omega)
          rw [hsame, ih hrest hrest' hrests (by omega)]

/-- What is cut off the end of a finished field asks for more. -/
theorem Finished.goesOn_of_isPrefix {part field : List UInt8}
    (hfield : Finished field) (hpart : part <+: field) (hne : part ≠ field) :
    GoesOn part := by
  obtain ⟨front, last, rfl, hon, -⟩ := hfield
  rcases List.prefix_concat_iff.1 hpart with hall | hfront
  · exact absurd hall hne
  · exact fun b hb => hon b (hfront.subset hb)

private theorem decode_tooLarge_iff {bytes : List UInt8} :
    decode bytes = .tooLarge ↔
      4 ≤ bytes.length ∧ ∀ b ∈ bytes.take 4, 128 ≤ b.toNat := by
  constructor
  · intro h
    cases decodeWithin_eq_iff_shape.1 h with
    | @tooLarge field rest hfour hon =>
      have hfour : field.length = 4 := hfour
      rw [← hfour, List.take_left, List.length_append]
      exact ⟨Nat.le_add_right _ _, hon⟩
  · rintro ⟨hlong, hon⟩
    have hfour : (bytes.take 4).length = maxSize := by
      rw [List.length_take, Nat.min_eq_left hlong]
      rfl
    have h := (decodeWithin_goesOn hon maxSize).2 hfour (bytes.drop 4)
    rwa [List.take_append_drop] at h

private theorem decode_unfinished_iff {bytes : List UInt8} :
    decode bytes = .unfinished ↔
      bytes.length < 4 ∧ ∀ b ∈ bytes, 128 ≤ b.toNat := by
  constructor
  · intro h
    cases decodeWithin_eq_iff_shape.1 h with
    | unfinished hshort hon => exact ⟨hshort, hon⟩
  · rintro ⟨hshort, hon⟩
    exact (decodeWithin_goesOn hon maxSize).1 hshort

/-- The numbers up to 268435455 are written, and no other.  Of the one to four
octets of a field all but the last have the high bit set; the field reads as its
number whatever follows, no part of it reads as one, and it is the only field of
its size for the number, with none that is shorter.  Whatever is read, a number
stays within these bounds, more octets do not change an answer, and it is an
error if the first four octets all have the high bit set, and no other time.
Writing a number that was read gives back what it was read from if that was one
octet or did not end with a zero, and else does not. -/
theorem coded_shortest :
    (∀ length, (∃ field, encode length = some field) ↔ length ≤ 268435455) ∧
    (∀ length field, encode length = some field →
      1 ≤ field.length ∧ field.length ≤ 4 ∧
      (∃ front last, field = front ++ [last] ∧ (∀ b ∈ front, 128 ≤ b.toNat) ∧
        last.toNat < 128) ∧
      (∀ rest, decode (field ++ rest) = .value length field.length) ∧
      (∀ part, part <+: field → part ≠ field → decode part = .unfinished) ∧
      (∀ bytes size, decode bytes = .value length size →
        field.length ≤ size ∧
          (size = field.length → bytes.take size = field))) ∧
    (∀ bytes,
      (∀ length size, decode bytes = .value length size →
        length ≤ 268435455 ∧ 1 ≤ size ∧ size ≤ 4 ∧ size ≤ bytes.length ∧
        (encode length = some (bytes.take size) ↔
          size = 1 ∨ (bytes.take size).getLast? ≠ some 0)) ∧
      (decode bytes ≠ .unfinished → ∀ more,
        decode (bytes ++ more) = decode bytes) ∧
      (decode bytes = .tooLarge ↔
        4 ≤ bytes.length ∧ ∀ b ∈ bytes.take 4, 128 ≤ b.toNat) ∧
      (decode bytes = .unfinished ↔
        bytes.length < 4 ∧ ∀ b ∈ bytes, 128 ≤ b.toNat)) := by
  refine ⟨fun length => ?_, fun length field h => ?_, fun bytes =>
    ⟨?_, ?_, decode_tooLarge_iff, decode_unfinished_iff⟩⟩
  · rw [← Option.ne_none_iff_exists', ne_eq, encode_eq_none_iff, Nat.not_lt]
    rfl
  · have hown := decode_encode h []
    rw [List.append_nil] at hown
    obtain ⟨hfield, hfour, hspelled⟩ := finished_of_decode hown
    refine ⟨hfield.length_pos, hfour, hfield, decode_encode h,
      fun part hpart hne => ?_, fun bytes size hread => ?_⟩
    · have hon := hfield.goesOn_of_isPrefix hpart hne
      have hshort : part.length < field.length :=
        Nat.lt_of_le_of_ne hpart.length_le fun hsame =>
          hne (hpart.eq_of_length hsame)
      exact (decodeWithin_goesOn hon maxSize).1
        (Nat.lt_of_lt_of_le hshort hfour)
    · obtain ⟨other, rest, rfl, hother, -, rfl, rfl⟩ := exists_finished hread
      refine ⟨encodeWithin_le hother h, fun hsize => ?_⟩
      rw [List.take_left]
      exact spelled_injective hother hfield hsize hspelled
  · intro length size hread
    obtain ⟨field, rest, rfl, hfield, hfour, rfl, rfl⟩ := exists_finished hread
    have hlt : spelled field < 128 ^ 4 :=
      Nat.lt_of_lt_of_le (spelled_lt field)
        (Nat.pow_le_pow_right (by omega) hfour)
    rw [List.take_left]
    refine ⟨by omega, hfield.length_pos, hfour, ?_,
      encodeWithin_spelled_iff hfield hfour⟩
    rw [List.length_append]
    exact Nat.le_add_right _ _
  · exact fun hdone more => decodeWithin_append hdone more

/-- A field that is drawn out reads as its number and is not written again. -/
example :
    decode [0x85, 0x80, 0x00, 0xff] = .value 5 3 ∧ encode 5 = some [0x05] := by
  decide

end DeviceGateway.Wire.Length
