import DeviceGateway.Wire.Binary

/-!
# What a look at binary input finds

A look at the input of a binary connection comes to one of eight ends.
`Scanned` lists them, each with what stands at the front of the input: nothing
or part of a length field, a field that cannot be read or announces too much, a
frame that is not complete, or a complete frame, with what is wrong with it or
what it says.

Each end but waiting is decided by what stands at the front, so more input
behind it does not change it.  This is why the order of the checks matters: a
check that looked at octets of the body before the frame is complete could find
different things in different cuts of one stream.

## Main results

* `scanned`: the list is complete.
* `scan_of_scanned`: and its entries exclude each other.
* `scan_append_frame`, `scan_append_fault`: what was found stays found when more
  input arrives.
-/

namespace DeviceGateway.Wire

namespace Length

/-- A field is as long as it says, and stands alone. -/
theorem decodeWithin_eq_value {room length size : Nat} {bytes : List UInt8}
    (h : decodeWithin room bytes = .value length size) :
    ∃ field rest, bytes = field ++ rest ∧ field.length = size ∧ 1 ≤ size ∧
      decodeWithin room field = .value length size := by
  induction room generalizing bytes length size with
  | zero => exact absurd h (by simp [decodeWithin])
  | succ room ih =>
    cases bytes with
    | nil => exact absurd h (by simp [decodeWithin])
    | cons b bytes =>
      simp only [decodeWithin] at h
      split at h
      · next hlow =>
        obtain ⟨rfl, rfl⟩ := Field.value.inj h
        exact ⟨[b], bytes, rfl, rfl,
          Nat.le_refl 1, by simp [decodeWithin, hlow]⟩
      · next hhigh =>
        split at h
        · next length' size' hrest =>
          obtain ⟨rfl, rfl⟩ := Field.value.inj h
          obtain ⟨field, rest, rfl, hsize, hpos, hfield⟩ := ih hrest
          exact ⟨b :: field, rest, rfl, by simp [hsize], by omega,
            by simp [decodeWithin, hhigh, hfield]⟩
        · next other hother => exact absurd h (hother length size)

/-- A field that is complete, or too long, is so whatever follows it. -/
theorem decodeWithin_append {room : Nat} {bytes : List UInt8}
    (h : decodeWithin room bytes ≠ .unfinished) (more : List UInt8) :
    decodeWithin room (bytes ++ more) = decodeWithin room bytes := by
  induction room generalizing bytes with
  | zero => rfl
  | succ room ih =>
    cases bytes with
    | nil => exact absurd rfl h
    | cons b bytes =>
      simp only [List.cons_append, decodeWithin] at h ⊢
      split
      · rfl
      · next hhigh =>
        rw [if_neg hhigh] at h
        rw [ih fun hrest => h (by rw [hrest])]

theorem decode_eq_value {length size : Nat} {bytes : List UInt8}
    (h : decode bytes = .value length size) :
    ∃ field rest, bytes = field ++ rest ∧ field.length = size ∧ 1 ≤ size ∧
      decode field = .value length size :=
  decodeWithin_eq_value h

theorem decode_append_value {length size : Nat} {bytes : List UInt8}
    (h : decode bytes = .value length size) (more : List UInt8) :
    decode (bytes ++ more) = .value length size := by
  have hdone : decode bytes ≠ .unfinished := by rw [h]; exact nofun
  exact (decodeWithin_append hdone more).trans h

private theorem decode_append_tooLarge {bytes : List UInt8}
    (h : decode bytes = .tooLarge) (more : List UInt8) :
    decode (bytes ++ more) = .tooLarge := by
  have hdone : decode bytes ≠ .unfinished := by rw [h]; exact nofun
  exact (decodeWithin_append hdone more).trans h

end Length

namespace Binary

/-- The ends that a look at the input can come to. -/
inductive Scanned (max : Nat) : List UInt8 → Step → Prop
  | empty : Scanned max [] .wait
  | unfinished (signature : UInt8) {input : List UInt8}
      (hfield : Length.decode input = .unfinished) :
      Scanned max (signature :: input) .wait
  | lengthTooLarge (signature : UInt8) {input : List UInt8}
      (hfield : Length.decode input = .tooLarge) :
      Scanned max (signature :: input) (.fault .lengthTooLarge)
  | tooBig (signature : UInt8) {input : List UInt8} {length size : Nat}
      (hfield : Length.decode input = .value length size)
      (hbig : max < 1 + size + length) :
      Scanned max (signature :: input)
        (.fault (.messageTooBig (1 + size + length) max))
  /-- The frame has not arrived in full. -/
  | incomplete (signature : UInt8) {input : List UInt8} {length size : Nat}
      (hfield : Length.decode input = .value length size)
      (hfits : 1 + size + length ≤ max)
      (hshort : input.length < size + length) :
      Scanned max (signature :: input) .wait
  | unknown (signature : UInt8) {field body : List UInt8} (rest : List UInt8)
      (hfield : Length.decode field = .value body.length field.length)
      (hfits : 1 + field.length + body.length ≤ max)
      (hkind : Kind.ofSignature signature = none) :
      Scanned max (signature :: (field ++ (body ++ rest)))
        (.fault (.unknownSignature signature))
  /-- The body does not read as a frame of its kind. -/
  | broken (signature : UInt8) {field body : List UInt8} (rest : List UInt8)
      (hfield : Length.decode field = .value body.length field.length)
      (hfits : 1 + field.length + body.length ≤ max) {kind : Kind}
      (hkind : Kind.ofSignature signature = some kind) {fault : Fault}
      (hbody : frameOf kind body = .error fault) :
      Scanned max (signature :: (field ++ (body ++ rest))) (.fault fault)
  | frame (signature : UInt8) {field body : List UInt8} (rest : List UInt8)
      (hfield : Length.decode field = .value body.length field.length)
      (hfits : 1 + field.length + body.length ≤ max) {kind : Kind}
      (hkind : Kind.ofSignature signature = some kind) {f : Frame}
      (hbody : frameOf kind body = .ok f) :
      Scanned max (signature :: (field ++ (body ++ rest))) (.frame f rest)

theorem scanned (max : Nat) (input : List UInt8) :
    Scanned max input (scan max input) := by
  unfold scan
  cases input with
  | nil => exact .empty
  | cons signature input =>
    dsimp only
    split
    · next hfield => exact .unfinished signature hfield
    · next hfield => exact .lengthTooLarge signature hfield
    · next length size hfield =>
      split
      · next hbig => exact .tooBig signature hfield hbig
      · next hnot =>
        have hfits : 1 + size + length ≤ max := Nat.le_of_not_lt hnot
        obtain ⟨field, input, rfl, rfl, -, halone⟩ :=
          Length.decode_eq_value hfield
        rw [List.drop_left]
        split
        · next hnone =>
          rw [Bytes.splitExactly_eq_none_iff] at hnone
          have hshort : (field ++ input).length < field.length + length := by
            rw [List.length_append]
            omega
          exact .incomplete signature hfield hfits hshort
        · next body rest hsome =>
          obtain ⟨rfl, rfl⟩ := Bytes.splitExactly_eq_some_iff.1 hsome
          split
          · next hkind => exact .unknown signature rest halone hfits hkind
          · next kind hkind =>
            split
            · next fault hbody =>
              exact .broken signature rest halone hfits hkind hbody
            · next f hbody =>
              exact .frame signature rest halone hfits hkind hbody

/-- On a complete frame of a size that is let through, only its signature and
its body are left to check. -/
theorem scan_complete {max : Nat} (signature : UInt8) {field body : List UInt8}
    (rest : List UInt8)
    (hfield : Length.decode field = .value body.length field.length)
    (hfits : 1 + field.length + body.length ≤ max) :
    scan max (signature :: (field ++ (body ++ rest))) =
      match Kind.ofSignature signature with
      | none => .fault (.unknownSignature signature)
      | some kind =>
        match frameOf kind body with
        | .error fault => .fault fault
        | .ok f => .frame f rest := by
  have hnot : ¬ max < 1 + field.length + body.length := Nat.not_lt.2 hfits
  cases hkind : Kind.ofSignature signature with
  | none =>
    simp only [scan, Length.decode_append_value hfield, hnot, if_false,
      List.drop_left, Bytes.splitExactly_append, hkind]
  | some kind =>
    cases hbody : frameOf kind body <;>
      simp only [scan, Length.decode_append_value hfield, hnot, if_false,
        List.drop_left, Bytes.splitExactly_append, hkind, hbody]

theorem scan_of_scanned {max : Nat} {input : List UInt8} {step : Step}
    (h : Scanned max input step) : scan max input = step := by
  cases h with
  | empty => rfl
  | unfinished signature hfield => simp only [scan, hfield]
  | lengthTooLarge signature hfield => simp only [scan, hfield]
  | tooBig signature hfield hbig => simp only [scan, hfield, hbig, if_true]
  | @incomplete signature input length size hfield hfits hshort =>
    have hnot : ¬ max < 1 + size + length := Nat.not_lt.2 hfits
    have hnone : Bytes.splitExactly length (input.drop size) = none := by
      rw [Bytes.splitExactly_eq_none_iff, List.length_drop]
      obtain ⟨field, rest, rfl, rfl, -, -⟩ := Length.decode_eq_value hfield
      rw [List.length_append] at hshort ⊢
      omega
    simp only [scan, hfield, hnot, if_false, hnone]
  | unknown signature rest hfield hfits hkind =>
    rw [scan_complete signature rest hfield hfits, hkind]
  | broken signature rest hfield hfits hkind hbody =>
    simp only [scan_complete signature rest hfield hfits, hkind, hbody]
  | frame signature rest hfield hfits hkind hbody =>
    simp only [scan_complete signature rest hfield hfits, hkind, hbody]

/-! ## More input -/

theorem scan_append_frame {max : Nat} {input rest : List UInt8} {f : Frame}
    (h : scan max input = .frame f rest) (more : List UInt8) :
    scan max (input ++ more) = .frame f (rest ++ more) := by
  have hcase := scanned max input
  rw [h] at hcase
  cases hcase with
  | frame signature rest hfield hfits hkind hbody =>
    apply scan_of_scanned
    simpa using Scanned.frame signature (rest ++ more) hfield hfits hkind hbody

theorem scan_append_fault {max : Nat} {input : List UInt8} {fault : Fault}
    (h : scan max input = .fault fault) (more : List UInt8) :
    scan max (input ++ more) = .fault fault := by
  have hcase := scanned max input
  rw [h] at hcase
  apply scan_of_scanned
  cases hcase with
  | lengthTooLarge signature hfield =>
    exact .lengthTooLarge signature (Length.decode_append_tooLarge hfield more)
  | tooBig signature hfield hbig =>
    exact .tooBig signature (Length.decode_append_value hfield more) hbig
  | unknown signature rest hfield hfits hkind =>
    simpa using Scanned.unknown signature (rest ++ more) hfield hfits hkind
  | broken signature rest hfield hfits hkind hbody =>
    simpa using Scanned.broken signature (rest ++ more) hfield hfits hkind hbody

/-- A frame takes itself off the input, at least a signature and one octet of
length. -/
theorem scan_frame_length {max : Nat} {input rest : List UInt8} {f : Frame}
    (h : scan max input = .frame f rest) : rest.length + 2 ≤ input.length := by
  have hcase := scanned max input
  rw [h] at hcase
  cases hcase with
  | frame signature rest hfield hfits hkind hbody =>
    obtain ⟨_, _, -, -, hpos, -⟩ := Length.decode_eq_value hfield
    simp only [List.length_cons, List.length_append]
    omega

end Binary

end DeviceGateway.Wire
