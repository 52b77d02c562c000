import DeviceGateway.Bytes.Utf8
import Mathlib.Tactic.IntervalCases
import Mathlib.Tactic.SplitIfs

/-!
# Texts read back

A text is written character by character, and the reader has to find the same
characters.  It decides on the first octet of a sequence how many follow and
what range the next one has, so the proof goes by the length of the sequence:
one to four octets.  The narrow ranges after some first octets keep out what is
never written: sequences that are longer than they need to be, surrogates, and
numbers beyond the last character.

Sixty-four is the base of the number that a sequence spells, so all that remains
of a character's number is `n / 64` and `n % 64`, again and again.

The other way round, octets that read as a text are the very ones the text is
written with: there is one way to write a text, and the reader takes no other.

## Main results

* `decode_encode`, `decodeString_encodeString`: what is written reads back.
* `length_encodeString`: how much is written.
* `decode_eq_ok_iff`, `decodeString_eq_ok_iff`: what reads as a text is what is
  written for it.
-/

namespace DeviceGateway.Bytes.Utf8

/-! ## Octets of a sequence -/

theorem toNat_octet {n : Nat} (h : n < 256) : (UInt8.ofNat n).toNat = n := by
  rw [UInt8.toNat_ofNat']
  exact Nat.mod_eq_of_lt h

/-- The last octet of a sequence completes its character. -/
theorem decodeFrom_last {index taken value n : Nat} {done : List Char}
    {low high : UInt8} (hbyte : n < 256) (hlow : low.toNat ≤ n)
    (hhigh : n ≤ high.toNat) (rest : List UInt8) :
    decodeFrom index done (.inside taken 1 low high value)
      (UInt8.ofNat n :: rest) =
      decodeFrom (index + taken + 1)
        (Char.ofNat (value * 64 + (n - 0x80)) :: done) .between
        rest := by
  have hn := toNat_octet hbyte
  have hrange : low ≤ UInt8.ofNat n ∧ UInt8.ofNat n ≤ high := by
    rw [UInt8.le_iff_toNat_le, UInt8.le_iff_toNat_le, hn]
    exact ⟨hlow, hhigh⟩
  simp [decodeFrom, hrange, hn]

/-- Any other octet after the first brings six bits, and the next one may be any
continuation octet. -/
theorem decodeFrom_inner {index taken left value n : Nat} {done : List Char}
    {low high : UInt8} (hbyte : n < 256) (hlow : low.toNat ≤ n)
    (hhigh : n ≤ high.toNat) (hleft : 1 < left) (rest : List UInt8) :
    decodeFrom index done (.inside taken left low high value)
      (UInt8.ofNat n :: rest) =
      decodeFrom index done
        (.inside (taken + 1) (left - 1) 0x80 0xBF (value * 64 + (n - 0x80)))
        rest := by
  have hn := toNat_octet hbyte
  have hrange : low ≤ UInt8.ofNat n ∧ UInt8.ofNat n ≤ high := by
    rw [UInt8.le_iff_toNat_le, UInt8.le_iff_toNat_le, hn]
    exact ⟨hlow, hhigh⟩
  have hmore : ¬ left ≤ 1 := by omega
  simp [decodeFrom, hrange, hmore, hn]

theorem decodeFrom_lead {index n : Nat} {done : List Char} {l : Lead}
    (hbyte : n < 256) (hhigh : 0x80 ≤ n)
    (hlead : lead? (UInt8.ofNat n) = some l) (rest : List UInt8) :
    decodeFrom index done .between (UInt8.ofNat n :: rest) =
      decodeFrom index done (.inside 1 l.following l.low l.high l.bits)
        rest := by
  have hnot : ¬ UInt8.ofNat n < 0x80 := by
    rw [UInt8.lt_iff_toNat_lt, toNat_octet hbyte]
    have : (0x80 : UInt8).toNat = 0x80 := rfl
    omega
  simp [decodeFrom, hnot, hlead]

/-! ## First octets -/

private theorem lead?_two {n : Nat} (hlow : 0xC2 ≤ n) (hhigh : n < 0xE0) :
    lead? (UInt8.ofNat n) = some ⟨1, 0x80, 0xBF, n - 0xC0⟩ := by
  have hn : (UInt8.ofNat n).toNat = n := toNat_octet (by omega)
  have hnot : ¬ n < 0xC2 := by omega
  simp only [lead?, hn, hnot, hhigh, if_true, if_false]

/-- After a first octet of three, the second is within its range unless the
character would fit in two octets or be a surrogate. -/
theorem lead?_three (high mid : Nat) (hhigh : high < 16) (hmid : mid < 64)
    (hlong : high = 0 → 32 ≤ mid) (hscalar : high = 13 → mid < 32) :
    ∃ l, lead? (UInt8.ofNat (high + 0xE0)) = some l ∧ l.following = 2 ∧
      l.bits = high ∧
      l.low.toNat ≤ mid + 0x80 ∧ mid + 0x80 ≤ l.high.toNat := by
  have hn : (UInt8.ofNat (high + 0xE0)).toNat = high + 0xE0 :=
    toNat_octet (by omega)
  have hnotTwo : ¬ high + 0xE0 < 0xC2 ∧ ¬ high + 0xE0 < 0xE0 := by omega
  have hlt : high + 0xE0 < 0xF0 := by omega
  have hA0 : (0xA0 : UInt8).toNat = 0xA0 := rfl
  have hBF : (0xBF : UInt8).toNat = 0xBF := rfl
  have h9F : (0x9F : UInt8).toNat = 0x9F := rfl
  have h80 : (0x80 : UInt8).toNat = 0x80 := rfl
  by_cases hzero : high = 0
  · have hmid' := hlong hzero
    subst hzero
    exact ⟨⟨2, 0xA0, 0xBF, 0⟩, rfl, rfl,
      rfl, by dsimp only; omega, by dsimp only; omega⟩
  · by_cases hsurrogate : high = 13
    · have hmid' := hscalar hsurrogate
      subst hsurrogate
      exact ⟨⟨2, 0x80, 0x9F, 0xD⟩, rfl, rfl,
        rfl, by dsimp only; omega, by dsimp only; omega⟩
    · refine ⟨⟨2, 0x80, 0xBF, high⟩, ?_, rfl,
        rfl, by dsimp only; omega, by dsimp only; omega⟩
      have hE0 : (high + 0xE0 == 0xE0) = false := by simp [hzero]
      have hED : (high + 0xE0 == 0xED) = false := by
        rw [beq_eq_false_iff_ne]
        omega
      simp only [lead?, hn, hnotTwo, hE0, hED, hlt, if_true, if_false,
        Bool.false_eq_true, Nat.add_sub_cancel]

/-- After a first octet of four, the second is within its range unless the
character would fit in three octets or lie beyond the last one. -/
theorem lead?_four (high mid : Nat) (hmid : mid < 64)
    (hlong : high = 0 → 16 ≤ mid) (hlast : high * 64 + mid < 272) :
    ∃ l, lead? (UInt8.ofNat (high + 0xF0)) = some l ∧ l.following = 3 ∧
      l.bits = high ∧
      l.low.toNat ≤ mid + 0x80 ∧ mid + 0x80 ≤ l.high.toNat := by
  have hhigh : high < 5 := by omega
  have h90 : (0x90 : UInt8).toNat = 0x90 := rfl
  have hBF : (0xBF : UInt8).toNat = 0xBF := rfl
  have h8F : (0x8F : UInt8).toNat = 0x8F := rfl
  have h80 : (0x80 : UInt8).toNat = 0x80 := rfl
  interval_cases high
  · exact ⟨⟨3, 0x90, 0xBF, 0⟩, rfl, rfl,
      rfl, by dsimp only; omega, by dsimp only; omega⟩
  · exact ⟨⟨3, 0x80, 0xBF, 1⟩, rfl, rfl,
      rfl, by dsimp only; omega, by dsimp only; omega⟩
  · exact ⟨⟨3, 0x80, 0xBF, 2⟩, rfl, rfl,
      rfl, by dsimp only; omega, by dsimp only; omega⟩
  · exact ⟨⟨3, 0x80, 0xBF, 3⟩, rfl, rfl,
      rfl, by dsimp only; omega, by dsimp only; omega⟩
  · exact ⟨⟨3, 0x80, 0x8F, 4⟩, rfl, rfl,
      rfl, by dsimp only; omega, by dsimp only; omega⟩

/-! ## Sequences -/

section Sequences

variable (index : Nat) (done : List Char) {n : Nat} (rest : List UInt8)

private theorem decodeFrom_one (h : n ≤ 0x7F) :
    decodeFrom index done .between (UInt8.ofNat n :: rest) =
      decodeFrom (index + 1) (Char.ofNat n :: done) .between rest := by
  have hn : (UInt8.ofNat n).toNat = n := toNat_octet (by omega)
  have hascii : UInt8.ofNat n < 0x80 := by
    rw [UInt8.lt_iff_toNat_lt, hn]
    have h80 : (0x80 : UInt8).toNat = 0x80 := rfl
    omega
  simp [decodeFrom, hascii, hn]

private theorem decodeFrom_two (hlow : 0x7F < n) (hhigh : n ≤ 0x7FF) :
    decodeFrom index done .between
        (UInt8.ofNat (n / 64 % 32 + 0xC0) ::
          UInt8.ofNat (n % 64 + 0x80) :: rest) =
      decodeFrom (index + 2) (Char.ofNat n :: done) .between rest := by
  have h80 : (0x80 : UInt8).toNat = 0x80 := rfl
  have hBF : (0xBF : UInt8).toNat = 0xBF := rfl
  have hlead := lead?_two (n := n / 64 % 32 + 0xC0) (by omega) (by omega)
  have hvalue : (n / 64 % 32 + 0xC0 - 0xC0) * 64 + (n % 64 + 0x80 - 0x80) =
      n := by omega
  rw [decodeFrom_lead (by omega) (by omega) hlead]
  dsimp only
  rw [decodeFrom_last (by omega) (by omega) (by omega), hvalue]

private theorem decodeFrom_three (hlow : 0x7FF < n) (hhigh : n ≤ 0xFFFF)
    (hscalar : n < 0xD800 ∨ 0xDFFF < n) :
    decodeFrom index done .between
        (UInt8.ofNat (n / 4096 % 16 + 0xE0) ::
          UInt8.ofNat (n / 64 % 64 + 0x80) ::
          UInt8.ofNat (n % 64 + 0x80) :: rest) =
      decodeFrom (index + 3) (Char.ofNat n :: done) .between rest := by
  have h80 : (0x80 : UInt8).toNat = 0x80 := rfl
  have hBF : (0xBF : UInt8).toNat = 0xBF := rfl
  obtain ⟨l, hlead, hfollowing, hbits, hfrom, hto⟩ :=
    lead?_three (n / 4096 % 16) (n / 64 % 64) (by omega) (by omega) (by omega)
      (by omega)
  have hvalue : (n / 4096 % 16 * 64 + (n / 64 % 64 + 0x80 - 0x80)) * 64 +
      (n % 64 + 0x80 - 0x80) = n := by omega
  rw [decodeFrom_lead (by omega) (by omega) hlead, hfollowing, hbits,
    decodeFrom_inner (by omega) hfrom hto (by omega),
    decodeFrom_last (by omega) (by omega) (by omega), hvalue]

private theorem decodeFrom_four (hlow : 0xFFFF < n) (hhigh : n < 0x110000) :
    decodeFrom index done .between
        (UInt8.ofNat (n / 262144 % 8 + 0xF0) ::
          UInt8.ofNat (n / 4096 % 64 + 0x80) ::
          UInt8.ofNat (n / 64 % 64 + 0x80) :: UInt8.ofNat (n % 64 + 0x80) ::
            rest) =
      decodeFrom (index + 4) (Char.ofNat n :: done) .between rest := by
  have h80 : (0x80 : UInt8).toNat = 0x80 := rfl
  have hBF : (0xBF : UInt8).toNat = 0xBF := rfl
  obtain ⟨l, hlead, hfollowing, hbits, hfrom, hto⟩ :=
    lead?_four (n / 262144 % 8) (n / 4096 % 64) (by omega) (by omega) (by omega)
  have hvalue : ((n / 262144 % 8 * 64 + (n / 4096 % 64 + 0x80 - 0x80)) * 64 +
      (n / 64 % 64 + 0x80 - 0x80)) * 64 + (n % 64 + 0x80 - 0x80) = n := by omega
  rw [decodeFrom_lead (by omega) (by omega) hlead, hfollowing, hbits,
    decodeFrom_inner (by omega) hfrom hto (by omega),
    decodeFrom_inner (by omega) (by omega) (by omega) (by omega),
    decodeFrom_last (by omega) (by omega) (by omega), hvalue]

/-- The octets of a character read back as it, whatever follows. -/
theorem decodeFrom_utf8EncodeChar (c : Char) :
    decodeFrom index done .between (String.utf8EncodeChar c ++ rest) =
      decodeFrom (index + (String.utf8EncodeChar c).length)
        (c :: done) .between rest := by
  have hvalid : c.toNat < 0xD800 ∨ 0xDFFF < c.toNat ∧ c.toNat < 0x110000 :=
    c.valid
  have hchar : Char.ofNat c.toNat = c := Char.ofNat_toNat c
  have hval : c.val.toNat = c.toNat := rfl
  unfold String.utf8EncodeChar
  simp only [hval]
  split
  · next hone =>
    have hread := decodeFrom_one index done rest hone
    rwa [hchar] at hread
  · split
    · next hone htwo =>
      have hread := decodeFrom_two index done rest (by omega) htwo
      rwa [hchar] at hread
    · split
      · next htwo hthree =>
        have hread := decodeFrom_three index done rest (by omega) hthree
          (by omega)
        rwa [hchar] at hread
      · next hthree =>
        have hlong : 0xFFFF < c.toNat := by omega
        have hread := decodeFrom_four index done rest hlong (by omega)
        rwa [hchar] at hread

end Sequences

/-! ## Texts -/

private theorem decodeFrom_encode (index : Nat) (done text : List Char) :
    decodeFrom index done .between (encode text) =
      .ok (done.reverse ++ text) := by
  induction text generalizing index done with
  | nil => simp [encode, decodeFrom]
  | cons c text ih =>
    have hcons : encode (c :: text) = String.utf8EncodeChar c ++ encode text :=
      rfl
    rw [hcons, decodeFrom_utf8EncodeChar, ih]
    simp

/-- A text that was written reads back. -/
theorem decode_encode (text : List Char) : decode (encode text) = .ok text :=
  decodeFrom_encode 0 [] text

theorem decodeString_encodeString (s : String) :
    decodeString (encodeString s) = .ok s := by
  rw [decodeString, encodeString, decode_encode]
  simp [Except.map]

/-- What is written of a string is what it takes in memory. -/
theorem length_encodeString (s : String) :
    (encodeString s).length = s.utf8ByteSize := by
  have hbytes : s.toByteArray = s.toList.utf8Encode := by
    rw [← String.toByteArray_ofList, String.ofList_toList]
  rw [← String.size_toByteArray, hbytes, List.utf8Encode]
  simp [encodeString, encode]

/-- Octets below U+0020 are control characters and part of no other. -/
theorem encode_ne_control {text : List Char} (h : ∀ c ∈ text, 0x20 ≤ c.toNat) :
    ∀ b ∈ encode text, 0x20 ≤ b.toNat := by
  intro b hb
  obtain ⟨c, hc, hb⟩ := List.mem_flatMap.1 hb
  have hlow := h c hc
  have hvalid : c.toNat < 0xD800 ∨ 0xDFFF < c.toNat ∧ c.toNat < 0x110000 :=
    c.valid
  have hval : c.val.toNat = c.toNat := rfl
  unfold String.utf8EncodeChar at hb
  simp only [hval] at hb
  split_ifs at hb <;> simp only [List.mem_cons, List.not_mem_nil,
    or_false] at hb
  · subst hb
    rw [toNat_octet (by omega)]
    exact hlow
  · rcases hb with rfl | rfl <;> rw [toNat_octet (by omega)] <;> omega
  · rcases hb with rfl | rfl | rfl <;> rw [toNat_octet (by omega)] <;> omega
  · rcases hb with rfl | rfl | rfl | rfl <;> rw [toNat_octet (by omega)] <;>
      omega

/-! ## What reads was written -/

/-- What a first octet promises, by the number of octets that follow it. -/
theorem lead?_cases {b : UInt8} {l : Lead} (h : lead? b = some l) :
    (l.following = 1 ∧ b.toNat = l.bits + 0xC0 ∧ 2 ≤ l.bits ∧ l.bits < 32 ∧
        l.low.toNat = 0x80 ∧ l.high.toNat = 0xBF) ∨
      (l.following = 2 ∧ b.toNat = l.bits + 0xE0 ∧ l.bits < 16 ∧
        0x80 ≤ l.low.toNat ∧
        l.high.toNat ≤ 0xBF ∧ (l.bits = 0 → 0xA0 ≤ l.low.toNat) ∧
        (l.bits = 13 → l.high.toNat ≤ 0x9F)) ∨
      (l.following = 3 ∧ b.toNat = l.bits + 0xF0 ∧ l.bits < 5 ∧
        0x80 ≤ l.low.toNat ∧
        l.high.toNat ≤ 0xBF ∧ (l.bits = 0 → 0x90 ≤ l.low.toNat) ∧
        (l.bits = 4 → l.high.toNat ≤ 0x8F)) := by
  have h80 : (0x80 : UInt8).toNat = 0x80 := rfl
  have h8F : (0x8F : UInt8).toNat = 0x8F := rfl
  have h90 : (0x90 : UInt8).toNat = 0x90 := rfl
  have h9F : (0x9F : UInt8).toNat = 0x9F := rfl
  have hA0 : (0xA0 : UInt8).toNat = 0xA0 := rfl
  have hBF : (0xBF : UInt8).toNat = 0xBF := rfl
  unfold lead? at h
  simp only [beq_iff_eq] at h
  split_ifs at h <;> cases h <;> dsimp only <;> omega

/-- An octet inside a sequence lies in the range that is due, and either
completes its character or leads on to the next octet. -/
theorem of_decodeFrom_inside {index taken left value : Nat}
    {done text : List Char} {low high : UInt8} {bytes : List UInt8}
    (h : decodeFrom index done (.inside taken left low high value) bytes =
      .ok text) :
    ∃ b rest, bytes = b :: rest ∧ low.toNat ≤ b.toNat ∧ b.toNat ≤ high.toNat ∧
      (if left ≤ 1 then
        decodeFrom (index + taken + 1)
          (Char.ofNat (value * 64 + (b.toNat - 0x80)) :: done)
          .between rest
      else
        decodeFrom index done
          (.inside (taken + 1) (left - 1) 0x80 0xBF
            (value * 64 + (b.toNat - 0x80))) rest) =
        .ok text := by
  cases bytes with
  | nil => cases h
  | cons b rest =>
    unfold decodeFrom at h
    split at h
    · next hrange =>
      simp only [Bool.and_eq_true, decide_eq_true_eq, UInt8.le_iff_toNat_le]
        at hrange
      exact ⟨b, rest, rfl, hrange.1, hrange.2, h⟩
    · cases h

section Written

variable {n : Nat}

theorem toNat_ofNat_scalar (h : n < 0xD800 ∨ 0xDFFF < n ∧ n < 0x110000) :
    (Char.ofNat n).val.toNat = n := by
  have hvalid : n.isValidChar := h
  unfold Char.ofNat
  rw [dif_pos hvalid]
  rfl

theorem octet_eq {b : UInt8} (h : b.toNat = n) : UInt8.ofNat n = b := by
  rw [← h]
  exact UInt8.ofNat_toNat

private theorem utf8EncodeChar_one {b : UInt8} (h : b.toNat ≤ 0x7F) :
    String.utf8EncodeChar (Char.ofNat b.toNat) = [b] := by
  have hchar := toNat_ofNat_scalar (n := b.toNat) (by omega)
  simp only [String.utf8EncodeChar, hchar, h, if_true, UInt8.ofNat_toNat]

private theorem utf8EncodeChar_two {b c : UInt8} (hlow : 0x7F < n)
    (hhigh : n ≤ 0x7FF) (hb : b.toNat = n / 64 + 0xC0)
    (hc : c.toNat = n % 64 + 0x80) :
    String.utf8EncodeChar (Char.ofNat n) = [b, c] := by
  have hchar := toNat_ofNat_scalar (n := n) (by omega)
  have hnot : ¬ n ≤ 127 := by omega
  have hfirst : n / 64 % 32 + 192 = n / 64 + 0xC0 := by omega
  simp only [String.utf8EncodeChar, hchar, hnot, hhigh, if_true, if_false,
    hfirst, octet_eq hb, octet_eq hc]

private theorem utf8EncodeChar_three {b c d : UInt8} (hlow : 0x7FF < n)
    (hhigh : n ≤ 0xFFFF) (hscalar : n < 0xD800 ∨ 0xDFFF < n)
    (hb : b.toNat = n / 4096 + 0xE0) (hc : c.toNat = n / 64 % 64 + 0x80)
    (hd : d.toNat = n % 64 + 0x80) :
    String.utf8EncodeChar (Char.ofNat n) = [b, c, d] := by
  have hchar := toNat_ofNat_scalar (n := n) (by omega)
  have hnot : ¬ n ≤ 127 ∧ ¬ n ≤ 2047 := by omega
  have hfirst : n / 4096 % 16 + 224 = n / 4096 + 0xE0 := by omega
  simp only [String.utf8EncodeChar, hchar, hnot, hhigh, if_true, if_false,
    hfirst, octet_eq hb, octet_eq hc, octet_eq hd]

private theorem utf8EncodeChar_four {b c d e : UInt8} (hlow : 0xFFFF < n)
    (hhigh : n < 0x110000) (hb : b.toNat = n / 262144 + 0xF0)
    (hc : c.toNat = n / 4096 % 64 + 0x80) (hd : d.toNat = n / 64 % 64 + 0x80)
    (he : e.toNat = n % 64 + 0x80) :
    String.utf8EncodeChar (Char.ofNat n) = [b, c, d, e] := by
  have hchar := toNat_ofNat_scalar (n := n) (by omega)
  have hnot : ¬ n ≤ 127 ∧ ¬ n ≤ 2047 ∧ ¬ n ≤ 65535 := by omega
  have hfirst : n / 262144 % 8 + 240 = n / 262144 + 0xF0 := by omega
  simp only [String.utf8EncodeChar, hchar, hnot, if_false, hfirst, octet_eq hb,
    octet_eq hc, octet_eq hd, octet_eq he]

end Written

/-- The first character that was read is the one whose octets stand in front. -/
theorem of_decodeFrom_between {index : Nat} {done text : List Char} {b : UInt8}
    {bytes : List UInt8}
    (h : decodeFrom index done .between (b :: bytes) = .ok text) :
    ∃ c index' rest, b :: bytes = String.utf8EncodeChar c ++ rest ∧
      rest.length ≤ bytes.length ∧
      decodeFrom index' (c :: done) .between rest = .ok text := by
  have h80 : (0x80 : UInt8).toNat = 0x80 := rfl
  have hBF : (0xBF : UInt8).toNat = 0xBF := rfl
  unfold decodeFrom at h
  split at h
  · next hascii =>
    have hlow : b.toNat ≤ 0x7F := by
      rw [UInt8.lt_iff_toNat_lt] at hascii
      omega
    exact ⟨_, _, bytes, by rw [utf8EncodeChar_one hlow]; rfl, Nat.le_refl _, h⟩
  · split at h
    · cases h
    · next l hlead =>
      obtain ⟨c, rest, rfl, hclow, hchigh, h⟩ := of_decodeFrom_inside h
      rcases lead?_cases hlead with ⟨hf, hb, hbits⟩ | ⟨hf, hb, hbits⟩ |
        ⟨hf, hb, hbits⟩
      · rw [hf, if_pos (by omega)] at h
        refine ⟨_, _, rest, ?_, by simp, h⟩
        rw [utf8EncodeChar_two (b := b) (c := c) (by omega) (by omega)
          (by omega) (by omega)]
        rfl
      · rw [hf, if_neg (by omega)] at h
        obtain ⟨d, rest, rfl, hdlow, hdhigh, h⟩ := of_decodeFrom_inside h
        rw [if_pos (by omega)] at h
        refine ⟨_, _, rest, ?_, by simp only [List.length_cons]; omega, h⟩
        rw [utf8EncodeChar_three (b := b) (c := c) (d := d) (by omega)
          (by omega) (by omega) (by omega) (by omega) (by omega)]
        rfl
      · rw [hf, if_neg (by omega)] at h
        obtain ⟨d, rest, rfl, hdlow, hdhigh, h⟩ := of_decodeFrom_inside h
        rw [if_neg (by omega)] at h
        obtain ⟨e, rest, rfl, helow, hehigh, h⟩ := of_decodeFrom_inside h
        rw [if_pos (by omega)] at h
        refine ⟨_, _, rest, ?_, by simp only [List.length_cons]; omega, h⟩
        rw [utf8EncodeChar_four (b := b) (c := c) (d := d) (e := e) (by omega)
          (by omega) (by omega) (by omega) (by omega) (by omega)]
        rfl

private theorem of_decodeFrom {index : Nat} {done text : List Char}
    {bytes : List UInt8} (h : decodeFrom index done .between bytes = .ok text) :
    ∃ read, text = done.reverse ++ read ∧ bytes = encode read := by
  induction hlength : bytes.length using Nat.strongRecOn
    generalizing bytes index done with
  | ind n ih =>
    subst hlength
    cases bytes with
    | nil =>
      obtain rfl := Except.ok.inj h
      exact ⟨[], by simp, rfl⟩
    | cons b bytes =>
      obtain ⟨c, index', rest, hbytes, hless, hrest⟩ := of_decodeFrom_between h
      obtain ⟨read, rfl, rfl⟩ := ih _ (Nat.lt_succ_of_le hless) hrest rfl
      exact ⟨c :: read, by simp, hbytes⟩

/-- Exactly the octets that are written for a text read as it. -/
theorem decode_eq_ok_iff {bytes : List UInt8} {text : List Char} :
    decode bytes = .ok text ↔ bytes = encode text := by
  constructor
  · intro h
    obtain ⟨read, rfl, rfl⟩ := of_decodeFrom h
    simp
  · rintro rfl
    exact decode_encode text

theorem decodeString_eq_ok_iff {bytes : List UInt8} {s : String} :
    decodeString bytes = .ok s ↔ bytes = encodeString s := by
  constructor
  · intro h
    unfold decodeString at h
    cases htext : decode bytes with
    | error fault =>
      rw [htext] at h
      cases h
    | ok text =>
      rw [htext] at h
      obtain rfl : String.ofList text = s := Except.ok.inj h
      rw [encodeString, String.toList_ofList]
      exact decode_eq_ok_iff.1 htext
  · rintro rfl
    exact decodeString_encodeString s

end DeviceGateway.Bytes.Utf8
