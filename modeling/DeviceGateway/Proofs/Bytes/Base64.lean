import DeviceGateway.Bytes.Base64

/-!
# Base64 read back

Octets come back from their digits for every length, by groups of three octets.
A full group has no padding in it, because no digit is `=`, and a last group of
one or two octets leaves bits over that are written as zero, as a strict reader
wants them.

## Main results

* `decode?_encode`: what is written reads back.
-/

namespace DeviceGateway.Bytes.Base64

theorem value?_digit {n : Nat} (h : n < 64) : value? (digit n) = some n := by
  have hall : ∀ m, m < 64 → value? (digit m) = some m := by decide
  exact hall n h

theorem digit_ne_padding {n : Nat} (h : n < 64) : digit n ≠ '=' := by
  have hall : ∀ m, m < 64 → digit m ≠ '=' := by decide
  exact hall n h

section Groups

variable (s : Strictness) (done : List UInt8) (a b c : UInt8)

/-- A full group, whatever follows it. -/
theorem decodeOnto_group (rest : List Char) :
    decodeOnto s done (group a b c ++ rest) =
      decodeOnto s (c :: b :: a :: done) rest := by
  have ha := a.toNat_lt
  have hb := b.toNat_lt
  have hc := c.toNat_lt
  have hfirst : a.toNat / 4 * 4 + (a.toNat % 4 * 16 + b.toNat / 16) / 16 =
      a.toNat := by omega
  have hsecond : (a.toNat % 4 * 16 + b.toNat / 16) % 16 * 16 +
      (b.toNat % 16 * 4 + c.toNat / 64) / 4 = b.toNat := by omega
  have hthird : (b.toNat % 16 * 4 + c.toNat / 64) % 4 * 64 + c.toNat % 64 =
      c.toNat := by omega
  have hlast := digit_ne_padding (show c.toNat % 64 < 64 by omega)
  rw [group, List.cons_append, List.cons_append, List.cons_append,
    List.cons_append, List.nil_append]
  rw [decodeOnto]
  · simp only [value?_digit (show a.toNat / 4 < 64 by omega),
      value?_digit (show a.toNat % 4 * 16 + b.toNat / 16 < 64 by omega),
      value?_digit (show b.toNat % 16 * 4 + c.toNat / 64 < 64 by omega),
      value?_digit (show c.toNat % 64 < 64 by omega), hfirst, hsecond, hthird,
      UInt8.ofNat_toNat]
  · intro _ hpadding _
    exact absurd hpadding hlast
  · intro hpadding _
    exact absurd hpadding hlast

private theorem firstOctet_digits :
    firstOctet s (digit (a.toNat / 4)) (digit (a.toNat % 4 * 16)) = some a := by
  have ha := a.toNat_lt
  have hfirst : a.toNat / 4 * 4 + a.toNat % 4 * 16 / 16 = a.toNat := by omega
  have hzero : a.toNat % 4 * 16 % 16 = 0 := by omega
  rw [firstOctet, value?_digit (by omega), value?_digit (by omega)]
  dsimp only
  rw [hfirst, hzero, UInt8.ofNat_toNat]
  simp

private theorem twoOctets_digits :
    twoOctets s (digit (a.toNat / 4)) (digit (a.toNat % 4 * 16 + b.toNat / 16))
      (digit (b.toNat % 16 * 4)) = some (a, b) := by
  have ha := a.toNat_lt
  have hb := b.toNat_lt
  have hfirst : a.toNat / 4 * 4 + (a.toNat % 4 * 16 + b.toNat / 16) / 16 =
      a.toNat := by omega
  have hsecond : (a.toNat % 4 * 16 + b.toNat / 16) % 16 * 16 +
      b.toNat % 16 * 4 / 4 =
      b.toNat := by omega
  have hzero : b.toNat % 16 * 4 % 4 = 0 := by omega
  rw [twoOctets, value?_digit (by omega), value?_digit (by omega),
    value?_digit (by omega)]
  dsimp only
  rw [hfirst, hsecond, hzero, UInt8.ofNat_toNat, UInt8.ofNat_toNat]
  simp

private theorem decodeOnto_one :
    decodeOnto s done (digits [a]) = some (done.reverse ++ [a]) := by
  rw [digits, decodeOnto, firstOctet_digits]
  simp

private theorem decodeOnto_two :
    decodeOnto s done (digits [a, b]) = some (done.reverse ++ [a, b]) := by
  have hb := b.toNat_lt
  have hlast := digit_ne_padding (show b.toNat % 16 * 4 < 64 by omega)
  rw [digits, decodeOnto, twoOctets_digits]
  · simp
  · exact hlast

end Groups

private theorem decodeOnto_digits (s : Strictness) (bytes done : List UInt8) :
    decodeOnto s done (digits bytes) = some (done.reverse ++ bytes) := by
  induction bytes using digits.induct generalizing done with
  | case1 => simp [digits, decodeOnto]
  | case2 a => exact decodeOnto_one s done a
  | case3 a b => exact decodeOnto_two s done a b
  | case4 a b c rest ih =>
    rw [digits, decodeOnto_group, ih]
    simp

/-- Octets that were written read back. -/
theorem decode?_encode (bytes : List UInt8) :
    decode? (encode bytes) = some bytes := by
  rw [encode_eq_digits]
  exact decodeOnto_digits strict bytes []

end DeviceGateway.Bytes.Base64
