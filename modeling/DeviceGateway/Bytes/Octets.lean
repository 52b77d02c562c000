/-!
# Octet lists

Every wire format of the gateway is read from and written to a list of octets.
This module holds the two readers all of them share: taking an exact number of
octets off the front, and a big-endian sixteen bit number.  Both return what is
left over, so a parser is a chain of them and "no octet is lost" is an equation
between lists.

## Main results

* `splitExactly_eq_some_iff`: an exact cut succeeds on, and only on, lists with
  enough octets, and returns the two halves.
* `takeUInt16_putUInt16`: reading a number back after writing it.
-/

namespace DeviceGateway.Bytes

/-- Cuts off the first `n` elements, or nothing if there are fewer.  The cost is
proportional to `n`, not to the length of the list. -/
def splitExactly {α : Type} (n : Nat) (xs : List α) :
    Option (List α × List α) :=
  let halves := xs.splitAt n
  if halves.1.length = n then some halves else none

/-- A number below 65536 in two octets, the high one first. -/
def putUInt16 (n : UInt16) : List UInt8 :=
  [UInt8.ofNat (n.toNat / 256), UInt8.ofNat (n.toNat % 256)]

/-- Reads two octets as a number, the high one first. -/
def takeUInt16 : List UInt8 → Option (UInt16 × List UInt8)
  | hi :: lo :: rest => some (UInt16.ofNat (hi.toNat * 256 + lo.toNat), rest)
  | _ => none

theorem splitExactly_eq_some_iff {α : Type} {n : Nat} {xs front rest : List α} :
    splitExactly n xs = some (front, rest) ↔
      xs = front ++ rest ∧ front.length = n := by
  simp only [splitExactly, List.splitAt_eq]
  constructor
  · intro h
    split at h
    · next hn =>
      simp only [Option.some.injEq, Prod.mk.injEq] at h
      obtain ⟨rfl, rfl⟩ := h
      exact ⟨(List.take_append_drop n xs).symm, hn⟩
    · exact absurd h (by simp)
  · rintro ⟨rfl, rfl⟩
    simp

theorem splitExactly_append {α : Type} (front rest : List α) :
    splitExactly front.length (front ++ rest) = some (front, rest) :=
  splitExactly_eq_some_iff.2 ⟨rfl, rfl⟩

theorem splitExactly_eq_none_iff {α : Type} {n : Nat} {xs : List α} :
    splitExactly n xs = none ↔ xs.length < n := by
  simp only [splitExactly, List.splitAt_eq, List.length_take]
  split <;> simp <;> omega

theorem takeUInt16_putUInt16 (n : UInt16) (rest : List UInt8) :
    takeUInt16 (putUInt16 n ++ rest) = some (n, rest) := by
  have hn : n.toNat < 65536 := n.toNat_lt
  have hhi : (UInt8.ofNat (n.toNat / 256)).toNat = n.toNat / 256 := by
    rw [UInt8.toNat_ofNat']
    exact Nat.mod_eq_of_lt (by omega)
  have hlo : (UInt8.ofNat (n.toNat % 256)).toNat = n.toNat % 256 := by
    rw [UInt8.toNat_ofNat']
    exact Nat.mod_eq_of_lt (by omega)
  have hsum : n.toNat / 256 * 256 + n.toNat % 256 = n.toNat := by omega
  simp [putUInt16, takeUInt16, hhi, hlo, hsum]

end DeviceGateway.Bytes
