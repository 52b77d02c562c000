/-!
# Counts of 53 bits

The count of received octets is kept to 53 significant bits, so that it never
overflows and stays exact up to 2^53.  Above, each addition rounds to the
nearest number of that precision, and to the even one of two that are equally
near.

Such a count is shown with as few significant digits as tell it apart from its
neighbours, followed by zeros.  Two neighbours are as far apart as the last bit
counts, and half as far below a power of two; a decimal stands for a count if
it is nearer to it than to its neighbours, or halfway and the count is even.

## Main results

* `round_near`: a count is rounded by half a unit of its last bit at most.
* `shortest_eq_or_standsFor`: the number that is shown is the count or stands
  for it.
-/

namespace DeviceGateway.Metrics.Significand

/-- The first number that may need rounding. -/
def limit : Nat := 1 <<< 53

/-- How many low bits a number has beyond 53. -/
def excess (n : Nat) : Nat :=
  n.log2 - 52

/-- The nearest number of 53 significant bits. -/
def round (n : Nat) : Nat :=
  if n < limit then n
  else
    let unit := 1 <<< excess n
    let kept := n / unit
    let rest := n % unit
    if unit < 2 * rest ∨ (unit = 2 * rest ∧ kept % 2 = 1) then (kept + 1) * unit
    else kept * unit

/-- Whether a number stands for the count `n` of at least 2^53. -/
def standsFor (n c : Nat) : Bool :=
  let unit := 1 <<< excess n
  let kept := n / unit
  let above := 4 * n + 2 * unit
  let below := 4 * n - if kept = 1 <<< 52 then unit else 2 * unit
  if kept % 2 = 0 then below ≤ 4 * c && 4 * c ≤ above
  else below < 4 * c && 4 * c < above

/-- The nearest multiple of ten to the power `k` that stands for a count. -/
def roundedTo (n k : Nat) : Option Nat :=
  let unit := Nat.pow 10 k
  let low := n / unit * unit
  let high := low + unit
  match standsFor n low, standsFor n high with
  | true, true => some (if 2 * (n - low) < unit then low else high)
  | true, false => some low
  | false, true => some high
  | false, false => none

/-- The number with the fewest significant digits that stands for a count,
tried from `k` trailing zeros downwards. -/
def shortestFrom (n : Nat) : Nat → Nat
  | 0 => n
  | k + 1 => (roundedTo n (k + 1)).getD (shortestFrom n k)

/-- The number that is shown for a count. -/
def shortest (n : Nat) : Nat :=
  if n < limit then n else shortestFrom n (toString n).length

private theorem unit_pos (n : Nat) : 0 < 1 <<< excess n := by
  rw [Nat.one_shiftLeft]
  exact Nat.two_pow_pos _

/-- Rounding up adds what is missing in the last unit, and rounding down takes
away what is over; either is half a unit at most. -/
theorem round_near (n : Nat) :
    2 * (round n - n) ≤ 1 <<< excess n ∧
      2 * (n - round n) ≤ 1 <<< excess n := by
  have hunit := unit_pos n
  unfold round
  generalize 1 <<< excess n = unit at hunit
  have hrest := Nat.mod_lt n hunit
  have hsum := Nat.div_add_mod' n unit
  have hnext : (n / unit + 1) * unit = n / unit * unit + unit :=
    Nat.succ_mul _ _
  dsimp only
  split
  · omega
  · split <;> omega

theorem standsFor_self {n : Nat} (h : limit ≤ n) : standsFor n n = true := by
  have hpos : 0 < n := Nat.lt_of_lt_of_le (by decide) h
  have hunit := unit_pos n
  unfold standsFor
  generalize 1 <<< excess n = unit at hunit
  dsimp only
  split
  · simp only [Bool.and_eq_true, decide_eq_true_eq]
    omega
  · simp only [Bool.and_eq_true, decide_eq_true_eq]
    split <;> omega

theorem standsFor_of_roundedTo {n k c : Nat} (h : roundedTo n k = some c) :
    standsFor n c = true := by
  unfold roundedTo at h
  dsimp only at h
  split at h
  · next hlow hhigh =>
    obtain rfl := Option.some.inj h
    split
    · exact hlow
    · exact hhigh
  · next hlow _ =>
    obtain rfl := Option.some.inj h
    exact hlow
  · next _ hhigh =>
    obtain rfl := Option.some.inj h
    exact hhigh
  · cases h

theorem standsFor_shortestFrom {n : Nat} (h : limit ≤ n) (k : Nat) :
    standsFor n (shortestFrom n k) = true := by
  induction k with
  | zero => exact standsFor_self h
  | succ k ih =>
    rw [shortestFrom]
    cases hrounded : roundedTo n (k + 1) with
    | none => exact ih
    | some c => exact standsFor_of_roundedTo hrounded

theorem shortest_eq_or_standsFor (n : Nat) :
    shortest n = n ∨ standsFor n (shortest n) = true := by
  unfold shortest
  split
  · exact .inl rfl
  · next hlarge =>
    exact .inr (standsFor_shortestFrom (Nat.le_of_not_lt hlarge) _)

end DeviceGateway.Metrics.Significand
