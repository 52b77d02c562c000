import DeviceGateway.Bytes.Hex

/-!
# Object identifiers

Kinds of attributes, algorithms and extensions are named by paths in one tree.
Each step down the tree is a number, called an arc.  The octets of an identifier
hold the first two arcs in one octet, and every later arc in base 128, the
highest digit first, where all octets of an arc but its last are marked by
their high bit.

Identifiers are compared by their octets, so an arc that is written with a
leading zero digit makes another identifier that is shown in the same way.

## Main results

* `arcsFrom_arcOctets`: an arc below 2^64 is read back as it was written.
* `arcs_ofArcs`: so is a whole path.
-/

namespace DeviceGateway.Certificate

/-- A path in the tree of kinds, as the octets that hold it. -/
structure ObjectId where
  content : List UInt8
  deriving DecidableEq, Repr

namespace ObjectId

/-! ## Reading -/

/-- Arcs after the first two, each modulo 2^64; `value` holds the digits read so
far of the first one.  An arc whose last octet is missing counts as well. -/
def arcsFrom (value : Nat) : List UInt8 → List Nat
  | [] => []
  | b :: rest =>
    let value := (value * 128 + b.toNat % 128) % UInt64.size
    if b.toNat < 128 then value :: arcsFrom 0 rest
    else if rest.isEmpty then [value]
    else arcsFrom value rest

/-- The arcs of an identifier.  The first octet holds two of them. -/
def arcs (id : ObjectId) : List Nat :=
  match id.content with
  | [] => []
  | [0] => [0]
  | b :: rest => b.toNat / 40 :: b.toNat % 40 :: arcsFrom 0 rest

/-- The most octets of an arc that surely fits into sixty-four bits. -/
def maxArcOctets : Nat := 9

/-- Whether an arc that has its last octet is longer than `maxArcOctets`;
`size` octets of the first one have been read. -/
def hasLongArc (size : Nat) : List UInt8 → Bool
  | [] => false
  | b :: rest =>
    if b.toNat < 128 then decide (maxArcOctets < size + 1) || hasLongArc 0 rest
    else hasLongArc (size + 1) rest

/-- An identifier as it is shown: its arcs with points between them, or, if one
of them is too long for a number, its octets in hexadecimal with spaces. -/
def describe (id : ObjectId) : String :=
  if hasLongArc 0 id.content.tail then
    " ".intercalate (id.content.map fun b => Bytes.Hex.toText .lower [b])
  else ".".intercalate (id.arcs.map toString)

/-! ## Writing -/

/-- The digits of a number in base 128, all of them marked, in front of some
octets. -/
def markedDigits (n : Nat) (later : List UInt8) : List UInt8 :=
  if n = 0 then later else markedDigits (n / 128)
    (UInt8.ofNat (128 + n % 128) :: later)
termination_by n

/-- The octets of an arc. -/
def arcOctets (n : Nat) : List UInt8 :=
  markedDigits (n / 128) [UInt8.ofNat (n % 128)]

/-- The identifier with a path of two arcs at least. -/
def ofArcs : List Nat → ObjectId
  | a :: b :: rest => ⟨UInt8.ofNat (a * 40 + b) :: rest.flatMap arcOctets⟩
  | _ => ⟨[]⟩

/-! ## Reading what was written -/

private theorem arcsFrom_marked {value d : Nat} (hd : d < 128)
    {later : List UInt8} (hlater : later ≠ []) :
    arcsFrom value (UInt8.ofNat (128 + d) :: later) =
      arcsFrom ((value * 128 + d) % UInt64.size) later := by
  have hnat : (UInt8.ofNat (128 + d)).toNat = 128 + d := by
    rw [UInt8.toNat_ofNat', Nat.mod_eq_of_lt (by omega)]
  have hdigit : (128 + d) % 128 = d := by omega
  rw [arcsFrom, hnat, hdigit, if_neg (by omega), if_neg (by simpa using hlater)]

private theorem arcsFrom_markedDigits {n : Nat} (hn : n < UInt64.size)
    {later : List UInt8} (hlater : later ≠ []) :
    arcsFrom 0 (markedDigits n later) = arcsFrom n later := by
  induction n using Nat.strongRecOn generalizing later with
  | ind n ih =>
    rw [markedDigits]
    split
    · next h => rw [h]
    · have hstep : (n / 128 * 128 + n % 128) % UInt64.size = n := by
        rw [Nat.div_add_mod', Nat.mod_eq_of_lt hn]
      rw [ih (n / 128) (by omega) (by omega) (List.cons_ne_nil _ _),
        arcsFrom_marked (Nat.mod_lt _ (by decide)) hlater, hstep]

private theorem markedDigits_append (n : Nat) (later rest : List UInt8) :
    markedDigits n later ++ rest = markedDigits n (later ++ rest) := by
  induction n using Nat.strongRecOn generalizing later with
  | ind n ih =>
    by_cases h : n = 0
    · rw [markedDigits, if_pos h, markedDigits, if_pos h]
    · rw [markedDigits, if_neg h, ih (n / 128) (by omega), List.cons_append,
        markedDigits.eq_def n, if_neg h]

/-- An arc below 2^64 is read back as it was written, whatever follows it. -/
theorem arcsFrom_arcOctets {n : Nat} (hn : n < UInt64.size)
    (rest : List UInt8) :
    arcsFrom 0 (arcOctets n ++ rest) = n :: arcsFrom 0 rest := by
  have hnat : (UInt8.ofNat (n % 128)).toNat = n % 128 := by
    rw [UInt8.toNat_ofNat', Nat.mod_eq_of_lt (by omega)]
  have hvalue : (n / 128 * 128 + n % 128 % 128) % UInt64.size = n := by
    rw [Nat.mod_mod, Nat.div_add_mod', Nat.mod_eq_of_lt hn]
  rw [arcOctets, markedDigits_append, arcsFrom_markedDigits (by omega)
    (by simp), List.cons_append, List.nil_append, arcsFrom, hnat, hvalue,
    if_pos (by omega)]

private theorem arcsFrom_flatMap {path : List Nat}
    (h : ∀ n ∈ path, n < UInt64.size) :
    arcsFrom 0 (path.flatMap arcOctets) = path := by
  induction path with
  | nil => rfl
  | cons n rest ih =>
    rw [List.flatMap_cons, arcsFrom_arcOctets (h n (by simp)),
      ih fun m hm => h m (by simp [hm])]

/-- A path is read back as it was written. -/
theorem arcs_ofArcs {a b : Nat} {path : List Nat} (ha : a < 3) (hb : b < 40)
    (hpath : ∀ n ∈ path, n < UInt64.size) (hroot : 0 < a * 40 + b) :
    (ofArcs (a :: b :: path)).arcs = a :: b :: path := by
  have hnat : (UInt8.ofNat (a * 40 + b)).toNat = a * 40 + b := by
    rw [UInt8.toNat_ofNat', Nat.mod_eq_of_lt (by omega)]
  have hne : UInt8.ofNat (a * 40 + b) ≠ 0 := by
    intro h
    have := congrArg UInt8.toNat h
    rw [hnat] at this
    simp at this
    omega
  unfold arcs ofArcs
  split
  · next h => simp at h
  · next h => exact absurd (List.cons.inj h).1 hne
  · next c rest _ h =>
    obtain ⟨rfl, rfl⟩ := List.cons.inj h
    rw [hnat, arcsFrom_flatMap hpath]
    have hdiv : (a * 40 + b) / 40 = a := by omega
    have hmod : (a * 40 + b) % 40 = b := by omega
    rw [hdiv, hmod]

end ObjectId

end DeviceGateway.Certificate
