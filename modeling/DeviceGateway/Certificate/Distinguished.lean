import DeviceGateway.Certificate.Element

/-!
# Elements in distinguished form

What is signed must have one written form, or two readers could take one
signature for two statements.  In the distinguished form the kind of an element
takes one octet, and its length the fewest octets that can hold it.  Elements of
a handshake are short besides: none has a content of `lengthLimit` octets.

The readers here leave nothing over.  An element that is read with `within` has
to be read to the end of its content.

## Main results

* `Item.read_eq_some_iff`: an element is read from its written form, and from no
  other octets.
* `within_eq_some`: nothing is left over inside an element.
-/

namespace DeviceGateway.Certificate.Distinguished

/-! ## Elements -/

/-- An element: the octet that tells its kind, and its content. -/
structure Item where
  kind : UInt8
  content : List UInt8
  deriving DecidableEq, Repr

/-- The kinds of elements that keys and certificates are made of. -/
def booleanKind : UInt8 := 0x01
def integerKind : UInt8 := 0x02
def bitsKind : UInt8 := 0x03
def octetsKind : UInt8 := 0x04
def objectIdKind : UInt8 := 0x06
def sequenceKind : UInt8 := 0x30

/-- The kind of the element that holds a part with a number of its own. -/
def partKind (number : UInt8) : UInt8 := 0xA0 + number

/-- No content is as long as this. -/
def lengthLimit : Nat := 65535

/-- The fewest octets that hold a length below 65536. -/
def lengthOctets (n : Nat) : List UInt8 :=
  if n < 128 then [UInt8.ofNat n]
  else if n < 256 then [0x81, UInt8.ofNat n]
  else [0x82, UInt8.ofNat (n / 256), UInt8.ofNat (n % 256)]

/-- The written form of an element. -/
def Item.write (e : Item) : List UInt8 :=
  e.kind :: (lengthOctets e.content.length ++ e.content)

/-- Whether an element has a written form: its kind takes one octet, and its
content is short. -/
def Item.IsWritable (e : Item) : Prop :=
  e.kind.toNat % 32 ≠ 31 ∧ e.content.length < lengthLimit

/-- Reads a length that takes the fewest octets. -/
def readLeastLength : List UInt8 → Option (Nat × List UInt8)
  | [] => none
  | b :: rest =>
    if b.toNat < 128 then some (b.toNat, rest)
    else if b = 0x81 then
      match rest with
      | n :: rest => if 128 ≤ n.toNat then some (n.toNat, rest) else none
      | [] => none
    else if b = 0x82 then
      match rest with
      | hi :: lo :: rest =>
        let n := hi.toNat * 256 + lo.toNat
        if 256 ≤ n then some (n, rest) else none
      | _ => none
    else none

/-- Reads an element. -/
def Item.read : List UInt8 → Option (Item × List UInt8)
  | [] => none
  | kind :: rest =>
    if kind.toNat % 32 = 31 then none
    else match readLeastLength rest with
      | none => none
      | some (n, rest) =>
        if n < lengthLimit then
          (Bytes.splitExactly n rest).map fun (content, rest) =>
            (⟨kind, content⟩, rest)
        else none

/-! ## Reading inside elements -/

/-- Reads an element of a kind, and returns its content. -/
def content (kind : UInt8) : Reader (List UInt8) := fun bytes =>
  match Item.read bytes with
  | none => none
  | some (e, rest) => if e.kind = kind then some (e.content, rest) else none

/-- What a reader makes of some octets if it leaves none over. -/
def whole {α : Type} (body : Reader α) (bytes : List UInt8) : Option α :=
  match body bytes with
  | some (x, []) => some x
  | _ => none

/-- Reads an element of a kind, and the whole of its content with another
reader. -/
def within {α : Type} (kind : UInt8) (body : Reader α) : Reader α :=
  fun bytes =>
  match content kind bytes with
  | none => none
  | some (inner, rest) => (whole body inner).map fun x => (x, rest)

/-- Whether an element of a kind comes next. -/
def isNext (kind : UInt8) : Reader Bool := fun bytes =>
  some (bytes.head? == some kind, bytes)

/-- Whether nothing is left. -/
def isDone : Reader Bool := fun bytes =>
  some (bytes.isEmpty, bytes)

/-- Reads elements to the end; `rounds` bounds their number. -/
def readAll {α : Type} (readOne : Reader α) : Nat → Reader (List α)
  | 0 => pure []
  | rounds + 1 => do
    if ← isDone then return []
    let x ← readOne
    let xs ← readAll readOne rounds
    return x :: xs

/-- Reads elements to the end.  Each takes an octet at least. -/
def untilDone {α : Type} (readOne : Reader α) : Reader (List α) := fun bytes =>
  readAll readOne bytes.length bytes

/-- The number that a content stands for, if it is not negative and has no zero
in front that it could do without. -/
def natural? (digits : List UInt8) : Option Nat :=
  match digits with
  | [] => none
  | [b] => if b.toNat < 128 then some b.toNat else none
  | b :: c :: _ =>
    if 128 ≤ b.toNat ∨ (b.toNat = 0 ∧ c.toNat < 128) then none
    else some (numberOf digits)

/-- Reads a number that is not negative. -/
def natural : Reader Nat := fun bytes =>
  match content integerKind bytes with
  | none => none
  | some (digits, rest) => (natural? digits).map fun n => (n, rest)

/-- Reads a list of bits that fill their octets, which may be written as an
element of another kind. -/
def filledBits (kind : UInt8) : Reader (List UInt8) :=
  within kind fun
    | unused :: octets => if unused = 0 then some (octets, []) else none
    | [] => none

/-! ## Reading what was written -/

private theorem readLeastLength_eq_some_iff {bytes rest : List UInt8}
    {n : Nat} :
    readLeastLength bytes = some (n, rest) ↔
      n < 65536 ∧ bytes = lengthOctets n ++ rest := by
  constructor
  · intro h
    unfold readLeastLength at h
    split at h
    · simp at h
    · next b tail =>
      have hb := b.toNat_lt
      split at h
      · next hshort =>
        simp only [Option.some.injEq, Prod.mk.injEq] at h
        obtain ⟨rfl, rfl⟩ := h
        exact ⟨by omega, by simp [lengthOctets, hshort]⟩
      · split at h
        · next hone =>
          split at h
          · next c left =>
            have hc := c.toNat_lt
            split at h
            · next hlong =>
              simp only [Option.some.injEq, Prod.mk.injEq] at h
              obtain ⟨rfl, rfl⟩ := h
              refine ⟨by omega, ?_⟩
              rw [lengthOctets, if_neg (by omega), if_pos (by omega), hone]
              simp
            · simp at h
          · simp at h
        · split at h
          · next htwo =>
            split at h
            · next hi lo left =>
              have hhi := hi.toNat_lt
              have hlo := lo.toNat_lt
              simp only at h
              split at h
              · next hlong =>
                simp only [Option.some.injEq, Prod.mk.injEq] at h
                obtain ⟨rfl, rfl⟩ := h
                have hdiv : (hi.toNat * 256 + lo.toNat) / 256 = hi.toNat := by
                  omega
                have hmod : (hi.toNat * 256 + lo.toNat) % 256 = lo.toNat := by
                  omega
                refine ⟨by omega, ?_⟩
                rw [lengthOctets, if_neg (by omega), if_neg (by omega), hdiv,
                  hmod, htwo]
                simp
              · simp at h
            · simp at h
          · simp at h
  · rintro ⟨hn, rfl⟩
    have hlow (m : Nat) (hm : m < 256) : (UInt8.ofNat m).toNat = m := by
      rw [UInt8.toNat_ofNat', Nat.mod_eq_of_lt (by omega)]
    unfold lengthOctets
    split
    · next hshort => simp [readLeastLength, hlow n (by omega), hshort]
    · split
      · next hlong hbyte =>
        simp [readLeastLength, hlow n hbyte, Nat.le_of_not_lt hlong]
      · next hlong hbyte =>
        have hsum : n / 256 * 256 + n % 256 = n := by omega
        simp [readLeastLength, hlow (n / 256) (by omega), hlow (n % 256)
          (by omega), hsum, Nat.le_of_not_lt hbyte]

/-- An element is read from its written form, and from no other octets. -/
theorem Item.read_eq_some_iff {bytes rest : List UInt8} {e : Item} :
    Item.read bytes = some (e, rest) ↔
      e.IsWritable ∧ bytes = e.write ++ rest := by
  constructor
  · intro h
    unfold Item.read at h
    split at h
    · simp at h
    · next kind tail =>
      split at h
      · simp at h
      · next hkind =>
        split at h
        · simp at h
        · next n left hlength =>
          split at h
          · next hn =>
            obtain ⟨⟨inner, after⟩, hcut, heq⟩ := Option.map_eq_some_iff.1 h
            simp only [Prod.mk.injEq] at heq
            obtain ⟨rfl, rfl⟩ := heq
            obtain ⟨rfl, rfl⟩ := Bytes.splitExactly_eq_some_iff.1 hcut
            exact ⟨⟨hkind, hn⟩, by
              simp [Item.write, (readLeastLength_eq_some_iff.1 hlength).2]⟩
          · simp at h
  · rintro ⟨⟨hkind, hlength⟩, rfl⟩
    have hread :
        readLeastLength (lengthOctets e.content.length ++ (e.content ++ rest)) =
        some (e.content.length, e.content ++ rest) :=
      readLeastLength_eq_some_iff.2
        ⟨by unfold lengthLimit at hlength; omega, rfl⟩
    simp [Item.write, Item.read, hkind, hread, hlength,
      Bytes.splitExactly_append]

private theorem content_eq_some {kind : UInt8} {bytes inner rest : List UInt8}
    (h : content kind bytes = some (inner, rest)) :
    bytes = (Item.mk kind inner).write ++ rest := by
  unfold content at h
  split at h
  · simp at h
  · next e left hread =>
    split at h
    · next hkind =>
      simp only [Option.some.injEq, Prod.mk.injEq] at h
      obtain ⟨rfl, rfl⟩ := h
      rw [(Item.read_eq_some_iff.1 hread).2, ← hkind]
    · simp at h

private theorem whole_eq_some_iff {α : Type} {body : Reader α}
    {bytes : List UInt8} {x : α} :
    whole body bytes = some x ↔ body bytes = some (x, []) := by
  unfold whole
  split
  · next y h => simp [h]
  · next h =>
    constructor
    · intro hx
      simp at hx
    · intro hx
      exact absurd hx (h x)

/-- Nothing is left over inside an element. -/
theorem within_eq_some {α : Type} {kind : UInt8} {body : Reader α}
    {bytes rest : List UInt8} {x : α}
    (h : within kind body bytes = some (x, rest)) :
    ∃ inner, bytes = (Item.mk kind inner).write ++ rest ∧
      body inner = some (x, []) := by
  unfold within at h
  split at h
  · simp at h
  · next inner left hcontent =>
    obtain ⟨y, hwhole, heq⟩ := Option.map_eq_some_iff.1 h
    simp only [Prod.mk.injEq] at heq
    obtain ⟨rfl, rfl⟩ := heq
    exact ⟨inner, content_eq_some hcontent, whole_eq_some_iff.1 hwhole⟩

end DeviceGateway.Certificate.Distinguished
