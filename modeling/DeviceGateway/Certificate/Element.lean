import DeviceGateway.Bytes.Octets

/-!
# Tagged elements

A certificate is a tree of elements.  Each is a tag, the length of the content
and the content; the content of some is again a list of elements.  Lengths are
definite: an element that only ends where an end mark stands is refused.  Only
the serial number may be such an open element, and `readOpen` passes over one,
the open elements inside it included.

A `Reader` takes something off the front of a list of octets and returns what is
left.  `inside` reads the content of one element with another reader and drops
what that reader leaves over, so octets nobody asked for do not make a
certificate invalid.

## Main results

* `Element.read_length`: an element takes at least two octets off the front, so
  a list of octets holds at most as many elements as octets.
* `readOpen_of_read`: an element of definite length is not open, and both
  readers take the same off the front.
-/

namespace DeviceGateway.Certificate

/-- Who gives a tag its meaning. -/
inductive TagClass where
  | universal
  | application
  | context
  | reserved
  deriving DecidableEq, Repr

/-- The class in the two high bits of a first octet. -/
def TagClass.ofOctet (b : UInt8) : TagClass :=
  match b.toNat / 64 with
  | 0 => .universal
  | 1 => .application
  | 2 => .context
  | _ => .reserved

/-- What an element is. -/
structure Tag where
  tagClass : TagClass
  /-- Whether the content is made of elements. -/
  constructed : Bool
  number : Nat
  deriving DecidableEq, Repr

/-- An element with its content. -/
structure Element where
  tag : Tag
  content : List UInt8
  deriving DecidableEq, Repr

/-- Takes something off the front. -/
abbrev Reader (α : Type) := StateT (List UInt8) Option α

/-- The tag numbers that certificates use, each for what it stands for. -/
def endMarkTag : Nat := 0
def booleanTag : Nat := 1
def integerTag : Nat := 2
def bitsTag : Nat := 3
def octetsTag : Nat := 4
def sequenceTag : Nat := 16
def setTag : Nat := 17
def utcTimeTag : Nat := 23
def generalizedTimeTag : Nat := 24

/-- A tag number above thirty: seven bits an octet, the last octet below 128, at
most `room` octets, and thirty-two bits in all. -/
def readLongNumber (value : Nat) : Nat → List UInt8 → Option (Nat × List UInt8)
  | room + 1, b :: rest =>
    let value := (value * 128 + b.toNat % 128) % UInt32.size
    if b.toNat < 128 then some (value, rest) else readLongNumber value room rest
  | _, _ => none

/-- Reads a tag. -/
def Tag.read : List UInt8 → Option (Tag × List UInt8)
  | [] => none
  | b :: rest =>
    let tag (number : Nat) : Tag :=
      ⟨TagClass.ofOctet b, b.toNat / 32 % 2 == 1, number⟩
    if b.toNat % 32 == 31 then
      (readLongNumber 0 5 rest).map fun (number, rest) => (tag number, rest)
    else some (tag (b.toNat % 32), rest)

/-- A number of any size, the highest octet first. -/
def numberOf (digits : List UInt8) : Nat :=
  digits.foldl (fun n b => n * 256 + b.toNat) 0

/-- Reads a length: one octet below 128, or the number of octets that follow.
A length needs no more than sixty-four bits, but may begin with zeros. -/
def readLength : List UInt8 → Option (Nat × List UInt8)
  | [] => none
  | b :: rest =>
    if b.toNat < 128 then some (b.toNat, rest)
    else if b.toNat = 128 ∨ b.toNat = 255 then none
    else match Bytes.splitExactly (b.toNat - 128) rest with
      | none => none
      | some (digits, rest) =>
        if numberOf digits < UInt64.size then some (numberOf digits, rest)
        else none

/-- Reads what stands before the content: a tag and a length. -/
def readHead (bytes : List UInt8) : Option ((Tag × Nat) × List UInt8) :=
  match Tag.read bytes with
  | none => none
  | some (tag, rest) => (readLength rest).map fun (length, rest) =>
    ((tag, length), rest)

/-- Reads an element. -/
def Element.read (bytes : List UInt8) : Option (Element × List UInt8) :=
  match readHead bytes with
  | none => none
  | some ((tag, length), rest) =>
    (Bytes.splitExactly length rest).map fun (content, rest) =>
      (⟨tag, content⟩, rest)

/-! ## Open elements -/

/-- Reads a tag and a length, or none for a length that is left open. -/
def readOpenHead (bytes : List UInt8) :
    Option ((Tag × Option Nat) × List UInt8) :=
  match Tag.read bytes with
  | none => none
  | some (tag, b :: rest) =>
    if b.toNat = 128 then some ((tag, none), rest)
    else (readLength (b :: rest)).map fun (length, rest) =>
      ((tag, some length), rest)
  | some (_, []) => none

/-- What follows the end mark that closes an open element, read from the start
of its content.  Open elements may be nested in it `depth` deep; `rounds` bounds
the number of elements. -/
def afterEndMark : Nat → Nat → List UInt8 → Option (List UInt8)
  | _, 0, _ => none
  | depth, rounds + 1, bytes =>
    match readOpenHead bytes with
    | none => none
    | some ((tag, some length), rest) =>
      if tag.number = endMarkTag ∧ length = 0 then some rest
      else match Bytes.splitExactly length rest with
        | none => none
        | some (_, rest) => afterEndMark depth rounds rest
    | some ((tag, none), rest) =>
      match depth with
      | 0 => none
      | inner + 1 =>
        if tag.constructed then
          match afterEndMark inner rounds rest with
          | none => none
          | some rest => afterEndMark (inner + 1) rounds rest
        else none

/-- How deep open elements may be nested inside one. -/
def maxOpenDepth : Nat := 48

/-- Reads an element that may be open, and returns its tag. -/
def readOpen : Reader Tag := fun bytes =>
  match readOpenHead bytes with
  | none => none
  | some ((tag, some length), rest) =>
    (Bytes.splitExactly length rest).map fun (_, rest) => (tag, rest)
  | some ((tag, none), rest) =>
    if tag.constructed then (afterEndMark maxOpenDepth rest.length rest).map
      fun r => (tag, r)
    else none

/-! ## Combining readers -/

/-- Reads an element with a given tag number. -/
def numbered (number : Nat) : Reader Element := fun bytes =>
  match Element.read bytes with
  | none => none
  | some (e, rest) => if e.tag.number = number then some (e, rest) else none

/-- Reads the content of an element with a given tag number. -/
def inside {α : Type} (number : Nat) (body : Reader α) : Reader α :=
  fun bytes =>
  match numbered number bytes with
  | none => none
  | some (e, rest) => (body e.content).map fun (x, _) => (x, rest)

/-- Reads as many things as there are, and stops before the first that is none;
`rounds` bounds their number. -/
def readMany {α : Type} (readOne : Reader α) :
    Nat → List UInt8 → List α × List UInt8
  | 0, bytes => ([], bytes)
  | rounds + 1, bytes =>
    match readOne bytes with
    | none => ([], bytes)
    | some (x, rest) =>
      let (xs, rest) := readMany readOne rounds rest
      (x :: xs, rest)

/-- Reads as many things as there are.  Each takes an octet at least. -/
def many {α : Type} (readOne : Reader α) : Reader (List α) := fun bytes =>
  some (readMany readOne bytes.length bytes)

/-! ## What is left -/

private theorem readLongNumber_length {value room n : Nat}
    {bytes rest : List UInt8}
    (h : readLongNumber value room bytes = some (n, rest)) :
    rest.length < bytes.length := by
  fun_induction readLongNumber value room bytes with
  | case1 value room b rest' value' hb =>
    simp only [Option.some.injEq, Prod.mk.injEq] at h
    simp [← h.2]
  | case2 value room b rest' value' hb ih =>
    have := ih h
    simp only [List.length_cons]
    omega
  | case3 => simp at h

theorem Tag.read_length {bytes rest : List UInt8} {tag : Tag}
    (h : Tag.read bytes = some (tag, rest)) : rest.length < bytes.length := by
  cases bytes with
  | nil => simp [Tag.read] at h
  | cons b tail =>
    simp only [Tag.read] at h
    split at h
    · obtain ⟨⟨number, left⟩, hread, heq⟩ := Option.map_eq_some_iff.1 h
      have := readLongNumber_length hread
      simp only [Prod.mk.injEq] at heq
      rw [← heq.2]
      simp only [List.length_cons]
      omega
    · simp only [Option.some.injEq, Prod.mk.injEq] at h
      simp [← h.2]

private theorem readLength_length {bytes rest : List UInt8} {n : Nat}
    (h : readLength bytes = some (n, rest)) : rest.length < bytes.length := by
  cases bytes with
  | nil => simp [readLength] at h
  | cons b tail =>
    simp only [readLength] at h
    split at h
    · simp only [Option.some.injEq, Prod.mk.injEq] at h
      simp [← h.2]
    · split at h
      · simp at h
      · split at h
        · simp at h
        · next digits left hsplit =>
          have hcut := (Bytes.splitExactly_eq_some_iff.1 hsplit).1
          split at h
          · simp only [Option.some.injEq, Prod.mk.injEq] at h
            rw [← h.2, hcut]
            simp only [List.length_cons, List.length_append]
            omega
          · simp at h

theorem Element.read_length {bytes rest : List UInt8} {e : Element}
    (h : Element.read bytes = some (e, rest)) :
    rest.length + 2 ≤ bytes.length := by
  simp only [Element.read, readHead] at h
  cases htag : Tag.read bytes with
  | none => simp [htag] at h
  | some tagged =>
    obtain ⟨tag, afterTag⟩ := tagged
    cases hlen : readLength afterTag with
    | none => simp [htag, hlen] at h
    | some sized =>
      obtain ⟨n, afterLength⟩ := sized
      simp only [htag, hlen, Option.map_some] at h
      obtain ⟨⟨content, left⟩, hsplit, heq⟩ := Option.map_eq_some_iff.1 h
      have hcut :=
        congrArg List.length (Bytes.splitExactly_eq_some_iff.1 hsplit).1
      have hfirst := Tag.read_length htag
      have hsecond := readLength_length hlen
      simp only [Prod.mk.injEq] at heq
      rw [← heq.2]
      simp only [List.length_append] at hcut
      omega

theorem readOpen_of_read {bytes rest : List UInt8} {e : Element}
    (h : Element.read bytes = some (e, rest)) :
    readOpen bytes = some (e.tag, rest) := by
  simp only [Element.read, readHead] at h
  cases htag : Tag.read bytes with
  | none => simp [htag] at h
  | some tagged =>
    obtain ⟨tag, afterTag⟩ := tagged
    cases afterTag with
    | nil => simp [htag, readLength] at h
    | cons b tail =>
      have hopen : b.toNat ≠ 128 := by
        intro hb
        simp [htag, readLength, hb] at h
      cases hlen : readLength (b :: tail) with
      | none => simp [htag, hlen] at h
      | some sized =>
        obtain ⟨n, afterLength⟩ := sized
        simp only [htag, hlen, Option.map_some] at h
        obtain ⟨⟨content, left⟩, hsplit, heq⟩ := Option.map_eq_some_iff.1 h
        simp only [Prod.mk.injEq] at heq
        simp [readOpen, readOpenHead, htag, hopen, hlen, hsplit, ← heq.1,
          ← heq.2]

end DeviceGateway.Certificate
