/-!
# Padded standard Base64

The envelope written to the backend carries a payload as standard Base64 with
padding: three octets become four digits, and a last group of one or two octets
is filled up with `=`.

Readers differ in two points.  The last group may have to be filled up, and the
bits that its digits hold beyond the last octet may have to be zero.  The
envelope is read strictly, so each payload has one written form; the blocks of
PEM files are written by many hands and read loosely.

## Main results

* `encode_eq_digits`: the form that runs agrees with the group by group rule.
* `length_encode`: four digits for every started group of three octets.
-/

namespace DeviceGateway.Bytes.Base64

/-- The digit of a value below sixty-four. -/
def digit (n : Nat) : Char :=
  if n < 26 then Char.ofNat ('A'.toNat + n)
  else if n < 52 then Char.ofNat ('a'.toNat + (n - 26))
  else if n < 62 then Char.ofNat ('0'.toNat + (n - 52))
  else if n == 62 then '+'
  else '/'

/-- The value of a digit. -/
def value? (c : Char) : Option Nat :=
  let n := c.toNat
  if 'A'.toNat ≤ n ∧ n ≤ 'Z'.toNat then some (n - 'A'.toNat)
  else if 'a'.toNat ≤ n ∧ n ≤ 'z'.toNat then some (n - 'a'.toNat + 26)
  else if '0'.toNat ≤ n ∧ n ≤ '9'.toNat then some (n - '0'.toNat + 52)
  else if c == '+' then some 62
  else if c == '/' then some 63
  else none

/-- The four digits of three octets. -/
def group (a b c : UInt8) : List Char :=
  [digit (a.toNat / 4), digit (a.toNat % 4 * 16 + b.toNat / 16),
    digit (b.toNat % 16 * 4 + c.toNat / 64), digit (c.toNat % 64)]

/-- The digits of a list of octets, group by group. -/
def digits : List UInt8 → List Char
  | [] => []
  | [a] => [digit (a.toNat / 4), digit (a.toNat % 4 * 16), '=', '=']
  | [a, b] =>
    [digit (a.toNat / 4), digit (a.toNat % 4 * 16 + b.toNat / 16),
      digit (b.toNat % 16 * 4), '=']
  | a :: b :: c :: rest => group a b c ++ digits rest

/-- `digits` in constant stack space: `done` holds the digits so far, the last
one first. -/
def encodeOnto (done : List Char) : List UInt8 → List Char
  | a :: b :: c :: d :: rest =>
    encodeOnto ((group a b c).reverse ++ done) (d :: rest)
  | last => done.reverse ++ digits last

/-- The digits of a list of octets. -/
def encode (bytes : List UInt8) : List Char :=
  encodeOnto [] bytes

/-- What a reader insists on. -/
structure Strictness where
  /-- The last group has to be filled up. -/
  padding : Bool
  /-- The bits beyond the last octet have to be zero. -/
  zeroBits : Bool
  deriving DecidableEq, Repr

/-- Exactly what is written by `encode` can be read. -/
def strict : Strictness := ⟨true, true⟩

/-- Padding may be left out, and the bits beyond the last octet do not
matter. -/
def loose : Strictness := ⟨false, false⟩

/-- The first octet of a last group, from its two digits. -/
def firstOctet (s : Strictness) (a b : Char) : Option UInt8 :=
  match value? a, value? b with
  | some x, some y =>
    if s.zeroBits && y % 16 != 0 then none
    else some (UInt8.ofNat (x * 4 + y / 16))
  | _, _ => none

/-- The two octets of a last group, from its three digits. -/
def twoOctets (s : Strictness) (a b c : Char) : Option (UInt8 × UInt8) :=
  match value? a, value? b, value? c with
  | some x, some y, some z =>
    if s.zeroBits && z % 4 != 0 then none
    else some (UInt8.ofNat (x * 4 + y / 16), UInt8.ofNat (y % 16 * 16 + z / 4))
  | _, _, _ => none

/-- Reads digits; `done` holds the octets so far, the last one first.  Padding
stands at the end only, and one digit alone is no group. -/
def decodeOnto (s : Strictness) (done : List UInt8) :
    List Char → Option (List UInt8)
  | [] => some done.reverse
  | [a, b, '=', '='] => (firstOctet s a b).map fun x => (x :: done).reverse
  | [a, b, c, '='] =>
    (twoOctets s a b c).map fun (x, y) => (y :: x :: done).reverse
  | a :: b :: c :: d :: rest =>
    match value? a, value? b, value? c, value? d with
    | some x, some y, some z, some w =>
      decodeOnto s (UInt8.ofNat (z % 4 * 64 + w) ::
        UInt8.ofNat (y % 16 * 16 + z / 4) ::
        UInt8.ofNat (x * 4 + y / 16) :: done) rest
    | _, _, _, _ => none
  | [a, b, c] =>
    if s.padding then none
    else (twoOctets s a b c).map fun (x, y) => (y :: x :: done).reverse
  | [a, b] =>
    if s.padding then none else (firstOctet s a b).map fun x =>
      (x :: done).reverse
  | [_] => none

/-- The octets behind a list of digits, if it is written as `encode` writes. -/
def decode? (text : List Char) : Option (List UInt8) :=
  decodeOnto strict [] text

/-- The octets behind a list of digits that may be written loosely. -/
def decodeLoose? (text : List Char) : Option (List UInt8) :=
  decodeOnto loose [] text

private theorem encodeOnto_eq (done : List Char) (bytes : List UInt8) :
    encodeOnto done bytes = done.reverse ++ digits bytes := by
  fun_induction encodeOnto done bytes with
  | case1 done a b c d rest ih => simp [ih, digits]
  | case2 done last => rfl

/-- The two ways of writing agree. -/
theorem encode_eq_digits (bytes : List UInt8) :
    encode bytes = digits bytes := by
  simp [encode, encodeOnto_eq]

/-- Four digits for every started group of three octets. -/
theorem length_encode (bytes : List UInt8) :
    (encode bytes).length = (bytes.length + 2) / 3 * 4 := by
  rw [encode_eq_digits]
  fun_induction digits bytes with
  | case1 => rfl
  | case2 a => simp
  | case3 a b => simp
  | case4 a b c rest ih =>
    rw [List.length_append, ih]
    simp only [group, List.length_cons, List.length_nil]
    omega

end DeviceGateway.Bytes.Base64
