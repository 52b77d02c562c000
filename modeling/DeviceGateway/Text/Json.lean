/-!
# Compact JSON

Two texts leave the gateway as JSON: the payload of a showcase line and the
envelope written to the backend.  Both are compact, without any blank between
the tokens, and both hold texts that a device chose, so the escaping of strings
decides whether a device can smuggle a field into them.

A string is written with `\"` and `\\` for the two characters that would end or
change it, the five short escapes for the usual control characters, and
`\u00xx` for the other characters below U+0020.  Everything else, U+007F and
all text beyond ASCII included, is written as it is.

The module holds both directions: `Value.render` writes, `Value.read?` reads
any JSON text, so that "nothing is lost" is a statement about the two.

## Main results

* `escape_ne_control`: no written string holds a character below U+0020, so
  none holds a line break.
* `hexValue?_digit`: a digit of an escape reads back as its value.
-/

namespace DeviceGateway.Text.Json

/-- A JSON value.  A number is kept as it is written. -/
inductive Value where
  | null
  | bool (b : Bool)
  | number (written : String)
  | text (s : String)
  | list (items : List Value)
  | object (fields : List (String × Value))
  deriving Inhabited

/-! ## Writing -/

/-- A hexadecimal digit in lower case. -/
def hexDigit (n : Nat) : Char :=
  if n < 10 then Char.ofNat (48 + n) else Char.ofNat (87 + n)

/-- How one character stands inside a written string. -/
def escape (c : Char) : List Char :=
  if c = '\"' then ['\\', '\"']
  else if c = '\\' then ['\\', '\\']
  else if c = '\x08' then ['\\', 'b']
  else if c = '\t' then ['\\', 't']
  else if c = '\n' then ['\\', 'n']
  else if c = '\x0c' then ['\\', 'f']
  else if c = '\r' then ['\\', 'r']
  else if c.toNat < 0x20 then
    ['\\', 'u', '0', '0', hexDigit (c.toNat / 16), hexDigit (c.toNat % 16)]
  else [c]

/-- A string between quotes. -/
def quote (s : List Char) : List Char :=
  '\"' :: (s.flatMap escape ++ ['\"'])

mutual

/-- The compact text of a value. -/
def Value.render : Value → List Char
  | .null => "null".toList
  | .bool true => "true".toList
  | .bool false => "false".toList
  | .number written => written.toList
  | .text s => quote s.toList
  | .list items => '[' :: (renderItems items ++ [']'])
  | .object fields => '\x7b' :: (renderFields fields ++ ['\x7d'])

/-- List items with commas between them. -/
def renderItems : List Value → List Char
  | [] => []
  | [v] => v.render
  | v :: w :: rest => v.render ++ ',' :: renderItems (w :: rest)

/-- Object fields with commas between them. -/
def renderFields : List (String × Value) → List Char
  | [] => []
  | [(k, v)] => quote k.toList ++ ':' :: v.render
  | (k, v) :: f :: rest =>
    quote k.toList ++ ':' :: (v.render ++ ',' :: renderFields (f :: rest))

end

/-- The compact text of a value as a string. -/
def Value.toText (v : Value) : String :=
  String.ofList v.render

/-! ## Reading -/

/-- A blank between two tokens. -/
def isSpace (c : Char) : Bool :=
  c == ' ' || c == '\t' || c == '\n' || c == '\r'

/-- The value of a hexadecimal digit of either case. -/
def hexValue? (c : Char) : Option Nat :=
  let n := c.toNat
  if 48 ≤ n ∧ n ≤ 57 then some (n - 48)
  else if 97 ≤ n ∧ n ≤ 102 then some (n - 87)
  else if 65 ≤ n ∧ n ≤ 70 then some (n - 55)
  else none

/-- The sixteen bit unit behind four digits. -/
def hexUnit? (a b c d : Char) : Option Nat :=
  match hexValue? a, hexValue? b, hexValue? c, hexValue? d with
  | some x, some y, some z, some w => some (x * 4096 + y * 256 + z * 16 + w)
  | _, _, _, _ => none

/-- Reads the inside of a string up to and with the closing quote.  `done` holds
the characters so far, the last one first. -/
def readString (done : List Char) : List Char → Option (List Char × List Char)
  | '\"' :: rest => some (done.reverse, rest)
  | '\\' :: 'u' :: a :: b :: c :: d :: '\\' :: 'u' :: e :: f :: g ::
    h :: rest =>
    match hexUnit? a b c d, hexUnit? e f g h with
    | some hi, some lo =>
      if 0xD800 ≤ hi ∧ hi ≤ 0xDBFF then
        if 0xDC00 ≤ lo ∧ lo ≤ 0xDFFF then
          readString (Char.ofNat (0x10000 + (hi - 0xD800) * 0x400 +
            (lo - 0xDC00)) :: done) rest
        else none
      else if 0xDC00 ≤ hi ∧ hi ≤ 0xDFFF then none
      else readString (Char.ofNat hi :: done) ('\\' :: 'u' :: e :: f :: g ::
        h :: rest)
    | _, _ => none
  | '\\' :: 'u' :: a :: b :: c :: d :: rest =>
    match hexUnit? a b c d with
    | some n =>
      if 0xD800 ≤ n ∧
        n ≤ 0xDFFF then none else readString (Char.ofNat n :: done) rest
    | none => none
  | '\\' :: c :: rest =>
    match c with
    | '\"' => readString ('\"' :: done) rest
    | '\\' => readString ('\\' :: done) rest
    | '/' => readString ('/' :: done) rest
    | 'b' => readString ('\x08' :: done) rest
    | 't' => readString ('\t' :: done) rest
    | 'n' => readString ('\n' :: done) rest
    | 'f' => readString ('\x0c' :: done) rest
    | 'r' => readString ('\r' :: done) rest
    | _ => none
  | c :: rest => if c.toNat < 0x20 then none else readString (c :: done) rest
  | [] => none

/-- Drops digits and returns whether there were any. -/
def skipDigits (cs : List Char) : Bool × List Char :=
  (!(cs.takeWhile Char.isDigit).isEmpty, cs.dropWhile Char.isDigit)

/-- What follows a number, if one stands in front: an optional sign, an integer
without a leading zero, an optional fraction and an optional exponent. -/
def skipNumber (cs : List Char) : Option (List Char) :=
  let unsigned := match cs with
    | '-' :: r => r
    | r => r
  let whole := match unsigned with
    | '0' :: r => some r
    | r => if (skipDigits r).1 then some (skipDigits r).2 else none
  let fraction := whole.bind fun r => match r with
    | '.' :: r => if (skipDigits r).1 then some (skipDigits r).2 else none
    | r => some r
  fraction.bind fun r =>
    let mark := match r with
      | 'e' :: r => some r
      | 'E' :: r => some r
      | _ => none
    match mark with
    | none => some r
    | some r =>
      let digits := match r with
        | '+' :: r => r
        | '-' :: r => r
        | r => r
      if (skipDigits digits).1 then some (skipDigits digits).2 else none

mutual

/-- Reads one value.  Every call spends a unit of `fuel`, and no text needs more
than two units a character. -/
def readValue : Nat → List Char → Option (Value × List Char)
  | 0, _ => none
  | fuel + 1, cs =>
    match cs.dropWhile isSpace with
    | 'n' :: 'u' :: 'l' :: 'l' :: rest => some (.null, rest)
    | 't' :: 'r' :: 'u' :: 'e' :: rest => some (.bool true, rest)
    | 'f' :: 'a' :: 'l' :: 's' :: 'e' :: rest => some (.bool false, rest)
    | '\"' :: rest =>
      (readString [] rest).map fun r => (.text (String.ofList r.1), r.2)
    | '[' :: rest =>
      match rest.dropWhile isSpace with
      | ']' :: rest => some (.list [], rest)
      | _ => (readItems fuel [] rest).map fun r => (.list r.1, r.2)
    | '\x7b' :: rest =>
      match rest.dropWhile isSpace with
      | '\x7d' :: rest => some (.object [], rest)
      | _ => (readFields fuel [] rest).map fun r => (.object r.1, r.2)
    | start =>
      (skipNumber start).map fun rest =>
        (.number (String.ofList (start.take (start.length - rest.length))),
          rest)

/-- Reads list items up to and with the closing bracket. -/
def readItems : Nat → List Value → List Char → Option (List Value × List Char)
  | 0, _, _ => none
  | fuel + 1, done, cs =>
    match readValue fuel cs with
    | none => none
    | some (v, rest) =>
      match rest.dropWhile isSpace with
      | ',' :: rest => readItems fuel (v :: done) rest
      | ']' :: rest => some ((v :: done).reverse, rest)
      | _ => none

/-- Reads object fields up to and with the closing brace. -/
def readFields : Nat → List (String × Value) → List Char →
    Option (List (String × Value) × List Char)
  | 0, _, _ => none
  | fuel + 1, done, cs =>
    match cs.dropWhile isSpace with
    | '\"' :: rest =>
      match readString [] rest with
      | none => none
      | some (key, rest) =>
        match rest.dropWhile isSpace with
        | ':' :: rest =>
          match readValue fuel rest with
          | none => none
          | some (v, rest) =>
            match rest.dropWhile isSpace with
            | ',' :: rest =>
              readFields fuel ((String.ofList key, v) :: done) rest
            | '\x7d' :: rest =>
              some (((String.ofList key, v) :: done).reverse, rest)
            | _ => none
        | _ => none
    | _ => none

end

/-- The value of a whole text, blanks at both ends allowed. -/
def Value.read? (cs : List Char) : Option Value :=
  match readValue (2 * cs.length + 1) cs with
  | some (v, rest) => if (rest.dropWhile isSpace).isEmpty then some v else none
  | none => none

/-! ## What escaping guarantees -/

/-- A digit of an escape reads back as its value. -/
theorem hexValue?_digit {n : Nat} (h : n < 16) :
    hexValue? (hexDigit n) = some n := by
  have hall : ∀ m, m < 16 → hexValue? (hexDigit m) = some m := by decide
  exact hall n h

/-- The digits of an escape are no control characters. -/
theorem hexDigit_ne_control {n : Nat} (h : n < 16) :
    0x20 ≤ (hexDigit n).toNat := by
  have hall : ∀ m, m < 16 → 0x20 ≤ (hexDigit m).toNat := by decide
  exact hall n h

/-- A backslash and a printable character hold none below U+0020. -/
theorem pair_ne_control {c d : Char} (h : d ∈ ['\\', c]) (hc : 0x20 ≤ c.toNat) :
    0x20 ≤ d.toNat := by
  simp only [List.mem_cons, List.not_mem_nil, or_false] at h
  rcases h with rfl | rfl
  · decide
  · exact hc

/-- No escaped character holds a character below U+0020. -/
theorem escape_ne_control {c d : Char} (h : d ∈ escape c) : 0x20 ≤ d.toNat := by
  unfold escape at h
  split at h
  · exact pair_ne_control h (by decide)
  split at h
  · exact pair_ne_control h (by decide)
  split at h
  · exact pair_ne_control h (by decide)
  split at h
  · exact pair_ne_control h (by decide)
  split at h
  · exact pair_ne_control h (by decide)
  split at h
  · exact pair_ne_control h (by decide)
  split at h
  · exact pair_ne_control h (by decide)
  split at h
  · next hlow =>
    simp only [List.mem_cons, List.not_mem_nil, or_false] at h
    rcases h with rfl | rfl | rfl | rfl | rfl | rfl
    · decide
    · decide
    · decide
    · decide
    · exact hexDigit_ne_control (by omega)
    · exact hexDigit_ne_control (by omega)
  · next hhigh =>
    simp only [List.mem_singleton] at h
    subst h
    omega

/-- No written string holds a character below U+0020. -/
theorem quote_ne_control {s : List Char} {d : Char} (h : d ∈ quote s) :
    0x20 ≤ d.toNat := by
  simp only [quote, List.mem_cons, List.mem_append, List.mem_flatMap,
    List.not_mem_nil, or_false] at h
  rcases h with rfl | ⟨c, _, hd⟩ | rfl
  · decide
  · exact escape_ne_control hd
  · decide

end DeviceGateway.Text.Json
