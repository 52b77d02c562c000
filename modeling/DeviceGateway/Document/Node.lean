import DeviceGateway.Text.Json

/-!
# Nodes

Settings are written as YAML or arrive as JSON.  Both come down to a tree of
nodes, and the rules by which a node is taken as a number, a text or a record
stand here once.

The two differ in their scalars.  A JSON value has its type, while an unquoted
YAML scalar is a text of which the reader decides what it means: it is always a
text, and it is a number, a truth value or nothing if it is spelled like one.
A quoted scalar is a text and nothing else.  An unquoted scalar that is empty,
as after a key with nothing behind it, also stands for an empty list and an
empty record.

The two also differ in how strict a record is.  Both ignore fields they do not
know and refuse a known field that is given twice; a JSON list may stand for a
record, its members being the fields in their order.
-/

namespace DeviceGateway.Document

/-- A tree as it is read from a document. -/
inductive Node where
  | null
  | bool (b : Bool)
  /-- A number that is an integer and not negative. -/
  | natural (n : Nat)
  /-- Any other number. -/
  | otherNumber
  | text (s : String)
  /-- A scalar whose meaning depends on what is asked for. -/
  | plain (s : String)
  | sequence (items : List Node)
  /-- A list that may stand for a record. -/
  | tuple (items : List Node)
  | mapping (entries : List (Node × Node))

namespace Node

/-! ## From JSON -/

/-- The number behind a written number, if it is a natural one. -/
def natural? (cs : List Char) : Option Nat :=
  if !cs.isEmpty && cs.all Char.isDigit then
    some (cs.foldl (fun n c => n * 10 + (c.toNat - 48)) 0)
  else none

mutual

/-- The node of a JSON value. -/
def ofJson : Text.Json.Value → Node
  | .null => .null
  | .bool b => .bool b
  | .number written =>
    match natural? written.toList with
    | some n => .natural n
    | none => .otherNumber
  | .text s => .text s
  | .list items => .tuple (ofJsonItems items)
  | .object fields => .mapping (ofJsonFields fields)

/-- The nodes of the members of a list. -/
def ofJsonItems : List Text.Json.Value → List Node
  | [] => []
  | v :: rest => ofJson v :: ofJsonItems rest

/-- The entries of the fields of an object. -/
def ofJsonFields : List (String × Text.Json.Value) → List (Node × Node)
  | [] => []
  | (name, v) :: rest => (.text name, ofJson v) :: ofJsonFields rest

end

/-! ## Scalars -/

/-- A node as a text. -/
def asText : Node → Option String
  | text s => some s
  | plain s => some s
  | _ => none

/-- The value of digits in a base, if there are any and all are digits. -/
def digitsIn (base : Nat) (cs : List Char) : Option Nat :=
  if cs.isEmpty then none
  else
    cs.foldl (fun sum c =>
      match sum, Text.Json.hexValue? c with
      | some sum, some d => if d < base then some (sum * base + d) else none
      | _, _ => none) (some 0)

/-- The number an unquoted scalar spells: decimal digits without a leading zero,
or `0x`, `0o` and `0b` with digits of their base, a plus sign allowed in
front. -/
def plainNumber (cs : List Char) : Option Nat :=
  let unsigned := match cs with
    | '+' :: rest => rest
    | rest => rest
  match unsigned with
  | '0' :: 'x' :: digits => digitsIn 16 digits
  | '0' :: 'o' :: digits => digitsIn 8 digits
  | '0' :: 'b' :: digits => digitsIn 2 digits
  | ['0'] => some 0
  | '0' :: _ => none
  | digits => digitsIn 10 digits

/-- A node as a number of at most `max`. -/
def asNat (max : Nat) (node : Node) : Option Nat :=
  let value := match node with
    | natural n => some n
    | plain s => plainNumber s.toList
    | _ => none
  value.filter (· ≤ max)

/-- The largest number of 64 bits, the bound of sizes and times. -/
def maxWide : Nat := 18446744073709551615

/-- A node as a truth value. -/
def asBool : Node → Option Bool
  | .bool b => some b
  | plain s =>
    if s == "true" || s == "True" || s == "TRUE" then some true
    else if s == "false" || s == "False" || s == "FALSE" then some false
    else none
  | _ => none

/-- Whether a node stands for nothing. -/
def isNull : Node → Bool
  | null => true
  | plain s => s == "" || s == "~" || s == "null" || s == "Null" || s == "NULL"
  | _ => false

/-- A node that may stand for nothing. -/
def asOptional {α : Type} (read : Node → Option α) (node : Node) :
    Option (Option α) :=
  if node.isNull then some none else (read node).map some

/-- A node as one of several names, in the order in which they are given. -/
def asName {α : Type} (names : List (String × α)) : Node → Option α
  | text s => names.lookup s
  | plain s => names.lookup s
  | mapping [(text s, null)] => names.lookup s
  | _ => none

/-! ## Lists and records -/

/-- A node as a list. -/
def asList {α : Type} (read : Node → Option α) : Node → Option (List α)
  | sequence items => items.mapM read
  | tuple items => items.mapM read
  | plain "" => some []
  | _ => none

/-- A node as a map from texts to texts; of two entries with one key the later
counts. -/
def asTextMap : Node → Option (List (String × String))
  | mapping entries => do
    let pairs ← entries.mapM fun (key, value) =>
      do pure (← key.asText, ← value.asText)
    pure (pairs.foldl (fun found (key, value) =>
      found.filter (fun entry => entry.1 != key) ++ [(key, value)]) [])
  | plain "" => some []
  | _ => none

/-- The fields of a record: for each declared name the node that is given for
it, if any.  A list in place of a record has to give the first `least` of
them. -/
def asRecord (names : List String) (least : Nat) :
    Node → Option (List (Option Node))
  | mapping entries => do
    let keyed ← entries.mapM fun (key, value) => do pure (← key.asText, value)
    names.mapM fun name =>
      match keyed.filter fun entry => entry.1 == name with
      | [] => some none
      | [(_, value)] => some (some value)
      | _ => none
  | tuple items =>
    if items.length < least || names.length < items.length then none
    else some (names.zipIdx.map fun (_, i) => items[i]?)
  | plain "" => some (names.map fun _ => none)
  | _ => none

/-- A field that has a value if it is not given. -/
def orElse {α : Type} (given : Option Node) (fallback : α)
    (read : Node → Option α) :
    Option α :=
  match given with
  | none => some fallback
  | some node => read node

end Node

end DeviceGateway.Document
