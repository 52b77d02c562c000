import DeviceGateway.Bytes.Base64
import DeviceGateway.Bytes.Utf8

/-!
# PEM files

Certificates and keys are stored as blocks of text.  A block begins with a line
that names its kind, holds Base64, and ends with a line that names the kind
again.  The Base64 is read loosely, with blanks anywhere.  What stands outside
blocks is passed over, and so are blocks of a kind nobody here knows.

A file may hold any number of blocks, and a block that is broken does not hide
the ones after it: reading gives a list of outcomes, in the order of the file.

## Main results

* `kindOf_label`: every kind is found under its own name.
-/

namespace DeviceGateway.Tls.Pem

/-- The kinds of blocks. -/
inductive Kind where
  | certificate
  | publicKey
  | rsaKey
  | privateKey
  | ecKey
  | revocations
  | request
  | helloConfig
  deriving DecidableEq, Repr

/-- The name of a kind in the lines around a block. -/
def Kind.label : Kind → String
  | certificate => "CERTIFICATE"
  | publicKey => "PUBLIC KEY"
  | rsaKey => "RSA PRIVATE KEY"
  | privateKey => "PRIVATE KEY"
  | ecKey => "EC PRIVATE KEY"
  | revocations => "X509 CRL"
  | request => "CERTIFICATE REQUEST"
  | helloConfig => "ECHCONFIG"

/-- All kinds. -/
def Kind.all : List Kind :=
  [certificate, publicKey, rsaKey, privateKey, ecKey, revocations, request,
    helloConfig]

/-- The kind with a name. -/
def kindOf (label : List UInt8) : Option Kind :=
  Kind.all.find? fun k => Bytes.Utf8.encodeString k.label == label

/-- Whether a kind holds a private key. -/
def Kind.isKey : Kind → Bool
  | rsaKey | privateKey | ecKey => true
  | _ => false

/-- Why a block cannot be read. -/
inductive Fault where
  | illegalStart
  | missingEnd
  | badBase64
  deriving DecidableEq, Repr

/-- The wording of a fault. -/
def Fault.message : Fault → String
  | illegalStart => "illegal section start"
  | missingEnd => "missing section end marker"
  | badBase64 => "invalid base64"

/-- A block. -/
structure Block where
  kind : Kind
  content : List UInt8
  deriving DecidableEq, Repr

/-- Cuts a file into lines.  A line ends with a line feed or a carriage return,
which stays with it; `line` holds the line so far, the last octet first. -/
def linesOnto (line : List UInt8) : List UInt8 → List (List UInt8)
  | [] => if line.isEmpty then [] else [line.reverse]
  | b :: rest =>
    if b = 10 ∨ b = 13 then (b :: line).reverse :: linesOnto [] rest
    else linesOnto (b :: line) rest

/-- Octets that may stand anywhere in a block without meaning: spaces, and the
ASCII controls that move on in a line or to another one. -/
def isBlank (b : UInt8) : Bool :=
  b = 32 ∨ (9 ≤ b ∧ b ≤ 13)

/-- The start of the line that begins a block. -/
def beginMark : List UInt8 :=
  Bytes.Utf8.encodeString "-----BEGIN "

/-- The start of the line that ends a block. -/
def endMark : List UInt8 :=
  Bytes.Utf8.encodeString "-----END "

/-- Five hyphens, which close both lines. -/
def hyphens : List UInt8 :=
  List.replicate 5 45

/-- The name in a line that begins a block: what stands before the five hyphens
that close it. -/
def labelOf (line : List UInt8) : Option (List UInt8) :=
  let body := line.drop beginMark.length
  let close := body.reverse.takeWhile fun b => b = 45 ∨ b = 10 ∨ b = 13 ∨ b = 32
  if close.count 45 = 5 then
    some (body.take (body.length - (close.reverse.dropWhile (· ≠ 45)).length))
  else none

/-- The octets behind the text of a block. -/
def contentOf (text : List UInt8) : Option (List UInt8) :=
  Bytes.Base64.decodeLoose? ((text.filter (!isBlank ·)).map fun b =>
    Char.ofNat b.toNat)

/-- The block being read: its name, and its lines so far, the last one first. -/
structure Open where
  label : List UInt8
  lines : List (List UInt8)

/-- The outcome of a block that is complete; none for a kind nobody knows. -/
def Open.close (o : Open) : Option (Except Fault Block) :=
  (kindOf o.label).map fun kind =>
    match contentOf o.lines.reverse.flatten with
    | none => .error .badBase64
    | some content => .ok ⟨kind, content⟩

/-- Reads line by line. -/
def itemsFrom (current : Option Open) :
    List (List UInt8) → List (Except Fault Block)
  | [] => if current.isSome then [.error .missingEnd] else []
  | line :: rest =>
    if beginMark.isPrefixOf line then
      match labelOf line with
      | none => .error .illegalStart :: itemsFrom none rest
      | some label =>
        itemsFrom (some ⟨label, (current.map (·.lines)).getD []⟩) rest
    else match current with
      | none => itemsFrom none rest
      | some o =>
        if (endMark ++ o.label ++ hyphens).isPrefixOf line then
          o.close.toList ++ itemsFrom none rest
        else itemsFrom (some { o with lines := line :: o.lines }) rest

/-- The blocks of a file, each as it could be read. -/
def items (file : List UInt8) : List (Except Fault Block) :=
  itemsFrom none (linesOnto [] file)

/-- The certificates of a file; broken blocks are passed over. -/
def certificates (file : List UInt8) : List (List UInt8) :=
  (items file).filterMap fun item => match item with
    | .ok ⟨.certificate, content⟩ => some content
    | _ => none

/-- The first private key among some blocks.  A broken block before it is a
fault. -/
def firstKey : List (Except Fault Block) → Except Fault (Option Block)
  | [] => .ok none
  | .error fault :: _ => .error fault
  | .ok block :: rest =>
    if block.kind.isKey then .ok (some block) else firstKey rest

/-- The first private key of a file. -/
def privateKey (file : List UInt8) : Except Fault (Option Block) :=
  firstKey (items file)

theorem kindOf_label (k : Kind) :
    kindOf (Bytes.Utf8.encodeString k.label) = some k := by
  cases k <;> decide

end DeviceGateway.Tls.Pem
