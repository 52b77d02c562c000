import DeviceGateway.Bytes.Utf16
import DeviceGateway.Bytes.Utf8
import DeviceGateway.Certificate.Element
import DeviceGateway.Certificate.Registry

/-!
# Distinguished names

A name is a list of relative names, and a relative name is one or more
attributes: a kind, which is an object identifier, and a value, which is an
element of any kind.

A name is shown as one line: relative names with `, ` between them, the
attributes of one with ` + `, and each attribute as its short name, `=` and its
value.  Nothing in a value is escaped, so a value may hold those separators
itself.  A value that is a text is shown as it is and any other in hexadecimal;
a text with invalid octets makes the whole name unreadable.
-/

namespace DeviceGateway.Certificate

/-- One attribute of a name. -/
structure Attribute where
  kind : ObjectId
  value : Element
  deriving DecidableEq, Repr

/-- The attributes that together tell one entry from its neighbours. -/
structure RelativeName where
  first : Attribute
  others : List Attribute
  deriving DecidableEq, Repr

/-- A name, from the root of the tree of entries down. -/
structure Name where
  relative : List RelativeName
  deriving DecidableEq, Repr

/-- The tag numbers of texts whose octets are UTF-8. -/
def textTags : List Nat :=
  [7, 12, 18, 19, 20, 21, 22, 25, 26, 27]

/-- The tag number of texts in units of sixteen bits. -/
def wideTextTag : Nat := 30

/-- The value of an attribute as it is shown. -/
def Attribute.text? (a : Attribute) : Option String :=
  if textTags.contains a.value.tag.number then
    (Bytes.Utf8.decodeString a.value.content).toOption
  else if a.value.tag.number = wideTextTag then
    (Bytes.Utf16.decode a.value.content).map String.ofList
  else some (Bytes.Hex.toText .upper a.value.content)

/-- An attribute as it is shown. -/
def Attribute.describe? (a : Attribute) : Option String :=
  a.text?.map fun text => a.kind.label ++ "=" ++ text

/-- A relative name as it is shown. -/
def RelativeName.describe? (r : RelativeName) : Option String :=
  ((r.first :: r.others).mapM Attribute.describe?).map " + ".intercalate

/-- A name as it is shown, if every text in it can be read. -/
def Name.describe? (n : Name) : Option String :=
  (n.relative.mapM RelativeName.describe?).map ", ".intercalate

/-- A name as it is shown. -/
def Name.describe (n : Name) : String :=
  n.describe?.getD "<X509Error: Invalid X.509 name>"

/-- Reads an object identifier.  Where one has to stand, an element with any tag
is taken as one, as long as its content is not made of elements. -/
def readObjectId : Reader ObjectId := fun bytes =>
  match Element.read bytes with
  | none => none
  | some (e, rest) =>
    if e.tag.constructed then none else some (⟨e.content⟩, rest)

/-- Reads an attribute: its kind and its value. -/
def readAttribute : Reader Attribute :=
  inside sequenceTag do
    let kind ← readObjectId
    let value ← Element.read
    return ⟨kind, value⟩

/-- Reads a relative name, which has an attribute at least. -/
def readRelativeName : Reader RelativeName :=
  inside setTag do
    let first ← readAttribute
    let others ← many readAttribute
    return ⟨first, others⟩

/-- Reads a name.  It ends before the first thing that is no relative name. -/
def readName : Reader Name :=
  inside sequenceTag do
    let relative ← many readRelativeName
    return ⟨relative⟩

end DeviceGateway.Certificate
