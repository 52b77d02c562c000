import DeviceGateway.Bytes.Utf8
import DeviceGateway.Device.Id
import DeviceGateway.Text.Json

/-!
# Layouts of a text line

A text line is fields with a tilde between them.  Empty fields do not count, so
a device may repeat the tilde, and what stands after the last named field is the
payload, tildes included.

A layout says what the fields are.  A self-identifying line names its tenant,
then the timestamp, then the device.  A showcase line comes from a tenant that
is already known; its payload travels inside a JSON object that names the
tenant and repeats the other fields.  Both layouts ask for the same number of
fields, although they have the payload in different places.

## Main results

* `fields_ne_nil`: a counted field is not empty.
* `fields_not_mem`: it holds no tilde.
* `entryOf_of_lt`, `entryOf_of_le`: how fields are read.
-/

namespace DeviceGateway.Wire

/-- What the fields of a line are. -/
inductive Layout where
  | selfIdentifying
  | showcase
  deriving DecidableEq, Repr

namespace Layout

/-- The character between two fields. -/
def separator : Char := '~'

/-- How many fields a line has at least, whatever its layout. -/
def minFields : Nat := 3

/-- Where the fields stand among the tokens of a line. -/
structure Positions where
  tenant : Option Nat
  timestamp : Nat
  device : Nat
  /-- The first token of the payload. -/
  payload : Nat

/-- The places that a layout has for its fields. -/
def positions : Layout → Positions
  | .selfIdentifying => ⟨some 0, 1, 2, 3⟩
  | .showcase => ⟨none, 0, 1, 2⟩

/-- Why a line gives no packet. -/
inductive Fault where
  | notText
  | tooFewFields (count : Nat)
  | blankDeviceId
  deriving DecidableEq, Repr

/-- The wording of a fault. -/
def Fault.message : Fault → String
  | notText => "line is not valid UTF-8"
  | tooFewFields count =>
    s!"expected at least {minFields} fields, found {count}"
  | blankDeviceId => "invalid device id: " ++ DeviceId.blankMessage

/-- What a line says. -/
structure Entry where
  /-- The tenant a self-identifying line names. -/
  tenantToken : Option String
  timestamp : String
  deviceId : DeviceId
  payload : String
  deriving DecidableEq

/-- Adds a character in front of a list of pieces. -/
def addChar (c : Char) (pieces : List (List Char)) : List (List Char) :=
  if c = separator then [] :: pieces
  else match pieces with
    | [] => [[c]]
    | piece :: rest => (c :: piece) :: rest

/-- The pieces between separators, the empty ones included. -/
def pieces (cs : List Char) : List (List Char) :=
  cs.foldr addChar [[]]

/-- The fields of a line: its pieces without the empty ones. -/
def fields (cs : List Char) : List (List Char) :=
  (pieces cs).filter fun piece => !piece.isEmpty

/-- Puts fields together again. -/
def join (fs : List (List Char)) : List Char :=
  [separator].intercalate fs

/-- The JSON object around the payload of a showcase line. -/
def envelope (tenantName timestamp : String) (deviceId : DeviceId)
    (data : String) : String :=
  (Text.Json.Value.object
    [("data", .text data), ("deviceId", .text deviceId.text),
      ("tenantId", .text tenantName), ("ts", .text timestamp)]).toText

/-- The payload of a packet with the given data. -/
def pack (layout : Layout) (name timestamp : String) (id : DeviceId)
    (data : String) : String :=
  match layout with
  | .selfIdentifying => data
  | .showcase => envelope name timestamp id data

/-- The field in a place. -/
def fieldAt (fs : List (List Char)) (place : Nat) : String :=
  String.ofList (fs.getD place [])

/-- Reads the fields of a line. -/
def entryOf (layout : Layout) (tenantName : String) (fs : List (List Char)) :
    Except Fault Entry :=
  let places := layout.positions
  if fs.length < minFields then .error (.tooFewFields fs.length)
  else
    match DeviceId.parse (fieldAt fs places.device) with
    | none => .error .blankDeviceId
    | some id =>
      let timestamp := fieldAt fs places.timestamp
      let data := String.ofList (join (fs.drop places.payload))
      .ok ⟨places.tenant.map (fieldAt fs), timestamp, id,
        layout.pack tenantName timestamp id data⟩

/-- Reads a line for a tenant of the given name. -/
def decode (layout : Layout) (tenantName : String) (line : List UInt8) :
    Except Fault Entry :=
  match Bytes.Utf8.decode line with
  | .error _ => .error .notText
  | .ok cs => layout.entryOf tenantName (fields cs)

theorem fields_ne_nil {cs piece : List Char} (h : piece ∈ fields cs) :
    piece ≠ [] := by
  have := (List.mem_filter.1 h).2
  simpa using this

private theorem pieces_not_mem {cs piece : List Char} (h : piece ∈ pieces cs) :
    separator ∉ piece := by
  induction cs generalizing piece with
  | nil =>
    simp only [pieces, List.foldr_nil, List.mem_singleton] at h
    simp [h]
  | cons c rest ih =>
    have hcons : pieces (c :: rest) = addChar c (pieces rest) := rfl
    rw [hcons] at h
    unfold addChar at h
    split at h
    · rcases List.mem_cons.1 h with rfl | h
      · simp
      · exact ih h
    · next hc =>
      split at h
      · rw [List.mem_singleton.1 h]
        simpa using fun hs => hc hs.symm
      · next first others heq =>
        rcases List.mem_cons.1 h with rfl | h
        · have hfirst : separator ∉ first := ih (heq ▸ List.mem_cons_self)
          simpa using ⟨fun hs => hc hs.symm, hfirst⟩
        · exact ih (heq ▸ List.mem_cons_of_mem _ h)

theorem fields_not_mem {cs piece : List Char} (h : piece ∈ fields cs) :
    separator ∉ piece :=
  pieces_not_mem (List.mem_filter.1 h).1

section Fields

variable (layout : Layout) (name : String) {fs : List (List Char)}

theorem entryOf_of_lt (h : fs.length < minFields) :
    layout.entryOf name fs = .error (.tooFewFields fs.length) := by
  simp only [entryOf, h, if_true]

/-- Fields that are not too few are read if the device among them is not
blank. -/
theorem entryOf_of_le (h : minFields ≤ fs.length) :
    layout.entryOf name fs =
      match DeviceId.parse (fieldAt fs layout.positions.device) with
      | none => .error .blankDeviceId
      | some id =>
        .ok ⟨layout.positions.tenant.map (fieldAt fs),
          fieldAt fs layout.positions.timestamp, id,
          layout.pack name (fieldAt fs layout.positions.timestamp) id
            (String.ofList (join (fs.drop layout.positions.payload)))⟩ := by
  simp only [entryOf, Nat.not_lt.2 h, if_false]

/-- A line names its tenant in the place that its layout has for it. -/
theorem tenantToken_of_entryOf {layout : Layout} {name : String} {entry : Entry}
    (h : layout.entryOf name fs = .ok entry) :
    entry.tenantToken = layout.positions.tenant.map (fieldAt fs) := by
  rcases Nat.lt_or_ge fs.length minFields with hshort | hlong
  · rw [layout.entryOf_of_lt name hshort] at h
    cases h
  · rw [layout.entryOf_of_le name hlong] at h
    split at h
    · cases h
    · obtain rfl := Except.ok.inj h
      rfl

end Fields

end Layout

end DeviceGateway.Wire
