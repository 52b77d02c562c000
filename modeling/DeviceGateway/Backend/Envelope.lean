import DeviceGateway.Backend.Transport
import DeviceGateway.Bytes.Base64
import DeviceGateway.Bytes.Utf8
import DeviceGateway.Text.Json

/-!
# Envelopes

A message is written to the backend as an envelope: one line that holds a JSON
object with the device id, the address, the properties in the order of their
names, and the payload in Base64.  The line feed that ends the line is the only
one in it, because JSON strings hold none.

## Main results

* `encode_getLast?`: an envelope ends in a line feed.
-/

namespace DeviceGateway.Backend

/-- What an envelope says. -/
structure Envelope where
  deviceId : String
  address : String
  properties : List (String × String)
  payload : List UInt8
  deriving DecidableEq, Repr

namespace Envelope

/-- The envelope of a message of a device. -/
def of (deviceId : String) (m : Message) : Envelope :=
  ⟨deviceId, m.address, m.properties, m.payload.bytes⟩

/-- The JSON object in an envelope. -/
def toJson (e : Envelope) : Text.Json.Value :=
  .object
    [("deviceId", .text e.deviceId), ("address", .text e.address),
      ("properties", .object (e.properties.map fun (name, value) =>
        (name, .text value))),
      ("payload", .text (String.ofList (Bytes.Base64.encode e.payload)))]

/-- The line of an envelope without its line feed. -/
def line (e : Envelope) : List UInt8 :=
  Bytes.Utf8.encode e.toJson.render

/-- The octets written for an envelope. -/
def encode (e : Envelope) : List UInt8 :=
  e.line ++ [10]

/-- The text of a JSON string. -/
def textOf? : Text.Json.Value → Option String
  | .text s => some s
  | _ => none

/-- The properties in a JSON object. -/
def propertiesOf? : Text.Json.Value → Option (List (String × String))
  | .object fields => fields.mapM fun (name, v) => (textOf? v).map fun s =>
    (name, s)
  | _ => none

/-- Reads an envelope from its JSON object. -/
def ofJson? : Text.Json.Value → Option Envelope
  | .object
      [("deviceId", .text deviceId), ("address", .text address),
        ("properties", properties), ("payload", .text payload)] => do
    pure ⟨deviceId, address, ← propertiesOf? properties,
      ← Bytes.Base64.decode? payload.toList⟩
  | _ => none

/-- Reads an envelope from a line without its line feed. -/
def decode? (line : List UInt8) : Option Envelope := do
  let cs ← (Bytes.Utf8.decode line).toOption
  ofJson? (← Text.Json.Value.read? cs)

theorem encode_getLast? (e : Envelope) : e.encode.getLast? = some 10 := by
  simp [encode]

end Envelope

end DeviceGateway.Backend
