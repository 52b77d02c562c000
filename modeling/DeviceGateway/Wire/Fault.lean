import DeviceGateway.Bytes.Hex
import DeviceGateway.Bytes.Utf8
import DeviceGateway.Device.Id
import DeviceGateway.Failure
import DeviceGateway.Wire.Kind

/-!
# Framing faults

A fault is a reason why octets from a device are no frame, or why a packet
cannot be put into one.  Faults are causes; the wording of each stands in one
place, `Fault.message`.

Framing can only go on after a fault if it is known where the next frame begins.
A line that is too long ends at its line break like any other, so the reader
skips it.  In the binary protocol nothing marks the start of a frame, and a
length that cannot be trusted leaves no way back, so every other fault is fatal.

## Main results

* `isFatal_eq_false_iff`: only an over-long line is not fatal.
-/

namespace DeviceGateway.Wire

/-- The part of the protocol in which a body is at fault. -/
inductive Part where
  | connect
  | deviceToCloud
  | string
  deriving DecidableEq, Repr

/-- The name a part is shown under. -/
def Part.name : Part → String
  | .connect => Kind.connect.name
  | .deviceToCloud => Kind.deviceToCloud.name
  | .string => "string"

/-- What is wrong with the body of a frame. -/
inductive BodyFault where
  /-- The two octets of a string's length are not there. -/
  | truncatedLength
  /-- A string goes on beyond the end of the body. -/
  | overrun (length : Nat)
  | notText (fault : Bytes.Utf8.Fault)
  | blankDeviceId
  | missingKeepAlive
  /-- A string is too long for the two octets of its length. -/
  | longText (length : Nat)
  | described (text : String)
  deriving DecidableEq, Repr

/-- The wording of a fault in a body. -/
def BodyFault.message : BodyFault → String
  | .truncatedLength => "truncated string length"
  | .overrun length => s!"string of {length} bytes overruns body"
  | .notText fault => fault.message
  | .blankDeviceId => DeviceId.blankMessage
  | .missingKeepAlive => "missing keep-alive"
  | .longText length => s!"{length} bytes exceeds u16 length prefix"
  | .described text => text

/-- Why there is no frame. -/
inductive Fault where
  | io (text : String)
  | lengthTooLarge
  | messageTooBig (size max : Nat)
  | unknownSignature (signature : UInt8)
  | malformed (part : Part) (cause : BodyFault)
  /-- A body goes on after its last field. -/
  | trailingBytes (count : Nat)
  | lineTooLong (max : Nat)
  deriving DecidableEq, Repr

namespace Fault

/-- The wording of a framing fault. -/
def message : Fault → String
  | io text => "io error: " ++ text
  | lengthTooLarge => "remaining length exceeds 4 bytes in length"
  | messageTooBig size max =>
    s!"message is too big: {size} bytes exceeds maximum {max}"
  | unknownSignature signature =>
    "first packet byte value of 0x" ++ Bytes.Hex.toText .lower [signature] ++
      " is invalid"
  | malformed part cause =>
    "malformed " ++ part.name ++ " packet: " ++ cause.message
  | trailingBytes count =>
    s!"declared remaining length leaves {count} unread bytes"
  | lineTooLong max => s!"line exceeds maximum length of {max} bytes"

/-- Whether framing cannot go on after this fault. -/
def isFatal : Fault → Bool
  | lineTooLong _ => false
  | _ => true

/-- The code of the failure that a fault makes. -/
def code : Fault → Code
  | io _ => .channelClosed
  | unknownSignature _ => .unknownPacketType
  | _ => .invalidOperation

/-- The failure of a connection whose frames are at fault. -/
def toFailure (f : Fault) : Failure :=
  Failure.of f.code f.message

theorem isFatal_eq_false_iff {f : Fault} :
    f.isFatal = false ↔ ∃ max, f = lineTooLong max := by
  cases f <;> simp [isFatal]

end Fault

end DeviceGateway.Wire
