import DeviceGateway.Packet
import DeviceGateway.Wire.Kind

/-!
# Frames

A frame is one unit of the inbound stream.  A text connection has one sort, the
line.  A binary connection has the two packets the gateway acts on, the
heartbeat, which only shows that the device is alive, and the kinds that are
known and skipped.
-/

namespace DeviceGateway.Wire

/-- One unit of the inbound stream. -/
inductive Frame where
  | connect (request : Connect)
  | data (reading : Reading)
  | heartbeat
  | skipped (kind : Kind)
  | line (bytes : List UInt8)
  deriving DecidableEq

end DeviceGateway.Wire
