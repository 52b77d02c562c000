import DeviceGateway.Bytes.Octets
import DeviceGateway.Wire.Fault
import DeviceGateway.Wire.Frame
import DeviceGateway.Wire.Length

/-!
# The binary protocol

A binary frame is a signature, a remaining length and a body of that many
octets.  A CONNECT holds three strings and the keep-alive in seconds; a D2C
holds the device id and, up to the end of the frame, the payload.  A string is
two octets of length, the high one first, and that many octets of UTF-8.

The checks on a frame come in an order that does not let a device make the
gateway wait for octets it would refuse anyway: the length field first, then
the size it announces, and only when the whole frame has arrived the signature
and the body.  Nothing is taken off the input before the frame is complete, so
a frame decodes the same however it is cut into pieces.

After a fault nothing marks where the next frame starts.  A decoder that has
failed stays failed, and drops all it is given.
-/

namespace DeviceGateway.Wire.Binary

/-- The largest frame unless the gateway is configured otherwise. -/
def defaultMaxSize : Nat := 262144

/-! ## Reading a body

Each reader returns its result and the octets that follow it. -/

/-- Reads a string. -/
def readText (bytes : List UInt8) :
    Except BodyFault (String × List UInt8) := do
  match Bytes.takeUInt16 bytes with
  | none => throw .truncatedLength
  | some (length, rest) =>
    match Bytes.splitExactly length.toNat rest with
    | none => throw (.overrun length.toNat)
    | some (octets, rest) =>
      match Bytes.Utf8.decodeString octets with
      | .error fault => throw (.notText fault)
      | .ok text => pure (text, rest)

/-- Reads a string that has to be a device id. -/
def readDeviceId (bytes : List UInt8) :
    Except BodyFault (DeviceId × List UInt8) := do
  let (raw, rest) ← readText bytes
  match DeviceId.parse raw with
  | none => throw .blankDeviceId
  | some id => pure (id, rest)

/-- Reads the fields of a CONNECT. -/
def readConnect (body : List UInt8) :
    Except BodyFault (Connect × List UInt8) := do
  let (deviceId, rest) ← readDeviceId body
  let (username, rest) ← readText rest
  let (password, rest) ← readText rest
  match Bytes.takeUInt16 rest with
  | none => throw .missingKeepAlive
  | some (keepAliveSecs, rest) =>
    pure (⟨deviceId, username, password, keepAliveSecs⟩, rest)

/-- The frame that a body of a given kind makes. -/
def frameOf (kind : Kind) (body : List UInt8) : Except Fault Frame :=
  match kind with
  | .connect =>
    match readConnect body with
    | .error cause => .error (.malformed .connect cause)
    | .ok (request, []) => .ok (.connect request)
    | .ok (_, rest) => .error (.trailingBytes rest.length)
  | .deviceToCloud =>
    match readDeviceId body with
    | .error cause => .error (.malformed .deviceToCloud cause)
    | .ok (deviceId, payload) => .ok (.data (Reading.of deviceId payload))
  | .heartbeat => .ok .heartbeat
  | other => .ok (.skipped other)

/-! ## Reading a stream -/

/-- What one look at the input comes to. -/
inductive Step where
  /-- The frame is not complete. -/
  | wait
  | frame (frame : Frame) (rest : List UInt8)
  | fault (fault : Fault)

/-- Looks for a frame at the front of the input. -/
def scan (max : Nat) (input : List UInt8) : Step :=
  match input with
  | [] => .wait
  | signature :: afterSignature =>
    match Length.decode afterSignature with
    | .unfinished => .wait
    | .tooLarge => .fault .lengthTooLarge
    | .value length size =>
      let total := 1 + size + length
      if max < total then .fault (.messageTooBig total max)
      else
        match Bytes.splitExactly length (afterSignature.drop size) with
        | none => .wait
        | some (body, rest) =>
          match Kind.ofSignature signature with
          | none => .fault (.unknownSignature signature)
          | some kind =>
            match frameOf kind body with
            | .error fault => .fault fault
            | .ok frame => .frame frame rest

/-- The state of a connection's binary decoder. -/
structure Decoder where
  max : Nat := defaultMaxSize
  failed : Bool := false
  deriving DecidableEq, Repr

/-- Takes the next frame or fault off the input. -/
def Decoder.next (d : Decoder) (input : List UInt8) :
    Option (Except Fault Frame) × Decoder × List UInt8 :=
  if d.failed then (none, d, [])
  else
    match scan d.max input with
    | .wait => (none, d, input)
    | .frame frame rest => (some (.ok frame), d, rest)
    | .fault fault => (some (.error fault), { d with failed := true }, [])

/-! ## Writing -/

/-- A packet that can be written. -/
inductive Packet where
  | connect (request : Connect)
  | data (deviceId : DeviceId) (payload : List UInt8)
  deriving DecidableEq

/-- The kind of frame a packet travels in. -/
def Packet.kind : Packet → Kind
  | .connect _ => .connect
  | .data .. => .deviceToCloud

/-- Writes a string. -/
def putText (s : String) : Except Fault (List UInt8) :=
  let octets := Bytes.Utf8.encodeString s
  if octets.length < 65536 then
    .ok (Bytes.putUInt16 (UInt16.ofNat octets.length) ++ octets)
  else .error (.malformed .string (.longText octets.length))

/-- Writes the body of a packet. -/
def putBody : Packet → Except Fault (List UInt8)
  | .connect request => do
    let deviceId ← putText request.deviceId.text
    let username ← putText request.username
    let password ← putText request.password
    pure (deviceId ++ username ++ password ++
      Bytes.putUInt16 request.keepAliveSecs)
  | .data deviceId payload => do
    let deviceId ← putText deviceId.text
    pure (deviceId ++ payload)

/-- Writes a packet as a frame of at most `max` octets. -/
def encode (max : Nat) (p : Packet) : Except Fault (List UInt8) := do
  let body ← putBody p
  match Length.encode body.length with
  | none => throw .lengthTooLarge
  | some field =>
    let total := 1 + field.length + body.length
    if max < total then throw (.messageTooBig total max)
    else pure (p.kind.signature :: (field ++ body))

/-- Writes a packet at the end of a buffer.  The frame is made apart, so a
packet that cannot be written leaves no octet behind. -/
def write (max : Nat) (p : Packet) (buffer : List UInt8) :
    Except Fault Unit × List UInt8 :=
  match encode max p with
  | .ok frame => (.ok (), buffer ++ frame)
  | .error fault => (.error fault, buffer)

/-- Writes packets one after another, and passes over those that cannot be
written. -/
def writeAll (max : Nat) :
    List Packet → List UInt8 → List (Except Fault Unit) × List UInt8
  | [], buffer => ([], buffer)
  | p :: packets, buffer =>
    let first := write max p buffer
    let others := writeAll max packets first.2
    (first.1 :: others.1, others.2)

end DeviceGateway.Wire.Binary
