/-!
# Packet kinds

The binary protocol knows nine kinds of packet.  The first octet of a frame, its
signature, carries the kind in the high nibble and nothing in the low one; a
signature with a non-zero low nibble names no kind.

## Main results

* `ofSignature_signature`: every kind is found under its signature.
* `signature_of_ofSignature`: and nothing else is found.
-/

namespace DeviceGateway.Wire

/-- The kinds of packet of the binary protocol. -/
inductive Kind where
  | register
  | dpsRegister
  | connect
  | deviceToCloud
  | cloudToDevice
  | heartbeat
  | twinUpdate
  | fileUpload
  | disconnect
  deriving DecidableEq, Repr

namespace Kind

/-- All kinds, by ascending number. -/
def all : List Kind :=
  [register, dpsRegister, connect, deviceToCloud, cloudToDevice, heartbeat,
    twinUpdate, fileUpload, disconnect]

/-- The number of a kind on the wire. -/
def number : Kind → Nat
  | register => 1
  | dpsRegister => 2
  | connect => 3
  | deviceToCloud => 4
  | cloudToDevice => 5
  | heartbeat => 6
  | twinUpdate => 7
  | fileUpload => 8
  | disconnect => 9

/-- The name a kind is shown under. -/
def name : Kind → String
  | register => "REGISTER"
  | dpsRegister => "DPS_REGISTER"
  | connect => "CONNECT"
  | deviceToCloud => "D2C"
  | cloudToDevice => "C2D"
  | heartbeat => "HEART_BEAT"
  | twinUpdate => "DEVICE_TWIN_UPDATE"
  | fileUpload => "FILE_UPLOAD"
  | disconnect => "DISCONNECT"

/-- The first octet of a frame of this kind. -/
def signature (k : Kind) : UInt8 :=
  UInt8.ofNat (k.number * 16)

/-- The kind a signature names, if any. -/
def ofSignature (b : UInt8) : Option Kind :=
  if b.toNat % 16 = 0 then all.find? fun k => k.number == b.toNat / 16 else none

/-- The kind with a given name, if any. -/
def ofName (s : String) : Option Kind :=
  all.find? fun k => k.name == s

theorem ofSignature_signature (k : Kind) :
    ofSignature k.signature = some k := by
  cases k <;> decide

theorem signature_of_ofSignature {b : UInt8} {k : Kind}
    (h : ofSignature b = some k) :
    k.signature = b := by
  unfold ofSignature at h
  split at h
  · next hlow =>
    have hk : k.number = b.toNat / 16 := by
      have := List.find?_some h
      simpa using this
    have hb : k.number * 16 = b.toNat := by omega
    apply UInt8.toNat_inj.mp
    rw [signature, UInt8.toNat_ofNat', hb]
    exact Nat.mod_eq_of_lt b.toNat_lt
  · exact absurd h (by simp)

end Kind

end DeviceGateway.Wire
