import DeviceGateway.Backend.Fault
import DeviceGateway.Device.Identity
import DeviceGateway.Ledger

/-!
# Clients of a backend

The gateway talks to a backend through clients, one for each connected device.
A transport says how clients are made, used and closed; what it remembers is a
state of its own, so that sessions can be run against any backend.

A message carries its payload.  Whoever sends a message releases the payload,
whether or not the backend takes it.

## Main results

* `setProperty_lookup`: a property that was set is found.
-/

namespace DeviceGateway.Backend

/-- A client for one device. -/
structure Client where
  number : Nat
  deviceId : String
  deriving DecidableEq, Repr

/-- What is sent to the backend for a device. -/
structure Message where
  address : String
  payload : Payload
  /-- Names and values, in the order of the names. -/
  properties : List (String × String) := []
  deriving DecidableEq, Repr

/-- Adds a property, or replaces the one of this name. -/
def insertProperty (name value : String) :
    List (String × String) → List (String × String)
  | [] => [(name, value)]
  | (n, v) :: rest =>
    if n = name then (name, value) :: rest
    else if name < n then (name, value) :: (n, v) :: rest
    else (n, v) :: insertProperty name value rest

/-- Sets a property of a message. -/
def Message.setProperty (m : Message) (name value : String) : Message :=
  { m with properties := insertProperty name value m.properties }

/-- How a backend is reached. -/
structure Transport (σ : Type) where
  /-- Makes a client for a device of a tenant. -/
  connect : σ → String → Identity → Except Fault Client × σ
  send : σ → Client → Message → Except Fault Unit × σ
  close : σ → Client → σ

theorem setProperty_lookup (m : Message) (name value : String) :
    (m.setProperty name value).properties.lookup name = some value := by
  simp only [Message.setProperty]
  induction m.properties with
  | nil => simp [insertProperty]
  | cons entry rest ih =>
    obtain ⟨n, v⟩ := entry
    simp only [insertProperty]
    split
    · simp
    · next hne =>
      split
      · simp
      · simpa [List.lookup_cons, beq_eq_false_iff_ne.2 (Ne.symm hne)] using ih

end DeviceGateway.Backend
