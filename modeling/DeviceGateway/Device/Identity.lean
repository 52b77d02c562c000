/-!
# Device identities

A device is taken for who it says it is if the name in its credential agrees.
The name has the form `host/device`, optionally followed by a slash and
anything; host and device are not empty, and the device is the one that
connects.

## Main results

* `authenticate_id`: an identity is always that of the device that connects.
-/

namespace DeviceGateway

/-- Who a device is, as far as the gateway could find out. -/
structure Identity where
  id : String
  /-- The host the device belongs to, empty if it is not known. -/
  hubHostName : String
  secret : Option String
  authenticated : Bool
  deriving DecidableEq, Repr

namespace Identity

/-- The identity of a device that could not prove who it is. -/
def unauthenticated (id : String) : Identity :=
  ⟨id, "", none, false⟩

/-- An identity as it is shown. -/
def describe (i : Identity) : String :=
  if i.hubHostName == "" then i.id else i.hubHostName ++ "/" ++ i.id

/-- The host and the device in the name of a credential. -/
def splitUsername (username : String) : Option (String × String) :=
  let cs := username.toList
  match cs.takeWhile (· != '/'), cs.dropWhile (· != '/') with
  | [], _ => none
  | _, [] => none
  | host, _ :: rest =>
    let device := rest.takeWhile (· != '/')
    if device.isEmpty then none
    else some (String.ofList host, String.ofList device)

/-- Who a device with this credential is. -/
def authenticate (deviceId username password : String) : Identity :=
  match splitUsername username with
  | none => unauthenticated deviceId
  | some (host, claimed) =>
    if claimed = deviceId then
      ⟨deviceId, host, if password = "" then none else some password, true⟩
    else unauthenticated deviceId

theorem authenticate_id (deviceId username password : String) :
    (authenticate deviceId username password).id = deviceId := by
  unfold authenticate
  split
  · rfl
  · split <;> rfl

end Identity

end DeviceGateway
