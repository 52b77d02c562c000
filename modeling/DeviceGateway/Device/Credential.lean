import DeviceGateway.Settings.Basic

/-!
# Device credentials

A device that speaks text sends no credential of its own.  The gateway looks
one up by tenant and device and connects on its behalf.

Credentials are kept under one text, the tenant id and the device id with a dot
between them, and a later registration replaces an earlier one under the same
text.

## Main results

* `find?_add_self`: what was registered is found.
-/

namespace DeviceGateway

/-- What a device proves its identity with. -/
structure Credential where
  deviceId : String
  username : String
  password : String
  deriving DecidableEq, Repr

/-- The registered credentials, each under its key. -/
structure CredentialStore where
  entries : List (String × Credential) := []
  deriving DecidableEq, Repr

namespace CredentialStore

/-- The text under which a credential is kept. -/
def key (tenantId deviceId : String) : String :=
  tenantId ++ "." ++ deviceId

/-- The credential of a device at a hub: its name there is the hub's host and
its own id. -/
def credentialOf (deviceId hubHostName secret : String) : Credential :=
  ⟨deviceId, hubHostName ++ "/" ++ deviceId, secret⟩

/-- Registers a device. -/
def add (s : CredentialStore) (tenantId deviceId hubHostName secret : String) :
    CredentialStore :=
  let k := key tenantId deviceId
  ⟨(k, credentialOf deviceId hubHostName secret) :: s.entries.filter
    fun entry => entry.1 != k⟩

/-- The credential of a device of a tenant. -/
def find? (s : CredentialStore) (tenantId deviceId : String) :
    Option Credential :=
  s.entries.lookup (key tenantId deviceId)

/-- How many credentials are registered. -/
def size (s : CredentialStore) : Nat :=
  s.entries.length

/-- Whether no credential is registered. -/
def isEmpty (s : CredentialStore) : Bool :=
  s.entries.isEmpty

/-- Registers the devices of a tenant. -/
def addGroup (env : Environment) (s : CredentialStore)
    (g : Settings.DeviceGroup) :
    CredentialStore :=
  g.devices.foldl (fun s d => s.add g.tenantId d.id d.hubHostName
    (d.secret env)) s

/-- The credentials of configured devices. -/
def ofSettings (env : Environment) (groups : List Settings.DeviceGroup) :
    CredentialStore :=
  groups.foldl (addGroup env) {}

theorem find?_add_self (s : CredentialStore)
    (tenantId deviceId hubHostName secret : String) :
    (s.add tenantId deviceId hubHostName secret).find? tenantId deviceId =
      some (credentialOf deviceId hubHostName secret) := by
  simp [add, find?]

end CredentialStore

end DeviceGateway
