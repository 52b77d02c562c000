import DeviceGateway.Peer
import DeviceGateway.Settings.Basic
import DeviceGateway.Tenancy.Basic

/-!
# The tenant table

The table maps the subject of a certificate to a tenant.  Subjects are compared
character by character.  A peer whose subject is in the table has the tenancy
of that entry; a peer with another subject, and a device without a certificate,
have the delayed one.
-/

namespace DeviceGateway

/-- What the table says about a tenant. -/
structure TenantProfile where
  tenantId : String
  tenantName : String
  format : Wire.Format
  deriving DecidableEq, Repr

/-- The known tenants, each under the subject of its certificates. -/
structure TenantTable where
  entries : List (String × TenantProfile) := []
  deriving DecidableEq, Repr

namespace TenantTable

/-- The profile of a configured tenant. -/
def profileOf (t : Settings.Tenant) : TenantProfile :=
  ⟨t.tenantId, t.name, t.format⟩

/-- Adds a tenant; it replaces one with the same subject. -/
def add (table : TenantTable) (t : Settings.Tenant) : TenantTable :=
  ⟨(t.subject, profileOf t) ::
    table.entries.filter fun entry => entry.1 != t.subject⟩

/-- The table of configured tenants. -/
def ofSettings (tenants : List Settings.Tenant) : TenantTable :=
  tenants.foldl add {}

/-- The tenant under a subject. -/
def find? (table : TenantTable) (subject : String) : Option TenantProfile :=
  table.entries.lookup subject

/-- How many tenants there are. -/
def size (table : TenantTable) : Nat :=
  table.entries.length

/-- Whether there is no tenant. -/
def isEmpty (table : TenantTable) : Bool :=
  table.entries.isEmpty

/-- The tenancy of a connection with this peer. -/
def lookup (table : TenantTable) (maxMessageSize : Nat) (peer : Option Peer) :
    Tenancy :=
  match peer with
  | none => Tenancy.delayed maxMessageSize
  | some peer =>
    match table.find? peer.subject with
    | none => Tenancy.delayed maxMessageSize
    | some profile =>
      Tenancy.fixed
        ⟨profile.tenantId, profile.tenantName,
          .certificate peer.subject peer.thumbprint⟩
        profile.format maxMessageSize

theorem find?_add_self (table : TenantTable) (t : Settings.Tenant) :
    (table.add t).find? t.subject = some (profileOf t) := by
  simp [add, find?]

end TenantTable

end DeviceGateway
