import DeviceGateway.Packet
import DeviceGateway.Wire.Decoder

/-!
# Tenancy

Every connection belongs to a tenant.  A device with a known certificate is of
that certificate's tenant from the start.  For any other device the tenant is
delayed: the lines name it, and the first line that can be read decides, once
and for all.  A later line that names another tenant is taken like any other
and changes nothing.

The trust says on what evidence the tenant was chosen.

## Main results

* `decodeLine_format`: a line never changes the format.
* `decodeLine_known`: nor a tenant that is known.
-/

namespace DeviceGateway

/-- On what evidence a tenant was chosen. -/
inductive Trust where
  | none
  | certificate (subject thumbprint : String)
  /-- The tenant was named by a line. -/
  | token (token : String)
  deriving DecidableEq, Repr

/-- A tenant that was chosen. -/
structure TenantInfo where
  id : String
  name : String
  trust : Trust
  deriving DecidableEq, Repr

/-- The tenant a line names. -/
def TenantInfo.ofToken (token : String) : TenantInfo :=
  ⟨token, token, .token token⟩

/-- The tenant of a connection, as far as it is known. -/
inductive TenantSlot where
  | fixed (info : TenantInfo)
  | delayed (known : Option TenantInfo)
  deriving DecidableEq, Repr

/-- The tenancy of a connection. -/
structure Tenancy where
  slot : TenantSlot
  format : Wire.Format
  maxMessageSize : Nat
  deriving DecidableEq, Repr

namespace Tenancy

/-- A tenancy that is known from the start. -/
def fixed (info : TenantInfo) (format : Wire.Format) (maxMessageSize : Nat) :
    Tenancy :=
  ⟨.fixed info, format, maxMessageSize⟩

/-- A tenancy whose tenant the lines will name. -/
def delayed (maxMessageSize : Nat) : Tenancy :=
  ⟨.delayed none, .text .selfIdentifying, maxMessageSize⟩

/-- The tenant, if it is known. -/
def info? (t : Tenancy) : Option TenantInfo :=
  match t.slot with
  | .fixed info => some info
  | .delayed known => known

/-- The id of the tenant, empty while it is not known. -/
def tenantId (t : Tenancy) : String :=
  (t.info?.map TenantInfo.id).getD ""

/-- The name of the tenant, empty while it is not known. -/
def tenantName (t : Tenancy) : String :=
  (t.info?.map TenantInfo.name).getD ""

/-- The evidence for the tenant. -/
def trust (t : Tenancy) : Trust :=
  (t.info?.map TenantInfo.trust).getD .none

/-- Whether the tenant was not known from the start. -/
def isDelayed (t : Tenancy) : Bool :=
  match t.slot with
  | .fixed _ => false
  | .delayed _ => true

/-- A fresh decoder for the frames of this tenant. -/
def decoder (t : Tenancy) : Wire.Decoder :=
  t.format.decoder t.maxMessageSize

/-- Takes notice of the tenant a line names. -/
def learn (t : Tenancy) (token : Option String) : Tenancy :=
  match t.slot, token with
  | .delayed none, some token =>
    { t with slot := .delayed (some (TenantInfo.ofToken token)) }
  | _, _ => t

/-- The reading a line holds, if it can be read, and the tenancy after it. -/
def decodeLine (t : Tenancy) (line : List UInt8) : Option Reading × Tenancy :=
  match t.format with
  | .binary => (none, t)
  | .text layout =>
    match layout.decode t.tenantName line with
    | .error _ => (none, t)
    | .ok entry =>
      (some ⟨entry.deviceId, "", Bytes.Utf8.encodeString entry.payload,
        some entry.timestamp⟩, t.learn entry.tenantToken)

private theorem learn_format (t : Tenancy) (token : Option String) :
    (t.learn token).format = t.format := by
  unfold learn
  split <;> rfl

private theorem learn_known {t : Tenancy} {info : TenantInfo}
    (h : t.info? = some info) (token : Option String) :
    (t.learn token).info? = some info := by
  unfold learn
  split
  · next hslot => simp [info?, hslot] at h
  · exact h

theorem decodeLine_format (t : Tenancy) (line : List UInt8) :
    (t.decodeLine line).2.format = t.format := by
  unfold decodeLine
  split
  · rfl
  · split
    · rfl
    · exact learn_format t _

theorem decodeLine_known {t : Tenancy} {info : TenantInfo}
    (h : t.info? = some info) (line : List UInt8) :
    (t.decodeLine line).2.info? = some info := by
  unfold decodeLine
  split
  · exact h
  · split
    · exact h
    · exact learn_known h _

end Tenancy

end DeviceGateway
