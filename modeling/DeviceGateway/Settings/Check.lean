import DeviceGateway.Address
import DeviceGateway.Settings.Basic

/-!
# Checking settings

Settings are checked before anything runs on them, and the first fault in a
fixed order is reported: addresses, sizes, templates, tenants, devices.  What
passes can be served without further questions: every template reads, no two
tenants share a certificate subject, and no tenant or device id is blank.

An address is a host and a port with a colon between them, cut at the last
colon; the host is anything but empty, and the port is a number below 65536,
with an optional plus sign.

## Main results

* `check_eq_ok_iff`: which settings pass.
* `templates_of_check`: their templates can be read.
-/

namespace DeviceGateway.Settings

/-- A bounded number among the settings. -/
inductive Bounded where
  | maxMessageSize
  | maxPending
  | poolSize
  deriving DecidableEq, Repr

/-- The name a bounded number is shown under. -/
def Bounded.name : Bounded → String
  | maxMessageSize => "gateway.max_message_size"
  | maxPending => "gateway.max_pending_inbound_messages"
  | poolSize => "backend.connection_pool_size"

/-- The bounds of a number, in words. -/
def Bounded.expected : Bounded → String
  | maxMessageSize => "between 2 and 268435460"
  | _ => "at least 1"

/-- What is wrong with the entry of a tenant. -/
inductive TenantFault where
  | blankTenantId
  | blankDeviceId
  deriving DecidableEq, Repr

/-- The wording of what is wrong with a tenant. -/
def TenantFault.message : TenantFault → String
  | blankTenantId => "tenant_id must not be empty"
  | blankDeviceId => "device id must not be empty"

/-- Why settings are refused. -/
inductive Fault where
  | invalidAddress (address : String)
  | duplicateSubject (subject : String)
  | invalidTenant (tenant : String) (cause : TenantFault)
  | invalidTemplate (template : String) (cause : Address.Fault)
  | outOfRange (number : Bounded) (actual : Nat)
  deriving DecidableEq, Repr

/-- The wording of a fault. -/
def Fault.message : Fault → String
  | invalidAddress address =>
    "invalid address format: " ++ address ++ " (expected 'host:port')"
  | duplicateSubject subject => "duplicate tenant subject: " ++ subject
  | invalidTenant tenant cause => "tenant '" ++ tenant ++ "': " ++ cause.message
  | invalidTemplate template cause =>
    "invalid address template '" ++ template ++ "': " ++ cause.message
  | outOfRange number actual =>
    number.name ++ " must be " ++ number.expected ++ ", got " ++ toString actual

/-- The largest frame that the binary protocol can describe, its header
included. -/
def maxEncodableSize : Nat := 1 + Wire.Length.maxSize + Wire.Length.maxLength

/-- The value of a decimal number. -/
def decimalValue (cs : List Char) : Nat :=
  cs.foldl (fun n c => n * 10 + (c.toNat - 48)) 0

/-- Whether a text is a port: ASCII digits below 65536, leading zeros and a plus
sign allowed. -/
def isPort (cs : List Char) : Bool :=
  let digits := match cs with
    | '+' :: rest => rest
    | rest => rest
  !digits.isEmpty && digits.all Char.isDigit && decimalValue digits < 65536

/-- Whether a text is a host and a port. -/
def isAddress (s : String) : Bool :=
  let backwards := s.toList.reverse
  match backwards.dropWhile (· != ':') with
  | ':' :: host =>
    !host.isEmpty && isPort (backwards.takeWhile (· != ':')).reverse
  | _ => false

/-- Fails unless a text is a host and a port. -/
def checkAddress (s : String) : Except Fault Unit :=
  if isAddress s then .ok () else .error (.invalidAddress s)

/-- Reads templates, up to the first that is none. -/
def readTemplates : List String → Except Fault (List Address.Template)
  | [] => .ok []
  | raw :: rest =>
    match Address.Template.parse raw with
    | .error cause => .error (.invalidTemplate raw cause)
    | .ok t => (readTemplates rest).map (t :: ·)

/-- Fails if a tenant id is blank or a subject repeats one of those seen. -/
def checkTenants (seen : List String) : List Tenant → Except Fault Unit
  | [] => .ok ()
  | t :: rest =>
    if Text.isBlankText t.tenantId then
      .error (.invalidTenant t.subject .blankTenantId)
    else if t.subject ∈ seen then .error (.duplicateSubject t.subject)
    else checkTenants (t.subject :: seen) rest

/-- Fails if a device id is blank. -/
def checkDevices : List DeviceGroup → Except Fault Unit
  | [] => .ok ()
  | g :: rest =>
    if g.devices.any fun d => Text.isBlankText d.id then
      .error (.invalidTenant g.tenantId .blankDeviceId)
    else checkDevices rest

/-- Fails if a number is out of its bounds. -/
def checkNumbers (s : Settings) : Except Fault Unit :=
  if s.session.maxMessageSize < 2 ∨
    maxEncodableSize < s.session.maxMessageSize then
    .error (.outOfRange .maxMessageSize s.session.maxMessageSize)
  else if s.session.maxPending = 0 then .error (.outOfRange .maxPending 0)
  else if s.upstream.poolSize = 0 then .error (.outOfRange .poolSize 0)
  else .ok ()

/-- Checks settings and reports the first fault. -/
def check (s : Settings) : Except Fault Unit := do
  checkAddress s.listen.address
  match s.listen.tls with
  | none => pure ()
  | some tls => checkAddress tls.address
  checkAddress s.upstream.endpoint
  checkNumbers s
  let _ ← readTemplates s.session.addressTemplates
  checkTenants [] s.tenants
  checkDevices s.devices

/-- What the check asks for, one thing after another. -/
theorem check_eq_ok_iff {s : Settings} :
    s.check = .ok () ↔
      checkAddress s.listen.address = .ok () ∧
      (∀ tls, s.listen.tls = some tls → checkAddress tls.address = .ok ()) ∧
      checkAddress s.upstream.endpoint = .ok () ∧ checkNumbers s = .ok () ∧
      (∃ templates, readTemplates s.session.addressTemplates = .ok templates) ∧
      checkTenants [] s.tenants = .ok () ∧ checkDevices s.devices = .ok () := by
  unfold check
  cases htls : s.listen.tls with
  | none =>
    simp only [bind_eq_ok]
    constructor
    · rintro ⟨⟨⟩, hlisten, ⟨⟩, hendpoint, ⟨⟩, hnumbers, templates, htemplates,
        ⟨⟩, htenants, hdevices⟩
      exact ⟨hlisten, by simp, hendpoint, hnumbers, ⟨templates,
        htemplates⟩, htenants, hdevices⟩
    · rintro ⟨hlisten, -, hendpoint, hnumbers, ⟨templates, htemplates⟩,
        htenants, hdevices⟩
      exact ⟨(), hlisten, (), hendpoint, (), hnumbers, templates, htemplates,
        (), htenants, hdevices⟩
  | some tls =>
    simp only [bind_eq_ok]
    constructor
    · rintro ⟨⟨⟩, hlisten, ⟨⟩, hsecure, ⟨⟩, hendpoint, ⟨⟩, hnumbers, templates,
        htemplates, ⟨⟩, htenants, hdevices⟩
      refine ⟨hlisten, ?_, hendpoint, hnumbers, ⟨templates, htemplates⟩,
        htenants, hdevices⟩
      rintro _ ⟨⟩
      exact hsecure
    · rintro ⟨hlisten, hsecure, hendpoint, hnumbers, ⟨templates, htemplates⟩,
        htenants, hdevices⟩
      exact ⟨(), hlisten, (), hsecure tls rfl, (), hendpoint, (), hnumbers,
        templates, htemplates, (), htenants, hdevices⟩

theorem templates_of_check {s : Settings} (h : s.check = .ok ()) :
    ∃ templates, readTemplates s.session.addressTemplates = .ok templates :=
  (check_eq_ok_iff.1 h).2.2.2.2.1

end DeviceGateway.Settings
