import DeviceGateway.Device.Credential
import Mathlib.Data.List.Induction

/-!
# Which credential is found

Devices are registered one after the other, each by its tenant and its own id,
and the store keeps a credential under one text made of both.  So a lookup gives
the credential of the last device that was registered under the same text, which
need not be the last one with the same tenant and the same id.

Both parts are free text, and the dot that joins them may occur in either.  Two
pairs that differ have the same text exactly if the tenant of one goes on where
the tenant of the other ends, with a dot and some more, and the device of the
other begins with what is left: `Clashes`.  Where no device clashes with the
pair that is looked up, the lookup keeps tenants apart, and that is so as long
as tenant ids hold no dot.

## Main results

* `answers_iff`: when two pairs have the same text.
* `not_clashes_of_tenants`: tenant ids without a dot do not clash.
* `credential_found`: what a lookup gives after any registrations.
-/

namespace DeviceGateway

/-- A device as it is registered. -/
structure Registration where
  tenantId : String
  deviceId : String
  hubHostName : String
  secret : String
  deriving DecidableEq, Repr

namespace Registration

/-- The credential that a registration leaves. -/
def credential (r : Registration) : Credential :=
  CredentialStore.credentialOf r.deviceId r.hubHostName r.secret

/-- Whether a device was registered with exactly this tenant and this id. -/
def Names (r : Registration) (tenantId deviceId : String) : Prop :=
  r.tenantId = tenantId ∧ r.deviceId = deviceId

instance (r : Registration) (tenantId deviceId : String) :
    Decidable (r.Names tenantId deviceId) :=
  inferInstanceAs (Decidable (_ ∧ _))

/-- Whether a device is kept under the same text as a pair that is not its own:
one tenant goes on where the other ends, and the rest stands in front of the
device. -/
def Clashes (r : Registration) (tenantId deviceId : String) : Prop :=
  (∃ more, tenantId = r.tenantId ++ "." ++ more ∧
    r.deviceId = more ++ "." ++ deviceId) ∨
    ∃ more, r.tenantId = tenantId ++ "." ++ more ∧
      deviceId = more ++ "." ++ r.deviceId

/-- Whether a device is kept under the text of a pair. -/
def Answers (r : Registration) (tenantId deviceId : String) : Prop :=
  CredentialStore.key r.tenantId r.deviceId =
    CredentialStore.key tenantId deviceId

instance (r : Registration) (tenantId deviceId : String) :
    Decidable (r.Answers tenantId deviceId) :=
  inferInstanceAs (Decidable (_ = _))

end Registration

namespace CredentialStore

/-! ## Texts -/

/-- Two texts that are joined by a character may be cut at any place where it
occurs. -/
theorem append_cons_eq_iff {α : Type} (c : α)
    (front back front' back' : List α) :
    front ++ c :: back = front' ++ c :: back' ↔
      (front = front' ∧ back = back') ∨
      (∃ more, front' = front ++ c :: more ∧ back = more ++ c :: back') ∨
        ∃ more, front = front' ++ c :: more ∧ back' = more ++ c :: back := by
  rw [List.append_eq_append_iff]
  constructor
  · rintro (⟨middle, hfront, hback⟩ | ⟨middle, hfront, hback⟩)
    · cases middle with
      | nil =>
        rw [List.append_nil] at hfront
        exact .inl ⟨hfront.symm, (List.cons.inj hback).2⟩
      | cons first more =>
        obtain ⟨rfl, hrest⟩ := List.cons.inj hback
        exact .inr (.inl ⟨more, hfront, hrest⟩)
    · cases middle with
      | nil =>
        rw [List.append_nil] at hfront
        exact .inl ⟨hfront, (List.cons.inj hback).2.symm⟩
      | cons first more =>
        obtain ⟨rfl, hrest⟩ := List.cons.inj hback
        exact .inr (.inr ⟨more, hfront, hrest⟩)
  · rintro (⟨rfl, rfl⟩ | ⟨more, rfl, rfl⟩ | ⟨more, rfl, rfl⟩)
    · exact .inl ⟨[], by simp, rfl⟩
    · exact .inl ⟨c :: more, rfl, rfl⟩
    · exact .inr ⟨c :: more, rfl, rfl⟩

private theorem key_toList (tenantId deviceId : String) :
    (key tenantId deviceId).toList =
      tenantId.toList ++ '.' :: deviceId.toList := by
  simp [key]

private theorem eq_append_dot_iff (text front back : String) :
    text = front ++ "." ++ back ↔
      text.toList = front.toList ++ '.' :: back.toList := by
  rw [← String.toList_inj]
  simp

/-- Two pairs have the same text if they are equal, or if one tenant goes on
where the other ends. -/
theorem answers_iff {r : Registration} {tenantId deviceId : String} :
    r.Answers tenantId deviceId ↔
      r.Names tenantId deviceId ∨ r.Clashes tenantId deviceId := by
  have hlists : ∀ {P : List Char → Prop}, (∃ cs, P cs) ↔ ∃ s : String,
      P s.toList :=
    fun {P} => ⟨fun ⟨cs, h⟩ => ⟨String.ofList cs, by simpa using h⟩,
      fun ⟨s, h⟩ => ⟨s.toList, h⟩⟩
  rw [Registration.Answers, ← String.toList_inj, key_toList, key_toList,
    append_cons_eq_iff, hlists, hlists, String.toList_inj, String.toList_inj]
  simp only [Registration.Names, Registration.Clashes, eq_append_dot_iff]

/-- What clashes with a pair is of another tenant. -/
theorem tenant_ne_of_clashes {r : Registration} {tenantId deviceId : String}
    (h : r.Clashes tenantId deviceId) : r.tenantId ≠ tenantId := by
  intro hsame
  have hnot : ∀ front more : String, front ≠ front ++ "." ++ more := by
    intro front more hlonger
    have hlength := congrArg String.length hlonger
    simp only [String.length_append] at hlength
    have hdot : ".".length = 1 := rfl
    omega
  rcases h with ⟨more, htenant, -⟩ | ⟨more, htenant, -⟩
  · exact hnot r.tenantId more (hsame.trans htenant)
  · exact hnot tenantId more (hsame.symm.trans htenant)

instance (r : Registration) (tenantId deviceId : String) :
    Decidable (r.Clashes tenantId deviceId) :=
  decidable_of_iff
    (r.Answers tenantId deviceId ∧ ¬ r.Names tenantId deviceId) <| by
    rw [answers_iff]
    refine ⟨fun h => h.1.resolve_left h.2, fun h => ⟨.inr h, fun hsame => ?_⟩⟩
    exact tenant_ne_of_clashes h hsame.1

/-- Tenant ids without a dot do not clash. -/
theorem not_clashes_of_tenants {r : Registration} {tenantId deviceId : String}
    (hregistered : '.' ∉ r.tenantId.toList) (hasked : '.' ∉ tenantId.toList) :
    ¬ r.Clashes tenantId deviceId := by
  rintro (⟨more, htenant, -⟩ | ⟨more, htenant, -⟩)
  · exact hasked (by simp [htenant])
  · exact hregistered (by simp [htenant])

/-! ## Registering -/

/-- Registers a device. -/
def register (s : CredentialStore) (r : Registration) : CredentialStore :=
  s.add r.tenantId r.deviceId r.hubHostName r.secret

/-- Registers devices, in order. -/
def registerAll (s : CredentialStore) (rs : List Registration) :
    CredentialStore :=
  rs.foldl register s

/-- The registrations that configured devices stand for, in order. -/
def registrations (env : Environment) (groups : List Settings.DeviceGroup) :
    List Registration :=
  groups.flatMap fun g => g.devices.map fun d =>
    ⟨g.tenantId, d.id, d.hubHostName, d.secret env⟩

theorem ofSettings_eq (env : Environment) (groups : List Settings.DeviceGroup) :
    ofSettings env groups = registerAll {} (registrations env groups) := by
  have hgroup : ∀ (s : CredentialStore) (g : Settings.DeviceGroup),
      addGroup env s g =
      s.registerAll (g.devices.map fun d => ⟨g.tenantId, d.id, d.hubHostName,
        d.secret env⟩) := by
    intro s g
    rw [addGroup, registerAll, List.foldl_map]
    rfl
  have hall : ∀ s : CredentialStore,
      groups.foldl (addGroup env) s =
        s.registerAll (registrations env groups) := by
    intro s
    rw [registerAll, registrations, List.foldl_flatMap]
    congr 1
    funext s g
    exact hgroup s g
  exact hall {}

/-! ## Looking up -/

variable {tenantId deviceId : String} {r : Registration}

private theorem registerAll_concat (s : CredentialStore)
    (rs : List Registration) (r : Registration) :
    s.registerAll (rs ++ [r]) = (s.registerAll rs).register r := by
  simp [registerAll]

private theorem find?_register_of_answers (s : CredentialStore)
    (h : r.Answers tenantId deviceId) :
    (s.register r).find? tenantId deviceId = some r.credential := by
  have hself := find?_add_self s r.tenantId r.deviceId r.hubHostName r.secret
  have hkey : key r.tenantId r.deviceId = key tenantId deviceId := h
  rw [find?, hkey] at hself
  exact hself

private theorem find?_register_of_not (s : CredentialStore)
    (h : ¬ r.Answers tenantId deviceId) :
    (s.register r).find? tenantId deviceId = s.find? tenantId deviceId := by
  have hkey : (key tenantId deviceId == key r.tenantId r.deviceId) = false :=
    beq_eq_false_iff_ne.2 (Ne.symm h)
  simp only [register, add, find?, List.lookup_cons, hkey]
  induction s.entries with
  | nil => rfl
  | cons entry entries ih =>
    obtain ⟨k, credential⟩ := entry
    by_cases hk : k = key r.tenantId r.deviceId
    · have hpassed : (key tenantId deviceId == k) = false := by rw [hk, hkey]
      simp [hk, ih, List.lookup_cons, hk ▸ hpassed]
    · simp [hk, ih, List.lookup_cons]

/-- The last device that was registered under the text of a pair answers for
it. -/
theorem find?_registerAll (rs : List Registration)
    (tenantId deviceId : String) :
    (registerAll {} rs).find? tenantId deviceId =
      (rs.filter fun r => r.Answers tenantId deviceId).getLast?.map
        Registration.credential := by
  induction rs using List.reverseRecOn with
  | nil => rfl
  | append_singleton rs r ih =>
    rw [registerAll_concat, List.filter_append]
    by_cases h : r.Answers tenantId deviceId
    · rw [find?_register_of_answers _ h]
      simp [h]
    · rw [find?_register_of_not _ h, ih]
      simp [h]

/-- A lookup gives the credential of the last device that has the same tenant
and the same id or clashes with them.  Where none clashes, the tenant and the id
alone decide, and what was registered under any other pair has no influence;
this is so if no tenant id holds a dot.  The credentials of configured devices
come about by registering them in order. -/
theorem credential_found (tenantId deviceId : String) :
    (∀ rs, (registerAll {} rs).find? tenantId deviceId =
      (rs.filter fun r =>
        r.Names tenantId deviceId ∨ r.Clashes tenantId deviceId).getLast?.map
        Registration.credential) ∧
    (∀ rs, (∀ r ∈ rs, ¬ r.Clashes tenantId deviceId) →
      (registerAll {} rs).find? tenantId deviceId =
        (rs.filter fun r => r.Names tenantId deviceId).getLast?.map
          Registration.credential) ∧
    (∀ rs : List Registration, '.' ∉ tenantId.toList →
      (∀ r ∈ rs, '.' ∉ r.tenantId.toList) →
      ∀ r ∈ rs, ¬ r.Clashes tenantId deviceId) ∧
    (∀ env groups,
      ofSettings env groups = registerAll {} (registrations env groups)) := by
  have hfound : ∀ rs, (registerAll {} rs).find? tenantId deviceId =
      (rs.filter fun r => r.Names tenantId deviceId ∨
        r.Clashes tenantId deviceId).getLast?.map
        Registration.credential := by
    intro rs
    simp only [find?_registerAll, answers_iff]
  refine ⟨hfound, fun rs hclear => ?_, fun rs hasked hregistered r hr => ?_,
    ofSettings_eq⟩
  · have hsame : (rs.filter fun r => r.Names tenantId deviceId ∨
        r.Clashes tenantId deviceId) =
        rs.filter fun r => r.Names tenantId deviceId :=
      List.filter_congr fun r hr => by simp [hclear r hr]
    rw [hfound, hsame]
  · exact not_clashes_of_tenants (hregistered r hr) hasked

/-- The device `b.c` of the tenant `a` answers for the device `c` of the tenant
`a.b`, which was never registered, and once that one is registered it answers
for both. -/
theorem credential_of_another_tenant :
    let first : Registration := ⟨"a", "b.c", "hub", "s"⟩
    let second : Registration := ⟨"a.b", "c", "hub", "t"⟩
    (registerAll {} [first]).find? "a.b" "c" = some first.credential ∧
    (registerAll {} [first, second]).find? "a" "b.c" = some second.credential ∧
    ¬ first.Names "a.b" "c" ∧ ¬ second.Names "a" "b.c" ∧
      first.credential ≠ second.credential := by
  decide

end CredentialStore

end DeviceGateway
