import DeviceGateway.Proofs.Connection.Course
import DeviceGateway.Proofs.Connection.Stream
import DeviceGateway.Proofs.Device.Registration
import Mathlib.Data.List.TakeWhile

/-!
# Whom a registration admits

The name in a stored credential is written as a host, a slash and a device id,
and it is read again when the device connects: the host ends at the first slash,
and what stands behind a second one does not count.  So the reader gets back
what was written exactly if neither part is empty or holds a slash of its own.

The id of a device is trimmed when it comes in and kept as it was written when
it is registered, and the two are compared as they are.  A registered id with
blanks around it is therefore never asked for.

## Main results

* `splitUsername_written`: which names are read as they were written.
* `registered_admitted`: the last registration of a device is the one that its
  connection presents, and when it is accepted.
-/

namespace DeviceGateway

/-! ## Names -/

namespace Identity

/-- What is read of a name is not empty and holds no slash. -/
theorem splitUsername_parts {username host device : String}
    (h : splitUsername username = some (host, device)) :
    host ≠ "" ∧ '/' ∉ host.toList ∧ device ≠ "" ∧ '/' ∉ device.toList := by
  have hpart : ∀ cs : List Char, '/' ∉ cs.takeWhile (· != '/') := by
    intro cs hmem
    have hkept := List.mem_takeWhile_imp hmem
    simp at hkept
  have htext : ∀ {cs : List Char}, cs ≠ [] → String.ofList cs ≠ "" := by
    intro cs hcs hempty
    exact hcs (by simpa using congrArg String.toList hempty)
  simp only [splitUsername] at h
  split at h
  · cases h
  · cases h
  · next hhost =>
    split at h
    · cases h
    · next hdevice =>
      obtain ⟨rfl, rfl⟩ := Prod.mk.inj (Option.some.inj h)
      simp only [String.toList_ofList]
      exact ⟨htext hhost, hpart _, htext (by simpa using hdevice), hpart _⟩

/-- A written name is read as it was written exactly if neither part is empty or
holds a slash. -/
theorem splitUsername_written (host device : String) :
    splitUsername (host ++ "/" ++ device) = some (host, device) ↔
      (host ≠ "" ∧ '/' ∉ host.toList) ∧ device ≠ "" ∧ '/' ∉ device.toList := by
  refine ⟨fun h => ?_, fun ⟨⟨hhost, hwhole⟩, hdevice, hwhole'⟩ => ?_⟩
  · obtain ⟨hhost, hwhole, hdevice⟩ := splitUsername_parts h
    exact ⟨⟨hhost, hwhole⟩, hdevice⟩
  · have hkeeps : ∀ {cs : List Char}, '/' ∉ cs → ∀ c ∈ cs,
        (c != '/') = true := by
      intro cs hcs c hc
      simpa using fun heq : c = '/' => hcs (heq ▸ hc)
    have hchars : (host ++ "/" ++ device).toList =
        host.toList ++ '/' :: device.toList := by
      simp
    have hfront : (host.toList ++ '/' :: device.toList).takeWhile (· != '/') =
        host.toList := by
      rw [List.takeWhile_append_of_pos (hkeeps hwhole)]
      simp
    have hback : (host.toList ++ '/' :: device.toList).dropWhile (· != '/') =
        '/' :: device.toList := by
      rw [List.dropWhile_append_of_pos (hkeeps hwhole)]
      simp
    have hrest : device.toList.takeWhile (· != '/') = device.toList :=
      List.takeWhile_eq_self_iff.2 (hkeeps hwhole')
    simp only [splitUsername, hchars, hfront, hback]
    split
    · next hnil => exact absurd (String.toList_eq_nil_iff.1 hnil) hhost
    · next hnil _ => cases hnil
    · next hcons _ =>
      obtain ⟨-, rfl⟩ := List.cons.inj hcons
      simp [hrest, hdevice]

/-- A device that presents its own stored credential is taken for itself exactly
if the name in the credential can be read as it was written. -/
theorem authenticate_written (host device secret : String) :
    authenticate device (host ++ "/" ++ device) secret =
        ⟨device, host, if secret = "" then none else some secret, true⟩ ↔
      splitUsername (host ++ "/" ++ device) = some (host, device) := by
  refine ⟨fun h => ?_, fun h => by simp [authenticate, h]⟩
  unfold authenticate at h
  split at h
  · simp [unauthenticated] at h
  · next host' claimed hsplit =>
    split at h
    · next hclaimed =>
      rw [hsplit, hclaimed, (Identity.mk.inj h).2.1]
    · simp [unauthenticated] at h

end Identity

/-! ## What the topic stage presents -/

namespace Topic

/-- Data that is to bring a CONNECT along brings the one that is made for its
device in the tenancy that is known once the frame was read. -/
theorem decode_connect (t : Topic) (tenancy : Tenancy) (frame : Wire.Frame)
    (l : Ledger) {parcel : Parcel} {p : DataPacket}
    (hparcel : (t.decode tenancy true frame l).1 = some parcel)
    (hdata : parcel.data = some p) :
    parcel.connect =
      some (t.setup.connectFor (t.decode tenancy true frame l).2.2.1
        p.deviceId) := by
  obtain ⟨hintroduced, -, htenancy, -⟩ := t.decode_introduce tenancy true frame
    (l := l) rfl
  rw [hparcel] at hintroduced
  obtain ⟨plain, -, rfl⟩ := Option.map_eq_some_iff.1 hintroduced.symm
  rw [htenancy]
  unfold introduce at hdata ⊢
  split at hdata
  · next hplain =>
    obtain rfl := Option.some.inj (hplain.symm.trans hdata)
    rfl
  · next hnone => exact absurd hdata (hnone p rfl)

end Topic

/-! ## Registered devices -/

/-- The last registration of a device answers for it if no later one clashes. -/
theorem CredentialStore.find?_last {before after : List Registration}
    {r : Registration}
    (hlast : ∀ other ∈ after, ¬ other.Names r.tenantId r.deviceId ∧
      ¬ other.Clashes r.tenantId r.deviceId) :
    (registerAll {} (before ++ r :: after)).find? r.tenantId r.deviceId =
      some r.credential := by
  have hself : r.Answers r.tenantId r.deviceId := rfl
  have hafter :
      (after.filter fun other => other.Answers r.tenantId r.deviceId) = [] := by
    rw [List.filter_eq_nil_iff]
    intro other hother hanswers
    have hsame := answers_iff.1 (of_decide_eq_true hanswers)
    exact hsame.elim (hlast other hother).1 (hlast other hother).2
  have hown : ((r :: after).filter fun other =>
      other.Answers r.tenantId r.deviceId) = [r] := by
    rw [List.filter_cons, if_pos (decide_eq_true hself), hafter]
  rw [find?_registerAll, List.filter_append, hown, List.getLast?_concat]
  rfl

namespace Services

variable {σ : Type}

/-- Settings that pass the check can be served. -/
theorem ofSettings_of_check (transport : Backend.Transport σ)
    (env : Environment) {s : Settings} (h : s.check = .ok ()) :
      ∃ v, ofSettings transport env s = .ok v ∧
      v.topic.credentials = CredentialStore.ofSettings env s.devices ∧
      v.topic.keepAliveSecs = s.session.defaultKeepAliveSecs := by
  obtain ⟨templates, htemplates⟩ := Settings.templates_of_check h
  simp only [ofSettings, htemplates]
  exact ⟨_, rfl, rfl, rfl⟩

end Services

namespace Connection

variable {σ : Type}

/-- The topic stage of a connection presents the last registration of a device.
Whatever was read before, in whatever tenancy, data of a device that was
registered last for its tenant and its id, with no later one that clashes,
brings along the CONNECT that the registration stands for.  The registered id
has to be the id that comes in, so it has no blanks around it.  What is
presented is accepted exactly if the host and the id hold no slash and the host
is not empty, and then the identity has the id, the host and the secret that
were registered. -/
theorem registered_admitted (transport : Backend.Transport σ)
    (env : Environment) {s : Settings} (hcheck : s.check = .ok ()) :
    ∃ v, Services.ofSettings transport env s = .ok v ∧
      ∀ before r after, CredentialStore.registrations env s.devices =
        before ++ r :: after →
      (∀ other ∈ after, ¬ other.Names r.tenantId r.deviceId ∧
        ¬ other.Clashes r.tenantId r.deviceId) →
      ∀ connectionId peer now world turns tenancy frame ledger,
        let c := (course v (start v connectionId peer now, world) turns).1
        let out := c.topic.decode tenancy true frame ledger
        ∀ parcel p, out.1 = some parcel → parcel.data = some p →
          out.2.2.1.tenantId = r.tenantId →
          DeviceId.parse r.deviceId = some p.deviceId →
          Text.trim r.deviceId = r.deviceId →
          parcel.connect = some
            ⟨p.deviceId, r.hubHostName ++ "/" ++ r.deviceId, r.secret,
              s.session.defaultKeepAliveSecs⟩ ∧
          (Identity.authenticate p.deviceId.text
              (r.hubHostName ++ "/" ++ r.deviceId) r.secret =
              ⟨r.deviceId, r.hubHostName,
                if r.secret = "" then none else some r.secret, true⟩ ↔
            r.hubHostName ≠ "" ∧ '/' ∉ r.hubHostName.toList ∧
              '/' ∉ r.deviceId.toList) := by
  obtain ⟨v, hv, hcredentials, hkeepAlive⟩ :=
    Services.ofSettings_of_check transport env hcheck
  refine ⟨v, hv, ?_⟩
  intro before r after hregistrations hlast connectionId peer now world turns
    tenancy frame ledger c out parcel p hparcel hdata htenant hparse htrimmed
  have hid : p.deviceId.text = r.deviceId :=
    (DeviceId.text_of_parse hparse).trans htrimmed
  have hsetup : c.topic.setup = v.topic := course_topic v _ turns
  have hfound : v.topic.credentials.find? r.tenantId r.deviceId =
      some r.credential := by
    rw [hcredentials, CredentialStore.ofSettings_eq, hregistrations]
    exact CredentialStore.find?_last hlast
  have hconnect := c.topic.decode_connect tenancy frame ledger hparcel hdata
  rw [hid, Identity.authenticate_written, Identity.splitUsername_written]
  refine ⟨?_, ?_⟩
  · rw [hconnect, TopicSetup.connectFor, hsetup, htenant, hid, hfound,
      hkeepAlive]
    rfl
  · have hne : r.deviceId ≠ "" := hid ▸ p.deviceId.nonempty
    simp only [hne, ne_eq, not_false_eq_true, true_and, and_assoc]

/-- The line `T~0~d~x` of a device that is registered. -/
theorem registered_admitted_one :
    let taking : Backend.Transport Unit :=
      ⟨fun s _ _ => (.ok ⟨0, "d"⟩, s), fun s _ _ => (.ok (), s), fun s _ => s⟩
    let s : Settings :=
      { session := { addressTemplates := [] }
        devices := [⟨"T", [⟨"d", "h", "s"⟩]⟩] }
    let request : Connect := ⟨⟨"d", by decide, by decide⟩, "h/d", "s", 120⟩
    s.check = .ok () ∧ ∃ v,
      Services.ofSettings taking (fun _ => none) s = .ok v ∧
      let c := (course v (start v "c" none 0, { backend := () }) []).1
      let out := c.topic.decode (v.tenancy none) true
        (.line [84, 126, 48, 126, 100, 126, 120]) {}
      out.1.bind Parcel.connect = some request ∧
      Identity.authenticate "d" request.username request.password =
        ⟨"d", "h", some "s", true⟩ := by
  intro taking s request
  have hcheck : s.check = .ok () := by decide +kernel
  have hregistrations :
      CredentialStore.registrations (fun _ => none) s.devices =
        [] ++ ⟨"T", "d", "h", "s"⟩ :: [] := by decide +kernel
  obtain ⟨v, hv, hadmitted⟩ := registered_admitted taking (fun _ => none) hcheck
  refine ⟨hcheck, v, hv, ?_⟩
  obtain rfl := Except.ok.inj hv
  intro c out
  have hdevice : (out.1.bind Parcel.data).map DataPacket.deviceId =
      DeviceId.parse "d" := by
    decide +kernel
  have htenant : out.2.2.1.tenantId = "T" := by decide +kernel
  rw [DeviceId.parse_text request.deviceId] at hdevice
  obtain ⟨p, hp, hid⟩ := Option.map_eq_some_iff.1 hdevice
  obtain ⟨parcel, hparcel, hdata⟩ := Option.bind_eq_some_iff.1 hp
  obtain ⟨hconnect, haccepted⟩ := hadmitted [] _ [] hregistrations (by simp)
    "c" none 0 { backend := () } [] _ _ _ parcel p hparcel hdata htenant
    (by rw [hid]; decide) (by decide)
  refine ⟨?_, ?_⟩
  · rw [hparcel, Option.bind_some, hconnect, hid]
    rfl
  · rw [hid] at haccepted
    exact haccepted.2 (by decide)

/-- A device whose id holds a slash and one whose id has blanks around it pass
the check.  The CONNECT that is made for the first carries its credential and is
refused, and the one that is made for the second carries none. -/
theorem registered_refused :
    let taking : Backend.Transport Unit :=
      ⟨fun s _ _ => (.ok ⟨0, "d"⟩, s), fun s _ _ => (.ok (), s), fun s _ => s⟩
    let s : Settings :=
      { session := { addressTemplates := [] },
        devices := [⟨"T", [⟨"a/b", "h", "s"⟩, ⟨" d ", "h", "s"⟩]⟩] }
    s.check = .ok () ∧ ∃ v, Services.ofSettings taking (fun _ => none) s =
      .ok v ∧
      let presented := fun line =>
        ((start v "c" none 0).topic.decode (v.tenancy none) true
          (.line line) {}).1.bind Parcel.connect
      let shown := fun request : Connect =>
        (request.username, request.password,
          Identity.authenticate request.deviceId.text request.username
            request.password)
      (presented [84, 126, 48, 126, 97, 47, 98, 126, 120]).map shown =
        some ("h/a/b", "s", Identity.unauthenticated "a/b") ∧
      (presented [84, 126, 48, 126, 32, 100, 32, 126, 120]).map shown =
        some ("", "", Identity.unauthenticated "d") := by
  intro taking s
  exact ⟨by decide +kernel, _, rfl, by decide +kernel⟩

end Connection

end DeviceGateway
