import DeviceGateway.Proofs.Connection.Stream
import Mathlib.Data.List.Nodup
import Mathlib.Data.List.Perm.Basic

/-!
# Tenants as they were configured

The table is built by adding one tenant after another, and a tenant replaces one
that was there under the same subject.  So an entry of the settings could be
hidden by a later one.  The check does not let that happen: settings in which a
subject stands twice are refused, wherever the two stand.  What passes is in the
table entry by entry, and since no entry hides another one, their order does not
count.

Whether the settings pass does not depend on that order either, although the
check goes through the tenants one by one and may report another fault for
another order.

## Main results

* `checkTenants_eq_ok_iff`: which tenants pass.
* `check_perm`: they pass in any order.
* `ofSettings_entries`: a table of different subjects has all of them.
* `served_by_entries`: settings that pass are served as they were written.
-/

namespace DeviceGateway

/-! ## Tenants that pass -/

namespace Settings

/-- Tenants pass if no id is blank, and no subject stands twice or was seen
before. -/
theorem checkTenants_eq_ok_iff {seen : List String} {ts : List Tenant} :
    checkTenants seen ts = .ok () ↔
      (∀ t ∈ ts, Text.isBlankText t.tenantId = false) ∧
        (ts.map Tenant.subject).Nodup ∧
        ∀ t ∈ ts, t.subject ∉ seen := by
  induction ts generalizing seen with
  | nil => simp [checkTenants]
  | cons t ts ih =>
    rw [checkTenants, List.map_cons, List.nodup_cons, List.forall_mem_cons,
      List.forall_mem_cons]
    by_cases hblank : Text.isBlankText t.tenantId = true
    · simp [hblank]
    by_cases hseen : t.subject ∈ seen
    · simp [hblank, hseen]
    have hapart : (∀ u ∈ ts, u.subject ∉ t.subject :: seen) ↔
        t.subject ∉ ts.map Tenant.subject ∧ ∀ u ∈ ts, u.subject ∉ seen := by
      simp only [List.mem_cons, not_or, List.mem_map, not_exists, not_and]
      exact ⟨fun h => ⟨fun u hu => (h u hu).1, fun u hu => (h u hu).2⟩,
        fun h u hu => ⟨h.1 u hu, h.2 u hu⟩⟩
    rw [if_neg hblank, if_neg hseen, ih, hapart]
    simp only [Bool.not_eq_true] at hblank
    simp only [hblank, hseen, not_false_eq_true, true_and]
    tauto

/-- Settings that pass still do with their tenants in another order. -/
theorem check_perm {s : Settings} {ts : List Tenant} (hperm : ts.Perm s.tenants)
    (h : s.check = .ok ()) :
    ({ s with tenants := ts } : Settings).check = .ok () := by
  rw [check_eq_ok_iff] at h ⊢
  obtain ⟨hlisten, htls, hendpoint, hnumbers, htemplates, htenants, hdevices⟩ :=
    h
  refine ⟨hlisten, htls, hendpoint, hnumbers, htemplates, ?_, hdevices⟩
  obtain ⟨hnamed, hdifferent, -⟩ := checkTenants_eq_ok_iff.1 htenants
  refine checkTenants_eq_ok_iff.2 ⟨fun t ht => hnamed t (hperm.mem_iff.1 ht),
    ?_, by simp⟩
  exact (hperm.map Tenant.subject).nodup_iff.2 hdifferent

end Settings

/-! ## The table of different subjects -/

namespace TenantTable

open Settings (Tenant)

/-- What the table holds for a tenant. -/
def entryFor (t : Tenant) : String × TenantProfile :=
  (t.subject, profileOf t)

private theorem foldl_add_entries {ts : List Tenant} {table : TenantTable}
    (hdifferent : (ts.map Tenant.subject).Nodup)
    (hfresh : ∀ t ∈ ts, ∀ entry ∈ table.entries, entry.1 ≠ t.subject) :
    (ts.foldl add table).entries =
      (ts.map entryFor).reverse ++ table.entries := by
  induction ts generalizing table with
  | nil => rfl
  | cons t ts ih =>
    rw [List.map_cons, List.nodup_cons] at hdifferent
    have hkept : (table.add t).entries = entryFor t :: table.entries := by
      have hall : table.entries.filter (fun entry => entry.1 != t.subject) =
          table.entries := by
        rw [List.filter_eq_self]
        exact fun entry hentry =>
          bne_iff_ne.2 (hfresh t List.mem_cons_self entry hentry)
      rw [add, hall]
      rfl
    have hnext : ∀ u ∈ ts, ∀ entry ∈ (table.add t).entries,
        entry.1 ≠ u.subject := by
      intro u hu entry hentry
      rw [hkept] at hentry
      rcases List.mem_cons.1 hentry with rfl | hentry
      · exact fun hsame : t.subject = u.subject =>
          hdifferent.1 (hsame ▸ List.mem_map_of_mem hu)
      · exact hfresh u (List.mem_cons_of_mem t hu) entry hentry
    rw [List.foldl_cons, ih hdifferent.2 hnext, hkept, List.map_cons,
      List.reverse_cons, List.append_assoc, List.singleton_append]

/-- A table of different subjects has an entry for each tenant and no other
one. -/
theorem ofSettings_entries {ts : List Tenant}
    (hdifferent : (ts.map Tenant.subject).Nodup) :
    (ofSettings ts).entries = (ts.map entryFor).reverse := by
  have hfresh : ∀ t ∈ ts, ∀ entry ∈ ({} : TenantTable).entries,
      entry.1 ≠ t.subject := by simp
  rw [ofSettings, foldl_add_entries hdifferent hfresh, List.append_nil]

/-- A tenant is found under its subject, although later tenants stand in front
in the table. -/
theorem find?_ofSettings {ts : List Tenant}
    (hdifferent : (ts.map Tenant.subject).Nodup) {t : Tenant} (ht : t ∈ ts) :
    (ofSettings ts).find? t.subject = some (profileOf t) := by
  obtain ⟨before, after, rfl⟩ := List.append_of_mem ht
  rw [find?, ofSettings_entries hdifferent, List.lookup_eq_some_iff]
  refine ⟨(after.map entryFor).reverse,
    (before.map entryFor).reverse, by simp [entryFor], ?_⟩
  intro entry hentry
  obtain ⟨u, hu, rfl⟩ := List.mem_map.1 (List.mem_reverse.1 hentry)
  rw [List.map_append, List.map_cons, List.nodup_append, List.nodup_cons]
    at hdifferent
  exact bne_iff_ne.2 fun hsame : t.subject = u.subject =>
    hdifferent.2.1.1 (hsame ▸ List.mem_map_of_mem hu)

theorem find?_ofSettings_eq_none {ts : List Tenant}
    (hdifferent : (ts.map Tenant.subject).Nodup) {subject : String}
    (h : ∀ t ∈ ts, t.subject ≠ subject) :
    (ofSettings ts).find? subject = none := by
  rw [find?, ofSettings_entries hdifferent, List.lookup_eq_none_iff]
  intro entry hentry
  obtain ⟨t, ht, rfl⟩ := List.mem_map.1 (List.mem_reverse.1 hentry)
  exact bne_iff_ne.2 (h t ht).symm

/-- The order of different subjects does not count. -/
theorem find?_ofSettings_perm {ts ts' : List Tenant} (hperm : ts'.Perm ts)
    (hdifferent : (ts.map Tenant.subject).Nodup) (subject : String) :
    (ofSettings ts').find? subject = (ofSettings ts).find? subject := by
  have hdifferent' : (ts'.map Tenant.subject).Nodup :=
    (hperm.map Tenant.subject).nodup_iff.2 hdifferent
  by_cases hknown : ∃ t ∈ ts, t.subject = subject
  · obtain ⟨t, ht, rfl⟩ := hknown
    rw [find?_ofSettings hdifferent ht, find?_ofSettings hdifferent'
      (hperm.mem_iff.2 ht)]
  · have hnone : ∀ t ∈ ts, t.subject ≠ subject := fun t ht hsame =>
      hknown ⟨t, ht, hsame⟩
    rw [find?_ofSettings_eq_none hdifferent hnone,
      find?_ofSettings_eq_none hdifferent' fun t ht =>
        hnone t (hperm.mem_iff.1 ht)]

end TenantTable

/-! ## Services -/

namespace Services

variable {σ : Type}

/-- Settings that pass have services, with a table of their tenants. -/
theorem exists_table (transport : Backend.Transport σ) (env : Environment)
    {s : Settings} (h : s.check = .ok ()) :
    ∃ v, ofSettings transport env s = .ok v ∧
      v.table = TenantTable.ofSettings s.tenants ∧
      v.maxMessageSize = s.session.maxMessageSize := by
  obtain ⟨templates, htemplates⟩ := Settings.templates_of_check h
  simp only [ofSettings, htemplates]
  exact ⟨_, rfl, rfl, rfl⟩

section Table

variable {ts : List Settings.Tenant} {v : Services σ} {p : Peer}

theorem tenancy_of_mem (hdifferent : (ts.map Settings.Tenant.subject).Nodup)
    (htable : v.table = TenantTable.ofSettings ts) {t : Settings.Tenant}
    (ht : t ∈ ts) (hsubject : t.subject = p.subject) :
    v.tenancy (some p) =
      Tenancy.fixed ⟨t.tenantId, t.tenantName.getD t.tenantId,
        .certificate p.subject p.thumbprint⟩ t.format v.maxMessageSize := by
  have hfound := TenantTable.find?_ofSettings hdifferent ht
  rw [hsubject] at hfound
  simp only [tenancy, TenantTable.lookup, htable, hfound]
  rfl

theorem tenancy_of_not_mem (hdifferent : (ts.map Settings.Tenant.subject).Nodup)
    (htable : v.table = TenantTable.ofSettings ts)
    (hunknown : ∀ t ∈ ts, t.subject ≠ p.subject) :
    v.tenancy (some p) = Tenancy.delayed v.maxMessageSize := by
  simp only [tenancy, TenantTable.lookup, htable,
    TenantTable.find?_ofSettings_eq_none hdifferent hunknown]

private theorem tenancy_isDelayed_iff
    (hdifferent : (ts.map Settings.Tenant.subject).Nodup)
    (htable : v.table = TenantTable.ofSettings ts) :
    (v.tenancy (some p)).isDelayed = false ↔
      ∃ t ∈ ts, t.subject = p.subject := by
  by_cases hknown : ∃ t ∈ ts, t.subject = p.subject
  · obtain ⟨t, ht, hsubject⟩ := hknown
    rw [tenancy_of_mem hdifferent htable ht hsubject]
    exact iff_of_true rfl ⟨t, ht, hsubject⟩
  · have hunknown : ∀ t ∈ ts, t.subject ≠ p.subject := fun t ht hsame =>
      hknown ⟨t, ht, hsame⟩
    rw [tenancy_of_not_mem hdifferent htable hunknown]
    exact iff_of_false (by simp [Tenancy.isDelayed, Tenancy.delayed]) hknown

end Table

private theorem tenancy_perm {v v' : Services σ} {ts ts' : List Settings.Tenant}
    (hperm : ts'.Perm ts) (hdifferent : (ts.map Settings.Tenant.subject).Nodup)
    (htable : v.table = TenantTable.ofSettings ts)
    (htable' : v'.table = TenantTable.ofSettings ts')
    (hmax : v'.maxMessageSize = v.maxMessageSize) (peer : Option Peer) :
    v'.tenancy peer = v.tenancy peer := by
  cases peer with
  | none => simp only [tenancy, TenantTable.lookup, hmax]
  | some p =>
    simp only [tenancy, TenantTable.lookup, htable, htable', hmax,
      TenantTable.find?_ofSettings_perm hperm hdifferent]

/-- Settings that pass can be served, and each tenant is served as it was
written.  The table has as many entries as there are tenants.  A peer has the
tenancy of a tenant if the tenant has its subject, and then with the id, the
name and the format of that tenant, on the evidence of the certificate; it is
known from the start only then.  Every other peer, and a device without a
certificate, has the delayed tenancy.  With the tenants in another order the
settings pass as well, and nobody has another tenancy. -/
theorem served_by_entries (transport : Backend.Transport σ) (env : Environment)
    {s : Settings} (h : s.check = .ok ()) :
    ∃ v, ofSettings transport env s = .ok v ∧ v.table.size = s.tenants.length ∧
      (∀ p : Peer,
        (∀ t ∈ s.tenants, t.subject = p.subject →
          v.tenancy (some p) =
            Tenancy.fixed ⟨t.tenantId, t.tenantName.getD t.tenantId,
              .certificate p.subject p.thumbprint⟩ t.format
                s.session.maxMessageSize) ∧
        ((∀ t ∈ s.tenants, t.subject ≠ p.subject) →
          v.tenancy (some p) = Tenancy.delayed s.session.maxMessageSize) ∧
        ((v.tenancy (some p)).isDelayed = false ↔
          ∃ t ∈ s.tenants, t.subject = p.subject)) ∧
      v.tenancy none = Tenancy.delayed s.session.maxMessageSize ∧
      ∀ ts, ts.Perm s.tenants →
        ({ s with tenants := ts } : Settings).check = .ok () ∧
        ∃ v', ofSettings transport env { s with tenants := ts } = .ok v' ∧
          ∀ peer, v'.tenancy peer = v.tenancy peer := by
  have hdifferent : (s.tenants.map Settings.Tenant.subject).Nodup :=
    (Settings.checkTenants_eq_ok_iff.1
      (Settings.check_eq_ok_iff.1 h).2.2.2.2.2.1).2.1
  obtain ⟨v, hv, htable, hmax⟩ := exists_table transport env h
  refine ⟨v, hv, ?_, fun p => ⟨?_, ?_, ?_⟩, ?_, fun ts hperm => ?_⟩
  · rw [htable, TenantTable.size, TenantTable.ofSettings_entries hdifferent]
    simp
  · intro t ht hsubject
    rw [← hmax]
    exact tenancy_of_mem hdifferent htable ht hsubject
  · intro hunknown
    rw [← hmax]
    exact tenancy_of_not_mem hdifferent htable hunknown
  · exact tenancy_isDelayed_iff hdifferent htable
  · rw [← hmax]
    rfl
  · have hpasses := Settings.check_perm hperm h
    obtain ⟨v', hv', htable', hmax'⟩ := exists_table transport env hpasses
    exact ⟨hpasses, v', hv', tenancy_perm hperm hdifferent htable htable'
      (hmax'.trans hmax.symm)⟩

/-- Two tenants, one with a name of its own and one that speaks the binary
protocol, and the same two in the other order. -/
theorem served_by_entries_two :
    let taking : Backend.Transport Unit :=
      ⟨fun s _ _ => (.ok ⟨0, "d"⟩, s), fun s _ _ => (.ok (), s), fun s _ => s⟩
    let named : Settings.Tenant :=
      { subject := "CN=a", tenantId := "a", tenantName := some "Acme"
        layout := .showcase }
    let plain : Settings.Tenant :=
      { subject := "CN=b", tenantId := "b", family := .binary }
    let s : Settings := { tenants := [named, plain] }
    s.check = .ok () ∧ [plain, named].Perm s.tenants ∧
      ∃ v v', ofSettings taking (fun _ => none) s = .ok v ∧
        ofSettings taking (fun _ => none) { s with tenants := [plain, named] } =
          .ok v' ∧
        v.table.size = 2 ∧
        v.tenancy (some ⟨"CN=a", "00"⟩) =
          Tenancy.fixed ⟨"a", "Acme", .certificate "CN=a" "00"⟩
            (.text .showcase) 262144 ∧
        v'.tenancy (some ⟨"CN=b", "FF"⟩) =
          Tenancy.fixed ⟨"b", "b", .certificate "CN=b" "FF"⟩ .binary 262144 ∧
        v'.tenancy (some ⟨"CN=c", "00"⟩) = Tenancy.delayed 262144 := by
  intro taking named plain s
  have hcheck : s.check = .ok () := by decide +kernel
  have hperm : [plain, named].Perm s.tenants := List.Perm.swap _ _ []
  obtain ⟨v, hv, hsize, hpeers, -, hperms⟩ :=
    served_by_entries taking (fun _ => none) hcheck
  obtain ⟨-, v', hv', hsame⟩ := hperms _ hperm
  refine ⟨hcheck, hperm, v, v', hv, hv', hsize, (hpeers _).1 named
    (by simp [s]) rfl, ?_, ?_⟩
  · rw [hsame]
    exact (hpeers _).1 plain (by simp [s]) rfl
  · rw [hsame]
    exact (hpeers _).2.1 (by decide)

end Services

end DeviceGateway
