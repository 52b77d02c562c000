import DeviceGateway.Certificate.Distinguished
import DeviceGateway.Certificate.Holder
import DeviceGateway.Certificate.PublicKey
import DeviceGateway.Proofs.Certificate.Lines
import DeviceGateway.Tenancy.Table

/-!
# Subjects and tenants

A tenant is found by the line in which the subject of a certificate is shown.
So two certificates select one entry of the table if and only if their subjects
have one line and the table has an entry under it.

A line leaves out some of what a subject is.  Values are shown without their
encoding, kinds by their labels, and a subject that cannot be read is shown like
any other one.  Apart from that, subjects that smuggle nothing in are told
apart, whatever the table.  Others are not.  A subject whose only common name is
`tenant-a, O=Example` selects the entry of the subject that consists of the
common name `tenant-a` and the organisation `Example`.

## Main results

* `shares_iff`: peers share an entry if they have one subject and it is in the
  table.
* `shares_iff_line`: certificates do if their subjects have one line.
* `lookup_of_another_subject`: certificates with different subjects may.
-/

namespace DeviceGateway

open Certificate (ofOctets? nameLine)

namespace TenantTable

/-! ## Entries -/

/-- The entry under a subject. -/
def entryOf (table : TenantTable) (subject : String) :
    Option (String × TenantProfile) :=
  table.entries.find? fun entry => entry.1 == subject

theorem find?_eq_entryOf (table : TenantTable) (subject : String) :
    table.find? subject = (table.entryOf subject).map Prod.snd := by
  unfold find? entryOf
  induction table.entries with
  | nil => rfl
  | cons entry entries ih =>
    obtain ⟨key, profile⟩ := entry
    rw [List.lookup_cons, List.find?_cons]
    by_cases hkey : key = subject
    · simp [hkey]
    · have hkey' : ¬ subject = key := fun h => hkey h.symm
      rw [beq_false_of_ne hkey, beq_false_of_ne hkey']
      exact ih

/-- The tenancy of a peer is that of its entry. -/
theorem lookup_eq_entryOf (table : TenantTable) (maxMessageSize : Nat)
    (p : Peer) :
    table.lookup maxMessageSize (some p) =
      match table.entryOf p.subject with
      | none => Tenancy.delayed maxMessageSize
      | some (_, profile) =>
        Tenancy.fixed
          ⟨profile.tenantId, profile.tenantName,
            .certificate p.subject p.thumbprint⟩
          profile.format maxMessageSize := by
  simp only [lookup, find?_eq_entryOf]
  cases table.entryOf p.subject <;> rfl

private theorem entryOf_subject {table : TenantTable} {subject : String}
    {entry : String × TenantProfile} (h : table.entryOf subject = some entry) :
    entry.1 = subject := by
  simpa using List.find?_some h

/-- Whether two peers select one entry. -/
def Shares (table : TenantTable) (p p' : Peer) : Prop :=
  ∃ entry, table.entryOf p.subject = some entry ∧
    table.entryOf p'.subject = some entry

/-- Peers share an entry if they have one subject and it is in the table. -/
theorem shares_iff {table : TenantTable} {p p' : Peer} :
    table.Shares p p' ↔
      p.subject = p'.subject ∧ (table.find? p.subject).isSome = true := by
  rw [find?_eq_entryOf, Option.isSome_map]
  constructor
  · rintro ⟨entry, hentry, hentry'⟩
    refine ⟨(entryOf_subject hentry).symm.trans (entryOf_subject hentry'), ?_⟩
    rw [hentry]
    rfl
  · rintro ⟨hsame, hsome⟩
    obtain ⟨entry, hentry⟩ := Option.isSome_iff_exists.1 hsome
    exact ⟨entry, hentry, hsame ▸ hentry⟩

/-! ## Certificates -/

theorem ofChain_subject {own : List UInt8} {c : Certificate}
    (h : ofOctets? own = some c) :
    ∃ p : Peer, p.subject = c.subject.describe ∧
      ∀ rest, Peer.ofChain (own :: rest) = .ok (some p) := by
  obtain ⟨p, hp, hsubject⟩ := Peer.ofCertificate_subject h
  refine ⟨p, hsubject, fun rest => ?_⟩
  show (Peer.ofCertificate own).map some = _
  rw [hp]
  rfl

/-- Two certificates select one entry of a table if and only if their subjects
have one line, under which the table has an entry.  If both subjects can be read
and smuggle nothing in, they have one line only if they show the same relative
names, with the same labels and values.  A subject that smuggles something in
always has its line in common with a name that does not show the same. -/
theorem shares_iff_line (table : TenantTable) {own other : List UInt8}
    {c c' : Certificate} (hown : ofOctets? own = some c)
    (hother : ofOctets? other = some c') :
    ∃ p p' : Peer,
      (∀ rest, Peer.ofChain (own :: rest) = .ok (some p)) ∧
      (∀ rest, Peer.ofChain (other :: rest) = .ok (some p')) ∧
      (table.Shares p p' ↔
        c.subject.shown?.map nameLine = c'.subject.shown?.map nameLine ∧
          (table.find? p.subject).isSome = true) ∧
      (c.subject.Plain → c'.subject.Plain →
        c.subject.shown? ≠ c'.subject.shown? → ¬ table.Shares p p') ∧
      (∀ names, c.subject.shown? = some names → ¬ Certificate.Plain names →
        ∃ n : Certificate.Name, n.shown?.isSome = true ∧
          n.shown? ≠ c.subject.shown? ∧ n.describe = p.subject) := by
  obtain ⟨p, hp, hchain⟩ := ofChain_subject hown
  obtain ⟨p', hp', hchain'⟩ := ofChain_subject hother
  have hshares : table.Shares p p' ↔
      c.subject.shown?.map nameLine = c'.subject.shown?.map nameLine ∧
        (table.find? p.subject).isSome = true := by
    rw [shares_iff, hp, hp', Certificate.Name.describe_eq_iff]
  refine ⟨p, p', hchain, hchain', hshares, ?_, ?_⟩
  · rintro ⟨names, hnames, hplain⟩ ⟨names', hnames', hplain'⟩ hdifferent hshared
    have hline := (hshares.1 hshared).1
    rw [hnames, hnames'] at hline hdifferent
    apply hdifferent
    exact congrArg some
      (Certificate.nameLine_injective (Certificate.Name.showable hnames)
        (Certificate.Name.showable hnames') hplain hplain'
        (Option.some.inj hline))
  · intro names hnames hsmuggles
    obtain ⟨names', hshowable, hdifferent, hline⟩ :=
      Certificate.exists_twin (Certificate.Name.showable hnames) hsmuggles
    obtain ⟨n, hn⟩ := hshowable.exists_name
    refine ⟨n, by rw [hn]; rfl, ?_, ?_⟩
    · rw [hn, hnames]
      exact fun h => hdifferent (Option.some.inj h)
    · rw [hp, Certificate.Name.describe_eq_iff, hn, hnames, Option.map_some,
        Option.map_some, hline]

/-! ## A subject that another one is taken for -/

section Sample

open Certificate (Attribute Name ObjectId)
open Certificate.Distinguished (Item integerKind bitsKind sequenceKind partKind)

/-- An element with other elements in it. -/
def sampleElement (kind : UInt8) (parts : List (List UInt8)) : List UInt8 :=
  Item.write ⟨kind, parts.flatten⟩

/-- The written form of a name in which every value is a text. -/
def sampleName (n : Name) : List UInt8 :=
  sampleElement sequenceKind <| n.relative.map fun r =>
    sampleElement 0x31 <| (r.first :: r.others).map fun a =>
      sampleElement sequenceKind [a.kind.write,
        sampleElement 0x0C [a.value.content]]

def commonName (text : String) : Attribute :=
  .ofText (.ofArcs [2, 5, 4, 3]) text.toList

def organisation (text : String) : Attribute :=
  .ofText (.ofArcs [2, 5, 4, 10]) text.toList

/-- A certificate for a subject. -/
def sampleCertificate (subject : Name) : List UInt8 :=
  let nothing : List UInt8 := [0x05, 0x00]
  let algorithm (last : Nat) := sampleElement sequenceKind
    [(ObjectId.ofArcs [1, 2, 840, 113549, 1, 1, last]).write, nothing]
  let time (text : String) := sampleElement 0x17 [Bytes.Utf8.encodeString text]
  let signed := sampleElement sequenceKind
    [sampleElement (partKind 0) [sampleElement integerKind [[2]]],
      sampleElement integerKind [[5]], algorithm 11,
      sampleName ⟨[⟨commonName "ca", []⟩]⟩,
      sampleElement sequenceKind [time "240101000000Z", time "340101000000Z"],
      sampleName subject,
      sampleElement sequenceKind [algorithm 1,
        sampleElement bitsKind [[0x00, 0x30, 0x27]]]]
  sampleElement sequenceKind [signed, algorithm 11,
    sampleElement bitsKind [[0x00, 0x01]]]

/-- The subject of a tenant. -/
def genuine : Name :=
  ⟨[⟨commonName "tenant-a", []⟩, ⟨organisation "Example", []⟩]⟩

/-- The same attributes in another order. -/
def swapped : Name :=
  ⟨[⟨organisation "Example", []⟩, ⟨commonName "tenant-a", []⟩]⟩

/-- A subject with nothing but a common name. -/
def crafted : Name :=
  ⟨[⟨commonName "tenant-a, O=Example", []⟩]⟩

/-- A table with the tenant. -/
def sampleTable : TenantTable :=
  ofSettings [{ subject := "CN=tenant-a, O=Example", tenantId := "a" }]

theorem ofOctets?_genuine :
    ofOctets? (sampleCertificate genuine) = some ⟨genuine⟩ := by
  decide +kernel

private theorem ofOctets?_swapped :
    ofOctets? (sampleCertificate swapped) = some ⟨swapped⟩ := by
  decide +kernel

private theorem ofOctets?_crafted :
    ofOctets? (sampleCertificate crafted) = some ⟨crafted⟩ := by
  decide +kernel

/-- Subjects that smuggle nothing in are told apart. -/
theorem shares_iff_line_swapped :
    ∃ p p' : Peer, Peer.ofChain [sampleCertificate genuine] = .ok (some p) ∧
      Peer.ofChain [sampleCertificate swapped] = .ok (some p') ∧
        ¬ sampleTable.Shares p p' := by
  obtain ⟨p, p', hchain, hchain', -, happart, -⟩ :=
    shares_iff_line sampleTable ofOctets?_genuine ofOctets?_swapped
  have hplain : ∀ {names : List (List Certificate.Shown)},
      (∀ r ∈ names, ∀ a ∈ r, '=' ∉ a.value) → Certificate.Plain names :=
    fun h r hr a ha => Certificate.not_smuggles_of_not_mem (h r hr a ha)
  have hgenuine : genuine.shown? =
      some [[⟨"CN".toList, "tenant-a".toList⟩],
        [⟨"O".toList, "Example".toList⟩]] := by
    decide +kernel
  have hswapped : swapped.shown? =
      some [[⟨"O".toList, "Example".toList⟩],
        [⟨"CN".toList, "tenant-a".toList⟩]] := by
    decide +kernel
  refine ⟨p, p', hchain [], hchain' [],
    happart ⟨_, hgenuine, hplain (by decide)⟩
    ⟨_, hswapped, hplain (by decide)⟩ ?_⟩
  show genuine.shown? ≠ swapped.shown?
  rw [hgenuine, hswapped]
  decide

/-- The crafted subject is not the genuine one, and selects the same entry. -/
theorem lookup_of_another_subject :
    ∃ p p' : Peer,
      ofOctets? (sampleCertificate genuine) = some ⟨genuine⟩ ∧
      ofOctets? (sampleCertificate crafted) = some ⟨crafted⟩ ∧
      genuine ≠ crafted ∧
      Peer.ofChain [sampleCertificate genuine] = .ok (some p) ∧
      Peer.ofChain [sampleCertificate crafted] = .ok (some p') ∧
      sampleTable.Shares p p' ∧
      ∀ maxMessageSize, (sampleTable.lookup maxMessageSize (some p)).tenantId =
        "a" ∧
        (sampleTable.lookup maxMessageSize (some p')).tenantId = "a" := by
  obtain ⟨p, hp, hchain⟩ := ofChain_subject ofOctets?_genuine
  obtain ⟨p', hp', hchain'⟩ := ofChain_subject ofOctets?_crafted
  have hsubject : p.subject = "CN=tenant-a, O=Example" :=
    hp.trans (by decide +kernel)
  have hsubject' : p'.subject = "CN=tenant-a, O=Example" :=
    hp'.trans (by decide +kernel)
  have hentry : sampleTable.entryOf "CN=tenant-a, O=Example" =
      some ("CN=tenant-a, O=Example", ⟨"a", "a", .text .selfIdentifying⟩) := by
    decide +kernel
  refine ⟨p, p', ofOctets?_genuine, ofOctets?_crafted, by simp [genuine,
    crafted], hchain [], hchain' [], ?_, fun maxMessageSize => ?_⟩
  · refine shares_iff.2 ⟨hsubject.trans hsubject'.symm, ?_⟩
    rw [find?_eq_entryOf, hsubject, hentry]
    rfl
  · rw [lookup_eq_entryOf, lookup_eq_entryOf, hsubject, hsubject', hentry]
    exact ⟨rfl, rfl⟩

end Sample

end TenantTable

end DeviceGateway
