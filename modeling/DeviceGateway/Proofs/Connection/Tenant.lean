import DeviceGateway.Proofs.Connection.Course
import DeviceGateway.Proofs.Connection.Following
import Mathlib.Data.List.Induction

/-!
# The tenant of a stream

A device that shows a known certificate is of that certificate's tenant.  For
any other device the first line that can be read names the tenant, and a line
that cannot be read names none: it is no text, it has too few fields, its device
id is blank, or it is not even given out because it is too long.  So the tenant
can be told from the stream as a whole, with nothing but the certificate and the
lines at hand, and more of the stream cannot change it.

Whatever the topic stage makes of a frame it makes with this tenant.  Frames
other than lines come only to devices with a certificate, and a line that is
read is one by which the tenant is known.

## Main results

* `tenant_mono`: a tenant that is known stays.
* `decodeAll_info`: it is the one the topic stage ends up with.
* `decode_address`, `decode_request`: what one frame gives is made in the
  tenancy that is known once the frame was read.
* `found_packet`: the packets of a stream are addressed with its tenant.
-/

namespace DeviceGateway

open Wire (Frame)

/-- The tenant that a frame names: a line that can be read names one. -/
def Wire.Frame.tenantToken : Frame → Option String
  | .line bytes =>
    match Layout.selfIdentifying.decode "" bytes with
    | .ok entry => entry.tenantToken
    | .error _ => none
  | _ => none

/-- A line that identifies itself and can be read names a tenant. -/
theorem Wire.Layout.tenantToken_of_decode {name : String} {bytes : List UInt8}
    {entry : Layout.Entry}
    (h : Layout.selfIdentifying.decode name bytes = .ok entry) :
    ∃ token, entry.tenantToken = some token := by
  unfold decode at h
  split at h
  · cases h
  · next cs _ =>
    exact ⟨_, tenantToken_of_entryOf h⟩

namespace Services

variable {σ : Type} (v : Services σ) (peer : Option Peer)

/-- The tenant of the certificate that was shown, if it is known. -/
def certified : Option TenantInfo :=
  peer.bind fun p => (v.table.find? p.subject).map fun profile =>
    ⟨profile.tenantId, profile.tenantName, .certificate p.subject p.thumbprint⟩

/-- The tenant of a device: that of its certificate, or else the one that is
named by the first line that can be read. -/
def tenant (os : List (Except Wire.Fault Frame)) : Option TenantInfo :=
  (v.certified peer).or
    ((os.findSome? fun o => o.toOption.bind Frame.tenantToken).map
      TenantInfo.ofToken)

variable {v peer}

/-- More of a stream does not change a tenant that is known. -/
theorem tenant_mono {os os' : List (Except Wire.Fault Frame)} (h : os <+: os')
    {info : TenantInfo} (hinfo : v.tenant peer os = some info) :
    v.tenant peer os' = some info := by
  obtain ⟨more, rfl⟩ := h
  unfold tenant at hinfo ⊢
  cases hcertified : v.certified peer with
  | some certified =>
    rw [hcertified] at hinfo
    exact hinfo
  | none =>
    rw [hcertified, Option.none_or, Option.map_eq_some_iff] at hinfo
    obtain ⟨token, htoken, hof⟩ := hinfo
    rw [List.findSome?_append, htoken]
    simp [hof]

/-- A known certificate decides, and without one the lines will. -/
theorem tenancy_cases (v : Services σ) (peer : Option Peer) :
    (∃ info format, v.certified peer = some info ∧
      v.tenancy peer = Tenancy.fixed info format v.maxMessageSize) ∨
    v.certified peer = none ∧
      v.tenancy peer = Tenancy.delayed v.maxMessageSize := by
  cases peer with
  | none => exact .inr ⟨rfl, rfl⟩
  | some p =>
    simp only [certified, Option.bind_some, tenancy, TenantTable.lookup]
    cases v.table.find? p.subject with
    | none => exact .inr ⟨rfl, rfl⟩
    | some profile => exact .inl ⟨_, profile.format, rfl, rfl⟩

end Services

/-! ## The topic stage -/

namespace Topic

variable {t : Topic} {tenancy : Tenancy} {l : Ledger}

/-- No frame changes a tenant that is known. -/
theorem decode_known {info : TenantInfo} (h : tenancy.info? = some info)
    (t : Topic) (needsConnect : Bool) (frame : Frame) (l : Ledger) :
    (t.decode tenancy needsConnect frame l).2.2.1.info? = some info := by
  cases frame with
  | line bytes =>
    have hline := Tenancy.decodeLine_known h bytes
    unfold decode
    dsimp only
    generalize tenancy.decodeLine bytes = out at hline
    obtain ⟨reading, tenancy'⟩ := out
    cases reading <;> exact hline
  | connect request => exact h
  | data reading => exact h
  | heartbeat => exact h
  | skipped kind => exact h

/-- While the tenant is not known, a frame makes known the tenant that it names,
and a line that names none gives nothing. -/
theorem decode_delayed (t : Topic) (max : Nat) (needsConnect : Bool)
    (frame : Frame) (l : Ledger) :
    let out := t.decode (Tenancy.delayed max) needsConnect frame l
    out.2.2.1.info? = frame.tenantToken.map TenantInfo.ofToken ∧
      (frame.tenantToken = none → out.2.2.1 = Tenancy.delayed max ∧
        ∀ bytes, frame = .line bytes → out.1 = none) := by
  cases frame with
  | line bytes =>
    unfold decode Tenancy.decodeLine
    dsimp only [Tenancy.delayed, Tenancy.tenantName, Tenancy.info?,
      Frame.tenantToken]
    rw [Option.map_none, Option.getD_none]
    cases hdecode : Wire.Layout.selfIdentifying.decode "" bytes with
    | error fault => exact ⟨rfl, fun _ => ⟨rfl, fun _ _ => rfl⟩⟩
    | ok entry =>
      obtain ⟨token, htoken⟩ := Wire.Layout.tenantToken_of_decode hdecode
      simp [htoken, Tenancy.learn]
  | connect request =>
    exact ⟨rfl, fun _ => ⟨rfl, fun _ hline => by cases hline⟩⟩
  | data reading => exact ⟨rfl, fun _ => ⟨rfl, fun _ hline => by cases hline⟩⟩
  | heartbeat => exact ⟨rfl, fun _ => ⟨rfl, fun _ hline => by cases hline⟩⟩
  | skipped kind => exact ⟨rfl, fun _ => ⟨rfl, fun _ hline => by cases hline⟩⟩

theorem decodeAll_known {info : TenantInfo} (h : tenancy.info? = some info)
    (t : Topic) (l : Ledger) (os : List (Except Wire.Fault Frame)) :
    (t.decodeAll tenancy l os).2.2.1.info? = some info := by
  induction os generalizing t tenancy l with
  | nil => exact h
  | cons o os ih =>
    cases o with
    | error fault => exact ih h t l
    | ok frame => exact ih (decode_known h t false frame l) _ _

theorem decodeAll_delayed (t : Topic) (max : Nat) (l : Ledger)
    (os : List (Except Wire.Fault Frame)) :
    let named := os.findSome? fun o => o.toOption.bind Frame.tenantToken
    let tenancy := (t.decodeAll (Tenancy.delayed max) l os).2.2.1
    tenancy.info? = named.map TenantInfo.ofToken ∧
      (named = none → tenancy = Tenancy.delayed max) := by
  induction os generalizing t l with
  | nil => exact ⟨rfl, fun _ => rfl⟩
  | cons o os ih =>
    cases o with
    | error fault => exact ih t l
    | ok frame =>
      obtain ⟨hnamed, hsame⟩ := decode_delayed t max false frame l
      simp only [decodeAll, List.findSome?_cons, Except.toOption,
        Option.bind_some]
      cases htoken : frame.tenantToken with
      | none =>
        rw [(hsame htoken).1]
        exact ih _ _
      | some token =>
        rw [htoken] at hnamed
        exact ⟨decodeAll_known hnamed _ _ _, fun hnone => by cases hnone⟩

/-- The address of a packet is made in the tenancy that is known once its frame
was read, unless its sender has chosen one. -/
theorem decode_address (t : Topic) (tenancy : Tenancy) (needsConnect : Bool)
    (frame : Frame) (l : Ledger) {q : Parcel} {p : DataPacket}
    (hq : (t.decode tenancy needsConnect frame l).1 = some q)
    (hp : q.data = some p) :
    p.address =
        t.setup.addressFor (t.decode tenancy needsConnect frame l).2.2.1
          p.deviceId ∨
      ∃ reading, frame = .data reading ∧ reading.address ≠ "" ∧
        p.address = reading.address := by
  have htake : ∀ (tenancy : Tenancy) (reading : Reading) (p : DataPacket),
      (t.take tenancy needsConnect reading l).1.data = some p →
      p.address = t.setup.addressFor tenancy p.deviceId ∨
        reading.address ≠ "" ∧ p.address = reading.address := by
    intro tenancy reading p htaken
    obtain rfl := Option.some.inj htaken
    dsimp only [Reading.take]
    by_cases hchosen : reading.address = ""
    · exact .inl (if_pos hchosen)
    · exact .inr ⟨hchosen, if_neg hchosen⟩
  cases frame with
  | connect request =>
    obtain rfl := Option.some.inj hq
    cases hp
  | heartbeat =>
    obtain rfl := Option.some.inj hq
    cases hp
  | skipped kind => cases hq
  | data reading =>
    obtain rfl := Option.some.inj hq
    exact (htake tenancy reading p hp).imp_right fun hchosen =>
      ⟨reading, rfl, hchosen⟩
  | line bytes =>
    unfold decode at hq ⊢
    dsimp only at hq ⊢
    have hunchosen : ∀ reading, (tenancy.decodeLine bytes).1 = some reading →
        reading.address = "" := by
      intro reading hreading
      unfold Tenancy.decodeLine at hreading
      split at hreading
      · cases hreading
      · split at hreading
        · cases hreading
        · obtain rfl := Option.some.inj hreading
          rfl
    generalize tenancy.decodeLine bytes = out at hq hunchosen
    obtain ⟨_ | reading, tenancy'⟩ := out
    · cases hq
    · obtain rfl := Option.some.inj hq
      rcases htake tenancy' reading p hp with haddress | ⟨hchosen, -⟩
      · exact .inl haddress
      · exact absurd (hunchosen reading rfl) hchosen

/-- A frame that gives no parcel leaves the topic stage as it is. -/
theorem decode_topic {needsConnect : Bool} {frame : Frame}
    (h : (t.decode tenancy needsConnect frame l).1 = none) :
    (t.decode tenancy needsConnect frame l).2.1 = t := by
  cases frame with
  | connect request => rfl
  | heartbeat => rfl
  | skipped kind => rfl
  | data reading => cases h
  | line bytes =>
    unfold decode at h ⊢
    dsimp only at h ⊢
    generalize tenancy.decodeLine bytes = out at h
    obtain ⟨_ | reading, tenancy'⟩ := out
    · rfl
    · cases h

/-- A CONNECT that a frame gives is what the device has sent, or it is made for
the device of the data in the tenancy that is known once the frame was read. -/
theorem decode_request (t : Topic) (tenancy : Tenancy) (needsConnect : Bool)
    (frame : Frame) (l : Ledger) {q : Parcel} {request : Connect}
    (hq : (t.decode tenancy needsConnect frame l).1 = some q)
    (hrequest : q.connect = some request) :
    frame = .connect request ∨ ∃ p, q.data = some p ∧
      request = t.setup.connectFor (t.decode tenancy needsConnect frame l).2.2.1
        p.deviceId := by
  have htake : ∀ (tenancy : Tenancy) (reading : Reading),
      (t.take tenancy needsConnect reading l).1.connect = some request →
      ∃ p, (t.take tenancy needsConnect reading l).1.data = some p ∧
        request = t.setup.connectFor tenancy p.deviceId := by
    intro tenancy reading htaken
    cases needsConnect with
    | false => cases htaken
    | true => exact ⟨_, rfl, (Option.some.inj htaken).symm⟩
  cases frame with
  | connect sent =>
    obtain rfl := Option.some.inj hq
    obtain rfl := Option.some.inj hrequest
    exact .inl rfl
  | heartbeat =>
    obtain rfl := Option.some.inj hq
    cases hrequest
  | skipped kind => cases hq
  | data reading =>
    obtain rfl := Option.some.inj hq
    exact .inr (htake tenancy reading hrequest)
  | line bytes =>
    unfold decode at hq ⊢
    dsimp only at hq ⊢
    generalize tenancy.decodeLine bytes = out at hq
    obtain ⟨_ | reading, tenancy'⟩ := out
    · cases hq
    · obtain rfl := Option.some.inj hq
      exact .inr (htake tenancy' reading hrequest)

end Topic

namespace Services

variable {σ : Type} {v : Services σ} {peer : Option Peer}
  {os : List (Except Wire.Fault Frame)}

/-- The topic stage ends up with the tenant of the stream. -/
theorem decodeAll_info (v : Services σ) (peer : Option Peer)
    (os : List (Except Wire.Fault Frame)) :
    (v.decodeAll peer os).2.2.1.info? = v.tenant peer os := by
  unfold decodeAll tenant
  rcases v.tenancy_cases peer with ⟨info, format, hcertified, htenancy⟩ |
    ⟨hcertified, htenancy⟩
  · rw [hcertified, htenancy]
    exact Topic.decodeAll_known rfl _ _ _
  · rw [hcertified, htenancy]
    exact (Topic.decodeAll_delayed _ _ _ _).1

/-! ## What is made of a stream -/

/-- A device without a known certificate sends lines: a decoder of lines stays
one. -/
theorem found_line (hcertified : v.certified peer = none) {bytes : List UInt8}
    {frame : Frame} (h : .ok frame ∈ v.found peer bytes) :
    ∃ line, frame = .line line := by
  have hlines : ∀ {d d' : Wire.Decoder} {input rest : List UInt8} {os},
      Wire.Decoder.Reads d input os d' rest → (∃ state, d = .lines state) →
      .ok frame ∈ os →
      ∃ line, frame = .line line := by
    intro d d' input rest os hreads
    induction hreads with
    | done hnext => exact fun _ hmem => absurd hmem List.not_mem_nil
    | last hnext hstop =>
      rintro ⟨state, rfl⟩ hmem
      obtain rfl := List.mem_singleton.1 hmem
      exact Wire.Decoder.next_lines hnext
    | @more d d₁ d' input rest₁ rest o os hnext hgo hmore ih =>
      rintro ⟨state, rfl⟩ hmem
      rcases List.mem_cons.1 hmem with rfl | hlater
      · exact Wire.Decoder.next_lines hnext
      · have hstill : d₁ = .lines (state.next input).2.1 :=
          (congrArg (fun out => out.2.1) hnext).symm
        exact ih ⟨_, hstill⟩ hlater
  rcases v.tenancy_cases peer with ⟨info, format, hknown, -⟩ | ⟨-, htenancy⟩
  · rw [hcertified] at hknown
    cases hknown
  · refine hlines (Wire.Decoder.reads_drain (v.tenancy peer).decoder bytes) ?_ h
    rw [htenancy]
    exact ⟨_, rfl⟩

/-- A frame that gives a parcel leaves the tenant known. -/
theorem tenant_of_decode {bytes : List UInt8} {frame : Frame}
    (hos : os ++ [.ok frame] <+: v.found peer bytes) (t : Topic)
    (needsConnect : Bool) (l : Ledger) {q : Parcel}
    (hq : (t.decode (v.decodeAll peer os).2.2.1 needsConnect frame l).1 =
      some q) :
    ∃ info, v.tenant peer (os ++ [.ok frame]) = some info := by
  rcases v.tenancy_cases peer with ⟨info, format, hcertified, -⟩ |
    ⟨hcertified, htenancy⟩
  · exact ⟨info, by rw [tenant, hcertified]; rfl⟩
  · have hfound : .ok frame ∈ v.found peer bytes := hos.subset (by simp)
    obtain ⟨line, rfl⟩ := found_line hcertified hfound
    rw [tenant, hcertified, Option.none_or, List.findSome?_append]
    obtain ⟨-, hdelayed⟩ :=
      Topic.decodeAll_delayed { setup := v.topic } v.maxMessageSize {} os
    cases hnamed : os.findSome? fun o => o.toOption.bind Frame.tenantToken with
    | some token => exact ⟨_, rfl⟩
    | none =>
      rw [decodeAll, htenancy, hdelayed hnamed] at hq
      obtain ⟨-, hunnamed⟩ := t.decode_delayed v.maxMessageSize needsConnect
        (.line line) l
      cases htoken : (Frame.line line).tenantToken with
      | some token =>
        exact ⟨TenantInfo.ofToken token, by simp [Except.toOption, htoken]⟩
      | none =>
        rw [(hunnamed htoken).2 line rfl] at hq
        cases hq

/-- What was told to the topic stage is what the services say. -/
theorem decodeAll_setup (v : Services σ) (peer : Option Peer)
    (os : List (Except Wire.Fault Frame)) :
    (v.decodeAll peer os).2.1.setup = v.topic := by
  have hall : ∀ (t : Topic) (tenancy : Tenancy) (l : Ledger),
      (t.decodeAll tenancy l os).2.1.setup = t.setup := by
    induction os with
    | nil => exact fun _ _ _ => rfl
    | cons o os ih =>
      intro t tenancy l
      cases o with
      | error fault => exact ih t tenancy l
      | ok frame =>
        exact (ih _ _ _).trans (t.decode_setup tenancy false frame l)
  exact hall _ _ _

/-- The address of a packet is the one that its device has at a tenant, unless
its sender has chosen one. -/
def Addressed (v : Services σ) (os : List (Except Wire.Fault Frame))
    (info : TenantInfo) (p : DataPacket) : Prop :=
  p.address = Address.resolve v.topic.templates
      [("deviceId", p.deviceId.text), ("tenantId", info.id)] ∨
    ∃ reading, .ok (.data reading) ∈ os ∧ reading.address ≠ "" ∧
      p.address = reading.address

theorem Addressed.mono {os' : List (Except Wire.Fault Frame)} (hos : os <+: os')
    {info : TenantInfo} {p : DataPacket} (h : v.Addressed os info p) :
    v.Addressed os' info p :=
  h.imp_right fun ⟨reading, hmem, hchosen⟩ =>
    ⟨reading, hos.subset hmem, hchosen⟩

private theorem addressFor_eq {tenancy : Tenancy} {info : TenantInfo}
    (h : tenancy.info? = some info) (s : TopicSetup) (deviceId : DeviceId) :
    s.addressFor tenancy deviceId =
      Address.resolve s.templates [("deviceId", deviceId.text),
        ("tenantId", info.id)] := by
  simp [TopicSetup.addressFor, Tenancy.tenantId, h]

/-- Packets of a stream are addressed with its tenant. -/
theorem decodeAll_addressed {bytes : List UInt8}
    (hos : os <+: v.found peer bytes) :
    ∀ q ∈ (v.decodeAll peer os).1, ∀ p, q.data = some p →
      ∃ info, v.tenant peer os = some info ∧ v.Addressed os info p := by
  induction os using List.reverseRecOn with
  | nil => exact fun q hq => absurd hq List.not_mem_nil
  | append_singleton os o ih =>
    have hfront := (List.prefix_append os [o]).trans hos
    have hbefore : ∀ q ∈ (v.decodeAll peer os).1, ∀ p, q.data = some p →
        ∃ info, v.tenant peer (os ++ [o]) = some info ∧
          v.Addressed (os ++ [o]) info p := by
      intro q hq p hp
      obtain ⟨info, hinfo, haddressed⟩ := ih hfront q hq p hp
      have hlonger := List.prefix_append os [o]
      exact ⟨info, tenant_mono hlonger hinfo, haddressed.mono hlonger⟩
    cases o with
    | error fault =>
      rw [decodeAll_fault]
      exact hbefore
    | ok frame =>
      have hall := v.decodeAll_frame peer os frame
      intro q hq p hp
      have hq' := hq
      rw [hall] at hq'
      rcases List.mem_append.1 hq' with hearlier | hlast
      · exact hbefore q hearlier p hp
      · have hmade := Option.mem_toList.1 hlast
        obtain ⟨info, hinfo⟩ := tenant_of_decode hos _ false _ hmade
        refine ⟨info, hinfo, ?_⟩
        have htenancy := v.decodeAll_info peer (os ++ [.ok frame])
        rw [hall, hinfo] at htenancy
        rcases Topic.decode_address _ _ _ _ _ hmade hp with haddress |
          ⟨reading, rfl, hchosen⟩
        · rw [addressFor_eq htenancy, decodeAll_setup] at haddress
          exact .inl haddress
        · exact .inr ⟨reading, by simp, hchosen⟩

theorem found_packet {bytes : List UInt8} {p : DataPacket}
    (h : p ∈ v.packets peer bytes) :
    ∃ info, v.tenant peer (v.found peer bytes) = some info ∧
      v.Addressed (v.found peer bytes) info p := by
  obtain ⟨q, hq, hp⟩ := List.mem_filterMap.1 h
  exact decodeAll_addressed (List.prefix_refl _) q hq p hp

end Services

end DeviceGateway
