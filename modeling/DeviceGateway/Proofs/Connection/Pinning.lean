import DeviceGateway.Proofs.Connection.Settling
import DeviceGateway.Proofs.Connection.Tenant
import DeviceGateway.Proofs.Session.Usage

/-!
# The tenant of a connection

The tenancy of a connection lies with its chain.  A chain is given its tenancy
together with a decoder and is not resolved again, and no frame changes a tenant
that is known, so a connection that knows its tenant keeps it, whatever comes
next.

What it knows is what its stream says: the tenancy is that of some front of the
stream, also when the session was closed meanwhile.  The address of a packet,
the CONNECT that is made for its device and the client that the CONNECT brings
are read off this tenancy at three different times.  None of them comes before
the tenant is known, because a frame that gives nothing gives no CONNECT either.

## Main results

* `move_tenant`: a tenant that is known is kept by every move.
* `round_steady`, `turn_steady`: the tenancy stays that of the stream, and what
  is worked on was made with its tenant.
-/

namespace DeviceGateway

open Wire (Frame)
open Relation (ReflTransGen)

namespace Connection

variable {σ : Type} {v : Services σ}

/-- The tenant of a connection, if it is known. -/
def tenant (c : Connection) : Option TenantInfo :=
  c.chain.tenancy.bind Tenancy.info?

/-! ## Moves -/

/-- A connection that has taken a frame knows what the topic stage knows. -/
theorem takeFrame_informed (v : Services σ) (c : Connection) (w : World σ)
    (now : Nat) (tenancy : Tenancy) (frame : Frame) :
    let out := c.topic.decode tenancy
      (c.session.needsConnect && c.connecting.isNone) frame w.ledger
    (c.takeFrame v w now tenancy frame).1.chain =
      { c.chain with tenancy := some out.2.2.1 } ∧
      (c.takeFrame v w now tenancy frame).1.topic = out.2.1 := by
  rw [takeFrame_eq]
  dsimp only
  split <;> exact ⟨rfl, rfl⟩

theorem move_paired {r r' : Connection × World σ} (hmove : Move v r r')
    (h : r.1.chain.Paired) : r'.1.chain.Paired := by
  cases hmove with
  | resolve hresolve => exact (h.resolve_cases hresolve).1
  | @frame c w chain input now tenancy frame hopen hready hnext htenancy =>
    have hlooked := h.next c.input
    rw [hnext] at hlooked
    have hknown := c.chain.tenancy_next c.input
    rw [hnext, htenancy] at hknown
    rw [(takeFrame_informed v { c with chain, input } w now tenancy frame).1]
    exact fun _ _ => hlooked tenancy hknown
  | @gap c w chain input fault hopen hready hnext =>
    have hlooked := h.next c.input
    rwa [hnext] at hlooked
  | _ => exact h

/-- A tenant that is known is kept, whatever is done. -/
theorem move_tenant {r r' : Connection × World σ} (hmove : Move v r r')
    (h : r.1.chain.Paired) {info : TenantInfo}
    (hinfo : r.1.tenant = some info) : r'.1.tenant = some info := by
  cases hmove with
  | @resolve c w tenancy chain hresolve =>
    rcases (h.resolve_cases hresolve).2 with rfl | ⟨hunknown, -⟩
    · exact hinfo
    · have hnone : c.tenant = none := by rw [tenant, hunknown, Option.bind_none]
      cases hnone.symm.trans hinfo
  | @frame c w chain input now tenancy frame hopen hready hnext htenancy =>
    simp only [tenant, htenancy, Option.bind_some] at hinfo
    have hchain :=
      (takeFrame_informed v { c with chain, input } w now tenancy frame).1
    rw [tenant, hchain, Option.bind_some]
    exact Topic.decode_known hinfo _ _ _ _
  | @gap c w chain input fault hopen hready hnext =>
    have hsame := c.chain.tenancy_next c.input
    rw [hnext] at hsame
    exact (congrArg (Option.bind · Tenancy.info?) hsame).trans hinfo
  | _ => exact hinfo

theorem moves_paired {r r' : Connection × World σ}
    (hmoves : ReflTransGen (Move v) r r') (h : r.1.chain.Paired) :
    r'.1.chain.Paired :=
  moves_preserve (fun c _ => c.chain.Paired) move_paired hmoves h

theorem moves_tenant {r r' : Connection × World σ}
    (hmoves : ReflTransGen (Move v) r r') (h : r.1.chain.Paired)
    {info : TenantInfo} (hinfo : r.1.tenant = some info) :
    r'.1.tenant = some info := by
  have hboth :=
    moves_preserve (fun c _ => c.chain.Paired ∧ c.tenant = some info)
      (fun hmove hr => ⟨move_paired hmove hr.1, move_tenant hmove hr.1 hr.2⟩)
      hmoves ⟨h, hinfo⟩
  exact hboth.2

/-! ## What is read off the tenancy -/

end Connection

namespace Services

variable {σ : Type} {v : Services σ} {peer : Option Peer}

/-- What a CONNECT is that a connection works on: the device has sent it, or it
holds what is stored for the device of a packet at a tenant, if anything is. -/
def Presents (v : Services σ) (peer : Option Peer) (bytes : List UInt8)
    (info : TenantInfo) (request : Connect) : Prop :=
  .ok (.connect request) ∈ v.found peer bytes ∨
    ∃ p ∈ v.packets peer bytes,
      request =
        match v.topic.credentials.find? info.id p.deviceId.text with
        | none => Connect.withoutCredential p.deviceId v.topic.keepAliveSecs
        | some stored =>
          ⟨p.deviceId, stored.username, stored.password, v.topic.keepAliveSecs⟩

theorem Presents.arrive {bytes : List UInt8} {info : TenantInfo}
    {request : Connect} (h : v.Presents peer bytes info request)
    (more : List UInt8) :
    v.Presents peer (bytes ++ more) info request := by
  rcases h with hsent | ⟨p, hp, hmade⟩
  · exact .inl ((found_isPrefix bytes more).subset hsent)
  · exact .inr ⟨p, (packets_isPrefix bytes more).subset hp, hmade⟩

private theorem connectFor_eq {tenancy : Tenancy} {info : TenantInfo}
    (h : tenancy.info? = some info) (s : TopicSetup) (deviceId : DeviceId) :
    s.connectFor tenancy deviceId =
      match s.credentials.find? info.id deviceId.text with
      | none => Connect.withoutCredential deviceId s.keepAliveSecs
      | some stored =>
          ⟨deviceId, stored.username, stored.password, s.keepAliveSecs⟩ := by
  have hid : tenancy.tenantId = info.id := by simp [Tenancy.tenantId, h]
  cases hfound : s.credentials.find? info.id deviceId.text <;>
    simp only [TopicSetup.connectFor, hid, hfound]

end Services

namespace Connection

variable {σ : Type} {v : Services σ} {peer : Option Peer}
  {origin : Established → Prop} {asked : Prop} {arrived : List UInt8}
  {os : List (Except Wire.Fault Frame)} {c : Connection} {w w₀ : World σ}
  {h : Run σ} {d : Wire.Decoder} {tenancy : Tenancy} {now : Nat}
  {P : Backend.Client → Prop}

/-- The tenancy of a connection is that of a front of its stream, the tenant is
known once there was any data, and the CONNECT that is worked on was made when
it was. -/
structure Pinned (v : Services σ) (peer : Option Peer) (arrived : List UInt8)
    (c : Connection) :
    Prop where
  tenancy : ∃ os, os <+: v.found peer arrived ∧
    ∀ tenancy, c.chain.tenancy = some tenancy → tenancy.info? = v.tenant peer os
  data : 1 < c.topic.next → ∃ info, c.tenant = some info
  request : ∀ request, c.connecting = some request →
    ∃ info, c.tenant = some info ∧ v.Presents peer arrived info request

namespace Pinned

theorem arrive (hp : Pinned v peer arrived c) (more : List UInt8) :
    Pinned v peer (arrived ++ more) c where
  tenancy := by
    obtain ⟨os, hfront, hinfo⟩ := hp.tenancy
    exact ⟨os, hfront.trans (Services.found_isPrefix arrived more), hinfo⟩
  data := hp.data
  request request hrequest := by
    obtain ⟨info, hinfo, hpresents⟩ := hp.request request hrequest
    exact ⟨info, hinfo, hpresents.arrive more⟩

/-- Only the tenancy, the topic stage and the CONNECT matter. -/
theorem of_tenancy (hp : Pinned v peer arrived c) {c' : Connection}
    (htenancy : c'.chain.tenancy = c.chain.tenancy)
    (htopic : c'.topic = c.topic)
    (hconnecting : ∀ request, c'.connecting = some request →
      c.connecting = some request) :
    Pinned v peer arrived c' where
  tenancy := by
    rw [htenancy]
    exact hp.tenancy
  data := by
    rw [htopic, tenant, htenancy]
    exact hp.data
  request request hrequest := by
    obtain ⟨info, hinfo, hpresents⟩ :=
      hp.request request (hconnecting request hrequest)
    exact ⟨info, by rw [tenant, htenancy]; exact hinfo, hpresents⟩

/-- What a connection knows of its tenant is what its stream says. -/
theorem tenant_eq (hp : Pinned v peer arrived c) {info : TenantInfo}
    (hinfo : c.tenant = some info) :
    v.tenant peer (v.found peer arrived) = some info := by
  obtain ⟨os, hfront, hsame⟩ := hp.tenancy
  obtain ⟨tenancy, htenancy, hknown⟩ := Option.bind_eq_some_iff.1 hinfo
  exact Services.tenant_mono hfront ((hsame tenancy htenancy).symm.trans hknown)

end Pinned

/-! ## Taking a frame -/

/-- A connection works on the CONNECT that it has worked on before, or on one
that the topic stage has given. -/
theorem takeFrame_connecting {frame : Frame} {request : Connect}
    (hrequest : (c.takeFrame v w now tenancy frame).1.connecting =
      some request) :
    c.connecting = some request ∨ ∃ q,
      (c.topic.decode tenancy (c.session.needsConnect && c.connecting.isNone)
        frame w.ledger).1 =
        some q ∧ q.connect = some request := by
  rw [takeFrame_eq] at hrequest
  dsimp only at hrequest
  split at hrequest
  · exact .inl hrequest
  · next q hq =>
    simp only [receive, informed] at hrequest
    have hcase := Session.received v.transport c.session
      { w.count Metrics.recordFrame with ledger :=
        (c.topic.decode tenancy (c.session.needsConnect && c.connecting.isNone)
          frame w.ledger).2.2.2 } now q
    generalize c.session.receive v.transport _ now q = out at hrequest hcase
    cases hcase with
    | begun hopen hphase request' hconnect =>
      obtain rfl : request' = request := Option.some.inj hrequest
      exact .inr ⟨q, hq, hconnect⟩
    | dropped hclosed => exact .inl hrequest
    | empty hopen hdata hconnect => exact .inl hrequest
    | unexpected hopen hphase hconnect p hdata => exact .inl hrequest
    | queued hopen hphase p hdata => exact .inl hrequest
    | live hopen hphase p hdata => exact .inl hrequest

section Frame

variable {chain : Chain} {input : List UInt8} {frame : Frame}

/-- What a frame gives is given by the stream. -/
theorem InStep.look_packet (hs : InStep v peer arrived os c w d tenancy)
    (hnext : c.chain.next c.input = (some (.ok frame), chain, input))
    (needsConnect : Bool) {q : Parcel}
    (hq : (c.topic.decode tenancy needsConnect frame w.ledger).1 = some q)
    {p : DataPacket} (hp : q.data = some p) : p ∈ v.packets peer arrived := by
  obtain ⟨d', said, hs', hall, hparcel⟩ := hs.look_frame hnext needsConnect
  rw [hq] at hparcel
  obtain ⟨plain, rfl, rfl⟩ := Option.map_eq_some_iff.1 hparcel.symm
  rw [Topic.introduce_data] at hp
  refine List.mem_filterMap.2 ⟨plain, hs'.isPrefix.subset ?_, hp⟩
  rw [hall]
  exact List.mem_append_right _ (by simp)

/-- A frame leaves the connection with the tenancy of a longer front of the
stream, and a CONNECT that comes of the frame is made with it: no frame gives a
parcel before the tenant is known, and an earlier CONNECT keeps the tenant it
was made with. -/
theorem Pinned.takeFrame (hp : Pinned v peer arrived c)
    (hs : InStep v peer arrived os c w d tenancy)
    (hnext : c.chain.next c.input = (some (.ok frame), chain, input))
    (now : Nat) :
    Pinned v peer arrived
      ({ c with chain, input }.takeFrame v w now tenancy frame).1 := by
  generalize hneeds : (c.session.needsConnect && c.connecting.isNone) =
    needsConnect
  obtain ⟨d', said, hs', hall, -⟩ := hs.look_frame hnext needsConnect
  have hfront : os ++ [.ok frame] <+: v.found peer arrived := by
    have hlonger := hs'.continues.isPrefix []
    rwa [List.append_nil] at hlonger
  have hinfo :
      (c.topic.decode tenancy needsConnect frame w.ledger).2.2.1.info? =
      v.tenant peer (os ++ [.ok frame]) := by
    rw [← v.decodeAll_info, hs'.tenancy]
  have hknows : ∀ q, (c.topic.decode tenancy needsConnect frame w.ledger).1 =
      some q →
      ∃ info, v.tenant peer (os ++ [.ok frame]) = some info := by
    intro q hq
    rw [← hs.tenancy] at hq
    exact Services.tenant_of_decode hfront c.topic needsConnect w.ledger hq
  obtain ⟨hchain, htopic⟩ :=
    takeFrame_informed v { c with chain, input } w now tenancy frame
  simp only [hneeds] at hchain htopic
  refine ⟨⟨_, hfront, fun tenancy' htenancy' => ?_⟩, fun hdata => ?_,
    fun request hrequest => ?_⟩
  · rw [hchain] at htenancy'
    obtain rfl := Option.some.inj htenancy'
    exact hinfo
  · rw [tenant, hchain, Option.bind_some]
    rw [htopic] at hdata
    cases hq : (c.topic.decode tenancy needsConnect frame w.ledger).1 with
    | none =>
      rw [Topic.decode_topic hq] at hdata
      obtain ⟨info, hknown⟩ := hp.data hdata
      rw [tenant, hs.ready.tenancy, Option.bind_some] at hknown
      exact ⟨info, Topic.decode_known hknown _ _ _ _⟩
    | some q =>
      rw [hinfo]
      exact hknows q hq
  · rw [tenant, hchain, Option.bind_some]
    rcases takeFrame_connecting hrequest with hbefore | ⟨q, hq, hconnect⟩
    · obtain ⟨info, hknown, hpresents⟩ := hp.request request hbefore
      rw [tenant, hs.ready.tenancy, Option.bind_some] at hknown
      exact ⟨info, Topic.decode_known hknown _ _ _ _, hpresents⟩
    · simp only [hneeds] at hq
      have hsetup : c.topic.setup = v.topic := by
        rw [← hs.topic]
        exact v.decodeAll_setup peer os
      obtain ⟨info, htenant⟩ := hknows q hq
      refine ⟨info, hinfo.trans htenant, ?_⟩
      rcases Topic.decode_request _ _ _ _ _ hq hconnect with rfl |
        ⟨p, hdata, rfl⟩
      · exact .inl (hfront.subset (by simp))
      · refine .inr ⟨p, hs.look_packet hnext needsConnect hq hdata, ?_⟩
        rw [Services.connectFor_eq (hinfo.trans htenant), hsetup]

/-- The session is handed packets of the stream. -/
theorem InStep.takeFrame_conducts (hs : InStep v peer arrived os c w d tenancy)
    (hnext : c.chain.next c.input = (some (.ok frame), chain, input))
    (hminds : c.session.Minds v.session P (· ∈ v.packets peer arrived))
    (now : Nat) :
    let out := { c with chain, input }.takeFrame v w now tenancy frame
    Session.Conducts v.transport v.session P (· ∈ v.packets peer arrived) w
      (out.1.session, out.2) := by
  intro out
  have hsession :=
    takeFrame_session v { c with chain, input } w now tenancy frame
  dsimp only at hsession
  rw [hsession]
  split
  · exact .of_eq hminds rfl rfl
  · next q hq =>
    have hparcel := fun p => hs.look_packet (p := p) hnext _ hq
    exact (Session.receive_conducts hminds _ now hparcel).after
      (Session.deals_of_eq rfl rfl)

end Frame

/-! ## Turns -/

/-- A connection whose tenant is that of its stream, and whose session has used
only clients of some kind since some world, for packets of the stream. -/
structure Steady (v : Services σ) (peer : Option Peer) (arrived : List UInt8)
    (P : Backend.Client → Prop) (w₀ : World σ) (c : Connection) (w : World σ) :
    Prop
    extends Pinned v peer arrived c where
  conducts : Session.Conducts v.transport v.session P
    (· ∈ v.packets peer arrived) w₀
    (c.session, w)

namespace Steady

/-- The stages before the session have no part in what it does. -/
theorem of_stages (hs : Steady v peer arrived P w₀ c w) {c' : Connection}
    {w' : World σ} (hp : Pinned v peer arrived c')
    (hsession : c'.session = c.session) (hbackend : w'.backend = w.backend)
    (hoffers : w'.offers = w.offers) :
    Steady v peer arrived P w₀ c' w' where
  toPinned := hp
  conducts := by
    rw [hsession]
    exact ⟨hs.conducts.minds,
      Session.deals_trans hs.conducts.deals
        (Session.deals_of_eq hbackend hoffers)⟩

private theorem arrive (hs : Steady v peer arrived P w₀ c w)
    (more : List UInt8) :
    Steady v peer (arrived ++ more) P w₀ c w where
  toPinned := hs.toPinned.arrive more
  conducts := hs.conducts.mono (Services.packets_isPrefix arrived more).subset

theorem discard (hs : Steady v peer arrived P w₀ c w) :
    Steady v peer arrived P w₀ { c with input := [] } w :=
  hs.of_stages (hs.of_tenancy rfl rfl fun _ => id) rfl rfl rfl

theorem shutdown (hs : Steady v peer arrived P w₀ c w)
    (cause : Option Failure) :
    Steady v peer arrived P w₀ (c.shutdown v w cause).1
      (c.shutdown v w cause).2 where
  toPinned := hs.of_tenancy rfl rfl fun _ => id
  conducts := (Session.shutdown_conducts hs.conducts.minds w cause).after
    hs.conducts.deals

private theorem finish (hs : Steady v peer arrived P w₀ c w) :
    Steady v peer arrived P w₀ { c with finished := true, connecting := none }
      w :=
  hs.of_stages (hs.of_tenancy rfl rfl fun _ hnone => by cases hnone) rfl rfl rfl

/-- At first the tenancy is that of no line yet. -/
theorem resolve (hs : Steady v peer arrived P w₀ c w) (hpaired : c.chain.Paired)
    (hpeer : c.peer = peer) {chain : Chain}
    (hresolve : c.chain.resolve v.table v.maxMessageSize c.peer =
      .ok (tenancy, chain)) :
    Steady v peer arrived P w₀ { c with chain } w := by
  rcases (hpaired.resolve_cases hresolve).2 with rfl | ⟨hunknown, hknown⟩
  · exact hs
  · have hnot : ∀ info, c.tenant ≠ some info := by
      intro info hinfo
      rw [tenant, hunknown] at hinfo
      cases hinfo
    refine hs.of_stages ⟨⟨[], List.nil_prefix, fun tenancy' htenancy' => ?_⟩,
      fun hdata => ?_, fun request hrequest => ?_⟩ rfl rfl rfl
    · obtain rfl := Option.some.inj (hknown.symm.trans htenancy')
      rw [hpeer]
      exact v.decodeAll_info peer []
    · obtain ⟨info, hinfo⟩ := hs.data hdata
      exact absurd hinfo (hnot info)
    · obtain ⟨info, hinfo, -⟩ := hs.request request hrequest
      exact absurd hinfo (hnot info)

end Steady

theorem round_steady (hu : Underway v peer origin asked arrived c w tenancy)
    (hs : Steady v peer arrived P w₀ c w) (now : Nat) :
    Steady v peer arrived P w₀ (c.round v w now tenancy).2.1
      (c.round v w now tenancy).2.2 := by
  obtain ⟨h, hf, hstep⟩ := hu
  have hlooked : ∀ {o chain input}, c.chain.next c.input = (o, chain, input) →
      Pinned v peer arrived { c with chain, input } := by
    intro o chain input hnext
    have hsame := c.chain.tenancy_next c.input
    rw [hnext] at hsame
    exact hs.of_tenancy hsame rfl fun _ => id
  have hcase := rounded v c w now tenancy
  generalize c.round v w now tenancy = out at hcase
  cases hcase with
  | closed hclosed => exact hs.discard
  | throttled hopen hthrottled => exact hs
  | nothing hopen hreading hnext =>
    exact hs.of_stages (hlooked hnext) rfl rfl rfl
  | frame hopen hreading hnext hafter =>
    obtain ⟨d, os, hin, -⟩ := hstep hopen
    have hminds := hs.conducts.minds
    rw [← hafter]
    exact ⟨hs.takeFrame hin hnext now,
      (hin.takeFrame_conducts hnext hminds now).after hs.conducts.deals⟩
  | gap hopen hreading hnext hmild f =>
    exact hs.of_stages (hlooked hnext) rfl rfl rfl
  | failed hopen hreading hnext hfatal f cause =>
    have hlooked : Steady v peer arrived P w₀ _ (w.count f) :=
      hs.of_stages (hlooked hnext) rfl rfl rfl
    exact (hlooked.shutdown cause).discard

/-- Each round leaves the stream followed, which the next one needs. -/
private theorem processFrames_steady {fuel : Nat}
    (hu : Underway v peer origin True arrived c w tenancy)
    (hs : Steady v peer arrived P w₀ c w) :
    Steady v peer arrived P w₀ (processFrames v now fuel tenancy c w).1
      (processFrames v now fuel tenancy c w).2 := by
  induction fuel generalizing c w tenancy with
  | zero => exact hs
  | succ fuel ih =>
    have hfollowed := (round_followed hu (.inl trivial) now).2
    have hround := round_steady hu hs now
    unfold processFrames
    generalize c.round v w now tenancy = out at hfollowed hround
    obtain ⟨goOn, c', w'⟩ := out
    cases goOn with
    | none => exact hround
    | some tenancy' => exact ih (hfollowed tenancy' rfl) hround

theorem process_steady (hf : Followed v peer origin True arrived c w h)
    (hpaired : c.chain.Paired) (hs : Steady v peer arrived P w₀ c w)
    (now : Nat) :
    Steady v peer arrived P w₀ (c.process v w now).1 (c.process v w now).2 := by
  rcases hf.resolve with ⟨tenancy, chain, hresolve, hu⟩ | ⟨⟨fault, hresolve⟩, -⟩
  · rw [process_of_resolve hresolve]
    exact processFrames_steady hu (hs.resolve hpaired hf.peer hresolve)
  · simp only [process, Connection.resolve, hresolve]
    exact (hs.shutdown _).discard

/-- What the CONNECT has brought is used from then on, and the tenancy stays. -/
theorem takeOutcome_steady (hf : Followed v peer origin True arrived c w h)
    (hpaired : c.chain.Paired) (hs : Steady v peer arrived P w₀ c w)
    (hsome : c.connecting.isSome = true) (now : Nat)
    (outcome : Except Failure Established)
    (horigin : ∀ e, outcome = .ok e → origin e)
    (hbrought : ∀ e, outcome = .ok e → ∀ client, e.bridge.client = some client →
      P client) :
    Steady v peer arrived P w₀ (c.takeOutcome v w now outcome).1
      (c.takeOutcome v w now outcome).2 := by
  have hf' := hf.complete hsome now outcome fun _ => horigin
  have hs' : Steady v peer arrived P w₀
      { c with
          session := (c.session.complete v.transport w now outcome).1
          connecting := none }
      (c.session.complete v.transport w now outcome).2 :=
    { toPinned := hs.of_tenancy rfl rfl fun _ hnone => by cases hnone
      conducts :=
        (Session.complete_conducts hs.conducts.minds w now hbrought).after
          hs.conducts.deals }
  unfold takeOutcome
  dsimp only
  split
  · exact hs'
  · exact process_steady hf' hpaired hs' now

/-- The id of the tenant that a connection acts for. -/
theorem tenantId_eq {info : TenantInfo} (hinfo : c.tenant = some info) :
    (c.chain.tenancy.map Tenancy.tenantId).getD "" = info.id := by
  obtain ⟨tenancy, htenancy, hknown⟩ := Option.bind_eq_some_iff.1 hinfo
  simp [htenancy, Tenancy.tenantId, hknown]

/-- What comes of a CONNECT if it is worked out now, and the world after
that. -/
def workOut (v : Services σ) (r : Connection × World σ) (request : Connect) :
    Except Failure Established × World σ :=
  establish v.transport r.2 ((r.1.chain.tenancy.map Tenancy.tenantId).getD "")
    v.session.maxKeepAlive r.1.session.connectionId request

/-- A device that is admitted gets a client from the backend, and nothing is
asked of the backend for one that is not. -/
theorem workOut_backend (v : Services σ) (r : Connection × World σ)
    (request : Connect) :
    let tenantId := (r.1.chain.tenancy.map Tenancy.tenantId).getD ""
    let identity :=
      Identity.authenticate request.deviceId.text request.username
        request.password
    (workOut v r request).2.backend =
      if identity.authenticated = true then
        (v.transport.connect r.2.backend tenantId identity).2
      else r.2.backend := by
  intro tenantId identity
  unfold workOut establish
  dsimp only
  split
  · unfold World.openBridge
    generalize v.transport.connect r.2.backend _ _ = out
    obtain ⟨result, backend⟩ := out
    cases result <;> rfl
  · rfl

/-- The world in which the session acts at a turn: a CONNECT is worked out
before, and what others have done was done before. -/
def Turn.opened (v : Services σ) (r : Connection × World σ) : Turn σ → World σ
  | .event _ .connectReady =>
    r.1.connecting.elim r.2 fun request => (workOut v r request).2
  | .elsewhere backend => { r.2 with backend }
  | _ => r.2

/-- Of the world only the backend is changed before the session acts. -/
theorem opened_world (v : Services σ) (r : Connection × World σ) (x : Turn σ) :
    ∃ backend, x.opened v r = { r.2 with backend } := by
  cases x with
  | event now event =>
    cases event with
    | connectReady =>
      simp only [Turn.opened]
      cases r.1.connecting with
      | none => exact ⟨r.2.backend, rfl⟩
      | some request => exact establish_world v.transport r.2 _ _ _ request
    | _ => exact ⟨r.2.backend, rfl⟩
  | elsewhere backend => exact ⟨backend, rfl⟩
  | _ => exact ⟨r.2.backend, rfl⟩

private theorem completeConnect_steady
    (hf : Followed v peer (fun _ => True) True arrived c w h)
    (hpaired : c.chain.Paired)
    (hs : ∀ w', Steady v peer arrived P w' c w') {request : Connect}
    (hrequest : c.connecting = some request) (now : Nat)
    (hbrought : ∀ e, Binds v (c, w) (.event now .connectReady) e →
      ∀ client, e.bridge.client = some client → P client) :
    Steady v peer arrived P (workOut v (c, w) request).2
      (c.completeConnect v w now request).1
      (c.completeConnect v w now request).2 := by
  obtain ⟨backend, hworld⟩ := establish_world v.transport w
    ((c.chain.tenancy.map Tenancy.tenantId).getD "") v.session.maxKeepAlive
    c.session.connectionId request
  have hf' : Followed v peer (fun _ => True) True arrived c { w with backend }
      { h with world := { w with backend } } := hf.aside rfl rfl
  simp only [workOut, completeConnect]
  rw [hworld]
  exact takeOutcome_steady hf' hpaired (hs _) (by rw [hrequest]; rfl) now _
    (fun _ _ => trivial) fun e he =>
      hbrought e (binds_of_establish hrequest he now)

/-- Whatever comes next, the tenancy stays that of the stream, and what the
session does it does with clients that it has had or that the CONNECT has
brought. -/
theorem turn_steady (hf : Followed v peer (fun _ => True) True arrived c w h)
    (hpaired : c.chain.Paired) (hp : Pinned v peer arrived c)
    (hminds : c.session.Minds v.session P (· ∈ v.packets peer arrived))
    (x : Turn σ)
    (hbrought : ∀ e, Binds v (c, w) x e → ∀ client,
      e.bridge.client = some client → P client) :
    Steady v peer (arrived ++ x.octets) P (x.opened v (c, w))
      (turn v (c, w) x).1
      (turn v (c, w) x).2 := by
  have hs : ∀ w', Steady v peer arrived P w' c w' :=
    fun w' => ⟨hp, .of_eq hminds rfl rfl⟩
  cases x with
  | event now event =>
    cases event with
    | read bytes =>
      have hf' : Followed v peer (fun _ => True) True (arrived ++ bytes)
          { c with input := c.input ++ bytes }
          (w.count fun m => m.recordBytes bytes.length) _ :=
        (hf.arrive bytes).aside rfl rfl
      have hs' : Steady v peer (arrived ++ bytes) P w
          { c with input := c.input ++ bytes }
          (w.count fun m => m.recordBytes bytes.length) :=
        ((hs w).arrive bytes).of_stages
          ((hp.arrive bytes).of_tenancy rfl rfl fun _ => id) rfl rfl rfl
      exact process_steady hf' hpaired hs' now
    | connectReady =>
      simp only [Turn.octets, List.append_nil, turn, handle, Turn.opened]
      cases hrequest : c.connecting with
      | none => exact hs w
      | some request =>
        exact completeConnect_steady hf hpaired hs hrequest now hbrought
    | keepAliveDue =>
      simp only [Turn.octets, List.append_nil]
      exact ⟨hp.of_tenancy rfl rfl fun _ => id,
        Session.checkKeepAlive_conducts hminds w now⟩
    | sessionClosed =>
      simp only [Turn.octets, List.append_nil]
      exact (hs w).finish
    | gatewayShutdown =>
      simp only [Turn.octets, List.append_nil]
      exact ((hs w).shutdown none).finish
    | hungUp =>
      simp only [Turn.octets, List.append_nil]
      exact ((hs w).shutdown none).finish
    | readFailed text =>
      simp only [Turn.octets, List.append_nil]
      exact ((hs w).shutdown _).finish
  | outcome now outcome =>
    simp only [Turn.octets, List.append_nil, turn, Turn.opened]
    split
    · next hsome =>
      exact takeOutcome_steady hf hpaired (hs w) hsome now outcome
        (fun _ _ => trivial) fun e he => hbrought e ⟨hsome, he⟩
    · exact hs w
  | arrive bytes =>
    exact ((hs w).arrive bytes).of_stages
      ((hp.arrive bytes).of_tenancy rfl rfl fun _ => id) rfl rfl rfl
  | resolve =>
    simp only [Turn.octets, List.append_nil, turn, Turn.opened,
      Connection.resolve]
    cases hresolve : c.chain.resolve v.table v.maxMessageSize c.peer with
    | error fault => exact (hs w).shutdown _
    | ok resolved => exact (hs w).resolve hpaired hf.peer hresolve
  | round now =>
    simp only [Turn.octets, List.append_nil, turn, Turn.opened,
      Connection.resolve]
    rcases hf.resolve with ⟨tenancy, chain, hresolve, hu⟩ |
      ⟨⟨fault, hresolve⟩, -⟩
    · rw [hresolve]
      exact round_steady hu ((hs w).resolve hpaired hf.peer hresolve) now
    · rw [hresolve]
      exact ((hs w).shutdown _).discard
  | elsewhere backend =>
    simp only [Turn.octets, List.append_nil]
    exact hs _

end Connection

end DeviceGateway
