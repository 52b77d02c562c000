import DeviceGateway.Proofs.Session.Loyalty
import Mathlib.Logic.Relation

/-!
# What a session uses

A session acts on the backend through clients, and only through those that its
bridges lead to; what it hands to a client is a message made of a packet that it
was handed itself.  So if something is known of the clients that a session is
given and of the packets that come to it, it is known of every use that the
session makes of the backend, and the session has no part in what it is.

`Use` is one use of a client together with what is written down of it, and
`Deals` is what a session has done between two worlds when it used clients of
one kind for packets of one kind.  `Minds` says that it has no others at hand.

## Main results

* `receive_conducts`, `complete_conducts`: what a session minds it deals with,
  and it goes on minding it.
-/

namespace DeviceGateway

open Relation (ReflTransGen)

/-- One use of a client of some kind, and what was handed over so far.  A
message is made of a packet of some kind, and it is written down with what the
client answers. -/
inductive Backend.Transport.Use {σ : Type} (t : Backend.Transport σ)
    (setup : SessionSetup) (P : Backend.Client → Prop) (G : DataPacket → Prop) :
    σ × List Offer → σ × List Offer → Prop
  | send {b offers client p} (hclient : P client) (hp : G p) :
    Use t setup P G (b, offers) ((t.send b client (setup.message p)).2,
      offers ++
        [⟨client, p.deviceId, setup.message p,
          (t.send b client (setup.message p)).1⟩])
  | close {b offers client} (hclient : P client) :
    Use t setup P G (b, offers) (t.close b client, offers)

namespace Backend.Transport

variable {σ : Type} {t : Backend.Transport σ} {setup : SessionSetup}
  {P : Backend.Client → Prop} {G G' : DataPacket → Prop} {x y : σ × List Offer}

theorem Use.mono (hpacket : ∀ p, G p → G' p) (h : t.Use setup P G x y) :
    t.Use setup P G' x y := by
  cases h with
  | send hclient hp => exact .send hclient (hpacket _ hp)
  | close hclient => exact .close hclient

/-- What was handed over meanwhile went to clients of this kind and was made of
packets of this kind. -/
theorem uses_offers (h : ReflTransGen (t.Use setup P G) x y) :
    ∀ o ∈ y.2, o ∈ x.2 ∨ P o.client ∧ ∃ p, G p ∧ o.letter = setup.letter p := by
  induction h with
  | refl => exact fun _ => .inl
  | tail _ hlast ih =>
    cases hlast with
    | close hclient => exact ih
    | send hclient hp =>
      intro o ho
      rcases List.mem_append.1 ho with hold | hnew
      · exact ih o hold
      · rw [List.mem_singleton.1 hnew]
        exact .inr ⟨hclient, _, hp, rfl⟩

end Backend.Transport

/-- Between two worlds clients of one kind were used, and what was handed to
them was made of packets of one kind. -/
def World.Deals {σ : Type} (t : Backend.Transport σ) (setup : SessionSetup)
    (P : Backend.Client → Prop) (G : DataPacket → Prop) (w w' : World σ) :
    Prop :=
  ReflTransGen (t.Use setup P G) (w.backend, w.offers) (w'.backend, w'.offers)

namespace Session

variable {σ : Type} {t : Backend.Transport σ} {setup : SessionSetup}
  {P : Backend.Client → Prop} {G : DataPacket → Prop} {s s' : Session}
  {w w' w'' : World σ}

/-- The bridge and the packets of a session are of some kind. -/
structure Minds (setup : SessionSetup) (P : Backend.Client → Prop)
    (G : DataPacket → Prop) (s : Session) : Prop where
  setup : s.setup = setup
  client : ∀ bridge, s.bridge = some bridge → ∀ client,
    bridge.client = some client → P client
  pending : ∀ p ∈ s.pending, G p
  held : ∀ p, s.held = some p → G p

/-- What is done by a session that goes on minding what it deals with. -/
structure Conducts (t : Backend.Transport σ) (setup : SessionSetup)
    (P : Backend.Client → Prop) (G : DataPacket → Prop) (w : World σ)
    (out : Session × World σ) : Prop where
  minds : out.1.Minds setup P G
  deals : w.Deals t setup P G out.2

theorem Minds.mono {P' : Backend.Client → Prop} {G' : DataPacket → Prop}
    (h : s.Minds setup P G) (hclient : ∀ client, P client → P' client)
    (hpacket : ∀ p, G p → G' p) : s.Minds setup P' G' where
  setup := h.setup
  client bridge hbridge client hsome :=
    hclient client (h.client bridge hbridge client hsome)
  pending p hp := hpacket p (h.pending p hp)
  held p hp := hpacket p (h.held p hp)

theorem Conducts.mono {G' : DataPacket → Prop} {out : Session × World σ}
    (h : Conducts t setup P G w out) (hpacket : ∀ p, G p → G' p) :
    Conducts t setup P G' w out where
  minds := h.minds.mono (fun _ => id) hpacket
  deals := ReflTransGen.mono (fun _ _ huse => huse.mono hpacket) _ _ h.deals

/-! ## Worlds -/

theorem deals_of_eq (hbackend : w'.backend = w.backend)
    (hoffers : w'.offers = w.offers) :
    w.Deals t setup P G w' := by
  rw [World.Deals, hbackend, hoffers]

theorem deals_trans (h : w.Deals t setup P G w')
    (h' : w'.Deals t setup P G w'') :
    w.Deals t setup P G w'' :=
  ReflTransGen.trans h h'

theorem Conducts.of_eq (h : s.Minds setup P G)
    (hbackend : w'.backend = w.backend) (hoffers : w'.offers = w.offers) :
    Conducts t setup P G w (s, w') :=
  ⟨h, deals_of_eq hbackend hoffers⟩

theorem Conducts.after {out : Session × World σ}
    (h : Conducts t setup P G w' out) (hdeals : w.Deals t setup P G w') :
    Conducts t setup P G w out :=
  ⟨h.minds, deals_trans hdeals h.deals⟩

theorem backend_releaseAll (w : World σ) (ps : List DataPacket) :
    (w.releaseAll ps).backend = w.backend := by
  unfold World.releaseAll
  induction ps generalizing w with
  | nil => rfl
  | cons p ps ih => exact ih (w.release p)

/-- A bridge is put away through its own client. -/
theorem dispose_deals (w : World σ) (bridge : Bridge)
    (h : ∀ client, bridge.client = some client → P client)
    (cause : Option Failure) :
    w.Deals t setup P G (w.dispose t bridge cause).2 := by
  obtain ⟨client, disposed⟩ := bridge
  cases disposed with
  | true => exact deals_of_eq rfl (by simp)
  | false =>
    cases client with
    | none => exact deals_of_eq rfl (by simp)
    | some client =>
      have hoffers : (w.dispose t ⟨some client, false⟩ cause).2.offers =
          w.offers := by simp
      rw [World.Deals, hoffers]
      exact .single (.close (h client rfl))

/-- A packet is handed over as a message that is made of it. -/
theorem send_deals (t : Backend.Transport σ) (setup : SessionSetup)
    (w : World σ) {client : Backend.Client} (hclient : P client)
    {p : DataPacket} (hp : G p) :
    w.Deals t setup P G (w.send t client p.deviceId (setup.message p)).2 := by
  have hoffers : (w.send t client p.deviceId (setup.message p)).2.offers =
      w.offers ++
      [⟨client, p.deviceId, setup.message p,
        (t.send w.backend client (setup.message p)).1⟩] :=
    World.view_send Happening.offer?
  rw [World.Deals, hoffers]
  exact .single (.send hclient hp)

/-! ## Closing and relaying -/

private theorem ended_minds (h : s.Minds setup P G) :
    s.ended.Minds setup P G where
  setup := h.setup
  client _ hnone := by cases hnone
  pending _ hp := absurd hp List.not_mem_nil
  held _ hnone := by cases hnone

theorem shutdown_conducts (h : s.Minds setup P G) (w : World σ)
    (cause : Option Failure) :
    Conducts t setup P G w (s.shutdown t w cause) := by
  cases hclosed : s.flags.closed with
  | true =>
    rw [shutdown_of_closed t hclosed]
    exact .of_eq h rfl (by simp)
  | false =>
    refine ⟨shutdown_of_open t hclosed w cause ▸ ended_minds h, ?_⟩
    simp only [shutdown, hclosed, Bool.false_eq_true, if_false]
    have hgiven :
      w.Deals t setup P G (World.releaseAll ((w.ask cause).count fun m =>
        m.recordShutdown ((s.told cause).map Failure.code))
          (s.pending ++ s.held.toList)) :=
      deals_of_eq (by rw [backend_releaseAll]; rfl) (by simp)
    refine deals_trans hgiven ?_
    cases hbridge : s.bridge with
    | none => exact deals_of_eq rfl rfl
    | some bridge => exact dispose_deals _ bridge (h.client bridge hbridge) _

theorem relay_conducts (h : s.Minds setup P G) (w : World σ) {p : DataPacket}
    (hp : G p) :
    Conducts t setup P G w (s.relay t w p) := by
  have hreleased : w.Deals t setup P G (w.release p) := deals_of_eq rfl rfl
  cases hclosed : s.flags.closed with
  | true =>
    rw [relay_of_closed t hclosed]
    exact ⟨h, hreleased⟩
  | false =>
    have hcase := relayed t hclosed w p
    generalize s.relay t w p = out at hcase
    obtain rfl := h.setup
    cases hcase with
    | stranger bound hbound hid =>
      have hmarked : { s with flags := s.flags.markMisconfigured }.Minds
          s.setup P G :=
        ⟨rfl, h.client, h.pending, h.held⟩
      exact (shutdown_conducts hmarked _ _).after hreleased
    | bridgeless hown hbridge => exact ⟨h, hreleased⟩
    | unserved hown bridge hbridge hclient =>
      exact (shutdown_conducts h _ _).after hreleased
    | accepted hown bridge hbridge client hclient u hsend =>
      have hsent :=
        send_deals t s.setup w (h.client bridge hbridge client hclient) hp
      exact ⟨h, deals_trans hsent (deals_of_eq rfl rfl)⟩
    | refused hown bridge hbridge client hclient fault hsend =>
      have hsent :=
        send_deals t s.setup w (h.client bridge hbridge client hclient) hp
      exact (shutdown_conducts h _ _).after
        (deals_trans hsent (deals_of_eq rfl rfl))

theorem checkKeepAlive_conducts (h : s.Minds setup P G) (w : World σ)
    (now : Nat) :
    Conducts t setup P G w (s.checkKeepAlive t w now) := by
  have hdeadline : ∀ deadline, { s with deadline }.Minds setup P G :=
    fun _ => ⟨h.setup, h.client, h.pending, h.held⟩
  have hcase := checked t s w now
  generalize s.checkKeepAlive t w now = out at hcase
  cases hcase with
  | unsupervised hquiet => exact .of_eq (hdeadline none) rfl rfl
  | silent hopen hpos hlate => exact shutdown_conducts (hdeadline none) _ _
  | timely hopen hpos htimely => exact .of_eq (hdeadline _) rfl rfl

private theorem supervise_conducts (h : s.Minds setup P G) (w : World σ)
    (now : Nat) :
    Conducts t setup P G w (s.supervise t w now) := by
  unfold supervise
  split
  · exact .of_eq h rfl rfl
  · exact checkKeepAlive_conducts h w now

/-! ## Parcels -/

theorem receive_conducts (h : s.Minds setup P G) (w : World σ) (now : Nat)
    {parcel : Parcel} (hparcel : ∀ p, parcel.data = some p → G p) :
    Conducts t setup P G w (s.receive t w now parcel).2 := by
  have hheard : (s.heard now).Minds setup P G :=
    ⟨h.setup, h.client, h.pending, h.held⟩
  have hcase := received t s w now parcel
  generalize s.receive t w now parcel = out at hcase
  cases hcase with
  | dropped hclosed => exact .of_eq h (backend_releaseAll _ _) (by simp)
  | empty hopen hdata hconnect => exact .of_eq hheard rfl rfl
  | begun hopen hphase request hconnect =>
    exact .of_eq ⟨h.setup, h.client, h.pending, hparcel⟩ rfl rfl
  | unexpected hopen hphase hconnect p hdata =>
    exact (shutdown_conducts hheard (w.release p) _).after (deals_of_eq rfl rfl)
  | queued hopen hphase p hdata =>
    refine .of_eq ⟨h.setup, h.client, fun q hq => ?_, h.held⟩ rfl rfl
    have hmem : q ∈ s.pending ++ [p] := hq
    rcases List.mem_append.1 hmem with hbefore | hlast
    · exact h.pending q hbefore
    · exact List.mem_singleton.1 hlast ▸ hparcel p hdata
  | live hopen hphase p hdata => exact relay_conducts hheard w (hparcel p hdata)

/-! ## Outcomes -/

private theorem relayPending_conducts (count : Nat) (h : s.Minds setup P G)
    (w : World σ) :
    Conducts t setup P G w (relayPending t count s w) := by
  induction count generalizing s w with
  | zero => exact .of_eq h rfl rfl
  | succ count ih =>
    unfold relayPending
    split
    · exact .of_eq h rfl rfl
    · next p rest hcons =>
      have hrest : { s with pending := rest }.Minds setup P G :=
        ⟨h.setup, h.client, fun q hq => h.pending q
          (hcons ▸ List.mem_cons_of_mem p hq), h.held⟩
      have hrelayed :=
        relay_conducts (t := t) hrest w (h.pending p (by simp [hcons]))
      exact (ih hrelayed.minds _).after hrelayed.deals

private theorem relayHeld_conducts (h : s.Minds setup P G) (w : World σ) :
    Conducts t setup P G w (s.relayHeld t w) := by
  unfold relayHeld
  split
  · exact .of_eq h rfl rfl
  · next p hp =>
    have hunheld : { s with held := none }.Minds setup P G :=
      ⟨h.setup, h.client, h.pending, fun _ hnone => by cases hnone⟩
    dsimp only
    split
    · exact .of_eq hunheld rfl rfl
    · exact relay_conducts hunheld w (h.held p hp)

/-- What the CONNECT has brought is used from then on, and put away at once if
it comes too late. -/
theorem complete_conducts (h : s.Minds setup P G) (w : World σ) (now : Nat)
    {outcome : Except Failure Established}
    (hbrought : ∀ e, outcome = .ok e → ∀ client, e.bridge.client = some client →
      P client) :
    Conducts t setup P G w (s.complete t w now outcome) := by
  cases outcome with
  | error failure =>
    exact (shutdown_conducts h (w.count _) _).after (deals_of_eq rfl rfl)
  | ok e =>
    have hclient := hbrought e rfl
    cases hclosed : s.flags.closed with
    | true =>
      rw [complete_of_closed t hclosed]
      exact ⟨h, dispose_deals w e.bridge hclient none⟩
    | false =>
      rw [complete_of_open t hclosed]
      have hbound : (s.bind e).Minds setup P G :=
        ⟨h.setup, fun bridge hbridge => Option.some.inj hbridge ▸ hclient,
          h.pending, h.held⟩
      have hcounted :
          w.Deals t setup P G (w.count fun m => m.recordConnect none) :=
        deals_of_eq rfl rfl
      have hsupervised := supervise_conducts (t := t) hbound
        (w.count fun m => m.recordConnect none) now
      have hdrained := relayPending_conducts (t := t)
        ((s.bind e).supervise t
          (w.count fun m => m.recordConnect none) now).1.pending.length
        hsupervised.minds
        ((s.bind e).supervise t (w.count fun m => m.recordConnect none) now).2
      exact (relayHeld_conducts hdrained.minds _).after
        (deals_trans hcounted (deals_trans hsupervised.deals hdrained.deals))

end Session

end DeviceGateway
