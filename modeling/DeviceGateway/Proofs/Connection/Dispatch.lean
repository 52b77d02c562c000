import DeviceGateway.Proofs.Backend.Routing
import DeviceGateway.Proofs.Connection.Pinning

/-!
# Where messages go

A connection makes its client at the backend of its tenant and hands everything
it has to say to this client.  So what it says goes to the backend that was set
up for its tenant, or to the shared one if there is none, and no other backend
hears of it, whatever tenants later lines name.

Others use the same backends meanwhile, and a CONNECT need not have its outcome
at once: it may be worked out at one time and be taken in at a later one, with
frames being read in between.  `Abides` is what is known of such turns.  The
argument is that of something made once and lasting: the tenant is kept
(`Lasts`), clients stay where they were made, so a client that was made at the
route of the tenant is at it when it is used.

## Main results

* `course_dealt`: what a connection deals in is of its stream and its tenant.
* `turn_served`, `course_served`: it uses clients at the route of its tenant
  only.
* `course_tenant`: whom a connection belongs to, and what follows from it.
-/

namespace DeviceGateway

open Wire (Frame)
open Relation (ReflTransGen)

namespace Backend.Routed

variable {σ : Type} {t : Transport σ} {setup : SessionSetup} {P : Client → Prop}
  {G : DataPacket → Prop} {x y : Routed σ × List Offer} {route : Option String}

/-- Uses of clients at one route leave the other backends alone. -/
theorem uses_touch (h : ReflTransGen ((transport t).Use setup P G) x y)
    (hat : ∀ client, P client → x.1.At route client) :
    x.1.Touches route y.1 := by
  induction h with
  | refl => exact .refl route x.1
  | tail _ hlast ih =>
    cases hlast with
    | send hclient hp =>
      exact ih.trans (send_touches ((hat _ hclient).grows ih.toGrows) _)
    | close hclient =>
      exact ih.trans (close_touches ((hat _ hclient).grows ih.toGrows))

end Backend.Routed

namespace Connection

/-! ## What a connection deals in -/

section Dealing

variable {σ : Type} {v : Services σ} {peer : Option Peer} {arrived : List UInt8}
  {P P' : Backend.Client → Prop} {r r' : Connection × World σ}

/-- What is known of a connection at any time: it follows its stream, it knows
the tenant of it, and its clients, its packets and what was handed over are of
some kind. -/
structure Dealt (v : Services σ) (peer : Option Peer) (arrived : List UInt8)
    (P : Backend.Client → Prop) (r : Connection × World σ) : Prop
    extends Pinned v peer arrived r.1 where
  followed : ∃ h, Followed v peer (fun _ => True) True arrived r.1 r.2 h
  paired : r.1.chain.Paired
  minds : r.1.session.Minds v.session P (· ∈ v.packets peer arrived)
  offers : ∀ o ∈ r.2.offers, P o.client ∧
    ∃ p ∈ v.packets peer arrived, o.letter = v.session.letter p

/-- What is known of a connection that has taken up all that it may is what the
whole of its stream says. -/
theorem Dealt.tenant_of_settled (hd : Dealt v peer arrived P r)
    (hopen : r.1.session.flags.closed = false)
    (hreading : r.1.session.flags.throttled = false) (hsettled : Settled v r.1)
    (hresolved : r.1.chain.tenancy.isSome = true) :
    r.1.tenant = v.tenant peer (v.found peer arrived) := by
  obtain ⟨h, hf⟩ := hd.followed
  obtain ⟨chain, d, tenancy, hresolve, hs, -⟩ :=
    hf.in_step_of_settled hopen hreading hsettled
  obtain ⟨known, hknown⟩ := Option.isSome_iff_exists.1 hresolved
  have hagain := Chain.resolve_of_contains (hd.paired known hknown) hknown
    v.table v.maxMessageSize r.1.peer
  obtain ⟨rfl, -⟩ := Prod.mk.inj (Except.ok.inj (hresolve.symm.trans hagain))
  rw [← v.decodeAll_info, hs.tenancy, tenant, hknown, Option.bind_some]

theorem start_dealt (v : Services σ) (connectionId : String)
    (peer : Option Peer) (now : Nat) (backend : σ) (metrics : Option Metrics)
    (P : Backend.Client → Prop) :
    Dealt v peer [] P (start v connectionId peer now, { backend, metrics })
      where
  tenancy := ⟨[], List.nil_prefix, fun _ hnone => by cases hnone⟩
  data hdata := absurd hdata (Nat.lt_irrefl 1)
  request _ hnone := by cases hnone
  followed := ⟨_, start_followed v connectionId peer now backend metrics _ _⟩
  paired _ hnone := by cases hnone
  minds :=
    { setup := rfl
      client := fun _ hnone => by cases hnone
      pending := fun _ hp => absurd hp List.not_mem_nil
      held := fun _ hnone => by cases hnone }
  offers _ ho := absurd ho List.not_mem_nil

/-- A tenant that is known is kept. -/
theorem Dealt.turn_tenant (hd : Dealt v peer arrived P r) (x : Turn σ)
    {info : TenantInfo} (hinfo : r.1.tenant = some info) :
    (turn v r x).1.tenant = some info :=
  moves_tenant (turn_moves v r x) hd.paired hinfo

theorem course_concat (v : Services σ) (first : Connection × World σ)
    (turns : List (Turn σ)) (x : Turn σ) :
    course v first (turns ++ [x]) = turn v (course v first turns) x := by
  rw [course, List.foldl_append]
  rfl

/-- A CONNECT brings nothing before the tenant is known. -/
theorem Dealt.tenant_of_binds (hd : Dealt v peer arrived P r) {x : Turn σ}
    {e : Established} (hbinds : Binds v r x e) :
    ∃ info, r.1.tenant = some info := by
  have hrequest : ∃ request, r.1.connecting = some request := by
    cases x with
    | event now event =>
      cases event with
      | connectReady =>
        obtain ⟨request, -, hrequest, -⟩ := hbinds
        exact ⟨request, hrequest⟩
      | _ => exact hbinds.elim
    | outcome now outcome => exact Option.isSome_iff_exists.1 hbinds.1
    | _ => exact hbinds.elim
  obtain ⟨request, hrequest⟩ := hrequest
  obtain ⟨info, hinfo, -⟩ := hd.request request hrequest
  exact ⟨info, hinfo⟩

theorem Dealt.mono (hd : Dealt v peer arrived P r)
    (hclient : ∀ client, P client → P' client) :
    Dealt v peer arrived P' r :=
  { hd with
    minds := hd.minds.mono hclient fun _ => id
    offers := fun o ho => (hd.offers o ho).imp_left (hclient o.client) }

/-- A turn deals in clients that were known before or that its CONNECT has
brought. -/
theorem turn_dealt (hd : Dealt v peer arrived P r) (x : Turn σ)
    (hkept : ∀ client, P client → P' client)
    (hbrought : ∀ e, Binds v r x e → ∀ client, e.bridge.client = some client →
      P' client) :
    Dealt v peer (arrived ++ x.octets) P' (turn v r x) ∧
      (x.opened v r).Deals v.transport v.session P'
        (· ∈ v.packets peer (arrived ++ x.octets))
        (turn v r x).2 := by
  obtain ⟨c, w⟩ := r
  obtain ⟨h, hf⟩ := hd.followed
  obtain ⟨h', hf'⟩ :=
    turn_followed hf x (fun _ => trivial) (.inl trivial) fun _ _ _ => trivial
  have hs := turn_steady hf hd.paired hd.toPinned
    (hd.minds.mono hkept fun _ => id) x hbrought
  have hopened : (x.opened v (c, w)).offers = w.offers := by
    obtain ⟨backend, hworld⟩ := opened_world v (c, w) x
    rw [hworld]
    rfl
  refine ⟨{ hs.toPinned with
    followed := ⟨h', hf'⟩
    paired := moves_paired (turn_moves v _ x) hd.paired
    minds := hs.conducts.minds
    offers := fun o ho => ?_ }, hs.conducts.deals⟩
  rcases Backend.Transport.uses_offers hs.conducts.deals o ho with
    hbefore | hnew
  · rw [hopened] at hbefore
    obtain ⟨hclient, p, hp, hletter⟩ := hd.offers o hbefore
    exact ⟨hkept _ hclient, p, (Services.packets_isPrefix arrived _).subset hp,
      hletter⟩
  · exact hnew

/-- Whatever clients a connection deals in, it does so when its tenant is
known. -/
theorem course_dealt {turns : List (Turn σ)} (v : Services σ)
    (connectionId : String) (peer : Option Peer) (now : Nat) (backend : σ)
    (metrics : Option Metrics) :
    let first :=
      (start v connectionId peer now, ({ backend, metrics } : World σ))
    let r := course v first turns
    Dealt v peer (turns.flatMap Turn.octets)
      (fun _ => ∃ info, r.1.tenant = some info) r := by
  intro first
  induction turns using List.reverseRecOn with
  | nil => exact start_dealt v connectionId peer now backend metrics _
  | append_singleton turns x ih =>
    rw [List.flatMap_append, List.flatMap_singleton, course_concat]
    refine (turn_dealt ih x (fun _ => ?_) fun e hbinds _ _ => ?_).1
    · rintro ⟨info, hinfo⟩
      exact ⟨info, ih.turn_tenant x hinfo⟩
    · obtain ⟨info, hinfo⟩ := ih.tenant_of_binds hbinds
      exact ⟨info, ih.turn_tenant x hinfo⟩

end Dealing

/-! ## Backends by tenant -/

section Routing

open Backend (Routed)

variable {σ : Type} {t : Backend.Transport σ} {v : Services (Routed σ)}
  {peer : Option Peer} {arrived : List UInt8}
  {r r' r'' : Connection × World (Routed σ)}

/-- What lasts: the tenant that is known, the routes of tenants, and where
clients were made. -/
structure Lasts (r r' : Connection × World (Routed σ)) : Prop where
  tenant : ∀ info, r.1.tenant = some info → r'.1.tenant = some info
  backend : r.2.backend.Grows r'.2.backend

theorem Lasts.refl (r : Connection × World (Routed σ)) : Lasts r r :=
  ⟨fun _ => id, .refl _⟩

theorem Lasts.trans (h : Lasts r r') (h' : Lasts r' r'') : Lasts r r'' :=
  ⟨fun info hinfo => h'.tenant info (h.tenant info hinfo),
    h.backend.trans h'.backend⟩

/-- A client that is at the route of the tenant of a connection. -/
def Served (r : Connection × World (Routed σ)) (client : Backend.Client) :
    Prop :=
  ∃ info, r.1.tenant = some info ∧
    r.2.backend.At (r.2.backend.route info.id) client

theorem Served.lasts {client : Backend.Client} (h : Served r client)
    (hlasts : Lasts r r') :
    Served r' client := by
  obtain ⟨info, hinfo, hat⟩ := h
  refine ⟨info, hlasts.tenant info hinfo, ?_⟩
  rw [hlasts.backend.routes]
  exact hat.grows hlasts.backend

/-- Working a CONNECT out changes at most the backend of the tenant. -/
theorem workOut_touches (hv : v.transport = Routed.transport t)
    {info : TenantInfo} (hinfo : r.1.tenant = some info) (request : Connect) :
    r.2.backend.Touches (r.2.backend.route info.id)
      (workOut v r request).2.backend := by
  rw [workOut_backend, tenantId_eq hinfo, hv]
  split
  · exact Routed.connect_touches t r.2.backend info.id _
  · exact .refl _ _

/-- A CONNECT that succeeds brings a client at the route of the tenant. -/
theorem workOut_at (hv : v.transport = Routed.transport t) {info : TenantInfo}
    (hinfo : r.1.tenant = some info) {request : Connect}
    (hrequest : r.1.connecting = some request) {now : Nat} {e : Established}
    (hbinds : Binds v r (.event now .connectReady) e) {client : Backend.Client}
    (hclient : e.bridge.client = some client) :
    (workOut v r request).2.backend.At (r.2.backend.route info.id) client := by
  obtain ⟨request', client', hrequest', hidentity, hauthenticated, hconnect,
    hbridge⟩ := hbinds
  obtain rfl : request = request' :=
    Option.some.inj (hrequest.symm.trans hrequest')
  obtain rfl : client' = client := by
    rw [hbridge] at hclient
    exact Option.some.inj hclient
  rw [tenantId_eq hinfo, hv] at hconnect
  rw [workOut_backend, tenantId_eq hinfo, hv, ← hidentity,
    if_pos hauthenticated]
  exact Routed.connect_at hconnect

/-- What is known of others who use the backends, and of an outcome that is
taken in at a turn of its own: it was worked out at some time before. -/
def Abides (v : Services (Routed σ)) (first : Connection × World (Routed σ))
    (before : List (Turn (Routed σ))) : Turn (Routed σ) → Prop
  | .elsewhere backend => (course v first before).2.backend.Grows backend
  | .outcome _ outcome => ∀ e, outcome = .ok e → ∃ earlier later request,
      let made := workOut v (course v first earlier) request
      (course v first earlier).1.connecting = some request ∧ made.1 = .ok e ∧
        before = earlier ++ .elsewhere made.2.backend :: later
  | _ => True

/-- Before the session acts only the backend of the tenant is used, unless
others use the backends. -/
theorem Dealt.opened_cases {P : Backend.Client → Prop}
    (hd : Dealt v peer arrived P r) (hv : v.transport = Routed.transport t)
    (x : Turn (Routed σ)) :
    (x.opened v r).backend = r.2.backend ∨
      (∃ info, r.1.tenant = some info ∧
        r.2.backend.Touches (r.2.backend.route info.id)
          (x.opened v r).backend) ∨
      ∃ backend, x = .elsewhere backend := by
  cases x with
  | event now event =>
    cases event with
    | connectReady =>
      simp only [Turn.opened]
      cases hrequest : r.1.connecting with
      | none => exact .inl rfl
      | some request =>
        obtain ⟨info, hinfo, -⟩ := hd.request request hrequest
        exact .inr (.inl ⟨info, hinfo, workOut_touches hv hinfo request⟩)
    | _ => exact .inl rfl
  | elsewhere backend => exact .inr (.inr ⟨backend, rfl⟩)
  | _ => exact .inl rfl

theorem Dealt.opened_grows {P : Backend.Client → Prop}
    (hd : Dealt v peer arrived P r) (hv : v.transport = Routed.transport t)
    {x : Turn (Routed σ)}
    (helsewhere : ∀ backend, x = .elsewhere backend →
      r.2.backend.Grows backend) :
    r.2.backend.Grows (x.opened v r).backend := by
  rcases hd.opened_cases hv x with hsame | ⟨info, -, htouches⟩ | ⟨backend, rfl⟩
  · rw [hsame]
    exact .refl _
  · exact htouches.toGrows
  · exact helsewhere backend rfl

/-- Clients that a turn brings are at the route of the tenant when the session
acts. -/
def Brings (v : Services (Routed σ)) (r : Connection × World (Routed σ))
    (x : Turn (Routed σ)) :
    Prop :=
  ∀ e, Binds v r x e → ∀ client, e.bridge.client = some client →
    ∃ info, r.1.tenant = some info ∧
      (x.opened v r).backend.At (r.2.backend.route info.id) client

/-- A turn uses clients at the route of the tenant if those that it brings are
there, and without a tenant there is no client that it could use. -/
theorem turn_served (hv : v.transport = Routed.transport t)
    (hd : Dealt v peer arrived (Served r) r) (x : Turn (Routed σ))
    (hgrows : r.2.backend.Grows (x.opened v r).backend)
    (hbrings : Brings v r x) :
    Dealt v peer (arrived ++ x.octets) (Served (turn v r x)) (turn v r x) ∧
      ((turn v r x).1.tenant = none →
        (turn v r x).2.backend = (x.opened v r).backend) ∧
      ∀ info, (turn v r x).1.tenant = some info →
        (x.opened v r).backend.Touches (r.2.backend.route info.id)
          (turn v r x).2.backend := by
  have hkept : ∀ client, Served r client → ∃ info,
      (turn v r x).1.tenant = some info ∧
      (x.opened v r).backend.At (r.2.backend.route info.id) client := by
    rintro client ⟨info, hinfo, hat⟩
    exact ⟨info, hd.turn_tenant x hinfo, hat.grows hgrows⟩
  obtain ⟨hd', huses⟩ := turn_dealt hd x hkept fun e hbinds client hclient => by
    obtain ⟨info, hinfo, hat⟩ := hbrings e hbinds client hclient
    exact ⟨info, hd.turn_tenant x hinfo, hat⟩
  rw [hv] at huses
  have htouches : ∀ info, (turn v r x).1.tenant = some info →
      (x.opened v r).backend.Touches (r.2.backend.route info.id)
        (turn v r x).2.backend := by
    intro info hinfo
    refine Routed.uses_touch huses ?_
    rintro client ⟨info', hinfo', hat⟩
    obtain rfl : info' = info := Option.some.inj (hinfo'.symm.trans hinfo)
    exact hat
  refine ⟨hd'.mono ?_, fun hnone => ?_, htouches⟩
  · rintro client ⟨info, hinfo, hat⟩
    have hlater := (htouches info hinfo).toGrows
    refine ⟨info, hinfo, ?_⟩
    rw [hlater.routes, hgrows.routes]
    exact hat.grows hlater
  · have hunused : ∀ client, ¬ ∃ info, (turn v r x).1.tenant = some info ∧
        (x.opened v r).backend.At (r.2.backend.route info.id) client := by
      rintro client ⟨info, hinfo, -⟩
      rw [hnone] at hinfo
      cases hinfo
    rcases huses.cases_head with hsame | ⟨b, huse, -⟩
    · exact (congrArg Prod.fst hsame).symm
    · cases huse with
      | send hclient m => exact absurd hclient (hunused _)
      | close hclient => exact absurd hclient (hunused _)

/-- Unless others use the backends, a turn leaves alone all but the one of the
tenant. -/
theorem turn_touches (hv : v.transport = Routed.transport t)
    (hd : Dealt v peer arrived (Served r) r) {x : Turn (Routed σ)}
    (hx : ∀ backend, x ≠ .elsewhere backend)
    (hbrings : Brings v r x) :
    ((turn v r x).1.tenant = none → (turn v r x).2.backend = r.2.backend) ∧
      ∀ info, (turn v r x).1.tenant = some info →
        r.2.backend.Touches (r.2.backend.route info.id)
          (turn v r x).2.backend := by
  have hgrows := hd.opened_grows hv fun backend helsewhere =>
    absurd helsewhere (hx backend)
  obtain ⟨-, hnone, hsome⟩ := turn_served hv hd x hgrows hbrings
  rcases hd.opened_cases hv x with hsame | ⟨info, hinfo, htouches⟩ |
    ⟨backend, helsewhere⟩
  · rw [hsame] at hnone hsome
    exact ⟨hnone, hsome⟩
  · have hkept := hd.turn_tenant x hinfo
    refine ⟨fun hunknown => ?_, fun info' hinfo' => ?_⟩
    · rw [hkept] at hunknown
      cases hunknown
    · obtain rfl : info = info' := Option.some.inj (hkept.symm.trans hinfo')
      exact htouches.trans (hsome info hinfo')
  · exact absurd helsewhere (hx backend)

/-- What a CONNECT brings is a client at the route of the tenant, whether it is
taken in when it is worked out or later: the client was there when it was made,
and that lasts. -/
theorem course_brings (hv : v.transport = Routed.transport t)
    {first : Connection × World (Routed σ)} {turns : List (Turn (Routed σ))}
    (hdealt : ∀ turns, ∃ arrived P,
      Dealt v peer arrived P (course v first turns))
    (hlasts : ∀ earlier later, turns = earlier ++ later →
      Lasts (course v first earlier) (course v first turns))
    {x : Turn (Routed σ)} (habides : Abides v first turns x) :
    Brings v (course v first turns) x := by
  intro e hbinds client hclient
  have hknown : ∀ turns {x : Turn (Routed σ)} {e : Established},
      Binds v (course v first turns) x e →
      ∃ info, (course v first turns).1.tenant = some info := by
    intro turns x e hbinds
    obtain ⟨arrived, P, hd⟩ := hdealt turns
    exact hd.tenant_of_binds hbinds
  cases x with
  | event now' event =>
    cases event with
    | connectReady =>
      obtain ⟨info, hinfo⟩ := hknown turns hbinds
      obtain ⟨request, -, hrequest, -⟩ := id hbinds
      refine ⟨info, hinfo, ?_⟩
      simp only [Turn.opened, hrequest, Option.elim_some]
      exact workOut_at hv hinfo hrequest hbinds hclient
    | _ => exact hbinds.elim
  | outcome now' outcome =>
    obtain ⟨-, rfl⟩ := hbinds
    obtain ⟨earlier, later, request, hrequest, hok, hbefore⟩ := habides e rfl
    have hearlier := binds_of_establish hrequest hok now'
    obtain ⟨info, hinfo⟩ := hknown earlier hearlier
    have hat := workOut_at hv hinfo hrequest hearlier hclient
    generalize hmade : workOut v (course v first earlier) request = made at *
    have hserved : Served
        (course v first (earlier ++ [.elsewhere made.2.backend])) client := by
      have hroutes := (workOut_touches hv hinfo request).routes info.id
      rw [hmade] at hroutes
      rw [course_concat]
      exact ⟨info, hinfo, hroutes.symm ▸ hat⟩
    exact hserved.lasts (hlasts _ later (by simp [hbefore]))
  | _ => exact hbinds.elim

/-- A connection uses clients at the route of its tenant only, and what it
relies on lasts.  An outcome that is taken in looks back at a front of the
course, so what lasts is said of all fronts. -/
theorem course_served (hv : v.transport = Routed.transport t)
    (connectionId : String) (peer : Option Peer) (now : Nat)
    (backend : Routed σ) (metrics : Option Metrics)
    {turns : List (Turn (Routed σ))} {first : Connection × World (Routed σ)}
    (hfirst : first = (start v connectionId peer now, { backend, metrics }))
    (hdealt : ∀ turns, ∃ arrived P,
      Dealt v peer arrived P (course v first turns))
    (habides : ∀ before x after, turns = before ++ x :: after →
      Abides v first before x) :
    let r := course v first turns
    Dealt v peer (turns.flatMap Turn.octets) (Served r) r ∧
      ∀ earlier later, turns = earlier ++ later →
        Lasts (course v first earlier) r := by
  induction turns using List.reverseRecOn with
  | nil =>
    refine ⟨?_, fun earlier later hsplit => ?_⟩
    · rw [hfirst]
      exact start_dealt v connectionId peer now backend metrics _
    · obtain ⟨rfl, rfl⟩ := List.append_eq_nil_iff.1 hsplit.symm
      exact .refl _
  | append_singleton turns x ih =>
    obtain ⟨hd, hlasts⟩ := ih fun before y after hsplit =>
      habides before y (after ++ [x]) (by simp [hsplit])
    have habide := habides turns x [] rfl
    have hgrows : (course v first turns).2.backend.Grows
        (x.opened v (course v first turns)).backend := by
      refine hd.opened_grows hv fun b hx => ?_
      rw [hx] at habide
      exact habide
    obtain ⟨hd', hnone, hsome⟩ := turn_served hv hd x hgrows
      (course_brings hv hdealt hlasts habide)
    have hstep : Lasts (course v first turns)
        (turn v (course v first turns) x) := by
      refine ⟨fun info => hd.turn_tenant x, hgrows.trans ?_⟩
      cases htenant : (turn v (course v first turns) x).1.tenant with
      | none =>
        rw [hnone htenant]
        exact .refl _
      | some info => exact (hsome info htenant).toGrows
    rw [List.flatMap_append, List.flatMap_singleton, course_concat]
    refine ⟨hd', fun earlier later hsplit => ?_⟩
    rcases later.eq_nil_or_concat with rfl | ⟨later, y, rfl⟩
    · rw [List.append_nil] at hsplit
      rw [← hsplit, course_concat]
      exact .refl _
    · rw [List.concat_eq_append, ← List.append_assoc] at hsplit
      exact (hlasts earlier later (List.append_inj_left' hsplit rfl)).trans
        hstep

end Routing

/-- A connection is of the tenant that its stream says.  It knows it once it has
read any data, and keeps it.  The CONNECT, the addresses and the client of the
connection are made with this tenant.  Behind backends by tenant, whoever else
uses them, it hands messages to clients at the route of its tenant only, and
leaves all other backends alone. -/
theorem course_tenant (σ : Type) :
    (∀ (v : Services σ) (connectionId : String) (peer : Option Peer)
      (now : Nat) (backend : σ) (metrics : Option Metrics)
      (turns : List (Turn σ)),
      let first :=
        (start v connectionId peer now, ({ backend, metrics } : World σ))
      let stream := turns.flatMap Turn.octets
      let os := v.found peer stream
      let r := course v first turns
      (∀ info, r.1.tenant = some info → v.tenant peer os = some info ∧
        ∀ more, (course v r more).1.tenant = some info) ∧
      (1 < r.1.topic.next → ∃ info, r.1.tenant = some info) ∧
      ((∀ bytes, .arrive bytes ∉ turns) → r.1.session.flags.closed = false →
        r.1.session.flags.throttled = false → r.1.chain.tenancy.isSome = true →
        r.1.tenant = v.tenant peer os) ∧
      (∀ request, r.1.connecting = some request → ∃ info,
        r.1.tenant = some info ∧
        v.Presents peer stream info request ∧ ∀ now,
          let made := establish v.transport r.2 info.id v.session.maxKeepAlive
            r.1.session.connectionId request
          turn v r (.event now .connectReady) =
            r.1.takeOutcome v made.2 now made.1) ∧
      (∀ p ∈ v.packets peer stream, ∃ info, v.tenant peer os = some info ∧
        v.Addressed os info p) ∧
      (∀ p, p ∈ r.1.session.pending ∨ r.1.session.held = some p →
        p ∈ v.packets peer stream) ∧
      (∀ o ∈ r.2.offers, ∃ info p, r.1.tenant = some info ∧
        p ∈ v.packets peer stream ∧
        o.letter = v.session.letter p ∧ v.Addressed os info p)) ∧
    (∀ (t : Backend.Transport σ) (table : TenantTable) (maxMessageSize : Nat)
      (topic : TopicSetup) (session : SessionSetup) (connectionId : String)
      (peer : Option Peer)
      (now : Nat) (backend : Backend.Routed σ) (metrics : Option Metrics)
      (turns : List (Turn (Backend.Routed σ))),
      let v : Services (Backend.Routed σ) :=
        ⟨Backend.Routed.transport t, table, maxMessageSize, topic, session⟩
      let first :=
        (start v connectionId peer now, ({ backend, metrics } : World _))
      let r := course v first turns
      (∀ before x after, turns = before ++ x :: after →
        Abides v first before x) →
      (∀ o ∈ r.2.offers, ∃ info, r.1.tenant = some info ∧
        r.2.backend.At (backend.route info.id) o.client) ∧
      ∀ x, Abides v first turns x → (∀ b, x ≠ .elsewhere b) →
        let r' := turn v r x
        (r'.1.tenant = none → r'.2.backend = r.2.backend) ∧
        ∀ info, r'.1.tenant = some info →
          r.2.backend.Touches (backend.route info.id) r'.2.backend) := by
  constructor
  · intro v connectionId peer now backend metrics turns first stream os r
    have hd : Dealt v peer stream (fun _ => ∃ info, r.1.tenant = some info) r :=
      course_dealt v connectionId peer now backend metrics
    refine ⟨fun info hinfo => ⟨hd.tenant_eq hinfo, fun more => ?_⟩, hd.data,
      fun hturns hopen hreading => ?_, fun request hrequest => ?_,
      fun p hp => Services.found_packet hp, fun p hp => ?_, fun o ho => ?_⟩
    · exact moves_tenant (course_moves v r more) hd.paired hinfo
    · have hstart := start_followed v connectionId peer now backend metrics
        (fun _ => True) True
      exact hd.tenant_of_settled hopen hreading
        (course_settled hstart (settled_of_nil v rfl) turns hturns)
    · obtain ⟨info, hinfo, hpresents⟩ := hd.request request hrequest
      refine ⟨info, hinfo, hpresents, fun now' => ?_⟩
      simp only [turn, handle, hrequest, completeConnect, tenantId_eq hinfo]
    · exact hp.elim (hd.minds.pending p) (hd.minds.held p)
    · obtain ⟨⟨info, hinfo⟩, p, hp, hletter⟩ := hd.offers o ho
      obtain ⟨info', hinfo', haddressed⟩ := Services.found_packet hp
      obtain rfl : info = info' :=
        Option.some.inj ((hd.tenant_eq hinfo).symm.trans hinfo')
      exact ⟨info, p, hinfo, hp, hletter, haddressed⟩
  · intro t table maxMessageSize topic session connectionId peer now backend
      metrics turns v first r habides
    have hdealt : ∀ turns, ∃ arrived P,
        Dealt v peer arrived P (course v first turns) :=
      fun turns => ⟨_, _, course_dealt v connectionId peer now backend metrics⟩
    obtain ⟨hd, hlasts⟩ :=
      course_served rfl connectionId peer now backend metrics rfl hdealt habides
    have hroutes : ∀ tenantId,
        r.2.backend.route tenantId = backend.route tenantId :=
      (hlasts [] turns rfl).backend.routes
    refine ⟨fun o ho => ?_, fun x habide hx => ?_⟩
    · obtain ⟨⟨info, hinfo, hat⟩, -⟩ := hd.offers o ho
      exact ⟨info, hinfo, hroutes info.id ▸ hat⟩
    · obtain ⟨hnone, hsome⟩ := turn_touches rfl hd hx
        (course_brings rfl hdealt hlasts habide)
      exact ⟨hnone, fun info hinfo => hroutes info.id ▸ hsome info hinfo⟩

/-- The lines `A~0~d~x` and `B~0~d~y` come in with one read, after others have
made and used a client for tenant `B`.  Both lines go to the backend of tenant
`A`. -/
theorem course_tenant_two :
    let taking : Backend.Transport Nat :=
      ⟨fun s _ _ => (.ok ⟨s, "d"⟩, s + 1), fun s _ _ => (.ok (), s + 1),
        fun s _ => s⟩
    let backend : Backend.Routed Nat := { shared := 0
                                          own := [("A", 0), ("B", 0)] }
    let message : Backend.Message := ⟨"a", ⟨0, [7]⟩, []⟩
    let made := (backend.connect taking "B" ⟨"e", "h", none, true⟩).2
    let others := (made.send taking ⟨0, "d"⟩ message).2.close taking ⟨0, "d"⟩
    let topic : TopicSetup := ⟨⟨[("A.d", ⟨"d", "h/d", "s"⟩)]⟩, [], 0⟩
    let session : SessionSetup := ⟨none, "", 2⟩
    let v : Services (Backend.Routed Nat) :=
      ⟨Backend.Routed.transport taking, {}, 64, topic, session⟩
    let turns : List (Turn (Backend.Routed Nat)) :=
      [.elsewhere others,
        .event 0 (.read [65, 126, 48, 126, 100, 126, 120, 10, 66, 126, 48, 126,
          100, 126, 121, 10]), .event 1 .connectReady]
    let r := course v (start v "c" none 0, { backend }) turns
    r.1.tenant = some (TenantInfo.ofToken "A") ∧ r.2.offers.length = 2 ∧
      ∀ o ∈ r.2.offers, r.2.backend.At (some "A") o.client := by
  intro taking backend message made others topic session v turns r
  have htenant : r.1.tenant = some (TenantInfo.ofToken "A") := by decide +kernel
  have hlength : r.2.offers.length = 2 := by decide +kernel
  have hroute : backend.route (TenantInfo.ofToken "A").id = some "A" := by
    decide +kernel
  have hgrows : backend.Grows others :=
    (Backend.Routed.connect_touches taking backend "B" _).toGrows.trans
      ((Backend.Routed.send_grows taking made _ message).trans
        (Backend.Routed.close_grows taking _ _))
  have habides : ∀ before x after, turns = before ++ x :: after →
      Abides v (start v "c" none 0, { backend }) before x := by
    intro before x after hsplit
    rcases before with _ | ⟨_, _ | ⟨_, _ | ⟨_, _⟩⟩⟩
    · obtain ⟨rfl, -⟩ := List.cons.inj hsplit
      exact hgrows
    · obtain ⟨rfl, -⟩ := List.cons.inj (List.cons.inj hsplit).2
      trivial
    · obtain ⟨rfl, -⟩ :=
        List.cons.inj (List.cons.inj (List.cons.inj hsplit).2).2
      trivial
    · simp [turns] at hsplit
  clear_value turns
  have hoffers : ∀ o ∈ r.2.offers, ∃ info, r.1.tenant = some info ∧
      r.2.backend.At (backend.route info.id) o.client :=
    ((course_tenant Nat).2 taking {} 64 topic session "c" none 0 backend none
      turns habides).1
  refine ⟨htenant, hlength, fun o ho => ?_⟩
  obtain ⟨info, hinfo, hat⟩ := hoffers o ho
  obtain rfl := Option.some.inj (htenant.symm.trans hinfo)
  rw [hroute] at hat
  exact hat

end Connection

end DeviceGateway
