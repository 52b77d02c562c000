import DeviceGateway.Backend.Routed
import Mathlib.Logic.Relation

/-!
# Backends keep apart

A client is at the backend where it was made, for good: clients are only ever
added, and the routes of tenants depend on which tenants have a backend of their
own, which does not change.  So what is done through a client changes the
backend that it is at and none that serves a tenant of another route.

`Grows` is what everybody who uses the backends can rely on, whoever uses them
beside.  `Touches` is what somebody does who uses the clients of one route only.

## Main results

* `connect_touches`, `send_touches`, `close_touches`: each use touches one
  route.
* `connect_at`, `At.grows`: a client is made at the route of its tenant and
  stays.
-/

namespace DeviceGateway.Backend

namespace Routed

variable {σ : Type} {t : Transport σ} {r r' r'' : Routed σ}
  {route : Option String} {client : Client}

/-! ## Routes and backends -/

/-- The route of a tenant is a backend that there is. -/
theorem lookup_of_route {tenantId own : String}
    (h : r.route tenantId = some own) :
    ∃ b, r.own.lookup own = some b := by
  simp only [Routed.route] at h
  split at h
  · next hany =>
    obtain rfl := Option.some.inj h
    obtain ⟨entry, hentry, hkey⟩ := List.any_eq_true.1 hany
    cases hlookup : r.own.lookup tenantId with
    | some b => exact ⟨b, rfl⟩
    | none =>
      have hne := List.lookup_eq_none_iff.1 hlookup entry hentry
      rw [beq_iff_eq] at hkey
      rw [hkey] at hne
      simp at hne
  · cases h

theorem setBackend_clients (r : Routed σ) (route : Option String) (b : σ) :
    (r.setBackend route b).clients = r.clients := by
  unfold setBackend
  split <;> rfl

private theorem setBackend_route (r : Routed σ) (route : Option String) (b : σ)
    (tenantId : String) :
    (r.setBackend route b).route tenantId = r.route tenantId := by
  cases route with
  | none => rfl
  | some own =>
    have hany :
        ((r.own.map fun entry => if entry.1 == own then (own, b) else entry).any
            fun entry => entry.1 == tenantId) =
          r.own.any fun entry => entry.1 == tenantId := by
      rw [List.any_map]
      congr 1
      funext entry
      by_cases hkey : entry.1 = own <;> simp [hkey]
    simp only [Routed.route, setBackend, hany]

private theorem lookup_map_of_ne {key own : String} (h : key ≠ own)
    (entries : List (String × σ)) (b : σ) :
    (entries.map fun entry => if entry.1 == own then (own, b) else entry).lookup
      key =
      entries.lookup key := by
  have hkey : (key == own) = false := beq_eq_false_iff_ne.2 h
  induction entries with
  | nil => rfl
  | cons entry entries ih =>
    obtain ⟨k, s⟩ := entry
    rw [List.map_cons]
    cases hown : k == own with
    | true =>
      obtain rfl := beq_iff_eq.1 hown
      simp only [if_true, List.lookup_cons, hkey, ih]
    | false => simp only [Bool.false_eq_true, if_false, List.lookup_cons, ih]

/-- Replacing one backend leaves those of other routes. -/
theorem setBackend_backend (r : Routed σ) (b : σ) {tenantId : String}
    (h : r.route tenantId ≠ route) :
    (r.setBackend route b).backend (r.route tenantId) =
      r.backend (r.route tenantId) := by
  cases hother : r.route tenantId with
  | none =>
    cases route with
    | none => exact absurd hother h
    | some own => rfl
  | some other =>
    obtain ⟨s, hs⟩ := lookup_of_route hother
    cases route with
    | none => simp [setBackend, backend, hs]
    | some own =>
      have hne : other ≠ own := fun heq => h (by rw [hother, heq])
      simp only [setBackend, backend, lookup_map_of_ne hne]

/-! ## Growing -/

/-- What any use leaves: the routes and the clients there were. -/
structure Grows (r r' : Routed σ) : Prop where
  routes : ∀ tenantId, r'.route tenantId = r.route tenantId
  clients : r.clients <:+ r'.clients

theorem Grows.refl (r : Routed σ) : r.Grows r :=
  ⟨fun _ => rfl, List.suffix_refl _⟩

theorem Grows.trans (h : r.Grows r') (h' : r'.Grows r'') : r.Grows r'' :=
  ⟨fun tenantId => (h'.routes tenantId).trans (h.routes tenantId),
    h.clients.trans h'.clients⟩

/-- A client that is at the backend of a route. -/
def At (r : Routed σ) (route : Option String) (client : Client) : Prop :=
  ∃ inner, r.find? client = some (route, inner)

/-- Clients are numbered from the first one, so later ones do not move them. -/
theorem At.grows (h : r.At route client) (hgrows : r.Grows r') :
    r'.At route client := by
  obtain ⟨inner, hfind⟩ := h
  obtain ⟨more, hmore⟩ := hgrows.clients
  refine ⟨inner, ?_⟩
  simp only [find?] at hfind ⊢
  split at hfind
  · next hnumber =>
    have hlength : r'.clients.length = more.length + r.clients.length := by
      rw [← hmore, List.length_append]
    have hlater : client.number < r'.clients.length := by omega
    have hplace : r'.clients.length - 1 - client.number =
        more.length + (r.clients.length - 1 - client.number) := by omega
    rw [if_pos hlater, hplace, ← hmore, List.getElem?_append_right
      (Nat.le_add_right _ _), Nat.add_sub_cancel_left]
    exact hfind
  · cases hfind

/-! ## Touching one route -/

/-- What is left by uses of one route: the other backends besides. -/
structure Touches (route : Option String) (r r' : Routed σ) :
    Prop extends r.Grows r' where
  backend : ∀ tenantId, r.route tenantId ≠ route →
    r'.backend (r.route tenantId) = r.backend (r.route tenantId)

theorem Touches.refl (route : Option String) (r : Routed σ) :
    r.Touches route r :=
  ⟨.refl r, fun _ _ => rfl⟩

theorem Touches.trans (h : r.Touches route r') (h' : r'.Touches route r'') :
    r.Touches route r'' where
  toGrows := h.toGrows.trans h'.toGrows
  backend tenantId hother := by
    have hsame := h.routes tenantId
    have hlater := h'.backend tenantId (by rw [hsame]; exact hother)
    rw [hsame] at hlater
    exact hlater.trans (h.backend tenantId hother)

theorem setBackend_touches (r : Routed σ) (route : Option String) (b : σ) :
    r.Touches route (r.setBackend route b) where
  routes := r.setBackend_route route b
  clients := by simp only [setBackend_clients, List.suffix_refl]
  backend _ hother := setBackend_backend r b hother

theorem send_touches (h : r.At route client) (m : Message) :
    r.Touches route (r.send t client m).2 := by
  obtain ⟨inner, hfind⟩ := h
  simp only [Routed.send, hfind]
  exact setBackend_touches r route _

theorem close_touches (h : r.At route client) :
    r.Touches route (r.close t client) := by
  obtain ⟨inner, hfind⟩ := h
  simp only [Routed.close, hfind]
  exact setBackend_touches r route _

/-- Whatever client is used, the routes and the clients stay: a client that was
never made is refused. -/
theorem send_grows (t : Transport σ) (r : Routed σ) (client : Client)
    (m : Message) :
    r.Grows (r.send t client m).2 := by
  cases hfind : r.find? client with
  | none =>
    simp only [Routed.send, hfind]
    exact .refl r
  | some place => exact (send_touches ⟨place.2, hfind⟩ m).toGrows

theorem close_grows (t : Transport σ) (r : Routed σ) (client : Client) :
    r.Grows (r.close t client) := by
  cases hfind : r.find? client with
  | none =>
    simp only [Routed.close, hfind]
    exact .refl r
  | some place => exact (close_touches ⟨place.2, hfind⟩).toGrows

/-- Making a client changes the backend of its tenant, and adds the client if
that backend has made it. -/
theorem connect_cases (t : Transport σ) (r : Routed σ) (tenantId : String)
    (identity : Identity) :
    ∃ b,
      (∃ fault, r.connect t tenantId identity =
        (.error fault, r.setBackend (r.route tenantId) b)) ∨
      ∃ inner, r.connect t tenantId identity =
        (.ok ⟨r.clients.length, inner.deviceId⟩,
          { r.setBackend (r.route tenantId) b with
            clients := (r.route tenantId, inner) :: r.clients }) := by
  rcases hconnect : t.connect (r.backend (r.route tenantId)) tenantId identity
    with ⟨result, b⟩
  refine ⟨b, ?_⟩
  cases result with
  | error fault => exact .inl ⟨fault, by simp only [Routed.connect, hconnect]⟩
  | ok inner =>
    exact .inr
      ⟨inner, by simp only [Routed.connect, hconnect, setBackend_clients]⟩

theorem connect_touches (t : Transport σ) (r : Routed σ) (tenantId : String)
    (identity : Identity) :
    r.Touches (r.route tenantId) (r.connect t tenantId identity).2 := by
  obtain ⟨b, ⟨fault, hconnect⟩ | ⟨inner, hconnect⟩⟩ :=
    connect_cases t r tenantId identity
  · rw [hconnect]
    exact setBackend_touches r _ b
  · rw [hconnect]
    have hset := setBackend_touches r (r.route tenantId) b
    refine ⟨⟨hset.routes, List.suffix_cons _ _⟩, fun other hother => ?_⟩
    rw [← hset.backend other hother]
    cases r.route other <;> rfl

/-- A client is made at the backend of its tenant. -/
theorem connect_at {tenantId : String} {identity : Identity}
    (h : (r.connect t tenantId identity).1 = .ok client) :
    (r.connect t tenantId identity).2.At (r.route tenantId) client := by
  obtain ⟨b, ⟨fault, hconnect⟩ | ⟨inner, hconnect⟩⟩ :=
    connect_cases t r tenantId identity
  · rw [hconnect] at h
    cases h
  · rw [hconnect] at h ⊢
    obtain rfl := Except.ok.inj h
    exact ⟨inner, by simp [find?]⟩

end Routed

end DeviceGateway.Backend
