import DeviceGateway.Backend.Transport

/-!
# Backends by tenant

Some tenants have a backend of their own and the others share one.  A client is
made at the backend of its tenant and stays there.
-/

namespace DeviceGateway.Backend

/-- The backends and, for each client, where it was made. -/
structure Routed (σ : Type) where
  shared : σ
  /-- The backends of the tenants that have one. -/
  own : List (String × σ) := []
  /-- For each client the tenant whose backend it is at, none for the shared
  one, and the client there; the latest first. -/
  clients : List (Option String × Client) := []

namespace Routed

variable {σ : Type}

/-- Adds the backend of a tenant; it replaces an earlier one. -/
def addOwn (r : Routed σ) (tenantId : String) (backend : σ) : Routed σ :=
  { r with own := r.own.filter (fun entry => entry.1 != tenantId) ++
    [(tenantId, backend)] }

/-- Where clients of a tenant are made. -/
def route (r : Routed σ) (tenantId : String) : Option String :=
  if r.own.any fun entry => entry.1 == tenantId then some tenantId else none

/-- The backend of a route. -/
def backend (r : Routed σ) : Option String → σ
  | none => r.shared
  | some tenantId => (r.own.lookup tenantId).getD r.shared

/-- Replaces the backend of a route. -/
def setBackend (r : Routed σ) (route : Option String) (b : σ) : Routed σ :=
  match route with
  | none => { r with shared := b }
  | some tenantId =>
    { r with
      own := r.own.map fun entry =>
        if entry.1 == tenantId then (tenantId, b) else entry }

/-- Changes all backends. -/
def mapAll (r : Routed σ) (f : σ → σ) : Routed σ :=
  { r with shared := f r.shared, own := r.own.map fun entry => (entry.1,
    f entry.2) }

/-- Where a client was made, and the client there. -/
def find? (r : Routed σ) (c : Client) : Option (Option String × Client) :=
  if c.number < r.clients.length then r.clients[r.clients.length - 1 -
    c.number]? else none

/-- Makes a client at the backend of its tenant. -/
def connect (t : Transport σ) (r : Routed σ) (tenantId : String)
    (identity : Identity) :
    Except Fault Client × Routed σ :=
  let route := r.route tenantId
  let (result, b) := t.connect (r.backend route) tenantId identity
  let r := r.setBackend route b
  match result with
  | .error fault => (.error fault, r)
  | .ok c =>
    (.ok ⟨r.clients.length, c.deviceId⟩,
      { r with clients := (route, c) :: r.clients })

/-- Sends a message at the backend where its client was made. -/
def send (t : Transport σ) (r : Routed σ) (c : Client) (m : Message) :
    Except Fault Unit × Routed σ :=
  match r.find? c with
  | none => (.error (.closed c.deviceId), r)
  | some (route, inner) =>
    let (result, b) := t.send (r.backend route) inner m
    (result, r.setBackend route b)

/-- Closes a client at the backend where it was made. -/
def close (t : Transport σ) (r : Routed σ) (c : Client) : Routed σ :=
  match r.find? c with
  | none => r
  | some (route, inner) => r.setBackend route (t.close (r.backend route) inner)

/-- The backends as one transport. -/
def transport (t : Transport σ) : Transport (Routed σ) :=
  ⟨connect t, send t, close t⟩

end Routed

end DeviceGateway.Backend
