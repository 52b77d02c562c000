import DeviceGateway.Proofs.Backend.Traffic

/-!
# Uses of a pool

The clients of a pool connect, send and close, and time passes between.  A run
is a list of such uses; it comes to a pool, to an answer for each use, and to
what happens to the streams on the way.

A client that is closed is closed for good, and whoever closes it leaves the
pool to the others: from then on the run goes as if its other uses were not
there.  The pool is not quite the same, for it remembers that the client is
closed, but nobody else looks at that.

## Main results

* `use_close`: closing a client commutes with what others do.
* `run_close`: the run of the others.
-/

namespace DeviceGateway.Backend.Pool

variable (s : PoolSetup) (n : Network)

/-! ## Runs -/

/-- What the clients of a pool do, and the time that passes between. -/
inductive Use where
  | connect (identity : Identity)
  | send (client : Client) (message : Message)
  | close (client : Client)
  | wait (milliseconds : Nat)

/-- What a use comes to: the client it makes, if it makes one, or why it
failed. -/
def use (p : Pool) : Use → Except Fault (Option Client) × Pool
  | .connect identity =>
    ((p.connect s n identity).1.map some, (p.connect s n identity).2)
  | .send client message =>
    ((p.send s n client message).1.map fun _ => none,
      (p.send s n client message).2)
  | .close client => (.ok none, p.close client)
  | .wait milliseconds => (.ok none, p.advance milliseconds)

/-- The stream that was opened on the way from one state to another. -/
def opening (p p' : Pool) : List Event :=
  if p.streams.length < p'.streams.length then [.opened p.streams.length p'.now]
  else []

/-- What happens to streams when a frame is to be written on a connection. -/
def writing (p : Pool) (index : Nat) (frame : List UInt8) : List Event :=
  match p.refresh s n index with
  | (.error _, p') => opening p p'
  | (.ok stream, p') =>
    opening p p' ++ [.wrote stream frame (n.write p'.writes) p'.now]

/-- What happens to streams in a use. -/
def events (p : Pool) : Use → List Event
  | .connect identity => opening p (p.connect s n identity).2
  | .send client message =>
    match p.clients[client.number]? with
    | none => []
    | some own =>
      if own.closed then []
      else p.writing s n own.line (Envelope.of own.deviceId message).encode
  | .close _ => []
  | .wait _ => []

/-- The pool after uses, one after the other. -/
def after (p : Pool) (uses : List Use) : Pool :=
  uses.foldl (fun p u => (p.use s n u).2) p

/-- What happens to streams in uses, one after the other. -/
def traffic (p : Pool) : List Use → List Event
  | [] => []
  | u :: uses => p.events s n u ++ traffic (p.use s n u).2 uses

/-- The uses with their answers. -/
def answers (p : Pool) : List Use → List (Use × Except Fault (Option Client))
  | [] => []
  | u :: uses => (u, (p.use s n u).1) :: answers (p.use s n u).2 uses

theorem after_concat (p : Pool) (uses : List Use) (u : Use) :
    p.after s n (uses ++ [u]) = ((p.after s n uses).use s n u).2 := by
  simp [after]

theorem after_append (p : Pool) (uses more : List Use) :
    p.after s n (uses ++ more) = (p.after s n uses).after s n more :=
  List.foldl_append

theorem answers_append (p : Pool) (uses more : List Use) :
    p.answers s n (uses ++ more) =
      p.answers s n uses ++ (p.after s n uses).answers s n more := by
  induction uses generalizing p with
  | nil => rfl
  | cons u uses ih =>
    rw [List.cons_append, answers, answers, ih]
    rfl

/-- An answer is that of the pool after the uses before. -/
theorem answers_eq {p : Pool} {uses : List Use} {u : Use}
    {answer : Except Fault (Option Client)}
    (h : (u, answer) ∈ p.answers s n uses) :
    ∃ front back, uses = front ++ u :: back ∧
      answer = ((p.after s n front).use s n u).1 := by
  induction uses generalizing p with
  | nil => cases h
  | cons v uses ih =>
    rcases List.mem_cons.1 h with hfirst | hlater
    · obtain ⟨rfl, rfl⟩ := Prod.mk.inj hfirst
      exact ⟨[], uses, rfl, rfl⟩
    · obtain ⟨front, back, rfl, hanswer⟩ := ih hlater
      exact ⟨v :: front, back, rfl, hanswer⟩

theorem traffic_append (p : Pool) (uses more : List Use) :
    p.traffic s n (uses ++ more) =
      p.traffic s n uses ++ (p.after s n uses).traffic s n more := by
  induction uses generalizing p with
  | nil => rfl
  | cons u uses ih =>
    rw [List.cons_append, traffic, traffic, ih, List.append_assoc]
    rfl

theorem traffic_concat (p : Pool) (uses : List Use) (u : Use) :
    p.traffic s n (uses ++ [u]) =
      p.traffic s n uses ++ (p.after s n uses).events s n u := by
  rw [traffic_append, traffic, traffic, List.append_nil]

/-! ## The stream of a connection -/

/-- A connection as its number finds it. -/
def lineAt (p : Pool) (index : Nat) : Line :=
  (p.lines[index]?).getD {}

/-- A connection whose stream was given up. -/
def withoutStream (line : Line) : Line :=
  { line with stream := none }

section Refresh

variable {s n} (p : Pool) {index stream : Nat}

theorem refresh_none (h : (p.lineAt index).stream = none) :
    p.refresh s n index = p.dial s n index := by
  unfold lineAt at h
  simp only [refresh, h]

theorem refresh_idle (h : (p.lineAt index).stream = some stream)
    (hidle : s.idleTimeout < p.now - (p.lineAt index).lastUsed) :
    p.refresh s n index =
      (p.setLine index (withoutStream (p.lineAt index))).dial s n index := by
  unfold lineAt at h hidle ⊢
  simp only [refresh, h, hidle, if_true]
  rfl

theorem refresh_kept (h : (p.lineAt index).stream = some stream)
    (hidle : p.now - (p.lineAt index).lastUsed ≤ s.idleTimeout) :
    p.refresh s n index = (.ok stream, p) := by
  unfold lineAt at h hidle
  simp only [refresh, h, Nat.not_lt.2 hidle, if_false]

/-- A connection goes on with its stream, or has none, or has one that it gives
up. -/
theorem refresh_cases (index : Nat) :
    ((p.lineAt index).stream = none ∧ p.refresh s n index = p.dial s n index) ∨
    (∃ stream, (p.lineAt index).stream = some stream ∧
      s.idleTimeout < p.now - (p.lineAt index).lastUsed ∧
      p.refresh s n index =
        (p.setLine index (withoutStream (p.lineAt index))).dial s n index) ∨
    ∃ stream, (p.lineAt index).stream = some stream ∧
      p.now - (p.lineAt index).lastUsed ≤ s.idleTimeout ∧
      p.refresh s n index = (.ok stream, p) := by
  cases hstream : (p.lineAt index).stream with
  | none => exact .inl ⟨rfl, refresh_none p hstream⟩
  | some stream =>
    by_cases hidle : s.idleTimeout < p.now - (p.lineAt index).lastUsed
    · exact .inr (.inl ⟨stream, rfl, hidle, refresh_idle p hstream hidle⟩)
    · have hidle := Nat.not_lt.1 hidle
      exact .inr (.inr ⟨stream, rfl, hidle, refresh_kept p hstream hidle⟩)

end Refresh

/-! ## Clients and connections -/

/-- A pool with other clients. -/
def withClients (p : Pool) (clients : List PoolClient) : Pool :=
  { p with clients }

section Clients

variable {s n} (p : Pool) (clients : List PoolClient)

theorem lineOf_clients (slot : Nat) :
    (p.lineOf slot).2.clients = p.clients := by
  unfold lineOf
  split <;> rfl

private theorem dial_clients (index : Nat) :
    (p.dial s n index).2.clients = p.clients := by
  unfold dial
  cases n.dial p.dials <;> rfl

theorem refresh_clients (index : Nat) :
    (p.refresh s n index).2.clients = p.clients := by
  rcases p.refresh_cases (s := s) (n := n) index with ⟨-, h⟩ | ⟨_, -, -, h⟩ |
    ⟨_, -, -, h⟩
  · rw [h]
    exact dial_clients p index
  · rw [h]
    exact dial_clients _ index
  · rw [h]

theorem write_clients (index : Nat) (frame : List UInt8) :
    (p.write s n index frame).2.clients = p.clients := by
  have h := p.refresh_clients (s := s) (n := n) index
  unfold write
  split
  · next hrefresh =>
    rw [hrefresh] at h
    exact h
  · next hrefresh =>
    rw [hrefresh] at h
    dsimp only
    split <;> exact h

/-- A client is made once the connection of its slot has a stream. -/
theorem connect_cases (identity : Identity) :
    let found := p.lineOf (s.slotOf identity.id)
    let reached := found.2.refresh s n found.1
    (∃ fault, reached.1 = .error fault ∧
      p.connect s n identity = (.error fault, reached.2)) ∨
    ∃ stream, reached.1 = .ok stream ∧ p.connect s n identity =
      (.ok ⟨p.clients.length, identity.id⟩,
        reached.2.withClients
          (p.clients ++ [⟨identity.id, found.1, false⟩])) := by
  intro found reached
  have hconnect : p.connect s n identity = match reached with
      | (.error fault, q) => (.error fault, q)
      | (.ok _, q) => (.ok ⟨q.clients.length, identity.id⟩,
          q.withClients (q.clients ++ [⟨identity.id, found.1, false⟩])) := rfl
  have hclients : reached.2.clients = p.clients :=
    (found.2.refresh_clients found.1).trans
      (p.lineOf_clients (s.slotOf identity.id))
  rw [hconnect]
  generalize reached = r at hclients ⊢
  obtain ⟨result, q⟩ := r
  cases result with
  | error fault => exact .inl ⟨fault, rfl, rfl⟩
  | ok stream =>
    refine .inr ⟨stream, rfl, ?_⟩
    dsimp only at hclients ⊢
    rw [hclients]

/-- A message of a client that is not closed is written on its connection. -/
theorem send_cases (client : Client) (message : Message) :
    (p.clients[client.number]? = none ∧
      p.events s n (.send client message) = [] ∧
      p.send s n client message = (.error (.closed client.deviceId), p)) ∨
    ∃ own, p.clients[client.number]? = some own ∧
      ((own.closed = true ∧ p.events s n (.send client message) = [] ∧
        p.send s n client message = (.error (.closed own.deviceId), p)) ∨
      (own.closed = false ∧
        p.events s n (.send client message) =
          p.writing s n own.line (Envelope.of own.deviceId message).encode ∧
        p.send s n client message =
          p.write s n own.line (Envelope.of own.deviceId message).encode)) := by
  cases hown : p.clients[client.number]? with
  | none =>
    exact .inl ⟨rfl, by simp only [events, hown], by simp only [send, hown]⟩
  | some own =>
    refine .inr ⟨own, rfl, ?_⟩
    cases hclosed : own.closed with
    | true =>
      exact .inl ⟨rfl, by simp only [events, hown, hclosed, if_true],
        by simp only [send, hown, hclosed, if_true]⟩
    | false =>
      refine .inr ⟨rfl, ?_, ?_⟩
      · simp only [events, hown, hclosed]
        rfl
      · simp only [send, hown, hclosed]
        rfl

private theorem lineOf_withClients (slot : Nat) :
    (p.withClients clients).lineOf slot =
      ((p.lineOf slot).1, (p.lineOf slot).2.withClients clients) := by
  unfold lineOf withClients
  dsimp only
  split <;> rfl

/-- Opening a stream does not look at the clients. -/
theorem dial_withClients (index : Nat) :
    (p.withClients clients).dial s n index =
      ((p.dial s n index).1, (p.dial s n index).2.withClients clients) := by
  unfold dial withClients
  dsimp only
  cases n.dial p.dials <;> rfl

theorem refresh_withClients (index : Nat) :
    (p.withClients clients).refresh s n index =
      ((p.refresh s n index).1, (p.refresh s n index).2.withClients
        clients) := by
  rcases p.refresh_cases (s := s) (n := n) index with ⟨hstream, h⟩ |
    ⟨stream, hstream, hidle, h⟩ | ⟨stream, hstream, hidle, h⟩
  · rw [h, refresh_none (p.withClients clients) hstream]
    exact dial_withClients p clients index
  · rw [h, refresh_idle (p.withClients clients) hstream hidle]
    exact dial_withClients (p.setLine index (withoutStream (p.lineAt index)))
      clients index
  · rw [h, refresh_kept (p.withClients clients) hstream hidle]

private theorem write_withClients (index : Nat) (frame : List UInt8) :
    (p.withClients clients).write s n index frame =
      ((p.write s n index frame).1, (p.write s n index frame).2.withClients
        clients) := by
  unfold write
  rw [refresh_withClients]
  obtain ⟨result, p'⟩ := p.refresh s n index
  cases result with
  | error fault => rfl
  | ok stream =>
    dsimp only [withClients]
    cases n.write p'.writes <;> rfl

private theorem writing_withClients (index : Nat) (frame : List UInt8) :
    (p.withClients clients).writing s n index frame =
      p.writing s n index frame := by
  unfold writing
  rw [refresh_withClients]
  obtain ⟨result, p'⟩ := p.refresh s n index
  cases result <;> rfl

end Clients

/-! ## Closing a client -/

/-- Whether a use is made through a given client. -/
def Use.through (number : Nat) : Use → Bool
  | .send client _ => client.number == number
  | .close client => client.number == number
  | _ => false

section Closing

variable {s n} {p : Pool} {c : Client} {u : Use}

private theorem close_eq (p : Pool) (c : Client) :
    p.close c = p.withClients (p.clients.modify c.number fun own =>
      { own with closed := true }) :=
  rfl

/-- A client that is closed keeps its device and its connection. -/
theorem mem_close {own : PoolClient} (h : own ∈ (p.close c).clients) :
    ∃ old ∈ p.clients, old.deviceId = own.deviceId ∧ old.line = own.line := by
  obtain ⟨i, hi⟩ := List.mem_iff_getElem?.1 h
  have hmodify :
      (p.clients.modify c.number fun own => { own with closed := true })[i]? =
      some own := hi
  rw [List.getElem?_modify] at hmodify
  obtain ⟨old, hold, heq⟩ := Option.map_eq_some_iff.1 hmodify
  refine ⟨old, List.mem_of_getElem? hold, ?_⟩
  rw [← heq]
  split <;> exact ⟨rfl, rfl⟩

theorem getElem?_close_of_ne {number : Nat} (h : number ≠ c.number) :
    (p.close c).clients[number]? = p.clients[number]? := by
  show (p.clients.modify c.number _)[number]? = _
  rw [List.getElem?_modify]
  simp [Ne.symm h]

private theorem modify_concat {α : Type} (f : α → α) {xs : List α} {i : Nat}
    (h : i < xs.length) (x : α) :
    (xs ++ [x]).modify i f = xs.modify i f ++ [x] := by
  induction xs generalizing i with
  | nil => exact absurd h (Nat.not_lt_zero i)
  | cons y xs ih =>
    cases i with
    | zero => rfl
    | succ i =>
      rw [List.cons_append, List.modify_succ_cons, List.modify_succ_cons,
        ih (Nat.lt_of_succ_lt_succ h), List.cons_append]

/-- What leaves the clients alone can be done before or after one is closed. -/
theorem close_of_clients {q : Pool} (h : q.clients = p.clients) :
    q.close c = q.withClients (p.close c).clients := by
  rw [close_eq, close_eq, h]
  rfl

private theorem lineOf_close (slot : Nat) :
    (p.close c).lineOf slot =
      ((p.lineOf slot).1, (p.lineOf slot).2.close c) := by
  rw [close_of_clients (p.lineOf_clients slot)]
  exact p.lineOf_withClients _ slot

private theorem refresh_close (index : Nat) :
    (p.close c).refresh s n index =
      ((p.refresh s n index).1, (p.refresh s n index).2.close c) := by
  rw [close_of_clients (p.refresh_clients index)]
  exact p.refresh_withClients _ index

private theorem write_close (index : Nat) (frame : List UInt8) :
    (p.close c).write s n index frame =
      ((p.write s n index frame).1, (p.write s n index frame).2.close c) := by
  rw [close_of_clients (p.write_clients index frame)]
  exact p.write_withClients _ index frame

private theorem connect_close (hclient : c.number < p.clients.length)
    (identity : Identity) :
    (p.close c).connect s n identity =
      ((p.connect s n identity).1, (p.connect s n identity).2.close c) := by
  have hclients := p.lineOf_clients (s.slotOf identity.id)
  unfold connect
  rw [lineOf_close]
  generalize p.lineOf (s.slotOf identity.id) = found at hclients ⊢
  obtain ⟨index, p₁⟩ := found
  have hclients' := p₁.refresh_clients (s := s) (n := n) index
  dsimp only at hclients ⊢
  rw [refresh_close]
  generalize p₁.refresh s n index = reached at hclients' ⊢
  obtain ⟨result, p₂⟩ := reached
  dsimp only at hclients' ⊢
  cases result with
  | error fault => rfl
  | ok stream =>
    have hlength : c.number < p₂.clients.length := by
      rw [hclients', hclients]
      exact hclient
    have hconcat := modify_concat
      (fun own : PoolClient => { own with closed := true }) hlength
      ⟨identity.id, index, false⟩
    simp only [close, List.length_modify, hconcat]

/-- Closing a client commutes with what is not done through it. -/
theorem use_close (hclient : c.number < p.clients.length)
    (hu : u.through c.number = false) :
    (p.close c).use s n u = ((p.use s n u).1, (p.use s n u).2.close c) ∧
      (p.close c).events s n u = p.events s n u := by
  cases u with
  | connect identity =>
    have h := connect_close (s := s) (n := n) hclient identity
    constructor
    · simp only [use, h]
    · simp only [events, h]
      rfl
  | send client message =>
    have hne : client.number ≠ c.number := by simpa [Use.through] using hu
    have hfind := getElem?_close_of_ne (p := p) hne
    cases hown : p.clients[client.number]? with
    | none =>
      rw [hown] at hfind
      constructor
      · simp only [use, send, hown, hfind]
      · simp only [events, hown, hfind]
    | some own =>
      rw [hown] at hfind
      by_cases hclosed : own.closed = true
      · constructor
        · simp only [use, send, hown, hfind, hclosed, if_true]
        · simp only [events, hown, hfind, hclosed, if_true]
      · constructor
        · simp only [use, send, hown, hfind, hclosed, Bool.false_eq_true,
            if_false, write_close]
        · simp only [events, hown, hfind, hclosed]
          exact p.writing_withClients _ own.line _
  | close client =>
    refine ⟨?_, rfl⟩
    have hcomm : (p.close c).close client = (p.close client).close c := by
      simp only [close, Pool.mk.injEq, true_and, and_true]
      apply List.ext_getElem?
      intro i
      simp only [List.getElem?_modify]
      by_cases hc : c.number = i <;> by_cases hclient : client.number = i <;>
        simp [hc, hclient]
    rw [use, hcomm]
    rfl
  | wait milliseconds => exact ⟨rfl, rfl⟩

/-- Nothing is done through a client that is closed. -/
theorem use_closed {own : PoolClient} (hown : p.clients[c.number]? = some own)
    (hu : u.through c.number = true) :
    ((p.close c).use s n u).2 = p.close c ∧ (p.close c).events s n u = [] ∧
      ∀ client message, u = .send client message →
        ((p.close c).use s n u).1 = .error (.closed own.deviceId) := by
  have hclosed : (p.close c).clients[c.number]? =
      some { own with closed := true } := by
    show (p.clients.modify c.number _)[c.number]? = _
    rw [List.getElem?_modify_eq, hown]
    rfl
  cases u with
  | connect identity => cases hu
  | wait milliseconds => cases hu
  | send client message =>
    have hnumber : client.number = c.number := by simpa [Use.through] using hu
    rw [← hnumber] at hclosed
    refine ⟨?_, ?_, ?_⟩
    · simp only [use, send, hclosed, if_true]
    · simp only [events, hclosed, if_true]
    · rintro _ _ ⟨⟩
      simp only [use, send, hclosed, if_true]
      rfl
  | close client =>
    have hnumber : client.number = c.number := by simpa [Use.through] using hu
    refine ⟨?_, rfl, fun _ _ hsend => Use.noConfusion hsend⟩
    simp only [use, close, hnumber, Pool.mk.injEq, true_and, and_true]
    apply List.ext_getElem?
    intro i
    simp only [List.getElem?_modify]
    cases p.clients[i]? with
    | none => rfl
    | some own =>
      by_cases hc : c.number = i
      · simp [hc]
      · simp [hc]

private theorem connect_clients (p : Pool) (identity : Identity) :
    ∃ more, (p.connect s n identity).2.clients = p.clients ++ more := by
  have hreached :=
    ((p.lineOf (s.slotOf identity.id)).2.refresh_clients (s := s) (n := n)
      (p.lineOf (s.slotOf identity.id)).1).trans
        (p.lineOf_clients (s.slotOf identity.id))
  rcases p.connect_cases (s := s) (n := n) identity with ⟨fault, -, h⟩ |
    ⟨stream, -, h⟩
  · rw [h]
    exact ⟨[], hreached.trans (List.append_nil _).symm⟩
  · rw [h]
    exact ⟨_, rfl⟩

private theorem send_clients (p : Pool) (client : Client) (message : Message) :
    (p.send s n client message).2.clients = p.clients := by
  rcases p.send_cases (s := s) (n := n) client message with ⟨-, -, h⟩ |
    ⟨own, -, ⟨-, -, h⟩ | ⟨-, -, h⟩⟩
  · rw [h]
  · rw [h]
  · rw [h]
    exact p.write_clients _ _

/-- A client is changed by nothing but what is done through it. -/
theorem client_use {own : PoolClient} (hown : p.clients[c.number]? = some own)
    (hu : u.through c.number = false) :
    (p.use s n u).2.clients[c.number]? = some own := by
  cases u with
  | connect identity =>
    obtain ⟨more, hmore⟩ := connect_clients (s := s) (n := n) p identity
    show (p.connect s n identity).2.clients[c.number]? = some own
    rw [hmore, List.getElem?_append_left (List.getElem?_eq_some_iff.1 hown).1]
    exact hown
  | send client message =>
    show (p.send s n client message).2.clients[c.number]? = some own
    rw [send_clients]
    exact hown
  | close client =>
    have hne : c.number ≠ client.number := by
      have : client.number ≠ c.number := by simpa [Use.through] using hu
      exact this.symm
    exact (getElem?_close_of_ne hne).trans hown
  | wait milliseconds => exact hown

/-- From when a client is closed, the run is that of the others alone, and what
the client wants to send is refused. -/
theorem run_close {own : PoolClient} (hown : p.clients[c.number]? = some own)
    (uses : List Use) :
    let others := uses.filter fun u => !u.through c.number
    (p.close c).after s n uses = (p.after s n others).close c ∧
      (p.close c).traffic s n uses = p.traffic s n others ∧
      (((p.close c).answers s n uses).filter fun entry =>
        !entry.1.through c.number) =
        p.answers s n others ∧
      ∀ client message answer, client.number = c.number →
        (Use.send client message, answer) ∈ (p.close c).answers s n uses →
          answer = .error (.closed own.deviceId) := by
  induction uses generalizing p with
  | nil => exact ⟨rfl, rfl, rfl, by simp [answers]⟩
  | cons u uses ih =>
    cases hu : u.through c.number with
    | true =>
      obtain ⟨hpool, hevents, hanswer⟩ := use_closed (s := s) (n := n) hown hu
      obtain ⟨hafter, htraffic, hanswers, hrefused⟩ := ih hown
      have hfilter : (u :: uses).filter (fun u => !u.through c.number) =
          uses.filter fun u => !u.through c.number := by
        rw [List.filter_cons, hu]
        rfl
      rw [hfilter]
      refine ⟨?_, ?_, ?_, ?_⟩
      · show ((p.close c).use s n u).2.after s n uses = _
        rw [hpool, hafter]
      · rw [traffic, hpool, hevents, htraffic]
        rfl
      · rw [answers, hpool, List.filter_cons, hu, ← hanswers]
        rfl
      · intro client message answer hclient hmem
        rw [answers, hpool, List.mem_cons] at hmem
        rcases hmem with hhead | hmem
        · obtain ⟨hsend, rfl⟩ := Prod.mk.inj hhead
          exact hanswer client message hsend.symm
        · exact hrefused client message answer hclient hmem
    | false =>
      have hlength := (List.getElem?_eq_some_iff.1 hown).1
      obtain ⟨hpool, hevents⟩ := use_close (s := s) (n := n) hlength hu
      obtain ⟨hafter, htraffic, hanswers, hrefused⟩ :=
        ih (client_use (s := s) (n := n) hown hu)
      have hfilter : (u :: uses).filter (fun u => !u.through c.number) =
          u :: uses.filter fun u => !u.through c.number := by
        rw [List.filter_cons, hu]
        rfl
      rw [hfilter]
      refine ⟨?_, ?_, ?_, ?_⟩
      · show ((p.close c).use s n u).2.after s n uses = _
        rw [hpool, hafter]
        rfl
      · rw [traffic, traffic, hpool, hevents, htraffic]
      · rw [answers, answers, hpool, List.filter_cons, hu, ← hanswers]
        rfl
      · intro client message answer hclient hmem
        rw [answers, hpool, List.mem_cons] at hmem
        rcases hmem with hhead | hmem
        · obtain ⟨hsend, -⟩ := Prod.mk.inj hhead
          rw [← hsend] at hu
          simp [Use.through, hclient] at hu
        · exact hrefused client message answer hclient hmem

end Closing

end DeviceGateway.Backend.Pool
