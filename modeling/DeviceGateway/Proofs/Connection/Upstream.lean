import DeviceGateway.Proofs.Backend.Streams
import DeviceGateway.Proofs.Connection.Dispatch

/-!
# Connections on a pool

A connection knows its backend as a transport, and a pool is one.  Whatever a
connection asks of the transport is a use of the pool: a CONNECT makes a client,
a packet is sent through it, and the end of the session closes it.  So a course
of a connection comes to a run of the pool, among the uses that others make of
it, and what is known of the runs of a pool is known of what devices say.

In particular a message that the session was told is accepted stands on an
upstream stream, whole, in the envelope of the client that it was handed to.

## Main results

* `uses_of_transport`: what is done through the transport is a run of the pool.
* `turn_upstream`: so is whatever comes next in a course.
* `course_upstream`: a course comes to a run of the pool, and what was accepted
  stands on its streams.
-/

namespace DeviceGateway

open Backend (Event Pool PoolSetup Network delivered)
open Relation (ReflTransGen)

/-- What was handed over, as a use of a pool, and its answer. -/
def Offer.inPool (o : Offer) :
    Pool.Use × Except Backend.Fault (Option Backend.Client) :=
  (.send o.client o.message, o.result.map fun _ => none)

private theorem isOk_eq_of_map_eq {ε α β : Type} {f : α → β} {x y : Except ε α}
    (h : x.map f = y.map f) : x.isOk = y.isOk := by
  cases x <;> cases y <;> first | rfl | cases h

namespace Backend.Pool

variable {s : PoolSetup} {n : Network}

/-- What is done through the transport of a pool is a run of the pool, and what
was handed over is among its uses, in order and with the answers. -/
theorem uses_of_transport {setup : SessionSetup} {P : Client → Prop}
    {G : DataPacket → Prop} {x y : Pool × List Offer}
    (h : ReflTransGen ((transport s n).Use setup P G) x y) :
    ∃ uses, y.1 = x.1.after s n uses ∧ ∃ offers, y.2 = x.2 ++ offers ∧
      (offers.map Offer.inPool).Sublist (x.1.answers s n uses) := by
  induction h with
  | refl => exact ⟨[], rfl, [], (List.append_nil _).symm, List.nil_sublist _⟩
  | tail _ hlast ih =>
    obtain ⟨uses, hpool, offers, hoffers, hamong⟩ := ih
    cases hlast with
    | @send b os client p hclient hp =>
      dsimp only at hpool hoffers
      let offer : Offer :=
        ⟨client, p.deviceId, setup.message p,
          (b.send s n client (setup.message p)).1⟩
      refine ⟨uses ++ [.send client (setup.message p)], ?_,
        offers ++ [offer], ?_, ?_⟩
      · rw [after_concat, ← hpool]
        rfl
      · rw [hoffers, ← List.append_assoc]
        rfl
      · rw [List.map_append, answers_append, ← hpool]
        exact hamong.append (.refl _)
    | @close b os client hclient =>
      dsimp only at hpool hoffers
      refine ⟨uses ++ [.close client], ?_, offers, hoffers, ?_⟩
      · rw [after_concat, ← hpool]
        rfl
      · rw [answers_append]
        exact hamong.trans (List.sublist_append_left _ _)

/-- The frame of a send that succeeded was written in full on a stream. -/
theorem delivered_of_ok {front : List Use} (back : List Use) {client : Client}
    {message : Message}
    (hok :
      ((({} : Pool).after s n front).send s n client message).1.isOk = true) :
    ∃ own k, (({} : Pool).after s n front).clients[client.number]? = some own ∧
      (Envelope.of own.deviceId message).encode ∈ delivered k
        (({} : Pool).traffic s n (front ++ .send client message :: back)) := by
  obtain ⟨hkept, hhoused⟩ := Kept.after (s := s) (n := n) front
  rcases hkept.send hhoused client message with ⟨-, -, deviceId, hrefused⟩ |
    ⟨own, hown, -, hfate⟩
  · rw [hrefused] at hok
    cases hok
  · generalize (({} : Pool).after s n front).send s n client message =
      sent at hok hfate
    obtain ⟨result, q⟩ := sent
    cases hfate with
    | unsent => cases hok
    | broken => cases hok
    | @written _ k hevents hcurrent =>
      refine ⟨own, k, hown, ?_⟩
      rw [traffic_append, traffic, hevents]
      simp [delivered, Event.whole?]

end Backend.Pool

namespace Connection

variable {s : PoolSetup} {n : Network} {v : Services Pool} {peer : Option Peer}
  {arrived : List UInt8} {P : Backend.Client → Prop}
  {r : Connection × World Pool}

/-- Before the session acts at a turn, the pool was used to make a client, or by
others, or not at all. -/
theorem opened_upstream (hv : v.transport = Pool.transport s n)
    (r : Connection × World Pool) (x : Turn Pool)
    (hothers : ∀ b, x = .elsewhere b → ∃ more, b = r.2.backend.after s n more) :
    ∃ uses, (x.opened v r).backend = r.2.backend.after s n uses := by
  cases x with
  | event now event =>
    cases event with
    | connectReady =>
      simp only [Turn.opened]
      cases r.1.connecting with
      | none => exact ⟨[], rfl⟩
      | some request =>
        rw [Option.elim_some, workOut_backend, hv]
        split
        · exact ⟨[.connect _], rfl⟩
        · exact ⟨[], rfl⟩
    | _ => exact ⟨[], rfl⟩
  | elsewhere b => exact hothers b rfl
  | _ => exact ⟨[], rfl⟩

theorem turn_upstream (hv : v.transport = Pool.transport s n)
    (hd : Dealt v peer arrived P r) (x : Turn Pool)
    (hothers : ∀ b, x = .elsewhere b → ∃ more, b = r.2.backend.after s n more) :
    ∃ uses, (turn v r x).2.backend = r.2.backend.after s n uses ∧
      ∃ offers, (turn v r x).2.offers = r.2.offers ++ offers ∧
        (offers.map Offer.inPool).Sublist (r.2.backend.answers s n uses) := by
  obtain ⟨opening, hopening⟩ := opened_upstream hv r x hothers
  have hoffers : (x.opened v r).offers = r.2.offers := by
    obtain ⟨backend, hworld⟩ := opened_world v r x
    rw [hworld]
    rfl
  have hdeals : (x.opened v r).Deals v.transport v.session (fun _ => True)
      (· ∈ v.packets peer (arrived ++ x.octets)) (turn v r x).2 :=
    (turn_dealt hd x (fun _ _ => trivial) fun _ _ _ _ => trivial).2
  rw [World.Deals, hv, hopening, hoffers] at hdeals
  obtain ⟨uses, hpool, offers, hmore, hamong⟩ := Pool.uses_of_transport hdeals
  refine ⟨opening ++ uses, ?_, offers, hmore, ?_⟩
  · rw [Pool.after_append]
    exact hpool
  · rw [Pool.answers_append]
    exact hamong.trans (List.sublist_append_right _ _)

/-- Whoever else has the pool for a backend uses it as a pool. -/
def Shares (s : PoolSetup) (n : Network) (v : Services Pool)
    (first : Connection × World Pool) (turns : List (Turn Pool)) : Prop :=
  ∀ before b after, turns = before ++ .elsewhere b :: after →
    ∃ more, b = (course v first before).2.backend.after s n more

private theorem course_uses (hv : v.transport = Pool.transport s n)
    (connectionId : String) (peer : Option Peer) (now : Nat) (backend : Pool)
    (metrics : Option Metrics) {turns : List (Turn Pool)}
    {first : Connection × World Pool}
    (hfirst : first = (start v connectionId peer now, { backend, metrics }))
    (hshares : Shares s n v first turns) :
    ∃ uses, (course v first turns).2.backend = backend.after s n uses ∧
      ((course v first turns).2.offers.map Offer.inPool).Sublist
        (backend.answers s n uses) := by
  induction turns using List.reverseRecOn with
  | nil =>
    refine ⟨[], ?_, ?_⟩
    · rw [hfirst]
      rfl
    · rw [hfirst]
      exact List.nil_sublist _
  | append_singleton turns x ih =>
    obtain ⟨uses, hpool, hamong⟩ := ih fun before b after hsplit =>
      hshares before b (after ++ [x]) (by simp [hsplit])
    have hd : Dealt v peer (turns.flatMap Turn.octets)
        (fun _ => ∃ info, (course v first turns).1.tenant = some info)
        (course v first turns) := by
      rw [hfirst]
      exact course_dealt v connectionId peer now backend metrics
    obtain ⟨more, hpool', offers, hoffers, hamong'⟩ :=
      turn_upstream hv hd x fun b hx => hshares turns b [] (by rw [hx])
    rw [course_concat]
    refine ⟨uses ++ more, ?_, ?_⟩
    · rw [Pool.after_append, ← hpool]
      exact hpool'
    · rw [hoffers, List.map_append, Pool.answers_append, ← hpool]
      exact hamong.append hamong'

/-- Let a connection have a pool for its backend, which others use before and
meanwhile.  Then its course comes to a run of the pool, and what it handed over
is among the uses, in order and with the answers that it was given.  A message
that was accepted was written in full on a stream, in the envelope of its
client.  A stream holds the envelopes that were written on it in full, and
behind them at most the front of one whose write went wrong. -/
theorem course_upstream (s : PoolSetup) (n : Network) (table : TenantTable)
    (maxMessageSize : Nat) (topic : TopicSetup) (session : SessionSetup)
    (connectionId : String) (peer : Option Peer) (now : Nat)
    (earlier : List Pool.Use) (metrics : Option Metrics)
    (turns : List (Turn Pool)) :
    let v : Services Pool :=
      ⟨Pool.transport s n, table, maxMessageSize, topic, session⟩
    let backend := ({} : Pool).after s n earlier
    let first :=
      (start v connectionId peer now, ({ backend, metrics } : World Pool))
    let r := course v first turns
    Shares s n v first turns → ∃ uses,
      let log := ({} : Pool).traffic s n (earlier ++ uses)
      r.2.backend = ({} : Pool).after s n (earlier ++ uses) ∧
      (r.2.offers.map Offer.inPool).Sublist (backend.answers s n uses) ∧
      (∀ o ∈ r.2.offers, o.result.isOk = true → ∃ front back own k,
        earlier ++ uses = front ++ .send o.client o.message :: back ∧
          (({} : Pool).after s n front).clients[o.client.number]? = some own ∧
          (Backend.Envelope.of own.deviceId o.message).encode ∈
            delivered k log) ∧
      ∀ k, k < r.2.backend.streams.length →
        ∃ tail,
          r.2.backend.streams[k]? = some ((delivered k log).flatten ++ tail) ∧
          (tail = [] ∨ ∃ front frame outcome time back,
            log = front ++ .wrote k frame outcome time :: back ∧
              outcome ≠ .done ∧ tail <+: frame) := by
  intro v backend first r hshares
  obtain ⟨uses, hpool, hamong⟩ :=
    course_uses rfl connectionId peer now backend metrics rfl hshares
  have hbackend : r.2.backend = ({} : Pool).after s n (earlier ++ uses) := by
    rw [hpool, Pool.after_append]
  obtain ⟨hkept, -⟩ := Pool.Kept.after (s := s) (n := n) (earlier ++ uses)
  refine ⟨uses, hbackend, hamong, fun o ho hok => ?_, fun k hk => ?_⟩
  · obtain ⟨front, back, huses, hanswer⟩ :=
      Pool.answers_eq s n (hamong.subset (List.mem_map_of_mem ho))
    have hsplit : earlier ++ uses =
        (earlier ++ front) ++ .send o.client o.message :: back := by
      rw [huses, List.append_assoc]
    rw [← Pool.after_append] at hanswer
    have hsent := (isOk_eq_of_map_eq hanswer).symm.trans hok
    obtain ⟨own, k, hown, hframe⟩ := Pool.delivered_of_ok back hsent
    exact ⟨_, back, own, k, hsplit, hown, hsplit ▸ hframe⟩
  · rw [hbackend] at hk ⊢
    obtain ⟨tail, htail, hcause⟩ := hkept.orderly.laid_eq k
    exact ⟨tail, (hkept.content k hk).trans (congrArg some htail), hcause⟩

/-- The lines `T~0~d~x` and `T~0~d~y` come in with one read.  Their envelopes
stand on one stream, that of the first line behind that of the second. -/
example :
    let s : PoolSetup := ⟨"u", 1, 1000, 1000, 60000, fun _ => 0⟩
    let n : Network := ⟨fun _ => .opened, fun _ => .done⟩
    let v : Services Pool :=
      ⟨Pool.transport s n, {}, 64, ⟨⟨[("T.d", ⟨"d", "h/d", "s"⟩)]⟩, [], 0⟩,
        ⟨none, "", 2⟩⟩
    let r := course v (start v "c" none 0, { backend := {} })
      [.event 0 (.read [84, 126, 48, 126, 100, 126, 120, 10, 84, 126, 48, 126,
        100, 126, 121, 10]), .event 1 .connectReady]
    r.2.offers.map (·.message.payload.serial) = [1, 0] ∧
      r.2.backend.streams = [r.2.offers.flatMap fun o =>
        (Backend.Envelope.of "d" o.message).encode] := by
  decide +kernel

end Connection

end DeviceGateway
