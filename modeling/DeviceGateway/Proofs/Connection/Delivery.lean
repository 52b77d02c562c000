import DeviceGateway.Proofs.Connection.Settling

/-!
# What reaches the backend

A device says the same to its backend however its octets come in.  They may be
cut anywhere, the CONNECT may have its outcome at any time, and reading may be
held back while it has none: if the stream is of one device and nothing goes
wrong, all data packets of the stream are handed over, once each, made the same
way and in their order.

There is one exception to the order.  If data comes before any CONNECT, a
CONNECT is made for it, and the data that brought it along is held until the
queue is relayed.  So this one packet comes behind those that had to wait, and
their number does depend on when the outcome came.  If it has an empty payload,
it only served to introduce its device, and it is not handed over.

## Main results

* `Run.Sound.loyal_or_marked`: a run in which nothing goes wrong stays loyal
  until it comes to a packet of another device.
* `Run.Told.handed`: what the line of a run makes of the order of a stream.
* `course_delivers`: every schedule of a stream hands the stream over.
-/

namespace DeviceGateway

open Wire (Frame)

/-! ## Runs in which nothing goes wrong -/

namespace Run

open Session (Loyal)

variable {σ : Type} {r : Run σ} {e : Established}

/-- A session that is connected was bound. -/
theorem Situation.bound_of_connected (h : r.Situation)
    (hphase : r.session.flags.phase = .connected) : ∃ e, r.bound = some e := by
  cases h with
  | idle h => exact absurd (hphase.symm.trans h.phase) (by decide)
  | waiting h => exact absurd (hphase.symm.trans h.phase) (by decide)
  | dropped h => exact absurd hphase h.phase
  | serving e h => exact ⟨e, h.bound⟩
  | served e cause taken rest h => exact ⟨e, h.bound⟩

theorem Situation.served_of_closed (h : r.Situation) (hbound : r.bound = some e)
    (hclosed : r.session.flags.closed = true) :
    ∃ cause taken rest, r.Served e cause taken rest := by
  cases h with
  | idle h => rw [h.bound] at hbound; cases hbound
  | waiting h => rw [h.bound] at hbound; cases hbound
  | dropped h => rw [h.bound] at hbound; cases hbound
  | serving e' h => rw [h.flowing.opened] at hclosed; cases hclosed
  | served e' cause taken rest h =>
    obtain rfl : e' = e := Option.some.inj (h.bound.symm.trans hbound)
    exact ⟨cause, taken, rest, h⟩

/-- A run in which nothing goes wrong stays loyal until it comes to a packet of
another device, which closes its session and marks it.  One of its own that was
not accepted had no client, or the client refused it, or the device was
silent. -/
theorem Sound.loyal_or_marked {asked : Prop} (h : r.Sound asked)
    (halone : ¬ asked) (hbound : r.bound = some e)
    (hclient : e.bridge.client.isSome = true)
    (hsends : ∀ o ∈ r.world.offers, o.result.isOk = true)
    (halive : ∀ cause ∈ r.world.causes, ∀ failure ∈ cause,
      failure.code ≠ .keepAliveTimedOut) :
    Loyal e r.line r.session r.world ∨
      r.session.flags.closed = true ∧ r.session.flags.misconfigured = true := by
  have hheard : ∀ elapsed,
      r.world.causes.head? ≠
        some (some (r.session.silenceFailure elapsed)) := by
    intro elapsed hsilent
    exact halive _ (List.mem_of_head? hsilent) _ rfl rfl
  cases h.conduct with
  | unbound hnone => rw [hbound] at hnone; cases hnone
  | loyal e' hbound' hloyal =>
    obtain rfl : e = e' := Option.some.inj (hbound.symm.trans hbound')
    exact .inl hloyal
  | asked hasked => exact absurd hasked halone
  | fallen e' cause taken rest hbound' hclosed hline haccepted hcause _
    hverdict =>
    cases hverdict with
    | stranger p more hid hcause' hflag => exact .inr ⟨hclosed, hflag⟩
    | silent rest elapsed hsilent =>
      rw [hsilent] at hcause
      exact absurd hcause (hheard elapsed)
    | own p more hid =>
      exfalso
      obtain rfl : e = e' := Option.some.inj (hbound.symm.trans hbound')
      obtain ⟨cause', taken', rest', hserved⟩ :=
        h.situation.served_of_closed hbound hclosed
      have hhalted := hserved.halted
      obtain ⟨rfl, rfl⟩ := taken_unique (hline.symm.trans hserved.line)
        (haccepted.symm.trans hhalted.accepted)
      cases hhalted.stop p rfl with
      | stranger hid' => exact hid' hid
      | unserved hnone => rw [hnone] at hclient; cases hclient
      | refused client fault hlast =>
        cases hsends _ (List.mem_of_getLast? hlast)
      | silent _ elapsed _ hsilent =>
        have hhead := hhalted.causes
        rw [hsilent] at hhead
        exact hheard elapsed hhead

end Run

/-! ## The order of a stream -/

namespace Topic

/-- Without a session that wants a CONNECT, no frame gives a CONNECT and
data. -/
theorem decode_single (t : Topic) (tenancy : Tenancy) (frame : Frame)
    (l : Ledger) :
    ∀ q ∈ (t.decode tenancy false frame l).1, q.connect = none ∨
      q.data = none := by
  intro q hq
  cases frame with
  | connect request =>
    obtain rfl := Option.some.inj hq
    exact .inr rfl
  | heartbeat =>
    obtain rfl := Option.some.inj hq
    exact .inl rfl
  | skipped kind => cases hq
  | data reading =>
    obtain rfl := Option.some.inj hq
    exact .inl rfl
  | line bytes =>
    unfold decode at hq
    dsimp only at hq
    split at hq
    · cases hq
    · obtain rfl := Option.some.inj hq
      exact .inl rfl

private theorem decodeAll_single (t : Topic) (tenancy : Tenancy) (l : Ledger)
    (os : List (Except Wire.Fault Frame)) :
    ∀ q ∈ (t.decodeAll tenancy l os).1, q.connect = none ∨ q.data = none := by
  induction os generalizing t tenancy l with
  | nil => simp [decodeAll]
  | cons o os ih =>
    cases o with
    | error fault => exact ih t tenancy l
    | ok frame =>
      intro q hq
      rcases List.mem_append.1 hq with hfirst | hothers
      · exact t.decode_single tenancy frame l q (Option.mem_toList.1 hfirst)
      · exact ih _ _ _ q hothers

end Topic

namespace Parcel

/-- The orders in which the data of some parcels may be handed over. -/
inductive Handed (parcels : List Parcel) : List DataPacket → Prop
  /-- A CONNECT comes before any data: the data keeps its order. -/
  | announced {request : Connect}
      (hopener : opener parcels = some ⟨some request, none⟩) :
      Handed parcels (parcels.filterMap Parcel.data)
  /-- Data comes before any CONNECT: its first packet is put off, and left out
  if it has no payload. -/
  | unannounced {p : DataPacket} {front back : List DataPacket}
      (hopener : opener parcels = some ⟨none, some p⟩)
      (hdata : parcels.filterMap Parcel.data = p :: (front ++ back)) :
      Handed parcels
        (front ++ (if p.payload.bytes.isEmpty then [] else [p]) ++ back)

end Parcel

/-- Whether a parcel says something of one device only. -/
def Parcel.Names (q : Parcel) (device : String) : Prop :=
  (∀ request ∈ q.connect, request.deviceId.text = device) ∧
    ∀ p ∈ q.data, p.deviceId.text = device

instance (q : Parcel) (device : String) : Decidable (q.Names device) :=
  inferInstanceAs (Decidable (_ ∧ _))

theorem Parcel.Names.of_asks {q : Parcel} {device : String} (h : q.Names device)
    {request : Connect} (hasks : q.Asks request) :
    request.deviceId.text = device := by
  rcases hasks with hconnect | ⟨p, hdata, hsame⟩
  · exact h.1 request hconnect
  · rw [← hsame]
    exact h.2 p hdata

/-- The line of a run is the data that it has been told, in an order in which it
may be handed over. -/
theorem Run.Told.handed {σ : Type} {r : Run σ} {parcels : List Parcel}
    (h : r.Told parcels)
    (hsingle : ∀ q ∈ parcels, q.connect = none ∨ q.data = none)
    (hphase : r.session.flags.phase ≠ .notConnected) :
    Parcel.Handed parcels r.line := by
  have harrivals := h.arrivals
  have hheld := h.held
  cases hopener : Parcel.opener parcels with
  | none => exact absurd (h.phase.2 hopener) hphase
  | some q =>
    have hmem : q ∈ parcels := List.mem_of_find?_eq_some hopener
    have hsays : q.isEmpty = false := by simpa using List.find?_some hopener
    obtain ⟨connect, data⟩ := q
    rw [hopener, Option.bind_some] at hheld
    simp only [Run.arrivals, hheld] at harrivals
    simp only [Run.line, hheld]
    cases data with
    | some p =>
      have hconnect : connect = none :=
        (hsingle _ hmem).resolve_right fun hnone => by cases hnone
      subst hconnect
      have hladen : Session.laden (some p) = if p.payload.bytes.isEmpty then []
          else [p] := by
        cases hempty : p.payload.bytes.isEmpty with
        | true => exact Session.laden_empty hempty
        | false => exact Session.laden_some hempty
      rw [hladen]
      refine .unannounced hopener ?_
      rw [← harrivals]
      simp
    | none =>
      cases connect with
      | none => cases hsays
      | some request =>
        have hannounced := Parcel.Handed.announced hopener
        rw [← harrivals] at hannounced
        rw [Session.laden_none, List.append_nil]
        exact hannounced

namespace Connection

variable {σ : Type} {v : Services σ} {peer : Option Peer}
  {origin : Established → Prop} {asked : Prop} {arrived : List UInt8}
  {c : Connection} {w : World σ} {h : Run σ} {device : String}

/-! ## Streams of one device -/

/-- What a CONNECT has to bring so that packets of a device can be handed
over. -/
def Serves (device : String) (e : Established) : Prop :=
  e.identity.id = device ∧ e.bridge.client.isSome = true

/-- If the stream is of one device, a CONNECT that succeeds is of this
device. -/
theorem Beside.serves (hb : Beside v peer origin asked arrived c w h)
    (hdevice : ∀ q ∈ v.said peer arrived, q.Names device) {x : Turn σ}
    (houtcome : ∀ now e, x = .outcome now (.ok e) → Serves device e)
    {e : Established} (hbinds : Binds v (c, w) x e) : Serves device e := by
  cases x with
  | event now event =>
    cases event with
    | connectReady =>
      obtain ⟨request, client, hrequest, hidentity, -, -, hbridge⟩ := hbinds
      obtain ⟨q, hq, hasks⟩ := hb.request request hrequest
      refine ⟨?_, by rw [hbridge]; rfl⟩
      rw [hidentity, Identity.authenticate_id]
      exact (hdevice q hq).of_asks hasks
    | _ => exact hbinds.elim
  | outcome now outcome =>
    obtain ⟨-, rfl⟩ := hbinds
    exact houtcome now e rfl
  | _ => exact hbinds.elim

/-- What the CONNECT brings at a turn is judged by the course up to there. -/
theorem course_serves (hf : Followed v peer (fun _ => True) True arrived c w h)
    {turns : List (Turn σ)}
    (hdevice : ∀ q ∈ v.said peer (arrived ++ turns.flatMap Turn.octets),
      q.Names device)
    (houtcome : ∀ now e, .outcome now (.ok e) ∈ turns → Serves device e)
    {before : List (Turn σ)} {x : Turn σ} {after : List (Turn σ)}
    (hturns : turns = before ++ x :: after) {e : Established}
    (hbinds : Binds v (course v (c, w) before) x e) : Serves device e := by
  obtain ⟨h', hf'⟩ := course_followed hf before (fun _ _ _ => trivial)
    (.inl trivial) (fun _ _ _ _ _ _ _ => trivial)
  refine hf'.toBeside.serves (fun q hq => hdevice q ?_)
    (fun now e hx => ?_) hbinds
  · rw [hturns, List.flatMap_append, ← List.append_assoc]
    exact (Services.said_isPrefix _ _).subset hq
  · refine houtcome now e ?_
    rw [hturns, ← hx]
    exact List.mem_append_right before List.mem_cons_self

/-- A connection that is open with nothing left in its input has read its whole
stream, and the run beside it tells all that the stream says. -/
theorem Followed.told_of_settled
    (hf : Followed v peer origin asked arrived c w h)
    (hopen : c.session.flags.closed = false)
    (hreading : c.session.flags.throttled = false) (hsettled : Settled v c) :
    h.Told (v.said peer arrived) := by
  obtain ⟨chain, d, tenancy, -, -, htold⟩ :=
    hf.in_step_of_settled hopen hreading hsettled
  exact htold

/-- Take a stream in which no fault ends the connection and whose frames are all
of one device, and let it come in any way: cut into any reads, also with rounds
of taking it up in between, with others using the backend, and with the CONNECT
having its outcome at any time.  If the CONNECT does succeed, no send fails, the
device is not found silent and nobody asks the session to close, then the
session is open, and all data packets of the stream were handed over and
accepted, once each, in an order in which only the first may be put off.  What
is left lying by a turn that does not take it up has to be taken up in the end;
if there is no such turn, nothing is left. -/
theorem course_delivers (v : Services σ) (connectionId : String)
    (peer : Option Peer) (now : Nat) (backend : σ) (metrics : Option Metrics)
    (stream : List UInt8) (device : String) (turns : List (Turn σ))
    (r : Connection × World σ)
    (hr :
      course v (start v connectionId peer now, { backend, metrics }) turns = r)
    (hstream : turns.flatMap Turn.octets = stream)
    (hmild : Mild v peer stream)
    (hdevice : ∀ q ∈ v.said peer stream, q.Names device)
    (halone : ∀ x ∈ turns, ¬ x.Closes)
    (houtcome : ∀ now e, .outcome now (.ok e) ∈ turns → Serves device e)
    (hsettled : (∀ bytes, .arrive bytes ∉ turns) ∨ Settled v r.1)
    (hconnected : r.1.session.flags.phase = .connected)
    (hsends : ∀ o ∈ r.2.offers, o.result.isOk = true)
    (halive : ∀ cause ∈ r.2.causes, ∀ failure ∈ cause,
      failure.code ≠ .keepAliveTimedOut) :
    r.1.session.flags.closed = false ∧ ∃ order,
      Parcel.Handed (v.said peer stream) order ∧
      r.2.letters = order.map v.session.letter ∧
      r.2.accepted = order.map v.session.message := by
  subst hstream hr
  have hstart := start_followed v connectionId peer now backend metrics
  have hfree := hstart (fun _ => True) True
  obtain ⟨h, hf⟩ := course_followed (hstart (Serves device) False) turns halone
    (.inr hmild) (fun before x after hturns _ e hbinds =>
      course_serves hfree hdevice houtcome hturns hbinds)
  rw [List.nil_append] at hf
  have hsettled' : Settled v (course v _ turns).1 :=
    hsettled.elim (course_settled hfree (settled_of_nil v rfl) turns) id
  have hkept :=
    course_keeps v (start v connectionId peer now, { backend, metrics }) turns
  generalize course v _ turns = r at *
  rw [← hf.session] at hconnected
  rw [← hf.world] at hsends halive ⊢
  obtain ⟨e, hbound⟩ := hf.sound.situation.bound_of_connected hconnected
  obtain ⟨hid, hclient⟩ := hf.bound e hbound
  have hown : ∀ p ∈ h.line, p.deviceId.text = e.identity.id := by
    intro p hp
    have hpacket := hf.arrivals.subset (Run.mem_arrivals_of_mem_line hp)
    obtain ⟨q, hq, hdata⟩ := List.mem_filterMap.1 hpacket
    rw [hid]
    exact (hdevice q hq).2 p hdata
  have hloyal : Session.Loyal e h.line h.session h.world := by
    refine (hf.sound.loyal_or_marked id hbound hclient hsends
      halive).resolve_right ?_
    rintro ⟨-, hflag⟩
    obtain ⟨e', taken, p, rest, hmeets⟩ := hf.sound.meets_of_misconfigured hflag
    obtain rfl : e = e' := Option.some.inj (hbound.symm.trans hmeets.bound)
    refine hmeets.stranger (hown p ?_)
    rw [hmeets.line]
    exact List.mem_append_right taken List.mem_cons_self
  have hsetup : h.session.setup = v.session := by
    rw [hf.session, hkept.setup]; rfl
  have hopen : r.1.session.flags.closed = false := by
    rw [← hf.session, hloyal.opened]
  have hreading : r.1.session.flags.throttled = false := by
    rw [← hf.session, hloyal.reading]
  have htold := hf.told_of_settled hopen hreading hsettled'
  have hhanded := htold.handed (Topic.decodeAll_single _ _ _ _)
    (by simp [hconnected])
  refine ⟨hopen, h.line, hhanded, ?_, ?_⟩
  · rw [hloyal.letters, hsetup]
  · rw [hloyal.accepted, hsetup]

/-- The lines `T~0~d~x`, `T~0~d~y` and `T~0~d~z` come in with two reads.
Reading is held back at the second line, so the third is lying in the input when
the CONNECT has its outcome. -/
theorem course_delivers_three :
    let taking : Backend.Transport Unit :=
      ⟨fun s _ _ => (.ok ⟨0, "d"⟩, s), fun s _ _ => (.ok (), s), fun s _ => s⟩
    let v : Services Unit :=
      ⟨taking, {}, 64, ⟨⟨[("T.d", ⟨"d", "h/d", "s"⟩)]⟩, [], 0⟩, ⟨none, "", 1⟩⟩
    let turns : List (Turn Unit) :=
      [.event 0 (.read [84, 126, 48, 126, 100, 126, 120, 10, 84, 126, 48]),
        .event 1 (.read [126, 100, 126, 121, 10, 84, 126, 48, 126, 100, 126,
          122, 10]),
        .event 2 .connectReady]
    let stream := turns.flatMap Turn.octets
    let r := course v (start v "c" none 0, { backend := () }) turns
    (r.1.session.flags.closed = false ∧ ∃ order,
      Parcel.Handed (v.said none stream) order ∧
      r.2.letters = order.map v.session.letter ∧
        r.2.accepted = order.map v.session.message) ∧
    r.2.accepted.map (·.payload.serial) = [1, 0, 2] := by
  intro taking v turns stream r
  have hmild : Mild v none stream := by decide +kernel
  have hdevice : ∀ q ∈ v.said none stream, q.Names "d" := by decide +kernel
  have hconnected : r.1.session.flags.phase = .connected := by decide +kernel
  have hsends : ∀ o ∈ r.2.offers, o.result.isOk = true := by decide +kernel
  have halive : ∀ cause ∈ r.2.causes, ∀ failure ∈ cause,
      failure.code ≠ .keepAliveTimedOut := by
    decide +kernel
  constructor
  · exact course_delivers v "c" none 0 () none stream "d" turns r rfl rfl hmild
      hdevice (by simp [turns, Turn.Closes]) (by simp [turns])
      (.inl (by simp [turns])) hconnected hsends
      halive
  · decide +kernel

end Connection

end DeviceGateway
