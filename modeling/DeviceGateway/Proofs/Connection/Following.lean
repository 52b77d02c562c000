import DeviceGateway.Proofs.Connection.Stream
import DeviceGateway.Proofs.Session.Account
import DeviceGateway.Proofs.Session.Arrivals

/-!
# The run beside a connection

What a connection asks of its session is a run of that session.  `Beside` puts
the two side by side: the run has the same session and the same world, and with
them its history, so that what is known of runs is known of the session of a
connection.  A CONNECT that is in work is one of the stream, or was made for
data of the stream.

As long as the session is open, connection and stream are `InStep`: the decoder
and the input that is left stand for the whole of what has arrived, and topic
stage, tenancy and ledger are where they would be if the frames so far had been
read as one stream.  The history of the run is what these frames say.  So it
does not matter how many octets come at a time, when reading is held back, or
when the CONNECT has its outcome.  `Followed` is all of this, and for a closed
session what is left of it.

## Main results

* `Told.receive`: a parcel that a session receives is told by its run.
* `InStep.look_frame`: the topic stage makes of a frame what the stream says.
* `Beside.takeFrame`: one more frame keeps connection and stream in step.
-/

namespace DeviceGateway

open Wire (Frame)
open Wire.Decoder (Continues goesOn unlessFatal)

/-! ## Parcels -/

namespace Parcel

/-- Whether a CONNECT may come of a parcel: the parcel holds it, or it is made
for the device of the data. -/
def Asks (q : Parcel) (request : Connect) : Prop :=
  q.connect = some request ∨ ∃ p,
    q.data = some p ∧ p.deviceId = request.deviceId

/-- The first parcel that says anything. -/
def opener (parcels : List Parcel) : Option Parcel :=
  parcels.find? fun q => !q.isEmpty

private theorem opener_concat (parcels : List Parcel) (q : Parcel) :
    opener (parcels ++ [q]) =
      (opener parcels).or (if q.isEmpty then none else some q) := by
  rw [opener, List.find?_append, opener]
  cases h : q.isEmpty <;> simp [h]

end Parcel

namespace Topic

variable (s : TopicSetup) (tenancy : Tenancy)

theorem introduce_data (needsConnect : Bool) (q : Parcel) :
    (introduce s tenancy needsConnect q).data = q.data := by
  unfold introduce
  split <;> rfl

/-- A parcel brings a CONNECT to a session that wants one, unless it is
empty. -/
theorem introduce_connect_eq_none (q : Parcel) :
    (introduce s tenancy true q).connect = none ↔ q.isEmpty = true := by
  obtain ⟨connect, data⟩ := q
  cases data <;> cases connect <;> simp [introduce, Parcel.isEmpty]

private theorem asks_of_introduce {needsConnect : Bool} {q : Parcel}
    {request : Connect}
    (h : (introduce s tenancy needsConnect q).connect = some request) :
    q.Asks request := by
  unfold introduce at h
  split at h
  · next data hdata =>
    obtain rfl := Option.some.inj h
    refine .inr ⟨data, hdata, ?_⟩
    unfold TopicSetup.connectFor
    split <;> rfl
  · exact .inl h

end Topic

namespace Services

variable {σ : Type} (v : Services σ) (peer : Option Peer)
  (os : List (Except Wire.Fault Frame))

theorem decodeAll_frame (frame : Frame) :
    let front := v.decodeAll peer os
    let out := front.2.1.decode front.2.2.1 false frame front.2.2.2
    v.decodeAll peer (os ++ [.ok frame]) =
      (front.1 ++ out.1.toList, out.2) := by
  have happend := Topic.decodeAll_append { setup := v.topic } (v.tenancy peer)
    {} os [.ok frame]
  simpa [Topic.decodeAll, decodeAll] using happend

/-- A frame at fault says nothing. -/
theorem decodeAll_fault (fault : Wire.Fault) :
    v.decodeAll peer (os ++ [.error fault]) = v.decodeAll peer os := by
  rw [decodeAll, Topic.decodeAll_append]
  simp [Topic.decodeAll, decodeAll]

end Services

/-! ## Runs that tell the stream -/

namespace Run

variable {σ : Type} {r : Run σ} {parcels : List Parcel}

/-- The history of a run is what some parcels say: its data is theirs, and the
first that said anything began the CONNECT. -/
structure Told (r : Run σ) (parcels : List Parcel) : Prop where
  arrivals : r.arrivals = parcels.filterMap Parcel.data
  held : r.held = (Parcel.opener parcels).bind Parcel.data
  phase : r.session.flags.phase = .notConnected ↔ Parcel.opener parcels = none

theorem told_start (setup : SessionSetup) (connectionId : String) (now : Nat)
    (w : World σ) :
    (start setup connectionId now w).Told [] :=
  ⟨rfl, rfl, fun _ => rfl, fun _ => rfl⟩

theorem Told.aside (h : r.Told parcels) (w : World σ) :
    { r with world := w }.Told parcels :=
  ⟨h.arrivals, h.held, h.phase⟩

/-- A parcel that an open session receives is told, with or without the CONNECT
that was made for the session. -/
theorem Told.receive (t : Backend.Transport σ) (h : r.Told parcels)
    (hsituation : r.Situation) (hopen : r.session.flags.closed = false)
    (now : Nat) {p q : Parcel} (hdata : p.data = q.data)
    (hconnect : r.session.flags.phase = .notConnected →
      (p.connect = none ↔ q.isEmpty = true)) :
    (r.step t (.receive now p)).Told (parcels ++ [q]) := by
  have hfirst : r.session.flags.phase = .notConnected →
      r.held = none ∧ (p.connect = none → p.data = none) := by
    intro hphase
    refine ⟨by rw [h.held, h.phase.1 hphase]; rfl, fun hnone => ?_⟩
    have hempty := (hconnect hphase).1 hnone
    rw [Parcel.isEmpty, Bool.and_eq_true, Option.isNone_iff_eq_none,
      Option.isNone_iff_eq_none] at hempty
    rw [hdata, hempty.2]
  obtain ⟨harrivals, hheld, hkept, hphase'⟩ :=
    hsituation.receive_history t hopen now hfirst
  refine ⟨?_, ?_, ?_⟩
  · rw [harrivals, h.arrivals, hdata, List.filterMap_append]
    cases hq : q.data <;> simp [hq]
  · rw [Parcel.opener_concat]
    by_cases hphase : r.session.flags.phase = .notConnected
    · rw [hheld hphase, h.phase.1 hphase, Option.none_or, hdata]
      cases hempty : q.isEmpty with
      | true =>
        rw [Parcel.isEmpty, Bool.and_eq_true, Option.isNone_iff_eq_none,
          Option.isNone_iff_eq_none] at hempty
        exact hempty.2
      | false => rfl
    · rw [hkept hphase, h.held]
      cases hopener : Parcel.opener parcels with
      | none => exact absurd (h.phase.2 hopener) hphase
      | some o => rfl
  · rw [hphase', Parcel.opener_concat, Option.or_eq_none_iff, h.phase]
    refine and_congr_right fun hnone => ?_
    rw [hconnect (h.phase.2 hnone)]
    cases q.isEmpty <;> simp

end Run

namespace Connection

variable {σ : Type} {v : Services σ} {peer : Option Peer}
  {origin : Established → Prop} {asked : Prop} {arrived : List UInt8}
  {os : List (Except Wire.Fault Frame)} {c : Connection} {w : World σ}
  {h : Run σ} {d : Wire.Decoder} {tenancy : Tenancy}

/-! ## In step with the stream -/

/-- After some outcomes of the stream, a connection whose chain is resolved is
where the stream as a whole would have brought it. -/
structure InStep (v : Services σ) (peer : Option Peer) (arrived : List UInt8)
    (os : List (Except Wire.Fault Frame)) (c : Connection) (w : World σ)
    (d : Wire.Decoder) (tenancy : Tenancy) : Prop where
  ready : c.chain.Ready d tenancy
  continues : Continues (v.tenancy peer).decoder arrived os d c.input
  topic : (v.decodeAll peer os).2.1 = c.topic
  tenancy : (v.decodeAll peer os).2.2.1 = tenancy
  ledger : (v.decodeAll peer os).2.2.2.allocated = w.ledger.allocated

namespace InStep

/-- What was made of the frames so far is the front of what the stream says. -/
theorem isPrefix (hs : InStep v peer arrived os c w d tenancy) :
    (v.decodeAll peer os).1 <+: v.said peer arrived := by
  have hfound := hs.continues.isPrefix []
  rw [List.append_nil] at hfound
  exact Services.decodeAll_isPrefix hfound

/-- The session has no part in it. -/
theorem of_session (hs : InStep v peer arrived os c w d tenancy)
    {c' : Connection} {w' : World σ} (hchain : c'.chain = c.chain)
    (hinput : c'.input = c.input) (htopic : c'.topic = c.topic)
    (hledger : w'.ledger.allocated = w.ledger.allocated) :
    InStep v peer arrived os c' w' d tenancy where
  ready := hchain ▸ hs.ready
  continues := hinput ▸ hs.continues
  topic := hs.topic.trans htopic.symm
  tenancy := hs.tenancy
  ledger := hs.ledger.trans hledger.symm

section Look

variable {chain : Chain} {input : List UInt8}

theorem look_none (hs : InStep v peer arrived os c w d tenancy)
    (hnext : c.chain.next c.input = (none, chain, input)) :
    ∃ d', InStep v peer arrived os { c with chain, input } w d' tenancy := by
  obtain ⟨d', hlook, hready⟩ := hs.ready.next hnext
  exact ⟨d',
    { hs with ready := hready, continues := hs.continues.look_none hlook }⟩

/-- A frame at fault that is dropped says nothing. -/
theorem look_fault (hs : InStep v peer arrived os c w d tenancy)
    {fault : Wire.Fault}
    (hnext : c.chain.next c.input = (some (.error fault), chain, input))
    (hmild : fault.isFatal = false) :
    ∃ d', InStep v peer arrived (os ++ [.error fault])
      { c with chain, input } w d' tenancy := by
  obtain ⟨d', hlook, hready⟩ := hs.ready.next hnext
  have hgo : goesOn unlessFatal (.error fault) = true := by
    simp [goesOn, unlessFatal, hmild]
  have hall := v.decodeAll_fault peer os fault
  exact ⟨d',
    { ready := hready
      continues := hs.continues.look_some hlook hgo
      topic := by rw [hall]; exact hs.topic
      tenancy := by rw [hall]; exact hs.tenancy
      ledger := by rw [hall]; exact hs.ledger }⟩

/-- A fault that ends the connection is one that the stream comes to. -/
theorem look_fatal (hs : InStep v peer arrived os c w d tenancy)
    {fault : Wire.Fault}
    (hnext : c.chain.next c.input = (some (.error fault), chain, input))
    (hfatal : fault.isFatal = true) : .error fault ∈ v.found peer arrived := by
  obtain ⟨d', hlook, -⟩ := hs.ready.next hnext
  have hreads := hs.continues.look_fatal hlook hfatal []
  rw [List.append_nil] at hreads
  rw [Services.found, Wire.Decoder.drain_eq hreads]
  exact List.mem_append_right os (List.mem_singleton.2 rfl)

/-- The topic stage makes the same of a frame as it would make of it in the
stream as a whole, but for a CONNECT that the session wants. -/
theorem look_frame (hs : InStep v peer arrived os c w d tenancy) {frame : Frame}
    (hnext : c.chain.next c.input = (some (.ok frame), chain, input))
    (needsConnect : Bool) :
    let out := c.topic.decode tenancy needsConnect frame w.ledger
    ∃ d' said, InStep v peer arrived (os ++ [.ok frame])
        ({ c with chain, input }.informed out.2.1 out.2.2.1)
        { w.count Metrics.recordFrame with ledger := out.2.2.2 } d' out.2.2.1 ∧
      (v.decodeAll peer (os ++ [.ok frame])).1 =
        (v.decodeAll peer os).1 ++ Option.toList said ∧
      out.1 =
          said.map (Topic.introduce c.topic.setup out.2.2.1 needsConnect) := by
  intro out
  obtain ⟨d', hlook, hready⟩ := hs.ready.next hnext
  have hall := v.decodeAll_frame peer os frame
  dsimp only at hall
  rw [hs.topic, hs.tenancy] at hall
  obtain ⟨hparcel, htopic, htenancy, hallocated⟩ :=
    c.topic.decode_introduce tenancy needsConnect frame hs.ledger.symm
  refine ⟨d', (c.topic.decode tenancy false frame
    (v.decodeAll peer os).2.2.2).1, ?_, ?_, ?_⟩
  · exact
      { ready := hready.learn _
        continues := hs.continues.look_some hlook rfl
        topic := by rw [hall]; exact htopic.symm
        tenancy := by rw [hall]; exact htenancy.symm
        ledger := by rw [hall]; exact hallocated.symm }
  · rw [hall]
  · rw [← htenancy] at hparcel
    exact hparcel

end Look

end InStep

/-! ## A run beside a connection -/

/-- A connection and the run beside it.  What the CONNECT has brought satisfies
`origin`, and others ask the session to close only if `asked` holds. -/
structure Beside (v : Services σ) (peer : Option Peer)
    (origin : Established → Prop) (asked : Prop) (arrived : List UInt8)
    (c : Connection) (w : World σ) (h : Run σ) : Prop where
  session : h.session = c.session
  world : h.world = w
  sound : h.Sound asked
  awaiting : c.connecting.isSome = true → h.awaiting = true
  bound : ∀ e, h.bound = some e → origin e
  request : ∀ request, c.connecting = some request → ∃ q ∈ v.said peer arrived,
    q.Asks request

namespace Beside

theorem aside (hb : Beside v peer origin asked arrived c w h) {w' : World σ}
    (hjournal : w'.journal = w.journal) :
    Beside v peer origin asked arrived c w' { h with world := w' } :=
  { hb with
    world := rfl
    sound := hb.sound.aside (hjournal.trans (by rw [hb.world])) }

/-- The stages before the session have no part in it. -/
theorem of_session (hb : Beside v peer origin asked arrived c w h)
    (c' : Connection) (hsession : c'.session = c.session)
    (hconnecting : ∀ request, c'.connecting = some request →
      c.connecting = some request) :
    Beside v peer origin asked arrived c' w h :=
  { hb with
    session := hb.session.trans hsession.symm
    awaiting := fun hsome => by
      obtain ⟨request, hrequest⟩ := Option.isSome_iff_exists.1 hsome
      exact hb.awaiting (by rw [hconnecting request hrequest]; rfl)
    request := fun request hrequest =>
      hb.request request (hconnecting request hrequest) }

/-- A session that wants a CONNECT has none in work. -/
theorem needsConnect (hb : Beside v peer origin asked arrived c w h)
    (hopen : c.session.flags.closed = false)
    (hphase : c.session.flags.phase = .notConnected) :
    (c.session.needsConnect && c.connecting.isNone) = true := by
  have hidle : h.Idle :=
    hb.sound.situation.idle_of_open (by rw [hb.session, hopen])
      (by rw [hb.session, hphase])
  have hnone : c.connecting = none := by
    cases hconnecting : c.connecting with
    | none => rfl
    | some request =>
      have hawaiting := hb.awaiting (by rw [hconnecting]; rfl)
      rw [hidle.awaiting] at hawaiting
      cases hawaiting
  simp [Session.needsConnect, hopen, hphase, hnone]

theorem receive (hb : Beside v peer origin asked arrived c w h) (now : Nat)
    {p : Parcel}
    (hrequest : ∀ request, p.connect = some request →
      ∃ q ∈ v.said peer arrived, q.Asks request) :
    Beside v peer origin asked arrived (c.receive v w now p).1
      (c.receive v w now p).2
      (h.step v.transport (.receive now p)) := by
  have hreceive : h.session.receive v.transport h.world now p =
      c.session.receive v.transport w now p := by rw [hb.session, hb.world]
  have hstep : h.step v.transport (.receive now p) =
      { h.note p (c.session.receive v.transport w now p).1 with
        session := (c.session.receive v.transport w now p).2.1
        world := (c.session.receive v.transport w now p).2.2 } := by
    simp only [Run.step, hreceive]
  have hsound := Run.sound_step v.transport hb.sound (d := .receive now p)
    fun _ cause hshutdown => by cases hshutdown
  rw [hstep] at hsound ⊢
  have hcase := Session.received v.transport c.session w now p
  simp only [Connection.receive]
  generalize c.session.receive v.transport w now p = out at hsound hcase
  refine
    { session := rfl, world := rfl, sound := hsound
      awaiting := fun hsome => ?_
      bound := fun e he => hb.bound e ((h.note_bound p out.1).symm.trans he)
      request := fun request hsome => ?_ }
  · change (h.note p out.1).awaiting = true
    rw [Run.note_awaiting]
    obtain ⟨reception, rest⟩ := out
    cases reception with
    | handled => exact hb.awaiting hsome
    | beginConnect request => rfl
  · cases hcase with
    | begun hopen hphase request' hconnect =>
      obtain rfl : request' = request := Option.some.inj hsome
      exact hrequest request' hconnect
    | dropped hclosed => exact hb.request request hsome
    | empty hopen hdata hconnect => exact hb.request request hsome
    | unexpected hopen hphase hconnect q hdata => exact hb.request request hsome
    | queued hopen hphase q hdata => exact hb.request request hsome
    | live hopen hphase q hdata => exact hb.request request hsome

end Beside

/-- A connection with the run beside it, whose history is what the stream says
up to where the session was closed.  While it is open, the two are in step. -/
structure Followed (v : Services σ) (peer : Option Peer)
    (origin : Established → Prop) (asked : Prop) (arrived : List UInt8)
    (c : Connection) (w : World σ) (h : Run σ) : Prop
    extends Beside v peer origin asked arrived c w h where
  arrivals : h.arrivals <+: v.packets peer arrived
  current : c.session.flags.closed = false → ∃ chain d tenancy os,
    c.chain.resolve v.table v.maxMessageSize c.peer = .ok (tenancy, chain) ∧
      InStep v peer arrived os { c with chain } w d tenancy ∧
        h.Told (v.decodeAll peer os).1
  peer : c.peer = peer

theorem Beside.followed (hb : Beside v peer origin asked arrived c w h)
    (hs : InStep v peer arrived os c w d tenancy)
    (htold : h.Told (v.decodeAll peer os).1) (hpeer : c.peer = peer) :
    Followed v peer origin asked arrived c w h :=
  { hb with
    arrivals := by
      rw [htold.arrivals]
      exact hs.isPrefix.filterMap Parcel.data
    current := fun _ => ⟨c.chain, d, tenancy, os, hs.ready.resolve _ _ _,
      hs, htold⟩
    peer := hpeer }

/-- A session that is closed is followed without being in step. -/
theorem Beside.followed_of_closed
    (hb : Beside v peer origin asked arrived c w h)
    (hclosed : c.session.flags.closed = true)
    (harrivals : h.arrivals <+: v.packets peer arrived)
    (hpeer : c.peer = peer) : Followed v peer origin asked arrived c w h :=
  { hb with
    arrivals := harrivals
    current := fun hopen => by
      rw [hclosed] at hopen
      cases hopen
    peer := hpeer }

/-! ### Taking a frame -/

/-- Taking a frame keeps connection and stream in step, also if the session
closes at it. -/
theorem Beside.takeFrame (hb : Beside v peer origin asked arrived c w h)
    (hopen : c.session.flags.closed = false)
    (hs : InStep v peer arrived os c w d tenancy)
    (htold : h.Told (v.decodeAll peer os).1) {chain : Chain}
    {input : List UInt8} {frame : Frame}
    (hnext : c.chain.next c.input = (some (.ok frame), chain, input))
    (now : Nat) :
    let out := { c with chain, input }.takeFrame v w now tenancy frame
    ∃ h' d' tenancy', Beside v peer origin asked arrived out.1 out.2 h' ∧
      InStep v peer arrived (os ++ [.ok frame]) out.1 out.2 d' tenancy' ∧
      h'.Told (v.decodeAll peer (os ++ [.ok frame])).1 := by
  generalize hneeds : (c.session.needsConnect && c.connecting.isNone) =
    needsConnect
  obtain ⟨d', said, hs', hall, hparcel⟩ := hs.look_frame hnext needsConnect
  rw [takeFrame_eq]
  simp only [hneeds]
  generalize c.topic.decode tenancy needsConnect frame w.ledger =
    out at hs' hparcel
  obtain ⟨parcel, topic, tenancy', ledger⟩ := out
  dsimp only at hs' hparcel ⊢
  generalize hw' : { w.count Metrics.recordFrame with ledger } = w' at hs'
  have hjournal : w'.journal = w.journal := by rw [← hw']; rfl
  have hb' : Beside v peer origin asked arrived
      ({ c with chain, input }.informed topic tenancy') w' { h with
        world := w' } := (hb.aside hjournal).of_session _ rfl fun _ => id
  cases said with
  | none =>
    subst hparcel
    rw [Option.toList_none, List.append_nil] at hall
    rw [hall]
    exact ⟨_, d', tenancy', hb', hs', htold.aside w'⟩
  | some q =>
    rw [Option.toList_some] at hall
    generalize hp : Topic.introduce c.topic.setup tenancy' needsConnect q = p
    rw [Option.map_some, hp] at hparcel
    subst hparcel
    have hdata : p.data = q.data := by rw [← hp, Topic.introduce_data]
    have hconnect : h.session.flags.phase = .notConnected →
        (p.connect = none ↔ q.isEmpty = true) := by
      intro hphase
      rw [hb.session] at hphase
      rw [← hp, ← hneeds, hb.needsConnect hopen hphase]
      exact Topic.introduce_connect_eq_none _ _ q
    have hopen' : h.session.flags.closed = false := by rw [hb.session, hopen]
    have hq : q ∈ v.said peer arrived := by
      refine hs'.isPrefix.subset ?_
      rw [hall]
      exact List.mem_append_right _ (List.mem_singleton.2 rfl)
    have hunheld : c.session.flags.phase = .notConnected →
        c.session.held = none := by
      intro hphase
      rw [← hb.session] at hphase ⊢
      exact (hb.sound.situation.idle_of_open hopen' hphase).held
    have hledger :=
      (Session.receive_accounts v.transport hunheld w' now p).allocated
    rw [hall]
    refine ⟨_, d', tenancy', hb'.receive now fun request hrequest =>
      ⟨q, hq, ?_⟩, hs'.of_session rfl rfl rfl hledger,
      (htold.aside w').receive v.transport hb'.sound.situation hopen' now hdata
        hconnect⟩
    rw [← hp] at hrequest
    exact Topic.asks_of_introduce _ _ hrequest

end Connection

end DeviceGateway
