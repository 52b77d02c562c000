import DeviceGateway.Connection.Handler
import DeviceGateway.Proofs.Connection.Course
import DeviceGateway.Proofs.Wire.Continuation

/-!
# What a stream says

The octets of a device say the same whatever happens to its connection.  The
peer decides the tenancy at the start, the tenancy decides the decoder, the
decoder cuts the stream into frames, and the topic stage makes a parcel of a
frame with what it has learned from the frames before.  `Services.said` is this
reference: the parcels of a stream that is taken as a whole, without a session.

One thing depends on the session.  While it has not begun to connect, the topic
stage adds a CONNECT to data; `Topic.decode_introduce` says that it adds nothing
else and that this has no influence on what comes later.

## Main results

* `Chain.Ready.next`, `Chain.initial_resolve`: a chain gives what its decoder
  gives.
* `Topic.decode_introduce`: what the session has to do with a parcel.
* `Services.said_isPrefix`: what a stream says is not changed by what follows
  it.
-/

namespace DeviceGateway

open Wire (Frame)
open Wire.Decoder (Continues)

/-! ## Resolved chains -/

namespace Chain

/-- A chain that was resolved: it has a decoder and a tenancy. -/
structure Ready (chain : Chain) (d : Wire.Decoder) (tenancy : Tenancy) :
    Prop where
  contains : chain.contains decoderName = true
  decoder : chain.decoder = some d
  tenancy : chain.tenancy = some tenancy

variable {chain chain' : Chain} {d : Wire.Decoder} {tenancy : Tenancy}

/-- A chain that was resolved is not resolved again. -/
theorem Ready.resolve (h : chain.Ready d tenancy) (table : TenantTable)
    (maxMessageSize : Nat) (peer : Option Peer) :
    chain.resolve table maxMessageSize peer = .ok (tenancy, chain) :=
  resolve_of_contains h.contains h.tenancy table maxMessageSize peer

/-- A look at the input of a chain is a look of its decoder. -/
theorem Ready.next (h : chain.Ready d tenancy) {input rest : List UInt8}
    {outcome : Option (Except Wire.Fault Frame)}
    (hnext : chain.next input = (outcome, chain', rest)) :
    ∃ d', d.next input = (outcome, d', rest) ∧ chain'.Ready d' tenancy := by
  simp only [Chain.next, h.decoder] at hnext
  rcases hlook : d.next input with ⟨o, d', rest'⟩
  simp only [hlook, Prod.mk.injEq] at hnext
  obtain ⟨rfl, rfl, rfl⟩ := hnext
  have hnames : { chain with stages := setDecoder d' chain.stages }.names =
      chain.names :=
    setDecoder_names d' chain.stages
  refine ⟨d', rfl, ?_, decoderOf_setDecoder h.decoder d', h.tenancy⟩
  rw [Chain.contains, hnames]
  exact h.contains

/-- What is learned of the tenant leaves the decoder alone. -/
theorem Ready.learn (h : chain.Ready d tenancy) (tenancy' : Tenancy) :
    { chain with tenancy := some tenancy' }.Ready d tenancy' :=
  ⟨h.contains, h.decoder, rfl⟩

/-- A fresh chain is resolved by the table. -/
theorem initial_resolve (table : TenantTable) (maxMessageSize : Nat)
    (peer : Option Peer) :
    let tenancy := table.lookup maxMessageSize peer
    ∃ chain, initial.resolve table maxMessageSize peer = .ok (tenancy, chain) ∧
      chain.Ready tenancy.decoder tenancy := by
  intro tenancy
  refine ⟨⟨[(resolverName, .tenancyResolver),
    (decoderName, .frameDecoder tenancy.decoder), (topicName, .topicDecoder),
    (sessionName, .session)], some tenancy⟩, ?_, ?_, rfl, rfl⟩
  · simp [resolve, initial, contains, names, insertBefore, insertAt,
      resolverName, decoderName, topicName, sessionName, tenancy]
  · simp [contains, names, resolverName, decoderName]

end Chain

/-! ## The topic stage -/

namespace Topic

/-- The parcel that goes to the session: if a CONNECT is wanted, data brings one
along. -/
def introduce (s : TopicSetup) (tenancy : Tenancy) (needsConnect : Bool)
    (q : Parcel) : Parcel :=
  match needsConnect, q.data with
  | true, some data =>
    { q with connect := some (s.connectFor tenancy data.deviceId) }
  | _, _ => q

/-- A CONNECT that is wanted is all that the topic stage adds for the session.
Of the ledger it reads how many payloads were entered. -/
theorem decode_introduce (t : Topic) (tenancy : Tenancy) (needsConnect : Bool)
    (frame : Frame) {l l' : Ledger} (hledger : l.allocated = l'.allocated) :
    let out := t.decode tenancy needsConnect frame l
    let plain := t.decode tenancy false frame l'
    out.1 = plain.1.map (introduce t.setup plain.2.2.1 needsConnect) ∧
      out.2.1 = plain.2.1 ∧ out.2.2.1 = plain.2.2.1 ∧
      out.2.2.2.allocated = plain.2.2.2.allocated := by
  have htake : ∀ (tenancy : Tenancy) (reading : Reading),
      let out := t.take tenancy needsConnect reading l
      let plain := t.take tenancy false reading l'
      out.1 = introduce t.setup tenancy needsConnect plain.1 ∧
        out.2.1 = plain.2.1 ∧
        out.2.2.allocated = plain.2.2.allocated := by
    intro tenancy reading
    obtain ⟨allocated, given⟩ := l
    obtain ⟨allocated', given'⟩ := l'
    obtain rfl : allocated = allocated' := hledger
    cases needsConnect <;> exact ⟨rfl, rfl, rfl⟩
  cases frame with
  | connect request => cases needsConnect <;> exact ⟨rfl, rfl, rfl, hledger⟩
  | heartbeat => cases needsConnect <;> exact ⟨rfl, rfl, rfl, hledger⟩
  | skipped kind => exact ⟨rfl, rfl, rfl, hledger⟩
  | data reading =>
    obtain ⟨hparcel, htopic, hallocated⟩ := htake tenancy reading
    exact ⟨congrArg some hparcel, htopic, rfl, hallocated⟩
  | line bytes =>
    unfold decode
    dsimp only
    rcases tenancy.decodeLine bytes with ⟨reading, tenancy'⟩
    cases reading with
    | none => exact ⟨rfl, rfl, rfl, hledger⟩
    | some reading =>
      obtain ⟨hparcel, htopic, hallocated⟩ := htake tenancy' reading
      exact ⟨congrArg some hparcel, htopic, rfl, hallocated⟩

/-- Makes parcels of the frames of a stream, without a session that would want a
CONNECT.  It gives the parcels and what is known at the end. -/
def decodeAll (t : Topic) (tenancy : Tenancy) (l : Ledger) :
    List (Except Wire.Fault Frame) → List Parcel × Topic × Tenancy × Ledger
  | [] => ([], t, tenancy, l)
  | .error _ :: os => decodeAll t tenancy l os
  | .ok frame :: os =>
    let out := t.decode tenancy false frame l
    let others := decodeAll out.2.1 out.2.2.1 out.2.2.2 os
    (out.1.toList ++ others.1, others.2)

theorem decodeAll_append (t : Topic) (tenancy : Tenancy) (l : Ledger)
    (os os' : List (Except Wire.Fault Frame)) :
    let front := t.decodeAll tenancy l os
    let back := front.2.1.decodeAll front.2.2.1 front.2.2.2 os'
    t.decodeAll tenancy l (os ++ os') = (front.1 ++ back.1, back.2) := by
  induction os generalizing t tenancy l with
  | nil => rfl
  | cons o os ih =>
    cases o with
    | error fault => exact ih t tenancy l
    | ok frame => simp [decodeAll, ih]

end Topic

/-! ## Streams -/

namespace Services

variable {σ : Type} (v : Services σ) (peer : Option Peer)

/-- The tenancy that a connection with this peer starts with. -/
def tenancy : Tenancy := v.table.lookup v.maxMessageSize peer

/-- What is made of the frames of a stream. -/
def decodeAll (os : List (Except Wire.Fault Frame)) :
    List Parcel × Topic × Tenancy × Ledger :=
  Topic.decodeAll { setup := v.topic } (v.tenancy peer) {} os

/-- What is found in a stream that is read as a whole: frames, and faults. -/
def found (bytes : List UInt8) : List (Except Wire.Fault Frame) :=
  ((v.tenancy peer).decoder.drain bytes).1

/-- What a stream says: the parcels of its frames, in order. -/
def said (bytes : List UInt8) : List Parcel :=
  (v.decodeAll peer (v.found peer bytes)).1

/-- The data packets of a stream, in order. -/
def packets (bytes : List UInt8) : List DataPacket :=
  (v.said peer bytes).filterMap Parcel.data

variable {v peer}

theorem decodeAll_isPrefix {os os' : List (Except Wire.Fault Frame)}
    (h : os <+: os') :
    (v.decodeAll peer os).1 <+: (v.decodeAll peer os').1 := by
  obtain ⟨more, rfl⟩ := h
  rw [decodeAll, decodeAll, Topic.decodeAll_append]
  exact List.prefix_append _ _

theorem found_isPrefix (bytes more : List UInt8) :
    v.found peer bytes <+: v.found peer (bytes ++ more) := by
  have hstart := Continues.refl (v.tenancy peer).decoder bytes
  have hreads := Wire.Decoder.reads_drain (v.tenancy peer).decoder bytes
  exact hstart.drained_isPrefix hreads more

/-- What follows a stream does not change what it says. -/
theorem said_isPrefix (bytes more : List UInt8) :
    v.said peer bytes <+: v.said peer (bytes ++ more) :=
  decodeAll_isPrefix (found_isPrefix bytes more)

theorem packets_isPrefix (bytes more : List UInt8) :
    v.packets peer bytes <+: v.packets peer (bytes ++ more) :=
  (said_isPrefix bytes more).filterMap Parcel.data

end Services

end DeviceGateway
