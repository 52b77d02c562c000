import DeviceGateway.Proofs.Connection.Tenant

/-!
# Parcels of a sequence of frames

The topic stage carries two things from one frame to the next: the number of the
next data, and the tenant once a line has named it.  Neither depends on what the
session wants at the time, nor on what the ledger holds, so what a frame gives
can be said from the frames before it: `getElem?_parcels` says it for every
place in a sequence.

Data is counted, and nothing else is.  A frame holds data if it is a reading, or
a line that can be read, and which lines can be read is settled when the
connection begins: the layout stays as it is, and a tenant that becomes known
does not change how a line that identifies itself is read.

The tenant is another matter.  A line that names it is addressed with it, and a
CONNECT that comes with the line is looked up with it, so what counts is what is
known behind the frame and not what was known in front of it.

## Main results

* `Tenancy.reading?_after`: what a frame holds does not depend on the frames
  before.
* `Topic.decode_of_reading`, `Topic.decode_of_bare`: what one frame gives.
* `Topic.sequence_parcels`, `Topic.getElem?_parcels`: what frames give one after
  the other.
* `Topic.parcels_one_by_one`: the parcels of any sequence of frames.
-/

namespace DeviceGateway

open Wire (Frame)

/-! ## How lines are read -/

namespace Wire.Layout

/-- A line that identifies itself is read alike for any tenant. -/
theorem decode_selfIdentifying (name other : String) (bytes : List UInt8) :
    selfIdentifying.decode name bytes = selfIdentifying.decode other bytes := by
  unfold decode
  cases Bytes.Utf8.decode bytes with
  | error fault => rfl
  | ok cs => simp only [entryOf, pack]

/-- A showcase line names no tenant. -/
theorem tenantToken_showcase {name : String} {bytes : List UInt8}
    {entry : Entry} (h : showcase.decode name bytes = .ok entry) :
    entry.tenantToken = none := by
  unfold decode at h
  split at h
  · cases h
  · next cs _ =>
    exact tenantToken_of_entryOf h

end Wire.Layout

namespace Tenancy

/-- The data that a frame holds for a tenancy: its own, or what is read in a
line. -/
def reading? (t : Tenancy) : Frame → Option Reading
  | .data reading => some reading
  | .line bytes => (t.decodeLine bytes).1
  | _ => none

/-- The tenancy once frames were taken.  If no tenant was known, it is the one
that is named by the first line that can be read. -/
def after (t : Tenancy) (frames : List Frame) : Tenancy :=
  match t.info?, t.format, frames.findSome? Frame.tenantToken with
  | none, .text .selfIdentifying, some token =>
    { t with slot := .delayed (some (TenantInfo.ofToken token)) }
  | _, _, _ => t

private theorem reading?_line_eq_none_iff {t : Tenancy} {bytes : List UInt8} :
    t.reading? (.line bytes) = none ↔ ∀ layout, t.format = .text layout →
      ∃ fault, layout.decode t.tenantName bytes = .error fault := by
  unfold reading? decodeLine
  dsimp only
  cases hformat : t.format with
  | binary => simp
  | text layout => cases hdecode : layout.decode t.tenantName bytes <;>
    simp [hdecode]

/-- A tenancy that learns nothing stays as it is, and one that learns a tenant
had none and reads lines that identify themselves. -/
theorem after_cases (t : Tenancy) (frames : List Frame) :
    t.after frames = t ∨
      t.info? = none ∧ t.format = .text .selfIdentifying ∧
        ∃ token, frames.findSome? Frame.tenantToken = some token ∧
          t.after frames =
            { t with slot := .delayed (some (TenantInfo.ofToken token)) } := by
  unfold after
  split
  · next hinfo hformat htoken => exact .inr ⟨hinfo, hformat, _, htoken, rfl⟩
  · exact .inl rfl

theorem after_nil (t : Tenancy) : t.after [] = t := by
  simp [after]

theorem after_of_known {t : Tenancy} (h : t.info? ≠ none)
    (frames : List Frame) :
    t.after frames = t := by
  rcases t.after_cases frames with hsame | ⟨hnone, -⟩
  · exact hsame
  · exact absurd hnone h

theorem after_cons (t : Tenancy) (frame : Frame) (frames : List Frame) :
    t.after (frame :: frames) = (t.after [frame]).after frames := by
  by_cases hinfo : t.info? = none
  · cases htoken : frame.tenantToken with
    | none =>
      have hfirst : t.after [frame] = t := by simp [after, htoken]
      rw [hfirst]
      simp [after, htoken]
    | some token =>
      cases hformat : t.format with
      | binary => simp [after, hformat]
      | text layout =>
        cases layout with
        | showcase => simp [after, hformat]
        | selfIdentifying =>
          have hlearned : t.after [frame] =
              { t with
                slot := .delayed (some (TenantInfo.ofToken token)) } := by
            simp [after, hinfo, hformat, htoken]
          have hknown : (t.after [frame]).info? ≠ none := by
            rw [hlearned]
            exact Option.some_ne_none _
          rw [after_of_known hknown, hlearned]
          simp [after, hinfo, hformat, htoken]
  · rw [after_of_known hinfo, after_of_known hinfo, after_of_known hinfo]

private theorem after_append (t : Tenancy) (frames more : List Frame) :
    t.after (frames ++ more) = (t.after frames).after more := by
  induction frames generalizing t with
  | nil => rw [List.nil_append, after_nil]
  | cons frame frames ih => rw [List.cons_append, after_cons, ih, ← after_cons]

/-- What a frame holds does not depend on the frames before it. -/
theorem reading?_after (t : Tenancy) (frames : List Frame) (frame : Frame) :
    (t.after frames).reading? frame = t.reading? frame := by
  rcases t.after_cases frames with hsame | ⟨-, hformat, token, -, hlearned⟩
  · rw [hsame]
  · rw [hlearned]
    cases frame with
    | line bytes =>
      show (decodeLine _ bytes).1 = (t.decodeLine bytes).1
      simp only [decodeLine, hformat]
      rw [Wire.Layout.decode_selfIdentifying _ t.tenantName]
      cases Wire.Layout.selfIdentifying.decode t.tenantName bytes <;> rfl
    | connect request => rfl
    | data reading => rfl
    | heartbeat => rfl
    | skipped kind => rfl

/-- A line makes known the tenant that it names, if none was known. -/
theorem decodeLine_after (t : Tenancy) (bytes : List UInt8) :
    (t.decodeLine bytes).2 = t.after [.line bytes] := by
  by_cases hinfo : t.info? = none
  · have hslot : t.slot = .delayed none := by
      cases hslot : t.slot <;> simp_all [info?]
    have hname : t.tenantName = "" := by simp [tenantName, hinfo]
    cases hformat : t.format with
    | binary => simp [decodeLine, after, hformat]
    | text layout =>
      cases layout with
      | showcase =>
        have hafter : t.after [.line bytes] = t := by simp [after, hformat]
        rw [hafter]
        simp only [decodeLine, hformat]
        cases hdecode : Wire.Layout.showcase.decode t.tenantName bytes with
        | error fault => rfl
        | ok entry =>
          simp [learn, hslot, Wire.Layout.tenantToken_showcase hdecode]
      | selfIdentifying =>
        simp only [decodeLine, hformat, hname]
        cases hdecode : Wire.Layout.selfIdentifying.decode "" bytes with
        | error fault =>
          simp [after, hinfo, hformat, Frame.tenantToken, hdecode]
        | ok entry =>
          obtain ⟨token, htoken⟩ := Wire.Layout.tenantToken_of_decode hdecode
          simp [after, hinfo, hformat, Frame.tenantToken, hdecode, htoken,
            learn, hslot]
  · rw [after_of_known hinfo]
    have hlearn : ∀ token, t.learn token = t := by
      intro token
      unfold learn
      split
      · next hslot => simp [info?, hslot] at hinfo
      · rfl
    unfold decodeLine
    split
    · rfl
    · split
      · rfl
      · exact hlearn _

end Tenancy

/-! ## What one frame gives -/

/-- What a frame gives that holds no data. -/
def Wire.Frame.bare : Frame → Option Parcel
  | .connect request => some ⟨some request, none⟩
  | .heartbeat => some Parcel.empty
  | _ => none

/-- A CONNECT that is made for a device carries what is stored for it, or
nothing. -/
theorem TopicSetup.connectFor_carries (s : TopicSetup) (tenancy : Tenancy)
    (deviceId : DeviceId) :
    let request := s.connectFor tenancy deviceId
    request.deviceId = deviceId ∧ request.keepAliveSecs = s.keepAliveSecs ∧
      match s.credentials.find? tenancy.tenantId deviceId.text with
      | some stored =>
        request.username = stored.username ∧ request.password = stored.password
      | none => request.username = "" ∧ request.password = "" := by
  unfold connectFor
  cases s.credentials.find? tenancy.tenantId deviceId.text with
  | none => exact ⟨rfl, rfl, rfl, rfl⟩
  | some stored => exact ⟨rfl, rfl, rfl, rfl⟩

namespace Topic

variable (t : Topic) (tenancy : Tenancy) (needsConnect : Bool) (l : Ledger)

/-- Data is taken in the tenancy that is known once its frame was read. -/
theorem decode_of_reading {frame : Frame} {reading : Reading}
    (h : tenancy.reading? frame = some reading) :
    t.decode tenancy needsConnect frame l =
      let taken := t.take (tenancy.after [frame]) needsConnect reading l
      (some taken.1, taken.2.1, tenancy.after [frame], taken.2.2) := by
  cases frame with
  | data own =>
    obtain rfl := Option.some.inj h
    have hsame : tenancy.after [.data own] = tenancy := by
      simp [Tenancy.after, Frame.tenantToken]
    rw [hsame]
    rfl
  | line bytes =>
    have hline : (tenancy.decodeLine bytes).1 = some reading := h
    rw [← tenancy.decodeLine_after bytes]
    unfold decode
    dsimp only
    generalize tenancy.decodeLine bytes = out at hline
    obtain ⟨read, tenancy'⟩ := out
    obtain rfl : read = some reading := hline
    rfl
  | connect request => cases h
  | heartbeat => cases h
  | skipped kind => cases h

/-- A frame without data leaves everything as it is. -/
theorem decode_of_bare {frame : Frame} (h : tenancy.reading? frame = none) :
    t.decode tenancy needsConnect frame l =
      (frame.bare, t, tenancy.after [frame], l) := by
  cases frame with
  | data own => cases h
  | line bytes =>
    have hline : (tenancy.decodeLine bytes).1 = none := h
    rw [← tenancy.decodeLine_after bytes]
    unfold decode
    dsimp only
    generalize tenancy.decodeLine bytes = out at hline
    obtain ⟨read, tenancy'⟩ := out
    obtain rfl : read = none := hline
    rfl
  | connect request =>
    simp [decode, Frame.bare, Tenancy.after, Frame.tenantToken]
  | heartbeat => simp [decode, Frame.bare, Tenancy.after, Frame.tenantToken]
  | skipped kind => simp [decode, Frame.bare, Tenancy.after, Frame.tenantToken]

private theorem decode_eq_none_iff {frame : Frame} :
    (t.decode tenancy needsConnect frame l).1 = none ↔
      (∃ kind, frame = .skipped kind) ∨
        ∃ bytes, frame = .line bytes ∧
          tenancy.reading? (.line bytes) = none := by
  cases hreading : tenancy.reading? frame with
  | none =>
    rw [decode_of_bare t tenancy needsConnect l hreading]
    cases frame with
    | data own => cases hreading
    | line bytes => simp [Frame.bare, hreading]
    | connect request => simp [Frame.bare]
    | heartbeat => simp [Frame.bare]
    | skipped kind => simp [Frame.bare]
  | some reading =>
    rw [decode_of_reading t tenancy needsConnect l hreading]
    cases frame with
    | line bytes => simp [hreading]
    | data own => simp
    | connect request => cases hreading
    | heartbeat => cases hreading
    | skipped kind => cases hreading

/-! ## Sequences of frames -/

/-- A frame, with what the topic stage is given besides: whether the session
wants a CONNECT, and the ledger as it stands. -/
structure Incoming where
  frame : Frame
  needsConnect : Bool
  ledger : Ledger

/-- Whether a frame holds data for a tenancy. -/
def Incoming.holdsData (tenancy : Tenancy) (i : Incoming) : Bool :=
  (tenancy.reading? i.frame).isSome

/-- What the topic stage makes of frames, one after the other. -/
def parcels (t : Topic) (tenancy : Tenancy) :
    List Incoming → List (Option Parcel)
  | [] => []
  | i :: rest =>
    let out := t.decode tenancy i.needsConnect i.frame i.ledger
    out.1 :: parcels out.2.1 out.2.2.1 rest

/-- The topic stage counts data and learns the tenant. -/
theorem parcels_cons (i : Incoming) (rest : List Incoming) :
    t.parcels tenancy (i :: rest) =
      (t.decode tenancy i.needsConnect i.frame i.ledger).1 ::
        parcels ⟨t.setup, t.next + if i.holdsData tenancy then 1 else 0⟩
          (tenancy.after [i.frame]) rest := by
  rw [parcels]
  cases hreading : tenancy.reading? i.frame with
  | none =>
    rw [decode_of_bare t tenancy i.needsConnect i.ledger hreading]
    simp [Incoming.holdsData, hreading]
  | some reading =>
    rw [decode_of_reading t tenancy i.needsConnect i.ledger hreading]
    simp [Incoming.holdsData, hreading, take]

theorem holdsData_after (frames : List Frame) :
    Incoming.holdsData (tenancy.after frames) = Incoming.holdsData tenancy := by
  funext i
  rw [Incoming.holdsData, Incoming.holdsData, Tenancy.reading?_after]

private theorem length_parcels (incoming : List Incoming) :
    (t.parcels tenancy incoming).length = incoming.length := by
  induction incoming generalizing t tenancy with
  | nil => rfl
  | cons i rest ih => rw [parcels, List.length_cons, List.length_cons, ih]

/-- The numbers of the data follow each other without a gap. -/
theorem sequence_parcels (incoming : List Incoming) :
    ((t.parcels tenancy incoming).filterMap fun out => out.bind Parcel.data).map
        DataPacket.sequence =
      List.range' t.next (incoming.countP (Incoming.holdsData tenancy)) := by
  induction incoming generalizing t tenancy with
  | nil => rfl
  | cons i rest ih =>
    rw [parcels_cons, List.filterMap_cons, List.countP_cons]
    cases hreading : tenancy.reading? i.frame with
    | none =>
      have hdata : i.frame.bare.bind Parcel.data = none := by
        cases i.frame <;> rfl
      rw [decode_of_bare t tenancy i.needsConnect i.ledger hreading]
      simp only [hdata, Incoming.holdsData, hreading, Option.isSome_none,
        Bool.false_eq_true, if_false, Nat.add_zero]
      rw [ih, holdsData_after]
    | some reading =>
      rw [decode_of_reading t tenancy i.needsConnect i.ledger hreading]
      simp only [take, Option.bind_some, Incoming.holdsData, hreading,
        Option.isSome_some, if_true, List.map_cons, List.range'_succ]
      rw [ih, holdsData_after]

/-- A frame is taken by a stage that has counted the data before it, in the
tenancy that the frames before it have left. -/
theorem getElem?_parcels {incoming : List Incoming} {k : Nat} {i : Incoming}
    (h : incoming[k]? = some i) :
    (t.parcels tenancy incoming)[k]? = some
      (decode ⟨t.setup, t.next +
        (incoming.take k).countP (Incoming.holdsData tenancy)⟩
        (tenancy.after ((incoming.take k).map Incoming.frame))
          i.needsConnect i.frame
        i.ledger).1 := by
  induction incoming generalizing t tenancy k with
  | nil => cases h
  | cons first rest ih =>
    rw [parcels_cons]
    cases k with
    | zero =>
      obtain rfl := Option.some.inj h
      simp [Tenancy.after_nil]
    | succ k =>
      rw [List.getElem?_cons_succ] at h ⊢
      have hcount : t.next + (if first.holdsData tenancy = true then 1 else 0) +
          (rest.take k).countP (Incoming.holdsData tenancy) =
          t.next + ((first :: rest).take (k + 1)).countP
            (Incoming.holdsData tenancy) := by
        rw [List.take_succ_cons, List.countP_cons]
        omega
      rw [ih _ _ h, holdsData_after, ← hcount, List.take_succ_cons,
        List.map_cons, tenancy.after_cons first.frame (List.map _ _)]

/-- Every frame gives a parcel but those of a skipped kind and the lines that
cannot be read.  The data that comes is numbered from one on, without a gap,
whatever frames stand between it and whatever the session wants.  A CONNECT that
was sent is passed on alone and a heartbeat is an empty parcel.  Data keeps what
it says and an address that was chosen; any other goes where the first template
binds for its device and the tenant, which is known once its frame was read.  It
brings a CONNECT along exactly if one is wanted, for its device, with what is
stored for the device at the tenant or without a credential. -/
theorem parcels_one_by_one (s : TopicSetup) (tenancy : Tenancy)
    (incoming : List Incoming) :
    let parcels := parcels { setup := s } tenancy incoming
    let packets := parcels.filterMap fun out => out.bind Parcel.data
    parcels.length = incoming.length ∧
    packets.map DataPacket.sequence = List.range' 1 packets.length ∧
    ∀ k i out, incoming[k]? = some i → parcels[k]? = some out →
      let tenantId :=
        (tenancy.after ((incoming.take (k + 1)).map Incoming.frame)).tenantId
      (out = none ↔ (∃ kind, i.frame = .skipped kind) ∨
        ∃ bytes, i.frame = .line bytes ∧ ∀ layout,
          tenancy.format = .text layout →
          ∃ fault, layout.decode tenancy.tenantName bytes = .error fault) ∧
      (∀ request, i.frame = .connect request →
        out = some ⟨some request, none⟩) ∧
      (i.frame = .heartbeat → out = some ⟨none, none⟩) ∧
      ∀ reading, tenancy.reading? i.frame = some reading →
        ∃ connect p, out = some ⟨connect, some p⟩ ∧
          p.deviceId = reading.deviceId ∧ p.payload.bytes = reading.bytes ∧
          p.timestamp = reading.timestamp ∧
          p.sequence =
            (incoming.take k).countP (Incoming.holdsData tenancy) + 1 ∧
          p.address = (if reading.address = "" then
            (s.templates.findSome? fun template => template.bind
              [("deviceId", p.deviceId.text), ("tenantId", tenantId)]).getD ""
            else reading.address) ∧
          (connect.isSome = true ↔ i.needsConnect = true) ∧
          ∀ request, connect = some request →
            request.deviceId = p.deviceId ∧
            request.keepAliveSecs = s.keepAliveSecs ∧
            match s.credentials.find? tenantId p.deviceId.text with
            | some stored =>
              request.username = stored.username ∧
                request.password = stored.password
            | none => request.username = "" ∧ request.password = "" := by
  intro parcels packets
  have hsequence : packets.map DataPacket.sequence =
      List.range' 1 (incoming.countP (Incoming.holdsData tenancy)) :=
    sequence_parcels { setup := s } tenancy incoming
  have hcount : packets.length =
      incoming.countP (Incoming.holdsData tenancy) := by
    simpa using congrArg List.length hsequence
  refine ⟨length_parcels _ _ _, by rw [hcount]; exact hsequence, ?_⟩
  intro k i out hi hout tenantId
  have hmade := Option.some.inj
    (hout.symm.trans (getElem?_parcels { setup := s } tenancy hi))
  have hknown : (tenancy.after ((incoming.take k).map Incoming.frame)).after
      [i.frame] =
      tenancy.after ((incoming.take (k + 1)).map Incoming.frame) := by
    rw [← Tenancy.after_append, List.take_add_one, hi]
    simp
  have hreads := tenancy.reading?_after ((incoming.take k).map Incoming.frame)
  refine ⟨?_, fun request hframe => ?_, fun hframe => ?_,
    fun reading hreading => ?_⟩
  · rw [hmade, decode_eq_none_iff]
    simp only [hreads, Tenancy.reading?_line_eq_none_iff]
  · rw [hmade, hframe]
    rfl
  · rw [hmade, hframe]
    rfl
  · rw [decode_of_reading _ _ _ _ ((hreads i.frame).trans hreading), hknown]
      at hmade
    refine ⟨_, _, hmade, rfl, rfl, rfl, Nat.add_comm _ _, rfl, ?_, ?_⟩
    · cases i.needsConnect <;> simp
    · intro request hrequest
      cases hwanted : i.needsConnect with
      | false => simp [hwanted] at hrequest
      | true =>
        rw [hwanted, if_pos rfl] at hrequest
        obtain rfl := Option.some.inj hrequest
        exact s.connectFor_carries _ _

/-- Between two lines of a device come a heartbeat and a line that cannot be
read.  The second line names another tenant, and its CONNECT is looked up with
the first. -/
example :
    let s : TopicSetup := ⟨⟨[("T.d", ⟨"d", "h/d", "s"⟩)]⟩, [], 120⟩
    (parcels { setup := s } (Tenancy.delayed 64)
      [⟨.line [84, 126, 48, 126, 100, 126, 120], false, {}⟩,
        ⟨.heartbeat, true, {}⟩, ⟨.line [120], true, {}⟩,
        ⟨.line [85, 126, 48, 126, 100, 126, 121], true, {}⟩]).map
      (Option.map fun q => (q.data.map DataPacket.sequence,
        q.connect.map Connect.username)) =
      [some (some 1, none), some (none, none), none,
        some (some 2, some "h/d")] := by
  decide +kernel

end Topic

end DeviceGateway
