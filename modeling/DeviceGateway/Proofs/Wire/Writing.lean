import DeviceGateway.Proofs.Bytes.Transcoding
import DeviceGateway.Proofs.Wire.Scanning

/-!
# Writing a packet

What can be written is said here without the writer: a packet has so many
texts, each of so many octets, its body has two octets more for each text, and
its frame has a signature and a length field in front.  A packet is written
exactly if these numbers keep to the limits of the format and of the gateway.

The reader takes the parts of a body in the order in which the writer puts them,
and each part says how long it is, so a part reads back whatever follows it.
Only the last part of a body has no length of its own: the payload goes on up
to the end, and behind a keep-alive nothing may be left.  A device id is trimmed
when it is read, which changes nothing because it is trimmed already.

## Main results

* `encode_isOk_iff`: what is written and what is not.
* `scan_encode`: a frame that was written is found again, whatever follows.
-/

namespace DeviceGateway.Wire

namespace Length

/-- How many octets state a length. -/
def width (length : Nat) : Nat :=
  if length < 128 then 1
  else if length < 16384 then 2
  else if length < 2097152 then 3
  else 4

/-- One octet is written for the low seven bits, and the others for the rest. -/
theorem encodeWithin_cons {room length : Nat} {field : List UInt8}
    (h : encodeWithin (room + 1) length = some field) (hlong : ¬ length < 128) :
    ∃ tail, encodeWithin room (length / 128) = some tail ∧
      field.length = tail.length + 1 := by
  rw [encodeWithin, if_neg hlong] at h
  obtain ⟨tail, htail, rfl⟩ := Option.map_eq_some_iff.1 h
  exact ⟨tail, htail, rfl⟩

theorem encodeWithin_short {room length : Nat} {field : List UInt8}
    (h : encodeWithin (room + 1) length = some field) (hshort : length < 128) :
    field.length = 1 := by
  rw [encodeWithin, if_pos hshort] at h
  obtain rfl := Option.some.inj h
  rfl

theorem encode_width {length : Nat} {field : List UInt8}
    (h : encode length = some field) :
    field.length = width length := by
  unfold width
  by_cases hone : length < 128
  · rw [if_pos hone]
    exact encodeWithin_short h hone
  · obtain ⟨second, hsecond, hlength⟩ := encodeWithin_cons h hone
    rw [if_neg hone, hlength]
    by_cases htwo : length < 16384
    · rw [if_pos htwo, encodeWithin_short hsecond (by omega)]
    · obtain ⟨third, hthird, hlength'⟩ := encodeWithin_cons hsecond (by omega)
      rw [if_neg htwo, hlength']
      by_cases hthree : length < 2097152
      · rw [if_pos hthree, encodeWithin_short hthird (by omega)]
      · obtain ⟨fourth, hfourth, hlength''⟩ :=
          encodeWithin_cons hthird (by omega)
        rw [if_neg hthree, hlength'']
        by_cases hfour : length / 128 / 128 / 128 < 128
        · rw [encodeWithin_short hfourth hfour]
        · obtain ⟨_, hnone, -⟩ := encodeWithin_cons hfourth hfour
          cases hnone

end Length

namespace Binary

/-! ## The size of a packet -/

/-- The texts that a packet holds. -/
def Packet.texts : Packet → List String
  | .connect request =>
    [request.deviceId.text, request.username, request.password]
  | .data deviceId _ => [deviceId.text]

/-- How many octets stand behind the texts of a packet. -/
def Packet.trailing : Packet → Nat
  | .connect _ => 2
  | .data _ payload => payload.length

/-- How many octets the body of a packet takes: each text has two for its
length. -/
def Packet.bodySize (p : Packet) : Nat :=
  (p.texts.map fun s => 2 + s.utf8ByteSize).sum + p.trailing

/-- How many octets the frame of a packet takes. -/
def Packet.frameSize (p : Packet) : Nat :=
  1 + Length.width p.bodySize + p.bodySize

/-- Whether a packet keeps to the limits of the format, and to a given one. -/
structure Packet.Fits (max : Nat) (p : Packet) : Prop where
  texts : ∀ s ∈ p.texts, s.utf8ByteSize ≤ 65535
  body : p.bodySize ≤ 268435455
  frame : p.frameSize ≤ max

/-- The frame that a packet reads as. -/
def Packet.frame : Packet → Frame
  | .connect request => .connect request
  | .data deviceId payload => .data (Reading.of deviceId payload)

/-! ## Parts of a body -/

/-- The limit of a text, on the text itself. -/
theorem putText_eq (s : String) : putText s =
    if s.utf8ByteSize ≤ 65535 then
      .ok (Bytes.putUInt16 (UInt16.ofNat s.utf8ByteSize) ++
        Bytes.Utf8.encodeString s)
    else .error (.malformed .string (.longText s.utf8ByteSize)) := by
  have hiff : s.utf8ByteSize < 65536 ↔ s.utf8ByteSize ≤ 65535 := Nat.lt_succ_iff
  simp only [putText, Bytes.Utf8.length_encodeString, hiff]

theorem putText_ok {s : String} {octets : List UInt8}
    (h : putText s = .ok octets) :
    s.utf8ByteSize ≤ 65535 ∧ octets.length = 2 + s.utf8ByteSize ∧
      ∀ rest, readText (octets ++ rest) = .ok (s, rest) := by
  rw [putText_eq] at h
  by_cases hshort : s.utf8ByteSize ≤ 65535
  · rw [if_pos hshort] at h
    obtain rfl := Except.ok.inj h
    refine ⟨hshort, ?_, fun rest => ?_⟩
    · have htwo : (Bytes.putUInt16 (UInt16.ofNat s.utf8ByteSize)).length = 2 :=
        rfl
      rw [List.length_append, htwo, Bytes.Utf8.length_encodeString]
    · have hlength : (UInt16.ofNat s.utf8ByteSize).toNat =
          (Bytes.Utf8.encodeString s).length := by
        rw [Bytes.Utf8.length_encodeString, UInt16.toNat_ofNat']
        exact Nat.mod_eq_of_lt (by omega)
      simp only [readText, List.append_assoc, Bytes.takeUInt16_putUInt16,
        hlength, Bytes.splitExactly_append,
        Bytes.Utf8.decodeString_encodeString]
      rfl
  · rw [if_neg hshort] at h
    cases h

private theorem exists_putText_iff {s : String} :
    (∃ octets, putText s = .ok octets) ↔ s.utf8ByteSize ≤ 65535 := by
  constructor
  · rintro ⟨octets, h⟩
    exact (putText_ok h).1
  · intro h
    exact ⟨_, by rw [putText_eq, if_pos h]⟩

private theorem readDeviceId_putText {id : DeviceId} {octets : List UInt8}
    (h : putText id.text = .ok octets) (rest : List UInt8) :
    readDeviceId (octets ++ rest) = .ok (id, rest) := by
  obtain ⟨-, -, hread⟩ := putText_ok h
  unfold readDeviceId
  rw [hread rest]
  simp only [bind, Except.bind, DeviceId.parse_text]
  rfl

/-! ## Bodies -/

theorem putBody_ok {p : Packet} {body : List UInt8} (h : putBody p = .ok body) :
    (∀ s ∈ p.texts, s.utf8ByteSize ≤ 65535) ∧ body.length = p.bodySize ∧
      frameOf p.kind body = .ok p.frame := by
  cases p with
  | connect request =>
    simp only [putBody, bind_eq_ok] at h
    obtain ⟨device, hdevice, username, husername, password, hpassword, hbody⟩ :=
      h
    obtain rfl := Except.ok.inj hbody
    obtain ⟨hdeviceShort, hdeviceLength, -⟩ := putText_ok hdevice
    obtain ⟨husernameShort, husernameLength, hreadUsername⟩ :=
      putText_ok husername
    obtain ⟨hpasswordShort, hpasswordLength, hreadPassword⟩ :=
      putText_ok hpassword
    refine ⟨?_, ?_, ?_⟩
    · simp [Packet.texts, hdeviceShort, husernameShort, hpasswordShort]
    · have htwo : (Bytes.putUInt16 request.keepAliveSecs).length = 2 := rfl
      simp only [List.length_append, hdeviceLength, husernameLength,
        hpasswordLength, htwo, Packet.bodySize, Packet.texts, Packet.trailing,
        List.map_cons, List.map_nil, List.sum_cons, List.sum_nil]
      omega
    · have hkeepAlive := Bytes.takeUInt16_putUInt16 request.keepAliveSecs []
      rw [List.append_nil] at hkeepAlive
      simp only [Packet.kind, frameOf, readConnect, List.append_assoc,
        readDeviceId_putText hdevice, hreadUsername, hreadPassword, hkeepAlive,
        bind, Except.bind]
      rfl
  | data deviceId payload =>
    simp only [putBody, bind_eq_ok] at h
    obtain ⟨device, hdevice, hbody⟩ := h
    obtain rfl := Except.ok.inj hbody
    obtain ⟨hshort, hlength, -⟩ := putText_ok hdevice
    refine ⟨?_, ?_, ?_⟩
    · simp [Packet.texts, hshort]
    · simp [Packet.bodySize, Packet.texts, Packet.trailing, hlength]
    · simp only [Packet.kind, frameOf, readDeviceId_putText hdevice]
      rfl

/-- The body of a packet is written if its texts are short enough. -/
theorem exists_putBody {p : Packet}
    (h : ∀ s ∈ p.texts, s.utf8ByteSize ≤ 65535) :
    ∃ body, putBody p = .ok body := by
  cases p with
  | connect request =>
    simp only [Packet.texts, List.mem_cons, List.not_mem_nil, or_false,
      forall_eq_or_imp, forall_eq] at h
    obtain ⟨device, hdevice⟩ := exists_putText_iff.2 h.1
    obtain ⟨username, husername⟩ := exists_putText_iff.2 h.2.1
    obtain ⟨password, hpassword⟩ := exists_putText_iff.2 h.2.2
    exact ⟨_, by rw [putBody, hdevice, husername, hpassword]; rfl⟩
  | data deviceId payload =>
    obtain ⟨device, hdevice⟩ :=
      exists_putText_iff.2 (h deviceId.text (by simp [Packet.texts]))
    exact ⟨_, by rw [putBody, hdevice]; rfl⟩

/-! ## Frames -/

theorem encode_ok {max : Nat} {p : Packet} {octets : List UInt8}
    (h : encode max p = .ok octets) :
    p.Fits max ∧ ∃ field body, octets = p.kind.signature :: (field ++ body) ∧
      Length.decode field = .value body.length field.length ∧
      1 + field.length + body.length ≤ max ∧
        frameOf p.kind body = .ok p.frame := by
  rw [encode, bind_eq_ok] at h
  obtain ⟨body, hbody, h⟩ := h
  obtain ⟨htexts, hsize, hframe⟩ := putBody_ok hbody
  cases hfield : Length.encode body.length with
  | none =>
    rw [hfield] at h
    cases h
  | some field =>
    rw [hfield] at h
    dsimp only at h
    have hwidth := Length.encode_width hfield
    have hfits : body.length ≤ Length.maxLength := by
      by_contra hlong
      rw [Length.encode_eq_none_iff.2 (Nat.lt_of_not_le hlong)] at hfield
      cases hfield
    by_cases hbig : max < 1 + field.length + body.length
    · rw [if_pos hbig] at h
      cases h
    · rw [if_neg hbig] at h
      obtain rfl := Except.ok.inj h
      have hdecode := Length.decode_encode hfield []
      rw [List.append_nil] at hdecode
      have hsmall : 1 + field.length + body.length ≤ max :=
        Nat.le_of_not_lt hbig
      refine ⟨⟨htexts, hsize ▸ hfits, ?_⟩, field, body, rfl, hdecode,
        hsmall, hframe⟩
      rw [Packet.frameSize, ← hsize, ← hwidth]
      exact hsmall

private theorem encode_of_fits {max : Nat} {p : Packet} (h : p.Fits max) :
    ∃ octets, encode max p = .ok octets := by
  obtain ⟨body, hbody⟩ := exists_putBody h.texts
  obtain ⟨-, hsize, -⟩ := putBody_ok hbody
  cases hfield : Length.encode body.length with
  | none =>
    rw [Length.encode_eq_none_iff, hsize] at hfield
    exact absurd h.body (Nat.not_le_of_lt hfield)
  | some field =>
    have hframe := h.frame
    rw [Packet.frameSize, ← hsize, ← Length.encode_width hfield] at hframe
    refine ⟨p.kind.signature :: (field ++ body), ?_⟩
    rw [encode, bind_eq_ok]
    refine ⟨body, hbody, ?_⟩
    rw [hfield]
    dsimp only
    rw [if_neg (Nat.not_lt.2 hframe)]
    rfl

theorem encode_isOk_iff {max : Nat} {p : Packet} :
    (∃ octets, encode max p = .ok octets) ↔ p.Fits max :=
  ⟨fun ⟨_, h⟩ => (encode_ok h).1, encode_of_fits⟩

/-- A frame that was written is found at the front of an input, whatever
follows it, by whoever takes frames of its size. -/
theorem scan_encode {max max' : Nat} {p : Packet} {octets : List UInt8}
    (h : encode max p = .ok octets) (hmax : max ≤ max') (rest : List UInt8) :
    scan max' (octets ++ rest) = .frame p.frame rest := by
  obtain ⟨-, field, body, rfl, hfield, hfits, hframe⟩ := encode_ok h
  have hcons : p.kind.signature :: (field ++ body) ++ rest =
      p.kind.signature :: (field ++ (body ++ rest)) := by simp
  rw [hcons, scan_complete _ rest hfield (Nat.le_trans hfits hmax),
    Kind.ofSignature_signature]
  simp only [hframe]

end Binary

end DeviceGateway.Wire
