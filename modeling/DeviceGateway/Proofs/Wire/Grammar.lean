import DeviceGateway.Proofs.Bytes.Transcoding
import DeviceGateway.Proofs.Wire.Resumption
import Mathlib.Tactic.IntervalCases

/-!
# The grammar of binary frames

What a binary decoder takes and what it refuses is said here without the
reader.  A length field spells its number in octets of seven bits, and its last
octet, and no other, has the high bit clear.  A text is two octets of length and
the octets that write it.  A body is a row of such parts, and whatever is not
such a row has a flaw at the first part that is missing: `TextFlaw`,
`DeviceFlaw` and `ConnectFlaw` say which one, and each excludes that the body is
in order.

`Ruling` puts the parts together, and with them the order in which a decoder
finds fault.  The size of a frame is judged from its length field alone, before
the frame has arrived, and the signature and the body only when it is there in
full.  So an input that announces too much is refused although its signature
names no kind, and an input with such a signature is not refused until the last
octet of the frame has come.

Every rule that takes a frame off the input writes the input as a signature, a
field, a body of the announced size and a rest that it says nothing else about:
a decoder looks at no octet behind the frame, and the readers of a body at none
behind the body.

## Main results

* `decodeWithin_eq_iff_shape`: what length fields read as.
* `reads_text`, `reads_deviceId`, `reads_connect`: the parts of a body, and the
  flaws of one that does not have them.
* `next_eq_iff_ruling`: a ready decoder does what the grammar says, on every
  input.
-/

namespace DeviceGateway.Wire

/-! ## Length fields -/

namespace Length

/-- The number that octets of seven bits spell, the low ones first. -/
def spelled : List UInt8 → Nat
  | [] => 0
  | b :: rest => b.toNat % 128 + 128 * spelled rest

/-- Octets of which each says that another one follows. -/
def GoesOn (bytes : List UInt8) : Prop :=
  ∀ b ∈ bytes, 128 ≤ b.toNat

/-- A field that is finished: each octet but the last says that another
follows. -/
def Finished (field : List UInt8) : Prop :=
  ∃ front last, field = front ++ [last] ∧ GoesOn front ∧ last.toNat < 128

theorem goesOn_cons {b : UInt8} {bytes : List UInt8} :
    GoesOn (b :: bytes) ↔ 128 ≤ b.toNat ∧ GoesOn bytes :=
  List.forall_mem_cons

theorem finished_cons {b : UInt8} {field : List UInt8} :
    Finished (b :: field) ↔
      (b.toNat < 128 ∧ field = []) ∨ (128 ≤ b.toNat ∧ Finished field) := by
  constructor
  · rintro ⟨front, last, hfield, hfront, hlast⟩
    cases front with
    | nil =>
      obtain ⟨rfl, rfl⟩ := List.cons.inj hfield
      exact .inl ⟨hlast, rfl⟩
    | cons b' front =>
      obtain ⟨rfl, rfl⟩ := List.cons.inj hfield
      rw [goesOn_cons] at hfront
      exact .inr ⟨hfront.1, front, last, rfl, hfront.2, hlast⟩
  · rintro (⟨hlast, rfl⟩ | ⟨hb, front, last, rfl, hfront, hlast⟩)
    · exact ⟨[], b, rfl, by simp [GoesOn], hlast⟩
    · exact ⟨b :: front, last, rfl, goesOn_cons.2 ⟨hb, hfront⟩, hlast⟩

/-- What a reader of at most `room` octets finds at the front of the input. -/
inductive Shape (room : Nat) : List UInt8 → Field → Prop
  | finished {field : List UInt8} (rest : List UInt8) (hfield : Finished field)
      (hroom : field.length ≤ room) :
      Shape room (field ++ rest) (.value (spelled field) field.length)
  | unfinished {bytes : List UInt8} (hshort : bytes.length < room)
      (hon : GoesOn bytes) :
      Shape room bytes .unfinished
  | tooLarge {field : List UInt8} (rest : List UInt8)
      (hroom : field.length = room) (hon : GoesOn field) :
      Shape room (field ++ rest) .tooLarge

/-- An octet that says that another one follows, in front of what was read. -/
def Field.behind (b : UInt8) : Field → Field
  | .value length size => .value (b.toNat % 128 + 128 * length) (size + 1)
  | other => other

section Reading

variable {room : Nat} {b : UInt8} (bytes : List UInt8)

theorem decodeWithin_last (hb : b.toNat < 128) :
    decodeWithin (room + 1) (b :: bytes) = .value (spelled [b]) 1 := by
  have hspelled : spelled [b] = b.toNat := by
    show b.toNat % 128 + 128 * 0 = b.toNat
    omega
  rw [decodeWithin, if_pos hb, hspelled]

theorem decodeWithin_behind (hb : 128 ≤ b.toNat) :
    decodeWithin (room + 1) (b :: bytes) =
      (decodeWithin room bytes).behind b := by
  have hlow : b.toNat - 128 = b.toNat % 128 := by
    have := b.toNat_lt
    omega
  rw [decodeWithin, if_neg (Nat.not_lt.2 hb), hlow]
  cases decodeWithin room bytes <;> rfl

end Reading

theorem Shape.behind {room : Nat} {b : UInt8} {bytes : List UInt8} {f : Field}
    (hb : 128 ≤ b.toNat) (h : Shape room bytes f) :
    Shape (room + 1) (b :: bytes) (f.behind b) := by
  cases h with
  | finished rest hfield hroom =>
    exact .finished rest (finished_cons.2 (.inr ⟨hb, hfield⟩))
      (Nat.succ_le_succ hroom)
  | unfinished hshort hon =>
    exact .unfinished (Nat.succ_lt_succ hshort) (goesOn_cons.2 ⟨hb, hon⟩)
  | @tooLarge field rest hroom hon =>
    have hroom' : (b :: field).length = room + 1 := by
      rw [List.length_cons, hroom]
    exact .tooLarge rest hroom' (goesOn_cons.2 ⟨hb, hon⟩)

private theorem shaped (room : Nat) (bytes : List UInt8) :
    Shape room bytes (decodeWithin room bytes) := by
  induction room generalizing bytes with
  | zero =>
    have hnil : GoesOn [] := fun b hb => absurd hb List.not_mem_nil
    exact .tooLarge bytes rfl hnil
  | succ room ih =>
    cases bytes with
    | nil => exact .unfinished (Nat.succ_pos room) (by simp [GoesOn])
    | cons b bytes =>
      by_cases hb : b.toNat < 128
      · rw [decodeWithin_last bytes hb]
        exact .finished bytes (finished_cons.2 (.inl ⟨hb, rfl⟩))
          (Nat.succ_le_succ room.zero_le)
      · have hb := Nat.not_lt.1 hb
        rw [decodeWithin_behind bytes hb]
        exact (ih bytes).behind hb

theorem decodeWithin_finished {room : Nat} {field : List UInt8}
    (hfield : Finished field) (hroom : field.length ≤ room)
    (rest : List UInt8) :
    decodeWithin room (field ++ rest) =
      .value (spelled field) field.length := by
  induction field generalizing room with
  | nil =>
    obtain ⟨front, last, hnil, -⟩ := hfield
    exact absurd hnil (by simp)
  | cons b field ih =>
    cases room with
    | zero => exact absurd hroom (Nat.not_succ_le_zero _)
    | succ room =>
      rcases finished_cons.1 hfield with ⟨hb, rfl⟩ | ⟨hb, hfield⟩
      · exact decodeWithin_last rest hb
      · rw [List.cons_append, decodeWithin_behind _ hb,
          ih hfield (Nat.le_of_succ_le_succ hroom)]
        rfl

/-- As long as every octet asks for another one, it is the room that decides. -/
theorem decodeWithin_goesOn {field : List UInt8} (hon : GoesOn field)
    (room : Nat) :
    (field.length < room → decodeWithin room field = .unfinished) ∧
      (field.length = room → ∀ rest,
        decodeWithin room (field ++ rest) = .tooLarge) := by
  induction field generalizing room with
  | nil =>
    cases room with
    | zero => exact ⟨fun h => absurd h (Nat.lt_irrefl 0), fun _ rest => rfl⟩
    | succ room => exact ⟨fun _ => rfl, nofun⟩
  | cons b field ih =>
    obtain ⟨hb, hon⟩ := goesOn_cons.1 hon
    cases room with
    | zero => exact ⟨fun h => absurd h (Nat.not_lt_zero _), nofun⟩
    | succ room =>
      obtain ⟨hshort, hroom⟩ := ih hon room
      constructor
      · intro h
        rw [decodeWithin_behind _ hb, hshort (Nat.lt_of_succ_lt_succ h)]
        rfl
      · intro h rest
        rw [List.cons_append, decodeWithin_behind _ hb, hroom (Nat.succ.inj h)]
        rfl

/-- The shapes exclude each other, and what stands at the front decides. -/
theorem decodeWithin_eq_iff_shape {room : Nat} {bytes : List UInt8}
    {f : Field} :
    decodeWithin room bytes = f ↔ Shape room bytes f := by
  constructor
  · rintro rfl
    exact shaped room bytes
  · intro h
    cases h with
    | finished rest hfield hroom =>
      exact decodeWithin_finished hfield hroom rest
    | unfinished hshort hon => exact (decodeWithin_goesOn hon room).1 hshort
    | tooLarge rest hroom hon =>
      exact (decodeWithin_goesOn hon room).2 hroom rest

theorem decode_finished {field : List UInt8} (hfield : Finished field)
    (hfour : field.length ≤ 4) (rest : List UInt8) :
    decode (field ++ rest) = .value (spelled field) field.length :=
  decodeWithin_finished hfield hfour rest

/-- A number that was read is spelled by a finished field at the front. -/
theorem exists_finished {length size : Nat} {bytes : List UInt8}
    (h : decode bytes = .value length size) :
    ∃ field rest, bytes = field ++ rest ∧ Finished field ∧ field.length ≤ 4 ∧
      length = spelled field ∧ size = field.length := by
  cases decodeWithin_eq_iff_shape.1 h with
  | @finished field rest hfield hroom =>
    exact ⟨field, rest, rfl, hfield, hroom, rfl, rfl⟩

/-- A field that reads as a number, and has as many octets as it says, is a
finished one. -/
theorem finished_of_decode {length : Nat} {field : List UInt8}
    (h : decode field = .value length field.length) :
    Finished field ∧ field.length ≤ 4 ∧ length = spelled field := by
  obtain ⟨front, rest, hfield, hfinished, hfour, hlength, hsize⟩ :=
    exists_finished h
  have hrest : rest = [] := by
    rw [hfield, List.length_append] at hsize
    exact List.length_eq_zero_iff.1 (by omega)
  rw [hrest, List.append_nil] at hfield
  subst hfield
  exact ⟨hfinished, hfour, hlength⟩

end Length

/-! ## Signatures -/

namespace Kind

/-- A signature is sixteen times the number of its kind. -/
theorem ofSignature_eq_some_iff {b : UInt8} {k : Kind} :
    ofSignature b = some k ↔ b.toNat = 16 * k.number := by
  have hnumber : k.number * 16 < 256 := by cases k <;> decide
  have hsignature : k.signature.toNat = 16 * k.number := by
    rw [signature, UInt8.toNat_ofNat', Nat.mod_eq_of_lt hnumber, Nat.mul_comm]
  constructor
  · intro h
    rw [← signature_of_ofSignature h, hsignature]
  · intro h
    have hb : b = k.signature := UInt8.toNat_inj.1 (h.trans hsignature.symm)
    rw [hb]
    exact ofSignature_signature k

/-- The numbers of the kinds are one to nine. -/
theorem exists_number_iff {t : Nat} :
    (∃ k : Kind, k.number = t) ↔ 1 ≤ t ∧ t ≤ 9 := by
  constructor
  · rintro ⟨k, rfl⟩
    cases k <;> decide
  · rintro ⟨hlow, hhigh⟩
    interval_cases t
    exacts [⟨.register, rfl⟩, ⟨.dpsRegister, rfl⟩, ⟨.connect, rfl⟩,
      ⟨.deviceToCloud, rfl⟩, ⟨.cloudToDevice, rfl⟩, ⟨.heartbeat, rfl⟩,
      ⟨.twinUpdate, rfl⟩, ⟨.fileUpload, rfl⟩,
      ⟨.disconnect, rfl⟩]

theorem ofSignature_eq_none_iff {b : UInt8} :
    ofSignature b = none ↔ ∀ t, 1 ≤ t → t ≤ 9 → b.toNat ≠ 16 * t := by
  constructor
  · intro h t hlow hhigh ht
    obtain ⟨k, rfl⟩ := exists_number_iff.2 ⟨hlow, hhigh⟩
    rw [ofSignature_eq_some_iff.2 ht] at h
    cases h
  · intro h
    cases hkind : ofSignature b with
    | none => rfl
    | some k =>
      have hk := exists_number_iff.1 ⟨k, rfl⟩
      exact absurd (ofSignature_eq_some_iff.1 hkind) (h k.number hk.1 hk.2)

end Kind

namespace Binary

/-! ## Parts of a body -/

/-- The number in two octets, the high one first. -/
def pair (hi lo : UInt8) : Nat :=
  hi.toNat * 256 + lo.toNat

/-- Octets that are a text with its length in front. -/
def TextWritten (s : String) (octets : List UInt8) : Prop :=
  ∃ hi lo, octets = hi :: lo :: Bytes.Utf8.encodeString s ∧
    pair hi lo = (Bytes.Utf8.encodeString s).length

/-- Octets that are the text of a device id, blanks around it or not. -/
def DeviceWritten (id : DeviceId) (octets : List UInt8) : Prop :=
  ∃ raw, TextWritten raw octets ∧ Text.trim raw ≠ "" ∧ id.text = Text.trim raw

/-- Why a body has no text at its front. -/
inductive TextFlaw : List UInt8 → BodyFault → Prop
  | truncated {bytes : List UInt8} (hshort : bytes.length < 2) :
      TextFlaw bytes .truncatedLength
  | overrun {hi lo : UInt8} {bytes : List UInt8}
      (hshort : bytes.length < pair hi lo) :
      TextFlaw (hi :: lo :: bytes) (.overrun (pair hi lo))
  | notText {hi lo : UInt8} {octets : List UInt8} (rest : List UInt8)
      (hlength : octets.length = pair hi lo) {fault : Bytes.Utf8.Fault}
      (hnot : ∀ s, octets ≠ Bytes.Utf8.encodeString s)
      (hfault : Bytes.Utf8.decodeString octets = .error fault) :
      TextFlaw (hi :: lo :: (octets ++ rest)) (.notText fault)

/-- Why a body has no device id at its front. -/
inductive DeviceFlaw : List UInt8 → BodyFault → Prop
  | text {bytes : List UInt8} {cause : BodyFault} (h : TextFlaw bytes cause) :
      DeviceFlaw bytes cause
  | blank {raw : String} {octets : List UInt8} (rest : List UInt8)
      (h : TextWritten raw octets) (hblank : Text.trim raw = "") :
      DeviceFlaw (octets ++ rest) .blankDeviceId

/-- Octets that are the fields of a CONNECT. -/
inductive ConnectWritten : Connect → List UInt8 → Prop
  | mk {request : Connect} {device username password : List UInt8}
      {hi lo : UInt8} (hdevice : DeviceWritten request.deviceId device)
      (husername : TextWritten request.username username)
      (hpassword : TextWritten request.password password)
      (hkeepAlive : request.keepAliveSecs.toNat = pair hi lo) :
      ConnectWritten request (device ++ (username ++ (password ++ [hi, lo])))

/-- Why a body does not have the fields of a CONNECT at its front: the first of
them that is at fault. -/
inductive ConnectFlaw : List UInt8 → BodyFault → Prop
  | device {body : List UInt8} {cause : BodyFault} (h : DeviceFlaw body cause) :
      ConnectFlaw body cause
  | username {id : DeviceId} {device bytes : List UInt8} {cause : BodyFault}
      (hdevice : DeviceWritten id device) (h : TextFlaw bytes cause) :
      ConnectFlaw (device ++ bytes) cause
  | password {id : DeviceId} {name : String}
      {device username bytes : List UInt8} {cause : BodyFault}
      (hdevice : DeviceWritten id device)
      (husername : TextWritten name username) (h : TextFlaw bytes cause) :
      ConnectFlaw (device ++ (username ++ bytes)) cause
  | keepAlive {id : DeviceId} {name secret : String}
      {device username password bytes : List UInt8}
      (hdevice : DeviceWritten id device)
      (husername : TextWritten name username)
      (hpassword : TextWritten secret password) (hshort : bytes.length < 2) :
      ConnectFlaw (device ++ (username ++ (password ++ bytes)))
        .missingKeepAlive

/-! ## Readers of parts -/

/-- A reader that takes one part off the front of a body, gives the rest back as
it is, and refuses a body that has the part not at its front. -/
structure Reads {α : Type}
    (reader : List UInt8 → Except BodyFault (α × List UInt8))
    (Written : α → List UInt8 → Prop) (Flaw : List UInt8 → BodyFault → Prop) :
    Prop where
  written : ∀ {a octets}, Written a octets → ∀ rest,
    reader (octets ++ rest) = .ok (a, rest)
  flaw : ∀ {bytes cause}, Flaw bytes cause → reader bytes = .error cause
  total : ∀ bytes, (∃ cause, Flaw bytes cause) ∨
    ∃ a octets rest, Written a octets ∧ bytes = octets ++ rest

/-- A body has a flaw or the part at its front, and never both. -/
theorem Reads.exists_flaw_iff {α : Type}
    {reader : List UInt8 → Except BodyFault (α × List UInt8)}
    {Written : α → List UInt8 → Prop} {Flaw : List UInt8 → BodyFault → Prop}
    (h : Reads reader Written Flaw) {bytes : List UInt8} :
    (∃ cause, Flaw bytes cause) ↔
      ¬ ∃ a octets rest, Written a octets ∧ bytes = octets ++ rest := by
  constructor
  · rintro ⟨cause, hflaw⟩ ⟨a, octets, rest, hwritten, rfl⟩
    have hread := h.flaw hflaw
    rw [h.written hwritten] at hread
    cases hread
  · intro hnot
    exact (h.total bytes).resolve_right hnot

/-- Two octets are there or they are not. -/
theorem two_or_short (bytes : List UInt8) :
    bytes.length < 2 ∨ ∃ hi lo rest, bytes = hi :: lo :: rest := by
  cases bytes with
  | nil => exact .inl (by simp)
  | cons hi bytes =>
    cases bytes with
    | nil => exact .inl (by simp)
    | cons lo rest => exact .inr ⟨hi, lo, rest, rfl⟩

theorem takeUInt16_short {bytes : List UInt8} (h : bytes.length < 2) :
    Bytes.takeUInt16 bytes = none := by
  rcases bytes with _ | ⟨hi, _ | ⟨lo, rest⟩⟩
  · rfl
  · rfl
  · simp only [List.length_cons] at h
    omega

theorem takeUInt16_pair (hi lo : UInt8) (rest : List UInt8) :
    ∃ n : UInt16, n.toNat = pair hi lo ∧ Bytes.takeUInt16 (hi :: lo :: rest) =
      some (n, rest) := by
  have hhi := hi.toNat_lt
  have hlo := lo.toNat_lt
  refine ⟨UInt16.ofNat (pair hi lo), ?_, rfl⟩
  rw [UInt16.toNat_ofNat']
  refine Nat.mod_eq_of_lt ?_
  unfold pair
  omega

theorem reads_text : Reads readText TextWritten TextFlaw where
  written := by
    rintro s _ ⟨hi, lo, rfl, hlength⟩ rest
    obtain ⟨n, hn, htake⟩ :=
      takeUInt16_pair hi lo (Bytes.Utf8.encodeString s ++ rest)
    rw [hlength] at hn
    simp only [readText, List.cons_append, htake, hn, Bytes.splitExactly_append,
      Bytes.Utf8.decodeString_encodeString]
    rfl
  flaw := by
    rintro bytes cause (hshort | @⟨hi, lo, bytes, hshort⟩ |
      @⟨hi, lo, octets, rest, hlength, fault, -, hfault⟩)
    · simp only [readText, takeUInt16_short hshort]
      rfl
    · obtain ⟨n, hn, htake⟩ := takeUInt16_pair hi lo bytes
      simp only [readText, htake, hn, Bytes.splitExactly_eq_none_iff.2 hshort]
      rfl
    · obtain ⟨n, hn, htake⟩ := takeUInt16_pair hi lo (octets ++ rest)
      rw [← hlength] at hn
      simp only [readText, htake, hn, Bytes.splitExactly_append, hfault]
      rfl
  total := by
    intro bytes
    rcases two_or_short bytes with hshort | ⟨hi, lo, bytes, rfl⟩
    · exact .inl ⟨_, .truncated hshort⟩
    · cases hsplit : Bytes.splitExactly (pair hi lo) bytes with
      | none =>
        exact .inl ⟨_, .overrun (Bytes.splitExactly_eq_none_iff.1 hsplit)⟩
      | some halves =>
        obtain ⟨octets, rest⟩ := halves
        obtain ⟨rfl, hlength⟩ := Bytes.splitExactly_eq_some_iff.1 hsplit
        cases htext : Bytes.Utf8.decodeString octets with
        | error fault =>
          have hnot (s : String) : octets ≠ Bytes.Utf8.encodeString s := by
            rintro rfl
            rw [Bytes.Utf8.decodeString_encodeString] at htext
            cases htext
          exact .inl ⟨_, .notText rest hlength hnot htext⟩
        | ok s =>
          obtain rfl := Bytes.Utf8.decodeString_eq_ok_iff.1 htext
          exact .inr ⟨s, _, rest, ⟨hi, lo, rfl, hlength.symm⟩, rfl⟩

theorem reads_deviceId : Reads readDeviceId DeviceWritten DeviceFlaw where
  written := by
    rintro id octets ⟨raw, hraw, hblank, hid⟩ rest
    have hparse : DeviceId.parse raw = some id := by
      obtain ⟨text, htrimmed, hnonempty⟩ := id
      obtain rfl : text = Text.trim raw := hid
      rw [DeviceId.parse, dif_neg hblank]
    simp only [readDeviceId, reads_text.written hraw, bind, Except.bind, hparse]
    rfl
  flaw := by
    rintro bytes cause (htext | @⟨raw, octets, rest, hraw, hblank⟩)
    · simp only [readDeviceId, reads_text.flaw htext, bind, Except.bind]
    · have hparse := DeviceId.parse_eq_none_iff.2 hblank
      simp only [readDeviceId, reads_text.written hraw, bind,
        Except.bind, hparse]
      rfl
  total := by
    intro bytes
    rcases reads_text.total bytes with ⟨cause, hflaw⟩ |
      ⟨raw, octets, rest, hraw, rfl⟩
    · exact .inl ⟨cause, .text hflaw⟩
    · cases hparse : DeviceId.parse raw with
      | none =>
        exact .inl ⟨_, .blank rest hraw (DeviceId.parse_eq_none_iff.1 hparse)⟩
      | some id =>
        have hblank : Text.trim raw ≠ "" := by
          intro hblank
          rw [DeviceId.parse_eq_none_iff.2 hblank] at hparse
          cases hparse
        exact .inr ⟨id, octets, rest,
          ⟨raw, hraw, hblank, DeviceId.text_of_parse hparse⟩, rfl⟩

theorem reads_connect : Reads readConnect ConnectWritten ConnectFlaw where
  written := by
    rintro request _ ⟨hdevice, husername, hpassword, hkeepAlive⟩ rest
    next device username password hi lo =>
    obtain ⟨n, hn, htake⟩ := takeUInt16_pair hi lo rest
    obtain rfl : request.keepAliveSecs = n :=
      UInt16.toNat_inj.1 (hkeepAlive.trans hn.symm)
    simp only [readConnect, List.append_assoc, reads_deviceId.written hdevice,
      reads_text.written husername, reads_text.written hpassword,
      List.cons_append, List.nil_append, htake, bind, Except.bind]
    rfl
  flaw := by
    rintro body cause (hflaw | ⟨hdevice, hflaw⟩ | ⟨hdevice, husername, hflaw⟩ |
      ⟨hdevice, husername, hpassword, hshort⟩)
    · simp only [readConnect, reads_deviceId.flaw hflaw, bind, Except.bind]
    · simp only [readConnect, reads_deviceId.written hdevice,
        reads_text.flaw hflaw, bind, Except.bind]
    · simp only [readConnect, reads_deviceId.written hdevice,
        reads_text.written husername, reads_text.flaw hflaw, bind, Except.bind]
    · simp only [readConnect, reads_deviceId.written hdevice,
        reads_text.written husername, reads_text.written hpassword,
        takeUInt16_short hshort, bind, Except.bind]
      rfl
  total := by
    intro body
    rcases reads_deviceId.total body with ⟨cause, hflaw⟩ |
      ⟨id, device, body, hdevice, rfl⟩
    · exact .inl ⟨cause, .device hflaw⟩
    rcases reads_text.total body with ⟨cause, hflaw⟩ |
      ⟨name, username, body, husername, rfl⟩
    · exact .inl ⟨cause, .username hdevice hflaw⟩
    rcases reads_text.total body with ⟨cause, hflaw⟩ |
      ⟨secret, password, body, hpassword, rfl⟩
    · exact .inl ⟨cause, .password hdevice husername hflaw⟩
    rcases two_or_short body with hshort | ⟨hi, lo, rest, rfl⟩
    · exact .inl ⟨_, .keepAlive hdevice husername hpassword hshort⟩
    · obtain ⟨n, hn, -⟩ := takeUInt16_pair hi lo rest
      refine .inr ⟨⟨id, name, secret, n⟩, _, rest,
        .mk hdevice husername hpassword hn, ?_⟩
      simp only [List.append_assoc, List.cons_append, List.nil_append]

/-! ## Bodies -/

/-- What the body of a complete frame says. -/
inductive Says : Kind → List UInt8 → Except Fault Frame → Prop
  | connect {request : Connect} {body : List UInt8}
      (h : ConnectWritten request body) :
      Says .connect body (.ok (.connect request))
  | trailing {request : Connect} {octets extra : List UInt8}
      (h : ConnectWritten request octets) (hextra : 0 < extra.length) :
      Says .connect (octets ++ extra) (.error (.trailingBytes extra.length))
  | brokenConnect {body : List UInt8} {cause : BodyFault}
      (h : ConnectFlaw body cause) :
      Says .connect body (.error (.malformed .connect cause))
  | data {id : DeviceId} {octets : List UInt8} (payload : List UInt8)
      (h : DeviceWritten id octets) :
      Says .deviceToCloud (octets ++ payload)
        (.ok (.data (Reading.of id payload)))
  | brokenData {body : List UInt8} {cause : BodyFault}
      (h : DeviceFlaw body cause) :
      Says .deviceToCloud body (.error (.malformed .deviceToCloud cause))
  | heartbeat (body : List UInt8) : Says .heartbeat body (.ok .heartbeat)
  | skipped {kind : Kind} (body : List UInt8) (hconnect : kind ≠ .connect)
      (hdata : kind ≠ .deviceToCloud) (hheartbeat : kind ≠ .heartbeat) :
      Says kind body (.ok (.skipped kind))

private theorem says_frameOf (kind : Kind) (body : List UInt8) :
    Says kind body (frameOf kind body) := by
  cases kind with
  | connect =>
    rcases reads_connect.total body with ⟨cause, hflaw⟩ |
      ⟨request, octets, extra, hwritten, rfl⟩
    · rw [frameOf, reads_connect.flaw hflaw]
      exact .brokenConnect hflaw
    · rw [frameOf, reads_connect.written hwritten]
      cases extra with
      | nil =>
        rw [List.append_nil]
        exact .connect hwritten
      | cons b extra => exact .trailing hwritten (Nat.succ_pos _)
  | deviceToCloud =>
    rcases reads_deviceId.total body with ⟨cause, hflaw⟩ |
      ⟨id, octets, payload, hwritten, rfl⟩
    · rw [frameOf, reads_deviceId.flaw hflaw]
      exact .brokenData hflaw
    · rw [frameOf, reads_deviceId.written hwritten]
      exact .data payload hwritten
  | heartbeat => exact .heartbeat body
  | _ => exact .skipped body nofun nofun nofun

theorem Says.frameOf_eq {kind : Kind} {body : List UInt8}
    {result : Except Fault Frame} (h : Says kind body result) :
    frameOf kind body = result := by
  cases h with
  | connect hwritten =>
    have hread := reads_connect.written hwritten []
    rw [List.append_nil] at hread
    rw [frameOf, hread]
  | @trailing request octets extra hwritten hextra =>
    rw [frameOf, reads_connect.written hwritten]
    cases extra with
    | nil => exact absurd hextra (Nat.lt_irrefl 0)
    | cons b extra => rfl
  | brokenConnect hflaw => rw [frameOf, reads_connect.flaw hflaw]
  | data payload hwritten => rw [frameOf, reads_deviceId.written hwritten]
  | brokenData hflaw => rw [frameOf, reads_deviceId.flaw hflaw]
  | heartbeat => rfl
  | skipped body hconnect hdata hheartbeat =>
    cases kind <;> first | rfl | contradiction

end Binary

/-! ## Frames -/

namespace Decoder

open Binary Length

/-- What a ready decoder for frames of at most `max` octets makes of its input:
what it gives, which decoder it is then, and the input that is left.  The rules
stand in the order in which the checks come. -/
inductive Ruling (max : Nat) :
    List UInt8 → Option (Except Fault Frame) × Decoder × List UInt8 → Prop
  | short {input : List UInt8} (hshort : input.length < 2) :
      Ruling max input (none, ready max, input)
  | unfinished (signature : UInt8) {field : List UInt8}
      (hshort : field.length < 4) (hon : GoesOn field) :
      Ruling max (signature :: field) (none, ready max, signature :: field)
  | lengthTooLarge (signature : UInt8) {field : List UInt8} (rest : List UInt8)
      (hfour : field.length = 4) (hon : GoesOn field) :
      Ruling max (signature :: (field ++ rest))
        (some (.error .lengthTooLarge), failed max, [])
  | tooBig (signature : UInt8) {field : List UInt8} (rest : List UInt8)
      (hfield : Finished field) (hfour : field.length ≤ 4)
      (hbig : max < 1 + field.length + spelled field) :
      Ruling max (signature :: (field ++ rest))
        (some (.error (.messageTooBig (1 + field.length + spelled field) max)),
          failed max, [])
  | incomplete (signature : UInt8) {field rest : List UInt8}
      (hfield : Finished field) (hfour : field.length ≤ 4)
      (hfits : 1 + field.length + spelled field ≤ max)
      (hshort : rest.length < spelled field) :
      Ruling max (signature :: (field ++ rest))
        (none, ready max, signature :: (field ++ rest))
  | unknown {signature : UInt8} {field body : List UInt8} (rest : List UInt8)
      (hfield : Finished field) (hfour : field.length ≤ 4)
      (hfits : 1 + field.length + spelled field ≤ max)
      (hbody : body.length = spelled field)
      (hnumber : ∀ t, 1 ≤ t → t ≤ 9 → signature.toNat ≠ 16 * t) :
      Ruling max (signature :: (field ++ (body ++ rest)))
        (some (.error (.unknownSignature signature)), failed max, [])
  | broken {signature : UInt8} {field body : List UInt8} (rest : List UInt8)
      (hfield : Finished field) (hfour : field.length ≤ 4)
      (hfits : 1 + field.length + spelled field ≤ max)
      (hbody : body.length = spelled field) {kind : Kind}
      (hnumber : signature.toNat = 16 * kind.number) {fault : Fault}
      (hmeans : Says kind body (.error fault)) :
      Ruling max (signature :: (field ++ (body ++ rest)))
        (some (.error fault), failed max, [])
  | frame {signature : UInt8} {field body : List UInt8} (rest : List UInt8)
      (hfield : Finished field) (hfour : field.length ≤ 4)
      (hfits : 1 + field.length + spelled field ≤ max)
      (hbody : body.length = spelled field) {kind : Kind}
      (hnumber : signature.toNat = 16 * kind.number) {f : Frame}
      (hmeans : Says kind body (.ok f)) :
      Ruling max (signature :: (field ++ (body ++ rest)))
        (some (.ok f), ready max, rest)

variable {max : Nat} {input : List UInt8}

private theorem ruled (max : Nat) (input : List UInt8) :
    Ruling max input ((ready max).next input) := by
  have hscanned := scanned max input
  rcases next_ready max input with ⟨hscan, hnext⟩ | ⟨f, rest, hscan, hnext⟩ |
    ⟨fault, hscan, hnext⟩
  · rw [hnext]
    rw [hscan] at hscanned
    cases hscanned with
    | empty => exact .short (Nat.succ_pos 1)
    | unfinished signature hfield =>
      cases decodeWithin_eq_iff_shape.1 hfield with
      | unfinished hshort hon => exact .unfinished signature hshort hon
    | incomplete signature hfield hfits hshort =>
      obtain ⟨field, rest, rfl, hfinished, hfour, rfl, rfl⟩ :=
        exists_finished hfield
      rw [List.length_append] at hshort
      exact .incomplete signature hfinished hfour hfits
        (Nat.lt_of_add_lt_add_left hshort)
  · rw [hnext]
    rw [hscan] at hscanned
    cases hscanned with
    | frame signature rest hfield hfits hkind hbody =>
      obtain ⟨hfinished, hfour, hlength⟩ := finished_of_decode hfield
      rw [hlength] at hfits
      exact .frame rest hfinished hfour hfits hlength
        (Kind.ofSignature_eq_some_iff.1 hkind) (hbody ▸ says_frameOf _ _)
  · rw [hnext]
    rw [hscan] at hscanned
    cases hscanned with
    | lengthTooLarge signature hfield =>
      cases decodeWithin_eq_iff_shape.1 hfield with
      | tooLarge rest hfour hon =>
        exact .lengthTooLarge signature rest hfour hon
    | tooBig signature hfield hbig =>
      obtain ⟨field, rest, rfl, hfinished, hfour, rfl, rfl⟩ :=
        exists_finished hfield
      exact .tooBig signature rest hfinished hfour hbig
    | unknown signature rest hfield hfits hkind =>
      obtain ⟨hfinished, hfour, hlength⟩ := finished_of_decode hfield
      rw [hlength] at hfits
      exact .unknown rest hfinished hfour hfits hlength
        (Kind.ofSignature_eq_none_iff.1 hkind)
    | broken signature rest hfield hfits hkind hbody =>
      obtain ⟨hfinished, hfour, hlength⟩ := finished_of_decode hfield
      rw [hlength] at hfits
      exact .broken rest hfinished hfour hfits hlength
        (Kind.ofSignature_eq_some_iff.1 hkind) (hbody ▸ says_frameOf _ _)

/-- The octets of a complete frame, as a look at the input finds them. -/
theorem decode_complete {field body : List UInt8} (hfield : Finished field)
    (hfour : field.length ≤ 4) (hbody : body.length = spelled field) :
    Length.decode field = .value body.length field.length := by
  have h := decode_finished hfield hfour []
  rwa [List.append_nil, ← hbody] at h

private theorem next_of_ruling
    {out : Option (Except Fault Frame) × Decoder × List UInt8}
    (h : Ruling max input out) : (ready max).next input = out := by
  cases h with
  | short hshort =>
    apply next_ready_wait
    rcases input with _ | ⟨signature, _ | ⟨b, bytes⟩⟩
    · exact scan_of_scanned .empty
    · exact scan_of_scanned (.unfinished signature rfl)
    · simp only [List.length_cons] at hshort
      omega
  | unfinished signature hshort hon =>
    have hfield := decodeWithin_eq_iff_shape.2 (.unfinished hshort hon)
    exact next_ready_wait (scan_of_scanned (.unfinished signature hfield))
  | lengthTooLarge signature rest hfour hon =>
    have hfield := decodeWithin_eq_iff_shape.2 (.tooLarge rest hfour hon)
    exact next_ready_fault (scan_of_scanned (.lengthTooLarge signature hfield))
  | tooBig signature rest hfield hfour hbig =>
    have hread := decode_finished hfield hfour rest
    exact next_ready_fault (scan_of_scanned (.tooBig signature hread hbig))
  | @incomplete signature field rest hfield hfour hfits hshort =>
    have hread := decode_finished hfield hfour rest
    have hlength : (field ++ rest).length < field.length + spelled field := by
      rw [List.length_append]
      omega
    exact next_ready_wait
      (scan_of_scanned (.incomplete signature hread hfits hlength))
  | unknown rest hfield hfour hfits hbody hnumber =>
    have hread := decode_complete hfield hfour hbody
    rw [← hbody] at hfits
    exact next_ready_fault (scan_of_scanned
      (.unknown _ rest hread hfits (Kind.ofSignature_eq_none_iff.2 hnumber)))
  | broken rest hfield hfour hfits hbody hnumber hmeans =>
    have hread := decode_complete hfield hfour hbody
    rw [← hbody] at hfits
    exact next_ready_fault (scan_of_scanned (.broken _ rest hread hfits
      (Kind.ofSignature_eq_some_iff.2 hnumber) hmeans.frameOf_eq))
  | frame rest hfield hfour hfits hbody hnumber hmeans =>
    have hread := decode_complete hfield hfour hbody
    rw [← hbody] at hfits
    exact next_ready_frame (scan_of_scanned (.frame _ rest hread hfits
      (Kind.ofSignature_eq_some_iff.2 hnumber) hmeans.frameOf_eq))

/-- What is left of the input is its end. -/
theorem suffix_of_ruling
    {out : Option (Except Fault Frame) × Decoder × List UInt8}
    (h : Ruling max input out) : out.2.2 <:+ input := by
  cases h with
  | short => exact List.suffix_rfl
  | unfinished => exact List.suffix_rfl
  | lengthTooLarge => exact List.nil_suffix
  | tooBig => exact List.nil_suffix
  | incomplete => exact List.suffix_rfl
  | unknown => exact List.nil_suffix
  | broken => exact List.nil_suffix
  | @frame signature field body rest =>
    exact ⟨signature :: (field ++ body), by simp⟩

private theorem next_append_of_some (h : ((ready max).next input).1 ≠ none)
    (more : List UInt8) :
    ((ready max).next (input ++ more)).1 = ((ready max).next input).1 := by
  rcases next_ready max input with ⟨-, hnext⟩ | ⟨f, rest, hscan, hnext⟩ |
    ⟨fault, hscan, hnext⟩
  · rw [hnext] at h
    exact absurd rfl h
  · rw [hnext, next_ready_frame (scan_append_frame hscan more)]
  · rw [hnext, next_ready_fault (scan_append_fault hscan more)]

/-- What a ready decoder makes of its input is what the rules say, on every
input and for every limit.  A body has a flaw exactly if it does not start with
the parts of its kind, so a CONNECT that is neither in order nor in order up to
some octets too many is malformed, and data is malformed if no device id stands
in front.  What is left of the input is its end, and once a frame or a fault is
found, no octet behind it has a say in what is found. -/
theorem next_eq_iff_ruling (max : Nat) :
    (∀ input out, (ready max).next input = out ↔ Ruling max input out) ∧
    (∀ body, (∃ cause, ConnectFlaw body cause) ↔
      ¬ ∃ request octets extra, ConnectWritten request octets ∧
        body = octets ++ extra) ∧
    (∀ body, (∃ cause, DeviceFlaw body cause) ↔
      ¬ ∃ id octets payload, DeviceWritten id octets ∧
        body = octets ++ payload) ∧
    (∀ input, ((ready max).next input).2.2 <:+ input) ∧
    (∀ input more, ((ready max).next input).1 ≠ none →
      ((ready max).next (input ++ more)).1 = ((ready max).next input).1) := by
  refine ⟨fun input out => ⟨?_, next_of_ruling⟩, fun body =>
    reads_connect.exists_flaw_iff, fun body => reads_deviceId.exists_flaw_iff,
      fun input => suffix_of_ruling (ruled max input),
    fun input more h => next_append_of_some h more⟩
  rintro rfl
  exact ruled max input

end Decoder

end DeviceGateway.Wire
