import DeviceGateway.Proofs.Wire.Tokens
import DeviceGateway.Tenancy.Basic

/-!
# Showcase payloads

The payload of a showcase line is a JSON object around four texts.  Three of
them a device chooses, and the fourth may be anything the gateway was configured
with, so there may be quotes, backslashes and line breaks in them.  None of this
reaches the object: every text stands in a string of its own, where these are
escaped.

The object is therefore what any reader of JSON finds in the payload, and
nothing else: it has these four fields and no other, each with its text.  So the
payload tells the four texts apart from any others, and it is one line without
control characters.

## Main results

* `Wrapped.spells_iff`: what the text of the object stands for.
* `payload_of_wraps`, `accepted_iff`: the payload of a line that is accepted,
  and which lines are.
* `showcase_lossless`: the payload says what the line and the tenant say, no
  more and no less.
-/

namespace DeviceGateway.Wire.Layout

open Bytes.Utf8
  (encode encodeString decode_encode decode_eq_ok_iff decodeString_encodeString)
open Text.Json (Value Padded)

/-- The texts in a showcase payload. -/
structure Wrapped where
  data : String
  deviceId : String
  tenantId : String
  timestamp : String
  deriving DecidableEq, Repr

namespace Wrapped

/-- The object around the texts. -/
def object (w : Wrapped) : Value :=
  .object [("data", .text w.data), ("deviceId", .text w.deviceId),
    ("tenantId", .text w.tenantId), ("ts", .text w.timestamp)]

theorem object_proper (w : Wrapped) : w.object.Proper :=
  ⟨trivial, trivial, trivial, trivial, trivial⟩

private theorem object_injective {w w' : Wrapped} (h : w.object = w'.object) :
    w = w' := by
  obtain ⟨data, deviceId, tenantId, timestamp⟩ := w
  obtain ⟨data', deviceId', tenantId', timestamp'⟩ := w'
  simp only [object, Value.object.injEq, List.cons.injEq, Prod.mk.injEq,
    Value.text.injEq, true_and, and_true] at h
  obtain ⟨rfl, rfl, rfl, rfl⟩ := h
  rfl

/-- The text of the object stands for the object and for nothing else. -/
theorem spells_iff (w : Wrapped) (v : Value) :
    Padded v.Spells w.object.toText.toList ↔ v = w.object := by
  have hself : Padded w.object.Spells w.object.toText.toList := by
    rw [Value.toText, String.toList_ofList]
    exact .of (Text.Json.render_spells _ w.object_proper)
  constructor
  · intro h
    exact Value.Spells.unique h hself
  · rintro rfl
    exact hself

example : (object ⟨"\"", "d", "t\n", "0"⟩).toText =
    "\x7b\"data\":\"\\\"\",\"deviceId\":\"d\"," ++
      "\"tenantId\":\"t\\n\",\"ts\":\"0\"\x7d" := by
  decide

private theorem toText_injective {w w' : Wrapped}
    (h : w.object.toText = w'.object.toText) : w = w' := by
  have hsame := (w.spells_iff w.object).2 rfl
  rw [h, spells_iff] at hsame
  exact object_injective hsame

private theorem control_not_mem (w : Wrapped) :
    ∀ b ∈ encodeString w.object.toText, 0x20 ≤ b.toNat := by
  rw [encodeString, Value.toText, String.toList_ofList]
  exact Bytes.Utf8.encode_ne_control
    (Text.Json.render_ne_control _ w.object_proper)

end Wrapped

/-- The texts that a line gives to a tenant of the given name: all that follows
the device is data, with one tilde between two tokens. -/
def Wraps (name : String) (line : List UInt8) (w : Wrapped) : Prop :=
  ∃ text timestamp device data, line = encode text ∧
    tokens text = timestamp :: device :: data ∧
    data ≠ [] ∧ w.data = String.ofList (join data) ∧
    w.deviceId = Text.trim (String.ofList device) ∧ w.tenantId = name ∧
    w.timestamp = String.ofList timestamp

variable {name name' : String} {line line' : List UInt8} {entry entry' : Entry}
  {w w' : Wrapped}

/-- A line that is accepted says what goes into its payload. -/
theorem exists_wraps (h : showcase.decode name line = .ok entry) :
    ∃ w, Wraps name line w ∧ w.deviceId = entry.deviceId.text ∧
      entry.payload = w.object.toText := by
  obtain ⟨text, hline, hcount, hgives⟩ := showcase.exists_gives_of_decode name h
  obtain ⟨device, hdevice, hid⟩ := hgives.device
  have htime := hgives.timestamp
  have hpayload := hgives.payload
  rcases htokens : tokens text with _ | ⟨time, _ | ⟨second, _ | ⟨first, more⟩⟩⟩
  · simp [htokens] at hcount
  · simp [htokens] at hcount
  · simp [htokens] at hcount
  rw [htokens] at hdevice htime hpayload
  obtain rfl : second = device := Option.some.inj hdevice
  have htime : time = entry.timestamp.toList := Option.some.inj htime
  refine ⟨⟨String.ofList (join (first :: more)), entry.deviceId.text, name,
    entry.timestamp⟩, ⟨text, time, second, first :: more, hline,
    htokens, by simp, rfl, hid, rfl, ?_⟩, rfl, hpayload⟩
  rw [htime, String.ofList_toList]

/-- A line gives the same texts to a tenant whenever it comes. -/
theorem Wraps.unique (h : Wraps name line w) (h' : Wraps name line w') :
    w = w' := by
  obtain ⟨text, time, device, data, rfl, htokens, -, hdata, hdevice, hname,
    htime⟩ := h
  obtain ⟨text', time', device', data', hline, htokens', -, hdata', hdevice',
    hname', htime'⟩ := h'
  have htext : text = text' := by
    have hread := decode_encode text
    rw [hline, decode_encode] at hread
    exact (Except.ok.inj hread).symm
  subst htext
  rw [htokens] at htokens'
  obtain ⟨rfl, hrest⟩ := List.cons.inj htokens'
  obtain ⟨rfl, rfl⟩ := List.cons.inj hrest
  cases w
  cases w'
  rw [Wrapped.mk.injEq]
  exact ⟨hdata.trans hdata'.symm, hdevice.trans hdevice'.symm,
    hname.trans hname'.symm, htime.trans htime'.symm⟩

theorem payload_of_wraps (h : showcase.decode name line = .ok entry)
    (hw : Wraps name line w) :
    entry.payload = w.object.toText := by
  obtain ⟨w', hw', -, hpayload⟩ := exists_wraps h
  rw [hw.unique hw', hpayload]

/-- A line is accepted if it gives its texts and the device is not blank. -/
theorem accepted_iff :
    (∃ entry, showcase.decode name line = .ok entry) ↔
      ∃ w, Wraps name line w ∧ w.deviceId ≠ "" := by
  constructor
  · rintro ⟨entry, hentry⟩
    obtain ⟨w, hw, hdevice, -⟩ := exists_wraps hentry
    exact ⟨w, hw, hdevice ▸ entry.deviceId.nonempty⟩
  · rintro ⟨w, ⟨text, time, device, data, rfl, htokens, hdata, -, hdevice, -⟩,
      hblank⟩
    obtain ⟨first, more, rfl⟩ := List.exists_cons_of_ne_nil hdata
    have hsound : ¬ showcase.BlankDevice (tokens text) := by
      rintro ⟨found, hfound, htrim⟩
      rw [htokens] at hfound
      obtain rfl : device = found := Option.some.inj hfound
      exact hblank (hdevice.trans htrim)
    obtain ⟨entry, hentry, -⟩ :=
      showcase.entryOf_gives name (by simp [htokens]) hsound
    exact ⟨entry, by rw [decode_text, hentry]⟩

/-- A showcase tenant accepts the lines that have a timestamp, a device that is
not blank and data.  The payload of such a line is a JSON text without octets
below U+0020.  It stands for the object with the data, the trimmed device id,
the name of the tenant and the timestamp of the device, in this order, and for
no other value.  So two payloads are the same only if these four texts are.  A
reading of such a line carries its payload. -/
theorem showcase_lossless :
    (∀ name line, (∃ entry, showcase.decode name line = .ok entry) ↔
      ∃ w, Wraps name line w ∧ w.deviceId ≠ "") ∧
    (∀ name line entry, showcase.decode name line = .ok entry →
      ∃ w, Wraps name line w ∧
        (∀ b ∈ encodeString entry.payload, 0x20 ≤ b.toNat) ∧
        (∀ v : Value, Padded v.Spells entry.payload.toList ↔
          v = .object [("data", .text w.data), ("deviceId", .text w.deviceId),
            ("tenantId", .text w.tenantId), ("ts", .text w.timestamp)]) ∧
        Value.read? entry.payload.toList = some w.object) ∧
    (∀ name name' line line' entry entry' w w',
      showcase.decode name line = .ok entry →
      showcase.decode name' line' = .ok entry' →
      Wraps name line w → Wraps name' line' w' →
      (encodeString entry.payload = encodeString entry'.payload ↔ w = w')) ∧
    (∀ (t : Tenancy) line reading, t.format = .text showcase →
      ((t.decodeLine line).1 = some reading ↔
        ∃ entry, showcase.decode t.tenantName line = .ok entry ∧
          reading = ⟨entry.deviceId, "", encodeString entry.payload,
            some entry.timestamp⟩)) := by
  refine ⟨fun name line => accepted_iff, fun name line entry h => ?_,
    fun name name' line line' entry entry' w w' h h' hw hw' => ?_,
    fun t line reading hformat => ?_⟩
  · obtain ⟨w, hw, -, hpayload⟩ := exists_wraps h
    rw [hpayload]
    exact ⟨w, hw, w.control_not_mem, w.spells_iff,
      Text.Json.read?_spells ((w.spells_iff w.object).2 rfl)⟩
  · rw [payload_of_wraps h hw, payload_of_wraps h' hw']
    refine ⟨fun hsame => Wrapped.toText_injective ?_,
      fun hsame => by rw [hsame]⟩
    have hread := decodeString_encodeString w.object.toText
    rw [hsame, decodeString_encodeString] at hread
    exact (Except.ok.inj hread).symm
  · simp only [Tenancy.decodeLine, hformat]
    cases showcase.decode t.tenantName line with
    | error fault => simp
    | ok entry => simp [eq_comm]

end DeviceGateway.Wire.Layout
