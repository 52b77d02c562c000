import DeviceGateway.Backend.Envelope
import DeviceGateway.Proofs.Bytes.Base64
import DeviceGateway.Proofs.Bytes.Transcoding
import DeviceGateway.Proofs.Text.Reading

/-!
# Envelopes on a stream

All that separates two envelopes on a stream is a line feed, so the framing is
sound only if no device can put one into an envelope.  Everything a device or a
tenant chooses stands inside a JSON string, where a line feed is escaped, and in
UTF-8 no octet below U+0020 is part of another character.

Within its line an envelope is lossless: the texts are what the strings are read
as, the properties keep their order, and the payload comes back from its digits.
A stream of envelopes is therefore split at its line feeds into the envelopes it
was made of.

## Main results

* `control_not_mem_line`: no octet below U+0020 stands in a line.
* `decode?_line`: a line says what its envelope says.
* `splitOn_encode`: a stream of envelopes is split into their lines.
* `framing_lossless`: the three put together, for every message of every device.
-/

namespace DeviceGateway.Backend.Envelope

/-! ## One line -/

private theorem fieldsProper_map (properties : List (String × String)) :
    Text.Json.FieldsProper
      (properties.map fun (name, value) =>
        (name, Text.Json.Value.text value)) := by
  induction properties with
  | nil => trivial
  | cons entry properties ih => exact ⟨trivial, ih⟩

/-- An envelope holds texts and no number. -/
theorem toJson_proper (e : Envelope) : e.toJson.Proper :=
  ⟨trivial, trivial, fieldsProper_map e.properties, trivial, trivial⟩

theorem control_not_mem_line (e : Envelope) : ∀ b ∈ e.line, 0x20 ≤ b.toNat :=
  Bytes.Utf8.encode_ne_control
    (Text.Json.render_ne_control e.toJson e.toJson_proper)

theorem lineFeed_not_mem_line (e : Envelope) : (10 : UInt8) ∉ e.line := by
  intro h
  exact absurd (control_not_mem_line e 10 h) (by decide)

private theorem propertiesOf?_map (properties : List (String × String)) :
    propertiesOf? (.object
      (properties.map fun (name, value) =>
        (name, Text.Json.Value.text value))) =
        some properties := by
  dsimp only [propertiesOf?]
  induction properties with
  | nil => rfl
  | cons entry properties ih =>
    rw [List.map_cons, List.mapM_cons, ih]
    rfl

/-- What an envelope says is read from its object. -/
theorem ofJson?_toJson (e : Envelope) : ofJson? e.toJson = some e := by
  simp only [toJson, ofJson?, propertiesOf?_map, String.toList_ofList,
    Bytes.Base64.decode?_encode]
  rfl

theorem decode?_of_blanks (e : Envelope) {blanks : List Char}
    (h : ∀ c ∈ blanks, Text.Json.isSpace c = true) :
    decode? (e.line ++ Bytes.Utf8.encode blanks) = some e := by
  unfold decode? line
  rw [← Bytes.Utf8.encode_append, Bytes.Utf8.decode_encode]
  show (Text.Json.Value.read? (e.toJson.render ++ blanks)).bind ofJson? = some e
  rw [Text.Json.read?_render e.toJson_proper h]
  exact ofJson?_toJson e

theorem decode?_line (e : Envelope) : decode? e.line = some e := by
  have h := e.decode?_of_blanks fun c hc => absurd hc List.not_mem_nil
  rwa [show Bytes.Utf8.encode [] = [] from rfl, List.append_nil] at h

/-- A line feed is a blank to a reader of JSON. -/
theorem decode?_encode (e : Envelope) : decode? e.encode = some e := by
  have hblank : ∀ c ∈ ['\n'], Text.Json.isSpace c = true :=
    List.all_eq_true.1 (by decide)
  have hoctet : Bytes.Utf8.encode ['\n'] = [10] := by decide
  have hread := e.decode?_of_blanks hblank
  rwa [hoctet] at hread

private theorem encode_injective {e e' : Envelope} (h : e.encode = e'.encode) :
    e = e' := by
  have hread := e.decode?_encode
  rw [h, decode?_encode] at hread
  exact (Option.some.inj hread).symm

/-- The line feed of an envelope is the last of its octets, and no other is
one. -/
theorem count_encode (e : Envelope) : e.encode.count 10 = 1 := by
  rw [encode, List.count_append,
    List.count_eq_zero_of_not_mem e.lineFeed_not_mem_line]
  rfl

/-! ## A stream -/

/-- A stream of envelopes is split into their lines, and nothing stands behind
the last line feed. -/
theorem splitOn_encode (es : List Envelope) :
    (es.flatMap encode).splitOn 10 = es.map line ++ [[]] := by
  induction es with
  | nil => rfl
  | cons e es ih =>
    rw [List.flatMap_cons, encode, List.append_assoc, List.singleton_append,
      List.splitOn_append_cons_self_of_not_mem e.lineFeed_not_mem_line, ih]
    rfl

/-! ## Messages -/

/-- What is written for a message of a device has one line feed, and it stands
at the end; read as JSON, with the payload out of its digits, it gives the
device id, the address, the properties and the payload back.  So a stream of
messages, split at its line feeds, says what the messages say, in order and with
nothing over, and two messages that differ in any of the four are written
differently. -/
theorem framing_lossless :
    (∀ (id : String) (m : Message),
      let frame := (of id m).encode
      frame.count 10 = 1 ∧ frame.getLast? = some 10 ∧
        decode? frame = some ⟨id, m.address, m.properties, m.payload.bytes⟩) ∧
    (∀ sent : List (String × Message),
      let stream := sent.flatMap fun (id, m) => (of id m).encode
      ∃ lines, stream.splitOn 10 = lines ++ [[]] ∧
        lines.map decode? =
          sent.map fun (id, m) =>
            some ⟨id, m.address, m.properties, m.payload.bytes⟩) ∧
    (∀ (id id' : String) (m m' : Message),
      (of id m).encode = (of id' m').encode ↔
      id = id' ∧ m.address = m'.address ∧ m.properties = m'.properties ∧
        m.payload.bytes = m'.payload.bytes) := by
  refine ⟨fun id m =>
      ⟨count_encode _, encode_getLast? _, decode?_encode (of id m)⟩,
    fun sent => ?_, fun id id' m m' => ⟨fun h => ?_, ?_⟩⟩
  · let es := sent.map fun (id, m) => of id m
    have hstream : (sent.flatMap fun (id, m) => (of id m).encode) =
        es.flatMap encode := by
      rw [List.flatMap_map]
    refine ⟨es.map line, ?_, ?_⟩
    · rw [hstream]
      exact splitOn_encode es
    · rw [List.map_map, List.map_map]
      exact List.map_congr_left fun (id, m) _ => decode?_line (of id m)
  · have heq := encode_injective h
    simpa [of] using heq
  · rintro ⟨rfl, haddress, hproperties, hpayload⟩
    simp only [of, haddress, hproperties, hpayload]

end DeviceGateway.Backend.Envelope
