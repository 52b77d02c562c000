import DeviceGateway.Proofs.Bytes.Transcoding
import DeviceGateway.Proofs.Text.Reading
import DeviceGateway.Wire.Layout

/-!
# Tokens of a line

A line is split at its tildes, and the pieces that are not empty are its
tokens.  What a line says depends on nothing else, so tildes may be repeated,
put in front or left behind.  Each layout has a place for every field it names,
and the payload is made of what follows the last of them, with one tilde between
two tokens.

Both layouts ask for three tokens, although they have the payload in different
places.  So three tokens are a self-identifying line without a payload, and a
showcase line with one; for either, no field stands beyond the last token.

Fields that are not empty and hold no tilde are the tokens of their join.  Such
a line gives them back, the device without the blanks around it.  A showcase
line has its data inside a JSON object, from which it is read back as it was.

## Main results

* `fields_eq_tokens`: the fields of a line are the tokens of its split.
* `positions_inRange`: no field stands beyond the last token.
* `entryOf_tooFewFields_iff`, `entryOf_blankDeviceId_iff`, `entryOf_gives`: what
  tokens say, in all three cases.
* `tokens_join`: fields are the tokens of their join.
* `decode_by_tokens`: a line is read by its tokens.
-/

namespace DeviceGateway.Wire.Layout

open Bytes.Utf8 (encode decode_encode decode_eq_ok_iff)

/-! ## Splitting a line -/

/-- The tokens of a text: what stands between tildes, where anything does. -/
def tokens (text : List Char) : List (List Char) :=
  (text.splitOn separator).filter fun token => !token.isEmpty

private theorem pieces_eq_splitOn (text : List Char) :
    pieces text = text.splitOn separator := by
  induction text with
  | nil => rfl
  | cons c rest ih =>
    have hcons : pieces (c :: rest) = addChar c (pieces rest) := rfl
    obtain ⟨first, more, hrest⟩ :=
      List.exists_cons_of_ne_nil (List.splitOn_ne_nil separator rest)
    rw [hcons, ih, List.splitOn_cons_eq_if_modifyHead, hrest, addChar]
    by_cases hc : c = separator
    · simp [hc]
    · simp [hc]

theorem fields_eq_tokens (text : List Char) : fields text = tokens text := by
  rw [fields, pieces_eq_splitOn, tokens]

/-- Fields are the tokens of their join. -/
theorem tokens_join {fs : List (List Char)}
    (h : ∀ f ∈ fs, f ≠ [] ∧ separator ∉ f) :
    tokens (join fs) = fs := by
  cases hfs : fs with
  | nil => rfl
  | cons first more =>
    have hsplit : (join fs).splitOn separator = fs :=
      List.splitOn_intercalate separator (fun f hf => (h f hf).2)
        (by simp [hfs])
    have hall : fs.filter (fun f => !f.isEmpty) = fs := by
      apply List.filter_eq_self.2
      intro f hf
      simpa using (h f hf).1
    rw [← hfs, tokens, hsplit, hall]

example : tokens "~T~~0~d~".toList = ["T".toList, "0".toList, "d".toList] := by
  decide

private theorem tokens_join_tokens (text : List Char) :
    tokens (join (tokens text)) = tokens text := by
  apply tokens_join
  intro token htoken
  rw [← fields_eq_tokens] at htoken
  exact ⟨fields_ne_nil htoken, fields_not_mem htoken⟩

/-! ## Places -/

/-- Whether the fields stand among so many tokens.  The payload may be empty. -/
structure Positions.InRange (p : Positions) (count : Nat) : Prop where
  tenant : ∀ place ∈ p.tenant, place < count
  timestamp : p.timestamp < count
  device : p.device < count
  payload : p.payload ≤ count

/-- Three tokens are enough for either layout. -/
theorem positions_inRange (layout : Layout) {count : Nat} (h : 3 ≤ count) :
    layout.positions.InRange count := by
  cases layout with
  | selfIdentifying =>
    refine ⟨fun place hplace => ?_, ?_, ?_, h⟩
    · obtain rfl : 0 = place := Option.some.inj hplace
      omega
    · exact Nat.lt_of_lt_of_le (by decide : 1 < 3) h
    · exact Nat.lt_of_lt_of_le (by decide : 2 < 3) h
  | showcase =>
    refine ⟨fun place hplace => (Option.not_mem_none place hplace).elim,
      ?_, ?_, ?_⟩
    · exact Nat.lt_of_lt_of_le (by decide : 0 < 3) h
    · exact Nat.lt_of_lt_of_le (by decide : 1 < 3) h
    · exact Nat.le_trans (by decide : 2 ≤ 3) h

private theorem getElem?_of_lt {fs : List (List Char)} {place : Nat}
    (h : place < fs.length) :
    fs[place]? = some (fs.getD place []) := by
  rw [List.getD_eq_getElem?_getD, List.getElem?_eq_getElem h]
  rfl

/-- The data in a payload. -/
def unpack (layout : Layout) (payload : String) : Option String :=
  match layout with
  | .selfIdentifying => some payload
  | .showcase =>
    match Text.Json.Value.read? payload.toList with
    | some (.object fields) =>
      fields.findSome? fun
        | ("data", .text data) => some data
        | _ => none
    | _ => none

/-- Data is read back from the payload it is put in. -/
theorem unpack_pack (layout : Layout) (name timestamp : String) (id : DeviceId)
    (data : String) :
    layout.unpack (layout.pack name timestamp id data) = some data := by
  cases layout with
  | selfIdentifying => rfl
  | showcase =>
    let fields : List (String × Text.Json.Value) :=
      [("data", .text data), ("deviceId", .text id.text),
        ("tenantId", .text name), ("ts", .text timestamp)]
    have hproper : (Text.Json.Value.object fields).Proper :=
      ⟨trivial, trivial, trivial, trivial, trivial⟩
    have hwritten : (envelope name timestamp id data).toList =
        (Text.Json.Value.object fields).render ++ [] := by
      rw [List.append_nil]
      exact String.toList_ofList
    have hblanks : ∀ c ∈ ([] : List Char), Text.Json.isSpace c = true := by simp
    have hread := Text.Json.read?_render hproper hblanks
    rw [← hwritten] at hread
    simp only [unpack, pack, hread]
    rfl

/-! ## What tokens say -/

/-- Whether the token in the place of the device is blank. -/
def BlankDevice (layout : Layout) (tokens : List (List Char)) : Prop :=
  ∃ device, tokens[layout.positions.device]? = some device ∧
    Text.trim (String.ofList device) = ""

/-- A packet says what stands in the places of its fields. -/
structure Gives (layout : Layout) (name : String) (tokens : List (List Char))
    (entry : Entry) :
    Prop where
  tenant : entry.tenantToken.map String.toList =
    layout.positions.tenant.bind fun place => tokens[place]?
  timestamp : tokens[layout.positions.timestamp]? = some entry.timestamp.toList
  device : ∃ device, tokens[layout.positions.device]? = some device ∧
    entry.deviceId.text = Text.trim (String.ofList device)
  payload : entry.payload = layout.pack name entry.timestamp entry.deviceId
    (String.ofList (join (tokens.drop layout.positions.payload)))

section Entry

variable (layout : Layout) (name : String) {tokens : List (List Char)}

/-- What three tokens or more say depends on whether the device is blank. -/
theorem entryOf_of_long (h : 3 ≤ tokens.length) :
    layout.BlankDevice tokens ∧
      layout.entryOf name tokens = .error .blankDeviceId ∨
      ¬ layout.BlankDevice tokens ∧
        ∃ entry, layout.entryOf name tokens = .ok entry ∧
          layout.Gives name tokens entry := by
  have hplaces := layout.positions_inRange h
  have hdevice := getElem?_of_lt hplaces.device
  have hread := layout.entryOf_of_le name h
  cases hparse : DeviceId.parse (fieldAt tokens layout.positions.device) with
  | none =>
    left
    rw [hparse] at hread
    exact ⟨⟨_, hdevice, DeviceId.parse_eq_none_iff.1 hparse⟩, hread⟩
  | some id =>
    right
    rw [hparse] at hread
    have hid := DeviceId.text_of_parse hparse
    refine ⟨?_, _, hread, ?_, ?_, ⟨_, hdevice, hid⟩, rfl⟩
    · rintro ⟨device, hsame, hblank⟩
      obtain rfl := Option.some.inj (hdevice.symm.trans hsame)
      exact id.nonempty (hid.trans hblank)
    · show (layout.positions.tenant.map (fieldAt tokens)).map String.toList = _
      cases htenant : layout.positions.tenant with
      | none => rfl
      | some place =>
        have hplace := getElem?_of_lt (hplaces.tenant place htenant)
        rw [Option.bind_some, hplace]
        exact congrArg some String.toList_ofList
    · rw [getElem?_of_lt hplaces.timestamp]
      exact congrArg some String.toList_ofList.symm

theorem entryOf_tooFewFields_iff (n : Nat) :
    layout.entryOf name tokens = .error (.tooFewFields n) ↔
      tokens.length = n ∧ n < 3 := by
  rcases Nat.lt_or_ge tokens.length 3 with hshort | hlong
  · rw [layout.entryOf_of_lt name hshort]
    constructor
    · intro h
      obtain rfl : tokens.length = n := by simpa using h
      exact ⟨rfl, hshort⟩
    · rintro ⟨rfl, -⟩
      rfl
  · have hnot : ¬ (tokens.length = n ∧ n < 3) := by omega
    rcases layout.entryOf_of_long name hlong with ⟨-, hblank⟩ |
      ⟨-, entry, hentry, -⟩
    · simp [hblank, hnot]
    · simp [hentry, hnot]

theorem entryOf_blankDeviceId_iff :
    layout.entryOf name tokens = .error .blankDeviceId ↔
      3 ≤ tokens.length ∧ layout.BlankDevice tokens := by
  rcases Nat.lt_or_ge tokens.length 3 with hshort | hlong
  · have hnot : ¬ 3 ≤ tokens.length := Nat.not_le.2 hshort
    simp [layout.entryOf_of_lt name hshort, hnot]
  · rcases layout.entryOf_of_long name hlong with ⟨hblank, hrefused⟩ |
      ⟨hsound, entry, hentry, -⟩
    · simp [hrefused, hlong, hblank]
    · simp [hentry, hsound]

/-- Three tokens or more with a device that is not blank say something. -/
theorem entryOf_gives (h : 3 ≤ tokens.length)
    (hdevice : ¬ layout.BlankDevice tokens) :
    ∃ entry, layout.entryOf name tokens = .ok entry ∧
      layout.Gives name tokens entry := by
  rcases layout.entryOf_of_long name h with ⟨hblank, -⟩ | ⟨-, hgives⟩
  · exact absurd hblank hdevice
  · exact hgives

end Entry

/-! ## Lines -/

section Decode

variable (layout : Layout) (name : String)

/-- Only a line that is not text is refused as such: fields are refused for
other reasons. -/
theorem decode_notText_iff (line : List UInt8) :
    layout.decode name line = .error .notText ↔ ∀ text, line ≠ encode text := by
  unfold decode
  cases hread : Bytes.Utf8.decode line with
  | error fault =>
    refine iff_of_true rfl fun text htext => ?_
    rw [decode_eq_ok_iff.2 htext] at hread
    cases hread
  | ok text =>
    refine iff_of_false ?_ fun hnone => hnone text (decode_eq_ok_iff.1 hread)
    intro hrefused
    rcases Nat.lt_or_ge (fields text).length 3 with hshort | hlong
    · have hfew := layout.entryOf_of_lt name hshort
      exact absurd (hfew.symm.trans hrefused) (by simp)
    · rcases layout.entryOf_of_long name hlong with ⟨-, hblank⟩ |
        ⟨-, entry, hentry, -⟩
      · exact absurd (hblank.symm.trans hrefused) (by simp)
      · exact absurd (hentry.symm.trans hrefused) (by simp)

theorem decode_text (text : List Char) :
    layout.decode name (encode text) = layout.entryOf name (tokens text) := by
  simp only [decode, decode_encode, fields_eq_tokens]

/-- A line that is accepted is a text of three tokens or more, and says what
they say. -/
theorem exists_gives_of_decode {line : List UInt8} {entry : Entry}
    (h : layout.decode name line = .ok entry) :
    ∃ text, line = encode text ∧ 3 ≤ (tokens text).length ∧
      layout.Gives name (tokens text) entry := by
  by_cases htext : ∃ text, line = encode text
  · obtain ⟨text, rfl⟩ := htext
    rw [decode_text] at h
    rcases Nat.lt_or_ge (tokens text).length 3 with hshort | hlong
    · cases (layout.entryOf_of_lt name hshort).symm.trans h
    · rcases layout.entryOf_of_long name hlong with ⟨-, hblank⟩ |
        ⟨-, said, hsaid, hgives⟩
      · cases hblank.symm.trans h
      · obtain rfl : said = entry := Except.ok.inj (hsaid.symm.trans h)
        exact ⟨text, rfl, hlong, hgives⟩
  · cases ((layout.decode_notText_iff name line).2 fun text heq =>
      htext ⟨text, heq⟩).symm.trans h

/-- What a packet says that was read of fields whose device has no blanks around
it. -/
theorem Gives.device_of_trimmed {layout : Layout} {name : String}
    {fs : List (List Char)} {entry : Entry} (h : layout.Gives name fs entry)
    (htrimmed : ∀ device ∈ fs[layout.positions.device]?,
      Text.trim (String.ofList device) = String.ofList device) :
    fs[layout.positions.device]? = some entry.deviceId.text.toList := by
  obtain ⟨device, hdevice, htext⟩ := h.device
  rw [htext, htrimmed device hdevice, String.toList_ofList]
  exact hdevice

/-- Fields are read back from their join. -/
theorem decode_join {fs : List (List Char)} (hcount : 3 ≤ fs.length)
    (hfields : ∀ f ∈ fs, f ≠ [] ∧ separator ∉ f)
    (htrimmed : ∀ device ∈ fs[layout.positions.device]?,
      Text.trim (String.ofList device) = String.ofList device) :
    ∃ entry, layout.decode name (encode (join fs)) = .ok entry ∧
      layout.Gives name fs entry ∧
      fs[layout.positions.device]? = some entry.deviceId.text.toList ∧
      layout.unpack entry.payload =
        some (String.ofList (join (fs.drop layout.positions.payload))) := by
  have hdevice : ¬ layout.BlankDevice fs := by
    rintro ⟨device, hplace, hblank⟩
    have hempty : String.ofList device = "" :=
      (htrimmed device hplace).symm.trans hblank
    have hnil : device = [] := by
      rw [← String.toList_ofList (l := device), hempty]
      rfl
    exact (hfields device (List.mem_of_getElem? hplace)).1 hnil
  obtain ⟨entry, hentry, hgives⟩ := layout.entryOf_gives name hcount hdevice
  refine ⟨entry, ?_, hgives, hgives.device_of_trimmed htrimmed, ?_⟩
  · rw [decode_text, tokens_join hfields]
    exact hentry
  · rw [hgives.payload]
    exact unpack_pack layout name _ _ _

/-- A line is read by its tokens.  It is refused if it is no text; a text with
fewer than three tokens is refused with their number, and one with a blank
device for that; any other gives what stands in the places of the layout, none
of which is beyond the last token.  Only the tokens matter, so they may be
joined again, and fields that could be tokens are read back from their join, if
the device has no blanks around it. -/
theorem decode_by_tokens (layout : Layout) (name : String) :
    (∀ line, layout.decode name line = .error .notText ↔
      ∀ text, line ≠ encode text) ∧
    (∀ text,
      (∀ n, layout.decode name (encode text) = .error (.tooFewFields n) ↔
        (tokens text).length = n ∧ n < 3) ∧
      (layout.decode name (encode text) = .error .blankDeviceId ↔
        3 ≤ (tokens text).length ∧ layout.BlankDevice (tokens text)) ∧
      (3 ≤ (tokens text).length → ¬ layout.BlankDevice (tokens text) →
        ∃ entry, layout.decode name (encode text) = .ok entry ∧
          layout.Gives name (tokens text) entry) ∧
      layout.decode name (encode (join (tokens text))) =
        layout.decode name (encode text)) ∧
    (∀ text text', tokens text = tokens text' →
      layout.decode name (encode text) = layout.decode name (encode text')) ∧
    (∀ fs : List (List Char), 3 ≤ fs.length →
      (∀ f ∈ fs, f ≠ [] ∧ separator ∉ f) →
      (∀ device ∈ fs[layout.positions.device]?,
        Text.trim (String.ofList device) = String.ofList device) →
      ∃ entry, layout.decode name (encode (join fs)) = .ok entry ∧
        layout.Gives name fs entry ∧
        fs[layout.positions.device]? = some entry.deviceId.text.toList ∧
        layout.unpack entry.payload =
          some (String.ofList (join (fs.drop layout.positions.payload)))) ∧
    (∀ count, 3 ≤ count → layout.positions.InRange count) := by
  refine ⟨layout.decode_notText_iff name, fun text => ⟨?_, ?_, ?_, ?_⟩,
    ?_, ?_, ?_⟩
  · intro n
    rw [decode_text]
    exact layout.entryOf_tooFewFields_iff name n
  · rw [decode_text]
    exact layout.entryOf_blankDeviceId_iff name
  · intro hcount hdevice
    rw [decode_text]
    exact layout.entryOf_gives name hcount hdevice
  · rw [decode_text, decode_text, tokens_join_tokens]
  · intro text text' hsame
    rw [decode_text, decode_text, hsame]
  · intro fs hcount hfields htrimmed
    exact layout.decode_join name hcount hfields htrimmed
  · intro count hcount
    exact layout.positions_inRange hcount

end Decode

end DeviceGateway.Wire.Layout
