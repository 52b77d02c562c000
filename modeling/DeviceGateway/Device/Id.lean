import DeviceGateway.Text.Blank

/-!
# Device ids

A device id is a text that is not blank, without the blanks around it.  Both
facts are part of the type, so whoever holds a `DeviceId` may compare ids by
their text and need not trim again.

## Main results

* `parse_text`: parsing the text of an id gives the id back.
* `parse_eq_none_iff`: exactly the blank texts are refused.
-/

namespace DeviceGateway

/-- The id of a device: trimmed and not empty. -/
structure DeviceId where
  text : String
  trimmed : Text.trim text = text
  nonempty : text ≠ ""
  deriving DecidableEq

namespace DeviceId

/-- The text shown for a blank device id. -/
def blankMessage : String := "device id must not be empty"

/-- Trims a text and refuses it if nothing is left. -/
def parse (raw : String) : Option DeviceId :=
  if h : Text.trim raw = "" then none else some ⟨Text.trim raw,
    Text.trim_trim raw, h⟩

theorem parse_eq_none_iff {raw : String} :
    parse raw = none ↔ Text.trim raw = "" := by
  unfold parse
  split <;> simp_all

theorem text_of_parse {raw : String} {id : DeviceId} (h : parse raw = some id) :
    id.text = Text.trim raw := by
  unfold parse at h
  split at h
  · exact absurd h (by simp)
  · exact (Option.some.inj h) ▸ rfl

theorem parse_text (id : DeviceId) : parse id.text = some id := by
  obtain ⟨text, trimmed, nonempty⟩ := id
  have h : ¬ Text.trim text = "" := by rwa [trimmed]
  simp [parse, trimmed, nonempty]

end DeviceId

end DeviceGateway
