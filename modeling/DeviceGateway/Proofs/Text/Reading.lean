import DeviceGateway.Proofs.Text.Spelling

/-!
# Compact JSON read back

What is written for a value is one of its texts, so the reader gives the value
back, and so does any other that knows the grammar.  For strings this goes
character by character: `escape` writes each in one of the ways that the grammar
has for it.

A number is kept as it is written, and nothing says that it was written as a
number.  `Value.Proper` does, and a value is read back if it is proper.

## Main results

* `render_ne_control`: the characters of a written value.
* `render_spells`: what is written for a proper value is a text of that value.
* `read?_render`: and reads as that value.
-/

namespace DeviceGateway.Text.Json

/-! ## Strings -/

/-- A character is escaped in one of the ways there are. -/
theorem Inside.escape {s cs : List Char} (h : Inside s cs) (c : Char) :
    Inside (c :: s) (Json.escape c ++ cs) := by
  unfold Json.escape
  split
  · next hc => subst hc; exact .short (by decide) h
  split
  · next hc => subst hc; exact .short (by decide) h
  split
  · next hc => subst hc; exact .short (by decide) h
  split
  · next hc => subst hc; exact .short (by decide) h
  split
  · next hc => subst hc; exact .short (by decide) h
  split
  · next hc => subst hc; exact .short (by decide) h
  split
  · next hc => subst hc; exact .short (by decide) h
  split
  · next hlow =>
    have hunit : hexUnit? '0' '0' (hexDigit (c.toNat / 16))
        (hexDigit (c.toNat % 16)) = some c.toNat := by
      have hzero : hexValue? '0' = some 0 := rfl
      have hsum : 0 * 4096 + 0 * 256 + c.toNat / 16 * 16 + c.toNat % 16 =
          c.toNat := by omega
      have hupper := hexValue?_digit (show c.toNat / 16 < 16 by omega)
      have hlower := hexValue?_digit (show c.toNat % 16 < 16 by omega)
      simp only [hexUnit?, hzero, hupper, hlower, hsum]
    have hread := Inside.unit hunit (.inl (by omega)) h
    rwa [Char.ofNat_toNat] at hread
  · next hquote hslash _ _ _ _ _ hhigh =>
    exact .plain hquote hslash (Nat.not_lt.1 hhigh) h

theorem quote_quoted (s : List Char) : Quoted s (quote s) := by
  refine ⟨s.flatMap escape, ?_, rfl⟩
  induction s with
  | nil => exact .nil
  | cons c s ih => exact ih.escape c

/-! ## Values -/

mutual

/-- A value whose numbers are written as numbers. -/
def Value.Proper : Value → Prop
  | .number written => IsNumber written.toList
  | .list items => ItemsProper items
  | .object fields => FieldsProper fields
  | _ => True

/-- List items whose numbers are written as numbers. -/
def ItemsProper : List Value → Prop
  | [] => True
  | v :: rest => v.Proper ∧ ItemsProper rest

/-- Object fields whose numbers are written as numbers. -/
def FieldsProper : List (String × Value) → Prop
  | [] => True
  | (_, v) :: rest => v.Proper ∧ FieldsProper rest

end

mutual

/-- Nothing that is written for a proper value holds a character below
U+0020. -/
theorem render_ne_control :
    ∀ (v : Value), v.Proper → ∀ c ∈ v.render, 0x20 ≤ c.toNat
  | .null, _, c, hc => by
    have hall : ['n', 'u', 'l', 'l'].all (0x20 ≤ ·.toNat) = true := by decide
    exact of_decide_eq_true (List.all_eq_true.1 hall c hc)
  | .bool true, _, c, hc => by
    have hall : ['t', 'r', 'u', 'e'].all (0x20 ≤ ·.toNat) = true := by decide
    exact of_decide_eq_true (List.all_eq_true.1 hall c hc)
  | .bool false, _, c, hc => by
    have hall : ['f', 'a', 'l', 's', 'e'].all (0x20 ≤ ·.toNat) = true := by
      decide
    exact of_decide_eq_true (List.all_eq_true.1 hall c hc)
  | .number written, h, c, hc => IsNumber.ne_control h c hc
  | .text s, _, c, hc => quote_ne_control hc
  | .list items, h, c, hc => by
    simp only [Value.render, List.mem_cons, List.mem_append, List.not_mem_nil,
      or_false] at hc
    rcases hc with rfl | hc | rfl
    · decide
    · exact renderItems_ne_control items h c hc
    · decide
  | .object fields, h, c, hc => by
    simp only [Value.render, List.mem_cons, List.mem_append, List.not_mem_nil,
      or_false] at hc
    rcases hc with rfl | hc | rfl
    · decide
    · exact renderFields_ne_control fields h c hc
    · decide

theorem renderItems_ne_control : ∀ (items : List Value), ItemsProper items →
    ∀ c ∈ renderItems items, 0x20 ≤ c.toNat
  | [], _, c, hc => absurd hc List.not_mem_nil
  | [v], h, c, hc => render_ne_control v h.1 c hc
  | v :: w :: items, h, c, hc => by
    simp only [renderItems, List.mem_cons, List.mem_append] at hc
    rcases hc with hc | rfl | hc
    · exact render_ne_control v h.1 c hc
    · decide
    · exact renderItems_ne_control (w :: items) h.2 c hc

theorem renderFields_ne_control :
    ∀ (fields : List (String × Value)), FieldsProper fields →
    ∀ c ∈ renderFields fields, 0x20 ≤ c.toNat
  | [], _, c, hc => absurd hc List.not_mem_nil
  | [(key, v)], h, c, hc => by
    simp only [renderFields, List.mem_cons, List.mem_append] at hc
    rcases hc with hc | rfl | hc
    · exact quote_ne_control hc
    · decide
    · exact render_ne_control v h.1 c hc
  | (key, v) :: field :: fields, h, c, hc => by
    simp only [renderFields, List.mem_cons, List.mem_append] at hc
    rcases hc with hc | rfl | hc | rfl | hc
    · exact quote_ne_control hc
    · decide
    · exact render_ne_control v h.1 c hc
    · decide
    · exact renderFields_ne_control (field :: fields) h.2 c hc

end

mutual

/-- What is written for a proper value is a text of that value. -/
theorem render_spells : ∀ (v : Value), v.Proper → v.Spells v.render
  | .null, _ => rfl
  | .bool true, _ => rfl
  | .bool false, _ => rfl
  | .number _, h => ⟨rfl, h⟩
  | .text s, _ => quote_quoted s.toList
  | .list items, h => ⟨renderItems items, renderItems_spells items h, rfl⟩
  | .object fields, h =>
    ⟨renderFields fields, renderFields_spells fields h, rfl⟩

theorem renderItems_spells : ∀ (items : List Value), ItemsProper items →
    ItemsSpell items (renderItems items)
  | [], _ => List.forall_mem_nil _
  | [v], h => .of (render_spells v h.1)
  | v :: w :: items, h =>
    ⟨v.render, renderItems (w :: items), .of (render_spells v h.1),
      renderItems_spells (w :: items) h.2, rfl⟩

theorem renderFields_spells :
    ∀ (fields : List (String × Value)), FieldsProper fields →
    FieldsSpell fields (renderFields fields)
  | [], _ => List.forall_mem_nil _
  | [(key, v)], h =>
    ⟨quote key.toList, v.render, .of (quote_quoted key.toList),
      .of (render_spells v h.1), rfl⟩
  | (key, v) :: field :: fields, h =>
    ⟨quote key.toList, v.render, renderFields (field :: fields),
      .of (quote_quoted key.toList), .of (render_spells v h.1),
      renderFields_spells (field :: fields) h.2, rfl⟩

end

/-- A proper value is what its text says, blanks behind it or not. -/
theorem read?_render {v : Value} (h : v.Proper) {blanks : List Char}
    (hblanks : ∀ c ∈ blanks, isSpace c = true) :
    Value.read? (v.render ++ blanks) = some v :=
  read?_spells ⟨[], v.render, blanks, nofun, render_spells v h, hblanks, rfl⟩

end DeviceGateway.Text.Json
