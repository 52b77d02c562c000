import DeviceGateway.Settings.Check
import Mathlib.Data.List.Basic

/-!
# What templates spell

A template is texts without braces and variables in braces, in any number and
any order, so what is a template can be said without reading it: a text is one
if it is the written form of such segments.  Two lists of segments may be
written alike, because a text can be cut anywhere and an empty one leaves no
trace.  Reading puts the texts between two variables together and drops the
empty ones, and that is all it does, so whichever segments a template is thought
of as, the same variables are asked for and the same text comes out.

Each variable is replaced by its value where it stands.  Values are not read as
templates again, so braces in them are as good as other characters.

## Main results

* `spells_of_parse`: a template is written as it was.
* `parse_of_spells`: how segments are read.
* `bind_eq_none_iff`, `bind_of_bound`: what a template binds to.
* `parse_bind_resolve`: all of this, for every text, and for lists of templates.
-/

namespace DeviceGateway.Address

/-! ## Writing segments -/

/-- A text without braces. -/
def Clean (text : List Char) : Prop :=
  '\x7b' ∉ text ∧ '\x7d' ∉ text

namespace Segment

/-- A segment as it is written in a template. -/
def written : Segment → List Char
  | literal text => text.toList
  | .variable name => '\x7b' :: (name.toList ++ ['\x7d'])

/-- A text without braces, or a variable whose name is an identifier. -/
def WellFormed : Segment → Prop
  | literal text => Clean text.toList
  | .variable name => Text.isIdentifier name.toList = true

/-- A segment with the first value in the place of a variable. -/
def filled (vars : Variables) : Segment → List Char
  | literal text => text.toList
  | .variable name => ((vars.lookup name).getD "").toList

end Segment

/-- Whether segments are the parts of a template. -/
structure Spells (parts : List Segment) (raw : List Char) : Prop where
  wellFormed : ∀ part ∈ parts, part.WellFormed
  written : parts.flatMap Segment.written = raw

/-- Whether a variable has no value, or an empty one in front of the others. -/
def Unbound (vars : Variables) (name : String) : Prop :=
  vars.lookup name = none ∨ vars.lookup name = some ""

/-! ## What is read -/

theorem literalOf_reverse (text : List Char) :
    (literalOf text).reverse = literalOf text := by
  unfold literalOf
  split <;> rfl

private theorem literalOf_spells {text : List Char} (h : Clean text) :
    Spells (literalOf text) text.reverse := by
  unfold literalOf
  cases text with
  | nil => exact ⟨by simp, rfl⟩
  | cons c text =>
    refine ⟨fun part hpart => ?_, by simp [Segment.written]⟩
    obtain rfl := List.mem_singleton.1 hpart
    simpa [Segment.WellFormed, Clean, and_comm] using h

theorem Spells.append {parts parts' : List Segment} {raw raw' : List Char}
    (h : Spells parts raw) (h' : Spells parts' raw') :
    Spells (parts ++ parts') (raw ++ raw') := by
  refine ⟨fun part hpart => ?_, by rw [List.flatMap_append, h.written,
    h'.written]⟩
  exact (List.mem_append.1 hpart).elim (h.wellFormed part) (h'.wellFormed part)

theorem Spells.single {part : Segment} (h : part.WellFormed) :
    Spells [part] part.written :=
  ⟨fun _ hpart => List.mem_singleton.1 hpart ▸ h, List.flatMap_singleton _ _⟩

/-- What was read since the last segment. -/
def Scan.read : Scan → List Char
  | .literal text => text.reverse
  | .variable name => '\x7b' :: name.reverse

/-- The reader keeps only what may stand in a text; names are looked at when
they end. -/
def Scan.Sound : Scan → Prop
  | .literal text => Clean text
  | .variable _ => True

/-- What is read spells what it was read from. -/
theorem spells_of_segmentsFrom {done segments : List Segment} {scan : Scan}
    {cs raw : List Char} (hdone : Spells done.reverse raw) (hscan : scan.Sound)
    (h : segmentsFrom done scan cs = .ok segments) :
    Spells segments (raw ++ (scan.read ++ cs)) := by
  induction cs generalizing done scan raw with
  | nil =>
    cases scan with
    | literal text =>
      obtain rfl := Except.ok.inj h
      rw [Scan.read, List.append_nil]
      exact hdone.append (literalOf_spells hscan)
    | «variable» name => cases h
  | cons c rest ih =>
    cases scan with
    | literal text =>
      rw [segmentsFrom] at h
      split_ifs at h with hopen hclose
      · subst hopen
        have hnext : Spells (literalOf text ++ done).reverse
            (raw ++ text.reverse) := by
          rw [List.reverse_append, literalOf_reverse]
          exact hdone.append (literalOf_spells hscan)
        have hname : (Scan.variable []).Sound := trivial
        simpa [Scan.read] using ih hnext hname h
      · have hnext : (Scan.literal (c :: text)).Sound := by
          simp only [Scan.Sound, Clean, List.mem_cons, not_or]
          exact ⟨⟨fun heq => hopen heq.symm, hscan.1⟩, fun heq =>
            hclose heq.symm, hscan.2⟩
        simpa [Scan.read] using ih hdone hnext h
    | «variable» name =>
      rw [segmentsFrom] at h
      split_ifs at h with hopen hclose hname
      · subst hclose
        have hpart :
            (Segment.variable (String.ofList name.reverse)).WellFormed := by
          rw [Segment.WellFormed, String.toList_ofList]
          exact hname
        have hnext : Spells
            (Segment.variable (String.ofList name.reverse) :: done).reverse
            (raw ++
              (Segment.variable (String.ofList name.reverse)).written) := by
          rw [List.reverse_cons]
          exact hdone.append (Spells.single hpart)
        have hclean : (Scan.literal []).Sound :=
          ⟨List.not_mem_nil, List.not_mem_nil⟩
        simpa [Scan.read, Segment.written] using ih hnext hclean h
      · have hmore : (Scan.variable (c :: name)).Sound := trivial
        simpa [Scan.read] using ih hdone hmore h

/-- A template spells the text it was read from. -/
theorem spells_of_parse {raw : String} {t : Template}
    (h : Template.parse raw = .ok t) :
    t.raw = raw ∧ Spells t.segments raw.toList := by
  unfold Template.parse at h
  cases hsegments : segmentsFrom [] (.literal []) raw.toList with
  | error fault =>
    rw [hsegments] at h
    cases h
  | ok segments =>
    rw [hsegments] at h
    obtain rfl := Except.ok.inj h
    have hnothing : Spells ([] : List Segment).reverse [] := ⟨by simp, rfl⟩
    have hclean : (Scan.literal []).Sound :=
      ⟨List.not_mem_nil, List.not_mem_nil⟩
    exact ⟨rfl, spells_of_segmentsFrom hnothing hclean hsegments⟩

/-! ## How segments are read -/

/-- Segments with the texts between two variables put together and the empty
ones left out.  `pending` is what was read of a text, the last character
first. -/
def joined (pending : List Char) : List Segment → List Segment
  | [] => literalOf pending
  | .literal text :: rest => joined (text.toList.reverse ++ pending) rest
  | .variable name :: rest =>
    literalOf pending ++ .variable name :: joined [] rest

private theorem segmentsFrom_literal (done : List Segment)
    (pending rest : List Char) {text : List Char} (h : Clean text) :
    segmentsFrom done (.literal pending) (text ++ rest) =
      segmentsFrom done (.literal (text.reverse ++ pending)) rest := by
  induction text generalizing pending with
  | nil => rfl
  | cons c text ih =>
    simp only [Clean, List.mem_cons, not_or] at h
    obtain ⟨⟨hopen, htext⟩, hclose, htext'⟩ := h
    rw [List.cons_append, segmentsFrom, if_neg fun heq => hopen heq.symm,
      if_neg fun heq => hclose heq.symm, ih _ ⟨htext, htext'⟩,
      List.reverse_cons, List.append_assoc, List.singleton_append]

/-- No brace stands in a name. -/
theorem clean_of_isIdentifier {name : List Char}
    (h : Text.isIdentifier name = true) :
    Clean name := by
  have hstart : ∀ c, Text.isNameStart c = true → c ≠ '\x7b' ∧ c ≠ '\x7d' := by
    intro c hc
    constructor <;> rintro rfl <;> exact absurd hc (by decide)
  have hchar : ∀ c, Text.isNameChar c = true → c ≠ '\x7b' ∧ c ≠ '\x7d' := by
    intro c hc
    constructor <;> rintro rfl <;> exact absurd hc (by decide)
  cases name with
  | nil => cases h
  | cons c rest =>
    obtain ⟨hc, hrest⟩ := Text.isIdentifier_cons.1 h
    simp only [Clean, List.mem_cons, not_or]
    exact ⟨⟨(hstart c hc).1.symm, fun hmem => (hchar _ (hrest _ hmem)).1 rfl⟩,
      (hstart c hc).2.symm, fun hmem => (hchar _ (hrest _ hmem)).2 rfl⟩

private theorem segmentsFrom_name (done : List Segment)
    (pending rest : List Char) {name : List Char} (h : Clean name) :
    segmentsFrom done (.variable pending) (name ++ rest) =
      segmentsFrom done (.variable (name.reverse ++ pending)) rest := by
  induction name generalizing pending with
  | nil => rfl
  | cons c name ih =>
    simp only [Clean, List.mem_cons, not_or] at h
    obtain ⟨⟨hopen, hname⟩, hclose, hname'⟩ := h
    rw [List.cons_append, segmentsFrom, if_neg fun heq => hopen heq.symm,
      if_neg fun heq => hclose heq.symm, ih _ ⟨hname, hname'⟩,
      List.reverse_cons, List.append_assoc, List.singleton_append]

private theorem segmentsFrom_variable (done : List Segment)
    (pending rest : List Char) {name : String}
    (h : Text.isIdentifier name.toList = true) :
    segmentsFrom done (.literal pending)
      ((Segment.variable name).written ++ rest) =
      segmentsFrom (.variable name :: (literalOf pending ++ done))
        (.literal []) rest := by
  have hopen : segmentsFrom done (.literal pending)
      ((Segment.variable name).written ++ rest) =
      segmentsFrom (literalOf pending ++ done) (.variable [])
        (name.toList ++ '\x7d' :: rest) := by
    simp [Segment.written, segmentsFrom]
  rw [hopen, segmentsFrom_name _ _ _ (clean_of_isIdentifier h), List.append_nil]
  simp [segmentsFrom, h]

/-- Segments are read as they are when they are joined. -/
theorem segmentsFrom_written {parts : List Segment}
    (h : ∀ part ∈ parts, part.WellFormed) (done : List Segment)
    (pending : List Char) :
    segmentsFrom done (.literal pending) (parts.flatMap Segment.written) =
      .ok (done.reverse ++ joined pending parts) := by
  induction parts generalizing done pending with
  | nil => rfl
  | cons part parts ih =>
    obtain ⟨hpart, hparts⟩ := List.forall_mem_cons.1 h
    rw [List.flatMap_cons]
    cases part with
    | literal text =>
      show segmentsFrom done (.literal pending) (text.toList ++ _) = _
      rw [segmentsFrom_literal _ _ _ hpart, ih hparts, joined]
    | «variable» name =>
      rw [segmentsFrom_variable _ _ _ hpart, ih hparts, joined]
      simp [literalOf_reverse]

/-- A text that segments spell is a template of these segments, joined. -/
theorem parse_of_spells {raw : String} {parts : List Segment}
    (h : Spells parts raw.toList) :
    Template.parse raw = .ok ⟨raw, joined [] parts⟩ := by
  rw [Template.parse, ← h.written, segmentsFrom_written h.wellFormed]
  rfl

/-! ## What templates bind to -/

/-- Joining changes nothing that is made of the segments one by one. -/
theorem flatMap_joined {f : Segment → List Char}
    (hf : ∀ text, f (.literal text) = text.toList) (pending : List Char)
    (parts : List Segment) :
    (joined pending parts).flatMap f = pending.reverse ++ parts.flatMap f := by
  have hliteral : ∀ text : List Char,
      (literalOf text).flatMap f = text.reverse := by
    intro text
    unfold literalOf
    cases text <;> simp [hf]
  induction parts generalizing pending with
  | nil => simp [joined, hliteral]
  | cons part parts ih =>
    cases part with
    | literal text => simp [joined, ih, hf]
    | «variable» name => simp [joined, ih, hliteral]

/-- Joining leaves the variables alone. -/
theorem variable_mem_joined {name : String} {pending : List Char}
    {parts : List Segment} :
    Segment.variable name ∈ joined pending parts ↔
      Segment.variable name ∈ parts := by
  have hliteral : ∀ text : List Char, Segment.variable name ∉
      literalOf text := by
    intro text
    unfold literalOf
    split <;> simp
  induction parts generalizing pending with
  | nil => simp [joined, hliteral]
  | cons part parts ih =>
    cases part with
    | literal text => simp [joined, ih]
    | «variable» other => simp [joined, ih, hliteral]

theorem Segment.bind_eq_none_iff {vars : Variables} {part : Segment} :
    part.bind vars = none ↔
      ∃ name, part = .variable name ∧ Unbound vars name := by
  cases part with
  | literal text => simp [Segment.bind]
  | «variable» name =>
    have hone : ∀ value, vars.lookup name = value →
        (value.filter (· != "") = none ↔ value = none ∨ value = some "") := by
      rintro (_ | value) - <;> simp
    rw [Segment.bind, hone _ rfl]
    simp [Unbound]

theorem Segment.toList_of_bind {vars : Variables} {part : Segment}
    {text : String} (h : part.bind vars = some text) :
    text.toList = part.filled vars := by
  cases part with
  | literal own =>
    obtain rfl := Option.some.inj h
    rfl
  | «variable» name =>
    obtain ⟨hvalue, -⟩ := Option.filter_eq_some_iff.1 h
    rw [Segment.filled, hvalue]
    rfl

private theorem mapM_bind_eq_none_iff {vars : Variables}
    {parts : List Segment} :
    parts.mapM (Segment.bind vars) = none ↔
      ∃ part ∈ parts, part.bind vars = none := by
  induction parts with
  | nil => simp
  | cons part parts ih =>
    rw [List.mapM_cons]
    cases hpart : part.bind vars with
    | none => simp [hpart]
    | some text => cases hparts : parts.mapM (Segment.bind vars) <;> simp_all

private theorem flatMap_of_mapM_bind {vars : Variables} {parts : List Segment}
    {texts : List String} (h : parts.mapM (Segment.bind vars) = some texts) :
    texts.flatMap String.toList = parts.flatMap (Segment.filled vars) := by
  induction parts generalizing texts with
  | nil =>
    obtain rfl := Option.some.inj h
    rfl
  | cons part parts ih =>
    rw [List.mapM_cons] at h
    obtain ⟨text, htext, h⟩ := Option.bind_eq_some_iff.1 h
    obtain ⟨more, hmore, h⟩ := Option.bind_eq_some_iff.1 h
    obtain rfl := Option.some.inj h
    rw [List.flatMap_cons, List.flatMap_cons, Segment.toList_of_bind htext,
      ih hmore]

private theorem toList_intercalate_empty (texts : List String) :
    ("".intercalate texts).toList = texts.flatMap String.toList := by
  have hnothing : ∀ parts : List (List Char),
      [].intercalate parts = parts.flatten := by
    intro parts
    induction parts with
    | nil => rfl
    | cons part parts ih => cases parts <;> simp_all [List.intercalate]
  rw [String.toList_intercalate, String.toList_empty, hnothing, List.flatMap]

/-- A template binds to nothing exactly if one of its variables is unbound. -/
theorem Template.bind_eq_none_iff {t : Template} {vars : Variables} :
    t.bind vars = none ↔ ∃ name, .variable name ∈ t.segments ∧
      Unbound vars name := by
  rw [Template.bind, Option.map_eq_none_iff, mapM_bind_eq_none_iff]
  constructor
  · rintro ⟨part, hpart, hnone⟩
    obtain ⟨name, rfl, hunbound⟩ := Segment.bind_eq_none_iff.1 hnone
    exact ⟨name, hpart, hunbound⟩
  · rintro ⟨name, hname, hunbound⟩
    exact ⟨_, hname, Segment.bind_eq_none_iff.2 ⟨name, rfl, hunbound⟩⟩

/-- Otherwise it binds to its text with the values filled in. -/
theorem Template.bind_of_bound {t : Template} {vars : Variables}
    (h : ∀ name, .variable name ∈ t.segments → ¬ Unbound vars name) :
    t.bind vars =
      some (String.ofList (t.segments.flatMap (Segment.filled vars))) := by
  cases hbind : t.bind vars with
  | none =>
    obtain ⟨name, hname, hunbound⟩ := Template.bind_eq_none_iff.1 hbind
    exact absurd hunbound (h name hname)
  | some text =>
    obtain ⟨texts, htexts, rfl⟩ := Option.map_eq_some_iff.1 hbind
    rw [← flatMap_of_mapM_bind htexts, ← toList_intercalate_empty,
      String.ofList_toList]

/-- Whatever segments spell a template, it binds as they do. -/
theorem bind_of_spells {raw : String} {t : Template} {parts : List Segment}
    (hparse : Template.parse raw = .ok t) (h : Spells parts raw.toList)
    (vars : Variables) :
    (t.bind vars = none ↔ ∃ name, .variable name ∈ parts ∧ Unbound vars name) ∧
    ((∀ name, .variable name ∈ parts → ¬ Unbound vars name) →
      t.bind vars =
        some (String.ofList (parts.flatMap (Segment.filled vars)))) := by
  obtain rfl := Except.ok.inj (hparse.symm.trans (parse_of_spells h))
  have hvariables : ∀ name,
      .variable name ∈ joined [] parts ↔ .variable name ∈ parts :=
    fun name => variable_mem_joined
  constructor
  · simp only [Template.bind_eq_none_iff, hvariables]
  · intro hbound
    rw [Template.bind_of_bound fun name hname => hbound name
      ((hvariables name).1 hname), flatMap_joined fun _ => rfl]
    rfl

/-- A value may hold braces, and only the first one counts. -/
example : ((Template.parse "a\x7bx\x7db\x7bx\x7d").toOption.bind fun t =>
    t.bind [("x", "\x7by\x7d"), ("y", "1"), ("x", "2")]) =
      some "a\x7by\x7db\x7by\x7d" := by
  decide +kernel

/-! ## Lists of templates -/

/-- Templates are read one by one, all of them or none. -/
theorem readTemplates_eq_ok_iff {raws : List String} {ts : List Template} :
    Settings.readTemplates raws = .ok ts ↔
      raws.map Template.parse = ts.map Except.ok := by
  induction raws generalizing ts with
  | nil => cases ts <;> simp [Settings.readTemplates]
  | cons raw raws ih =>
    rw [Settings.readTemplates]
    cases hparse : Template.parse raw with
    | error cause => cases ts <;> simp [hparse]
    | ok t =>
      cases hmore : Settings.readTemplates raws with
      | error fault =>
        have hnone : ∀ more : List Template,
            raws.map Template.parse ≠ more.map Except.ok := by
          intro more hall
          cases hmore.symm.trans (ih.2 hall)
        cases ts <;> simp [Except.map, hnone]
      | ok more =>
        cases ts with
        | nil => simp [Except.map]
        | cons u us => simp [Except.map, hparse, ← ih, hmore]

/-- A text is a template if and only if it is made of texts without braces and
of identifiers in braces, and the segments that are read are written as the
text.  Whatever such segments it is made of, it binds to nothing if one of their
variables has no value or an empty one in front of the others, and else to the
text with the first value in the place of each variable.  Templates are read one
by one, and of those in a list the first that binds is taken; if none does, the
address is empty. -/
theorem parse_bind_resolve :
    (∀ raw : String,
      (∃ t, Template.parse raw = .ok t) ↔ ∃ parts, Spells parts raw.toList) ∧
    (∀ raw t, Template.parse raw = .ok t →
      t.raw = raw ∧ Spells t.segments raw.toList) ∧
    (∀ raw t parts, Template.parse raw = .ok t → Spells parts raw.toList →
      ∀ vars : Variables,
      (t.bind vars = none ↔
        ∃ name, .variable name ∈ parts ∧
          (vars.lookup name = none ∨ vars.lookup name = some "")) ∧
      ((∀ name, .variable name ∈ parts →
          ¬ (vars.lookup name = none ∨ vars.lookup name = some "")) →
        t.bind vars =
          some (String.ofList (parts.flatMap (Segment.filled vars))))) ∧
    (∀ raws ts, Settings.readTemplates raws = .ok ts ↔
      raws.map Template.parse = ts.map Except.ok) ∧
    (∀ (ts : List Template) (vars : Variables),
      (∀ before t after text, ts = before ++ t :: after →
        (∀ u ∈ before, u.bind vars = none) → t.bind vars = some text →
          resolve ts vars = text) ∧
      ((∀ t ∈ ts, t.bind vars = none) → resolve ts vars = "")) := by
  refine ⟨fun raw => ⟨?_, ?_⟩, fun raw t => spells_of_parse, ?_,
    fun raws ts => readTemplates_eq_ok_iff, fun ts vars => ⟨?_, ?_⟩⟩
  · rintro ⟨t, ht⟩
    exact ⟨t.segments, (spells_of_parse ht).2⟩
  · rintro ⟨parts, hparts⟩
    exact ⟨_, parse_of_spells hparts⟩
  · intro raw t parts hparse hparts vars
    exact bind_of_spells hparse hparts vars
  · intro before t after text hts hbefore htext
    rw [resolve, List.findSome?_eq_some_iff.2 ⟨before, t, after, hts, htext,
      hbefore⟩]
    rfl
  · intro hnone
    rw [resolve, List.findSome?_eq_none_iff.2 hnone]
    rfl

end DeviceGateway.Address
