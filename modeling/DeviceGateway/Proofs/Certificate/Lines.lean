import DeviceGateway.Certificate.Name
import DeviceGateway.Proofs.Bytes.Transcoding
import Mathlib.Data.List.Basic

/-!
# Names in one line

A name is shown as one line, and the line is what names are compared by.  What a
name shows is a list of lists: a label and a value for each attribute of each
relative name.  The line puts marks between them and escapes nothing, so the
question is when it can be taken apart again.

Labels make no trouble: no label holds a comma, a plus sign or an equality
sign.  Nor do most values.  Commas and plus signs in a value do no harm by
themselves, since what separates two attributes is followed by a label and an
equality sign.  A value is taken for something else only if it smuggles all of
this in: a separator, a label and an equality sign.  A name without such a value
shares its line with no other name that has none.  A name that has one does
share its line, with the name that has the value cut in two.

For the proof a name is laid out flat, as attributes with a joint in front of
each.  The joint says whether a relative name begins there, and with one joint
more in front the line is the joints and attributes one after another.

## Main results

* `ObjectId.label_unmarked`: a label holds no mark.
* `Name.describe_eq_iff`: names with one line are both unreadable, or show lists
  with one line.
* `nameLine_injective`: nothing that is plain shares its line.
* `exists_twin`: whatever smuggles something in does.
-/

namespace DeviceGateway.Certificate

/-! ## Labels -/

/-- The characters that a line puts around labels and values. -/
def isMark (c : Char) : Bool :=
  c == ',' || c == '+' || c == '='

/-- Text without marks. -/
def Unmarked (cs : List Char) : Prop :=
  ∀ c ∈ cs, isMark c = false

theorem Unmarked.append {cs ds : List Char} (h : Unmarked cs)
    (h' : Unmarked ds) :
    Unmarked (cs ++ ds) := by
  intro c hc
  rcases List.mem_append.1 hc with hc | hc
  · exact h c hc
  · exact h' c hc

theorem Unmarked.not_mem {cs : List Char} (h : Unmarked cs) {c : Char}
    (hc : isMark c = true) :
    c ∉ cs := by
  intro hmem
  rw [h c hmem] at hc
  cases hc

private theorem unmarked_intercalate {sep : List Char} (hsep : Unmarked sep)
    {parts : List (List Char)} (hparts : ∀ part ∈ parts, Unmarked part) :
    Unmarked (sep.intercalate parts) := by
  induction parts with
  | nil => exact fun c hc => absurd hc List.not_mem_nil
  | cons first parts ih =>
    obtain ⟨hfirst, hrest⟩ := List.forall_mem_cons.1 hparts
    cases parts with
    | nil =>
      rw [List.intercalate_singleton]
      exact hfirst
    | cons second parts =>
      rw [List.intercalate_cons_cons]
      exact (hfirst.append hsep).append (ih hrest)

/-- Marks are told by their octets. -/
theorem unmarked_of_octets {s : String}
    (h : ∀ b ∈ s.toByteArray.data.toList, b ≠ 0x2C ∧ b ≠ 0x2B ∧ b ≠ 0x3D) :
    Unmarked s.toList := by
  have hoctets : s.toByteArray.data.toList =
      s.toList.flatMap String.utf8EncodeChar := by
    rw [← String.utf8Encode_toList, List.utf8Encode, List.data_toByteArray]
  rw [hoctets] at h
  intro c hc
  by_contra hmark
  have hbyte : ∀ b, String.utf8EncodeChar c = [b] →
      b ≠ 0x2C ∧ b ≠ 0x2B ∧ b ≠ 0x3D := by
    intro b hb
    apply h
    exact List.mem_flatMap.2 ⟨c, hc, hb ▸ List.mem_singleton_self b⟩
  simp only [isMark, Bool.not_eq_false, Bool.or_eq_true, beq_iff_eq] at hmark
  rcases hmark with (rfl | rfl) | rfl
  · exact (hbyte 0x2C rfl).1 rfl
  · exact (hbyte 0x2B rfl).2.1 rfl
  · exact (hbyte 0x3D rfl).2.2 rfl

private theorem shortName_unmarked :
    ∀ entry ∈ registry, Unmarked entry.2.toList := by
  have htest : (registry.all fun entry => entry.2.toByteArray.data.toList.all
    fun b =>
      b != 0x2C && b != 0x2B && b != 0x3D) = true := by
    decide +kernel
  intro entry hentry
  refine unmarked_of_octets fun b hb => ?_
  have hoctet := List.all_eq_true.1 (List.all_eq_true.1 htest entry hentry) b hb
  simpa [and_assoc] using hoctet

private theorem digit_unmarked :
    ∀ n < 16, isMark (Bytes.Hex.digit .lower n) = false := by
  decide

private theorem octet_unmarked (b : UInt8) :
    Unmarked (Bytes.Hex.render .lower [b]) := by
  have hb := b.toNat_lt
  intro c hc
  simp only [Bytes.Hex.render, Bytes.Hex.octet, List.flatMap_singleton,
    List.mem_cons, List.not_mem_nil, or_false] at hc
  rcases hc with rfl | rfl
  · exact digit_unmarked _ (by omega)
  · exact digit_unmarked _ (by omega)

private theorem number_unmarked (n : Nat) : Unmarked (toString n).toList := by
  intro c hc
  have hdigits : (toString n).toList = Nat.toDigits 10 n := Nat.toList_repr
  rw [hdigits] at hc
  have hdigit := Nat.isDigit_of_mem_toDigits (by decide) (by decide) hc
  unfold isMark
  simp only [Bool.or_eq_false_iff, beq_eq_false_iff_ne]
  refine ⟨⟨?_, ?_⟩, ?_⟩ <;>
    · rintro rfl
      revert hdigit
      decide

theorem ObjectId.describe_unmarked (id : ObjectId) :
    Unmarked id.describe.toList := by
  unfold describe
  split
  · rw [String.toList_intercalate, List.map_map]
    refine unmarked_intercalate (by simp [Unmarked, isMark]) fun part hpart =>
      ?_
    obtain ⟨b, -, rfl⟩ := List.mem_map.1 hpart
    show Unmarked (String.ofList (Bytes.Hex.render .lower [b])).toList
    rw [String.toList_ofList]
    exact octet_unmarked b
  · rw [String.toList_intercalate, List.map_map]
    refine unmarked_intercalate (by simp [Unmarked, isMark]) fun part hpart =>
      ?_
    obtain ⟨n, -, rfl⟩ := List.mem_map.1 hpart
    exact number_unmarked n

/-- The label of a kind holds no mark, whether it is a short name or a path. -/
theorem ObjectId.label_unmarked (kind : ObjectId) :
    Unmarked kind.label.toList := by
  unfold label
  split
  · next name hname =>
    obtain ⟨entry, hentry, rfl⟩ := Option.map_eq_some_iff.1 hname
    exact shortName_unmarked entry (List.mem_of_find?_eq_some hentry)
  · rw [String.toList_append, String.toList_append]
    have hopen : Unmarked "OID(".toList := by simp [Unmarked, isMark]
    have hclose : Unmarked ")".toList := by simp [Unmarked, isMark]
    exact (hopen.append kind.describe_unmarked).append hclose

/-! ## What a name shows -/

/-- What is shown of an attribute. -/
structure Shown where
  label : List Char
  value : List Char
  deriving DecidableEq

/-- An attribute in a line. -/
def Shown.line (a : Shown) : List Char :=
  a.label ++ '=' :: a.value

/-- Attributes of several relative names in a line. -/
def nameLine (names : List (List Shown)) : List Char :=
  [',', ' '].intercalate (names.map fun r => [' ', '+', ' '].intercalate
    (r.map Shown.line))

/-- What is shown of an attribute, if its text can be read. -/
def Attribute.shown? (a : Attribute) : Option Shown :=
  a.text?.map fun text => ⟨a.kind.label.toList, text.toList⟩

/-- What is shown of a relative name. -/
def RelativeName.shown? (r : RelativeName) : Option (List Shown) :=
  (r.first :: r.others).mapM Attribute.shown?

/-- What is shown of a name: the labels and values of its relative names. -/
def Name.shown? (n : Name) : Option (List (List Shown)) :=
  n.relative.mapM RelativeName.shown?

section Option

variable {α β γ : Type} {f : α → Option β}

theorem mapM_cons_eq_some_iff {x : α} {xs : List α} {y : β} {ys : List β} :
    (x :: xs).mapM f = some (y :: ys) ↔ f x = some y ∧ xs.mapM f = some ys := by
  rw [List.mapM_cons]
  cases f x <;> cases xs.mapM f <;> simp

theorem mapM_map (g : β → γ) (xs : List α) :
    (xs.mapM f).map (List.map g) = xs.mapM fun x => (f x).map g := by
  induction xs with
  | nil => rfl
  | cons x xs ih =>
    rw [List.mapM_cons, List.mapM_cons, ← ih]
    cases f x <;> cases xs.mapM f <;> rfl

private theorem exists_of_mapM {xs : List α} {ys : List β}
    (h : xs.mapM f = some ys) :
    ∀ y ∈ ys, ∃ x, f x = some y := by
  induction xs generalizing ys with
  | nil =>
    obtain rfl : [] = ys := Option.some.inj h
    exact fun y hy => absurd hy List.not_mem_nil
  | cons x xs ih =>
    cases ys with
    | nil =>
      rw [List.mapM_cons] at h
      cases hx : f x <;> cases hxs : xs.mapM f <;> simp [hx, hxs] at h
    | cons y ys =>
      obtain ⟨hx, hxs⟩ := mapM_cons_eq_some_iff.1 h
      exact List.forall_mem_cons.2 ⟨⟨x, hx⟩, ih hxs⟩

private theorem exists_mapM {ys : List β} (h : ∀ y ∈ ys, ∃ x, f x = some y) :
    ∃ xs : List α, xs.mapM f = some ys := by
  induction ys with
  | nil => exact ⟨[], rfl⟩
  | cons y ys ih =>
    obtain ⟨⟨x, hx⟩, hys⟩ := List.forall_mem_cons.1 h
    obtain ⟨xs, hxs⟩ := ih hys
    exact ⟨x :: xs, mapM_cons_eq_some_iff.2 ⟨hx, hxs⟩⟩

end Option

theorem Attribute.describe?_eq (a : Attribute) :
    a.describe? = a.shown?.map fun s => String.ofList s.line := by
  unfold describe? shown?
  rw [Option.map_map]
  congr 1
  funext text
  show a.kind.label ++ "=" ++ text =
    String.ofList (a.kind.label.toList ++ '=' :: text.toList)
  rw [← String.toList_inj]
  simp

theorem RelativeName.describe?_eq (r : RelativeName) :
    r.describe? = r.shown?.map fun s =>
      String.ofList ([' ', '+', ' '].intercalate (s.map Shown.line)) := by
  have hall : Attribute.describe? = fun a => a.shown?.map fun s =>
      String.ofList s.line :=
    funext Attribute.describe?_eq
  unfold describe? shown?
  rw [hall, ← mapM_map, Option.map_map]
  congr 1
  funext s
  show " + ".intercalate (s.map fun a => String.ofList a.line) = _
  rw [← String.toList_inj, String.toList_intercalate, String.toList_ofList,
    List.map_map]
  simp [Function.comp_def]

/-- A name is shown as the line of what is shown of it. -/
theorem Name.describe?_eq (n : Name) :
    n.describe? = n.shown?.map fun names => String.ofList (nameLine names) := by
  have hall : RelativeName.describe? = fun r => r.shown?.map fun s =>
      String.ofList ([' ', '+', ' '].intercalate (s.map Shown.line)) :=
    funext RelativeName.describe?_eq
  unfold describe? shown?
  rw [hall, ← mapM_map, Option.map_map]
  congr 1
  funext names
  show ", ".intercalate (names.map fun s => _) = _
  rw [← String.toList_inj, String.toList_intercalate, String.toList_ofList,
    List.map_map]
  simp [Function.comp_def, nameLine]

/-- What can be shown of some name: there is an attribute in each relative name,
and its label is that of a kind. -/
def Showable (names : List (List Shown)) : Prop :=
  ∀ r ∈ names, r ≠ [] ∧ ∀ a ∈ r, ∃ kind : ObjectId, a.label = kind.label.toList

theorem Name.showable {n : Name} {names : List (List Shown)}
    (h : n.shown? = some names) :
    Showable names := by
  intro s hs
  obtain ⟨r, hr⟩ := exists_of_mapM h s hs
  constructor
  · rintro rfl
    unfold RelativeName.shown? at hr
    rw [List.mapM_cons] at hr
    cases hfirst : r.first.shown? <;>
      cases hothers : r.others.mapM Attribute.shown? <;>
        simp [hfirst, hothers] at hr
  · intro a ha
    obtain ⟨source, hsource⟩ := exists_of_mapM hr a ha
    obtain ⟨text, -, rfl⟩ := Option.map_eq_some_iff.1 hsource
    exact ⟨source.kind, rfl⟩

/-- An attribute with a text for its value. -/
def Attribute.ofText (kind : ObjectId) (text : List Char) : Attribute :=
  ⟨kind, ⟨⟨.universal, false, 12⟩, Bytes.Utf8.encode text⟩⟩

theorem Attribute.shown?_ofText (kind : ObjectId) (text : List Char) :
    (ofText kind text).shown? = some ⟨kind.label.toList, text⟩ := by
  have htext : (ofText kind text).text? = some (String.ofList text) := by
    have hdecode : Bytes.Utf8.decodeString (Bytes.Utf8.encode text) =
        .ok (String.ofList text) := by
      rw [Bytes.Utf8.decodeString, Bytes.Utf8.decode_encode]
      rfl
    show (Bytes.Utf8.decodeString (Bytes.Utf8.encode text)).toOption = _
    rw [hdecode]
    rfl
  rw [shown?, htext, Option.map_some, String.toList_ofList]
  rfl

/-- Whatever can be shown is shown of some name. -/
theorem Showable.exists_name {names : List (List Shown)} (h : Showable names) :
    ∃ n : Name, n.shown? = some names := by
  have hrelative : ∀ s ∈ names, ∃ r : RelativeName, r.shown? = some s := by
    intro s hs
    obtain ⟨hne, hlabels⟩ := h s hs
    have hsource : ∀ a ∈ s, ∃ source : Attribute, source.shown? = some a := by
      intro a ha
      obtain ⟨kind, hkind⟩ := hlabels a ha
      refine ⟨.ofText kind a.value, ?_⟩
      rw [Attribute.shown?_ofText, ← hkind]
    obtain ⟨sources, hsources⟩ := exists_mapM hsource
    cases sources with
    | nil => exact absurd (Option.some.inj hsources).symm hne
    | cons first others => exact ⟨⟨first, others⟩, hsources⟩
  obtain ⟨relative, hall⟩ := exists_mapM hrelative
  exact ⟨⟨relative⟩, hall⟩

/-! ## Joints -/

/-- What stands in front of an attribute. -/
inductive Joint where
  /-- A relative name begins with the attribute. -/
  | next
  /-- The attribute belongs to the relative name before it. -/
  | also
  deriving DecidableEq

/-- How a joint is written. -/
def Joint.text : Joint → List Char
  | next => [',', ' ']
  | also => [' ', '+', ' ']

/-- An attribute and what stands in front of it. -/
abbrev Part := Joint × Shown

/-- The attributes of one relative name. -/
def partsOf : List Shown → List Part
  | [] => []
  | first :: others => (.next, first) :: others.map fun a => (.also, a)

/-- The attributes of a name, one after another. -/
def parts (names : List (List Shown)) : List Part :=
  names.flatMap partsOf

/-- Attributes and joints in one line. -/
def joined (ps : List Part) : List Char :=
  ps.flatMap fun p => p.1.text ++ p.2.line

/-- Collects attributes from behind: those that belong to the relative name
before them, and the relative names that are complete. -/
def collect :
    Part → List Shown × List (List Shown) → List Shown × List (List Shown)
  | (.also, a), (open', done) => (a :: open', done)
  | (.next, a), (open', done) => ([], (a :: open') :: done)

/-- The relative names that attributes make. -/
def regroup (ps : List Part) : List Shown × List (List Shown) :=
  ps.foldr collect ([], [])

theorem joined_cons (j : Joint) (a : Shown) (ps : List Part) :
    joined ((j, a) :: ps) =
      j.text ++ (a.label ++ '=' :: (a.value ++ joined ps)) := by
  simp [joined, Shown.line]

theorem joined_append (ps qs : List Part) :
    joined (ps ++ qs) = joined ps ++ joined qs :=
  List.flatMap_append

/-- With one joint more, the line of a name is its attributes and joints. -/
theorem joined_parts {names : List (List Shown)} (h : ∀ r ∈ names, r ≠ [])
    (hne : names ≠ []) :
    joined (parts names) = Joint.next.text ++ nameLine names := by
  have hline : ∀ (first : Shown) (others : List Shown),
      joined (partsOf (first :: others)) =
        Joint.next.text ++
          [' ', '+', ' '].intercalate ((first :: others).map Shown.line) := by
    intro first others
    induction others generalizing first with
    | nil => simp [partsOf, joined]
    | cons second others ih =>
      have hsecond := ih second
      simp only [partsOf, List.map_cons, joined, List.flatMap_cons,
        List.intercalate_cons_cons] at hsecond ⊢
      rw [List.append_assoc] at hsecond
      rw [← List.append_cancel_left hsecond]
      simp [Joint.text]
  induction names with
  | nil => exact absurd rfl hne
  | cons r names ih =>
    obtain ⟨hr, hnames⟩ := List.forall_mem_cons.1 h
    obtain ⟨first, others, rfl⟩ := List.exists_cons_of_ne_nil hr
    have hparts : parts ((first :: others) :: names) =
        partsOf (first :: others) ++ parts names := List.flatMap_cons
    rw [hparts, joined_append, hline]
    cases names with
    | nil => simp [parts, joined, nameLine]
    | cons r' names =>
      rw [ih hnames (List.cons_ne_nil _ _)]
      simp only [nameLine, List.map_cons, List.intercalate_cons_cons,
        List.append_assoc]
      rfl

private theorem regroup_parts {names : List (List Shown)}
    (h : ∀ r ∈ names, r ≠ []) :
    regroup (parts names) = ([], names) := by
  have halso : ∀ (others open' : List Shown) (done : List (List Shown)),
      (others.map fun a => (Joint.also, a)).foldr collect (open', done) =
        (others ++ open', done) := by
    intro others open' done
    induction others with
    | nil => rfl
    | cons a others ih =>
      rw [List.map_cons, List.foldr_cons, ih]
      rfl
  induction names with
  | nil => rfl
  | cons r names ih =>
    obtain ⟨hr, hnames⟩ := List.forall_mem_cons.1 h
    obtain ⟨first, others, rfl⟩ := List.exists_cons_of_ne_nil hr
    have hparts : parts ((first :: others) :: names) =
        (.next, first) :: ((others.map fun a => (.also, a)) ++ parts names) :=
          List.flatMap_cons
    have hrest : (parts names).foldr collect ([], []) = ([], names) := ih hnames
    rw [hparts, regroup, List.foldr_cons, List.foldr_append, hrest, halso,
      List.append_nil]
    rfl

private theorem parts_regroup (ps : List Part) :
    ps = ((regroup ps).1.map fun a => (.also, a)) ++ parts (regroup ps).2 ∧
      ∀ r ∈ (regroup ps).2, r ≠ [] := by
  induction ps with
  | nil => exact ⟨rfl, fun r hr => absurd hr List.not_mem_nil⟩
  | cons p ps ih =>
    obtain ⟨hps, hne⟩ := ih
    obtain ⟨j, a⟩ := p
    have hstep : regroup ((j, a) :: ps) = collect (j, a) (regroup ps) := rfl
    generalize regroup ps = found at hps hne hstep
    obtain ⟨open', done⟩ := found
    rw [hstep, hps]
    cases j with
    | also => exact ⟨rfl, hne⟩
    | next =>
      refine ⟨?_, List.forall_mem_cons.2 ⟨List.cons_ne_nil _ _, hne⟩⟩
      simp [collect, parts, partsOf]

/-- Every attribute of a name is one of its parts, and no others are. -/
theorem mem_parts_iff {names : List (List Shown)} {a : Shown} :
    (∃ j, (j, a) ∈ parts names) ↔ ∃ r ∈ names, a ∈ r := by
  have hone : ∀ r, (∃ j, (j, a) ∈ partsOf r) ↔ a ∈ r := by
    intro r
    cases r with
    | nil => simp [partsOf]
    | cons first others =>
      simp only [partsOf, List.mem_cons, List.mem_map, Prod.mk.injEq]
      constructor
      · rintro ⟨j, ⟨-, rfl⟩ | ⟨a', ha', -, rfl⟩⟩
        · exact .inl rfl
        · exact .inr ha'
      · rintro (rfl | ha)
        · exact ⟨.next, .inl ⟨rfl, rfl⟩⟩
        · exact ⟨.also, .inr ⟨a, ha, rfl, rfl⟩⟩
  simp only [parts, List.mem_flatMap]
  constructor
  · rintro ⟨j, r, hr, ha⟩
    exact ⟨r, hr, (hone r).1 ⟨j, ha⟩⟩
  · rintro ⟨r, hr, ha⟩
    obtain ⟨j, hj⟩ := (hone r).2 ha
    exact ⟨j, r, hr, hj⟩

/-! ## Taking a line apart -/

/-- A value smuggles something in if it holds a separator, a label and an
equality sign, as they stand between two attributes. -/
def Smuggles (value : List Char) : Prop :=
  ∃ (j : Joint) (kind : ObjectId),
    j.text ++ (kind.label.toList ++ ['=']) <:+: value

/-- Nothing is smuggled in. -/
def Plain (names : List (List Shown)) : Prop :=
  ∀ r ∈ names, ∀ a ∈ r, ¬ Smuggles a.value

/-- It takes an equality sign to smuggle something in. -/
theorem not_smuggles_of_not_mem {value : List Char} (h : '=' ∉ value) :
    ¬ Smuggles value := by
  rintro ⟨j, kind, hpart⟩
  exact h (hpart.subset (by simp))

/-- Attributes whose labels are those of kinds. -/
def Labelled (ps : List Part) : Prop :=
  ∀ p ∈ ps, ∃ kind : ObjectId, p.2.label = kind.label.toList

/-- What follows a value: nothing, or a joint and a label. -/
theorem joined_cases {ps : List Part} (h : Labelled ps) :
    joined ps = [] ∨ ∃ (j : Joint) (kind : ObjectId) (rest : List Char),
      joined ps = j.text ++ (kind.label.toList ++ '=' :: rest) := by
  cases ps with
  | nil => exact .inl rfl
  | cons p ps =>
    obtain ⟨j, a⟩ := p
    obtain ⟨kind, hkind⟩ := h (j, a) List.mem_cons_self
    have hlabel : a.label = kind.label.toList := hkind
    refine .inr ⟨j, kind, a.value ++ joined ps, ?_⟩
    rw [joined_cons, hlabel]

/-- No joint is found where no mark stands before an equality sign. -/
theorem joint_ne {cs : List Char} (h : Unmarked cs) (j : Joint)
    (rest more : List Char) :
    j.text ++ more ≠ cs ++ '=' :: rest := by
  intro heq
  cases j with
  | next =>
    rcases cs with _ | ⟨c, cs⟩
    · simp [Joint.text] at heq
    · obtain rfl : ',' = c := (List.cons.inj heq).1
      exact h.not_mem (by decide) List.mem_cons_self
  | also =>
    rcases cs with _ | ⟨c, _ | ⟨d, cs⟩⟩
    · simp [Joint.text] at heq
    · simp [Joint.text] at heq
    · obtain rfl : '+' = d := (List.cons.inj (List.cons.inj heq).2).1
      exact h.not_mem (by decide) (List.mem_cons_of_mem _ List.mem_cons_self)

/-- The end of a text without marks and an equality sign is of the same form.
At its shortest, it is the equality sign. -/
theorem unmarked_suffix {cs front back : List Char} (h : Unmarked cs)
    (hne : back ≠ []) (heq : front ++ back = cs ++ ['=']) :
    ∃ ds, Unmarked ds ∧ back = ds ++ ['='] := by
  rcases List.append_eq_append_iff.1 heq with ⟨ds, hcs, hback⟩ |
    ⟨ds, hfront, hequals⟩
  · refine ⟨ds, fun c hc => h c ?_, hback⟩
    rw [hcs]
    exact List.mem_append_right _ hc
  · rcases ds with _ | ⟨c, ds⟩
    · exact ⟨[], fun c hc => absurd hc List.not_mem_nil, hequals.symm⟩
    · have hnil : ds ++ back = [] := (List.cons.inj hequals).2.symm
      exact absurd (List.append_eq_nil_iff.1 hnil).2 hne

/-- Behind its first character, a joint with a label holds no place where
another joint could begin: no joint begins with a plus sign. -/
theorem no_joint_inside {j : Joint} {kind : ObjectId} {front back : List Char}
    (hfront : front ≠ []) (hback : back ≠ [])
    (heq : front ++ back = j.text ++ (kind.label.toList ++ ['='])) (j' : Joint)
    (rest more : List Char) : j'.text ++ more ≠ back ++ rest := by
  obtain ⟨c, front, rfl⟩ := List.exists_cons_of_ne_nil hfront
  have hblank : Unmarked (' ' :: kind.label.toList) := by
    intro c hc
    rcases List.mem_cons.1 hc with rfl | hc
    · decide
    · exact kind.label_unmarked c hc
  have hplain : (∃ ds, Unmarked ds ∧ back = ds ++ ['=']) →
      j'.text ++ more ≠ back ++ rest := by
    rintro ⟨ds, hds, rfl⟩
    rw [List.append_assoc]
    exact joint_ne hds j' rest more
  cases j with
  | next =>
    have hinner : front ++ back = (' ' :: kind.label.toList) ++ ['='] :=
      (List.cons.inj heq).2
    exact hplain (unmarked_suffix hblank hback hinner)
  | also =>
    have hinner : front ++ back =
        '+' :: ((' ' :: kind.label.toList) ++ ['=']) :=
      (List.cons.inj heq).2
    rcases front with _ | ⟨d, front⟩
    · rw [List.nil_append] at hinner
      rw [hinner]
      intro h
      cases j' <;> simp [Joint.text] at h
    · exact hplain (unmarked_suffix hblank hback (List.cons.inj hinner).2)

/-- A value that smuggles nothing in ends where what follows it begins. -/
theorem value_eq_of_append {value extra : List Char} {ps qs : List Part}
    (hps : Labelled ps) (hqs : Labelled qs)
    (hvalue : ¬ Smuggles (value ++ extra))
    (heq : joined ps = extra ++ joined qs) : extra = [] := by
  by_contra hextra
  rcases joined_cases hps with hnil | ⟨j, kind, rest, hjoint⟩
  · rw [hnil] at heq
    exact hextra (List.append_eq_nil_iff.1 heq.symm).1
  · have hsplit : extra ++ joined qs =
        (j.text ++ (kind.label.toList ++ ['='])) ++ rest := by
      rw [← heq, hjoint]
      simp
    have hsmuggled : ∀ more, extra ≠ j.text ++ (kind.label.toList ++ ['=']) ++
        more := by
      rintro more rfl
      exact hvalue ⟨j, kind, value, more, by simp⟩
    rcases List.append_eq_append_iff.1 hsplit with ⟨back, hfront, hback⟩ |
      ⟨more, hmore, -⟩
    · by_cases hnil : back = []
      · refine hsmuggled [] ?_
        rw [hfront, hnil]
        simp
      · rcases joined_cases hqs with hnone | ⟨j', kind', rest', hjoint'⟩
        · rw [hnone] at hback
          exact hnil (List.append_eq_nil_iff.1 hback.symm).1
        · exact no_joint_inside hextra hnil hfront.symm j' rest _
            (hjoint'.symm.trans hback)
    · exact hsmuggled more hmore

/-- Values that smuggle nothing in are told from what follows them. -/
theorem value_inj {value value' : List Char} {ps qs : List Part}
    (hps : Labelled ps) (hqs : Labelled qs) (hvalue : ¬ Smuggles value)
    (hvalue' : ¬ Smuggles value')
    (heq : value ++ joined ps = value' ++ joined qs) :
    value = value' ∧ joined ps = joined qs := by
  rcases List.append_eq_append_iff.1 heq with ⟨extra, rfl, hrest⟩ |
    ⟨extra, rfl, hrest⟩
  · obtain rfl := value_eq_of_append hps hqs hvalue' hrest
    exact ⟨(List.append_nil value).symm, hrest⟩
  · obtain rfl := value_eq_of_append hqs hps hvalue hrest
    exact ⟨List.append_nil value', hrest.symm⟩

/-- Labels are told from what follows the equality sign. -/
theorem label_inj {label label' rest rest' : List Char} (h : Unmarked label)
    (h' : Unmarked label')
    (heq : label ++ '=' :: rest = label' ++ '=' :: rest') :
    label = label' ∧ rest = rest' := by
  induction label generalizing label' with
  | nil =>
    cases label' with
    | nil => exact ⟨rfl, (List.cons.inj heq).2⟩
    | cons c label' =>
      obtain rfl : '=' = c := (List.cons.inj heq).1
      exact absurd List.mem_cons_self (h'.not_mem (by decide))
  | cons c label ih =>
    cases label' with
    | nil =>
      obtain rfl : c = '=' := (List.cons.inj heq).1
      exact absurd List.mem_cons_self (h.not_mem (by decide))
    | cons c' label' =>
      obtain ⟨rfl, hrest⟩ := List.cons.inj heq
      obtain ⟨rfl, hsame⟩ := ih (fun c hc => h c (List.mem_cons_of_mem _ hc))
        (fun c hc => h' c (List.mem_cons_of_mem _ hc)) hrest
      exact ⟨rfl, hsame⟩

private theorem joint_inj {j j' : Joint} {rest rest' : List Char}
    (heq : j.text ++ rest = j'.text ++ rest') : j = j' ∧ rest = rest' := by
  cases j <;> cases j' <;> simp_all [Joint.text]

/-- Attributes and joints are read back from their line. -/
theorem joined_injective {ps qs : List Part} (hps : Labelled ps)
    (hqs : Labelled qs) (hplain : ∀ p ∈ ps, ¬ Smuggles p.2.value)
    (hplain' : ∀ q ∈ qs, ¬ Smuggles q.2.value) (heq : joined ps = joined qs) :
    ps = qs := by
  induction ps generalizing qs with
  | nil =>
    cases qs with
    | nil => rfl
    | cons q qs =>
      obtain ⟨j, a⟩ := q
      rw [joined_cons] at heq
      cases j <;> cases heq
  | cons p ps ih =>
    obtain ⟨j, a⟩ := p
    cases qs with
    | nil =>
      rw [joined_cons] at heq
      cases j <;> cases heq
    | cons q qs =>
      obtain ⟨j', b⟩ := q
      obtain ⟨⟨kind, hkind⟩, hpsRest⟩ := List.forall_mem_cons.1 hps
      obtain ⟨⟨kind', hkind'⟩, hqsRest⟩ := List.forall_mem_cons.1 hqs
      obtain ⟨hvalue, hplainRest⟩ := List.forall_mem_cons.1 hplain
      obtain ⟨hvalue', hplainRest'⟩ := List.forall_mem_cons.1 hplain'
      rw [joined_cons, joined_cons] at heq
      obtain ⟨rfl, hafter⟩ := joint_inj heq
      have hlabel : Unmarked a.label := hkind ▸ kind.label_unmarked
      have hlabel' : Unmarked b.label := hkind' ▸ kind'.label_unmarked
      obtain ⟨hlabels, hvalues⟩ := label_inj hlabel hlabel' hafter
      obtain ⟨hsame, hrest⟩ := value_inj hpsRest hqsRest hvalue hvalue' hvalues
      have hattribute : a = b := by
        cases a
        cases b
        exact congr (congrArg Shown.mk hlabels) hsame
      rw [hattribute, ih hpsRest hqsRest hplainRest hplainRest' hrest]

theorem Showable.labelled {names : List (List Shown)} (h : Showable names) :
    Labelled (parts names) := by
  rintro ⟨j, a⟩ hp
  obtain ⟨r, hr, ha⟩ := mem_parts_iff.1 ⟨j, hp⟩
  exact (h r hr).2 a ha

/-- The line of a name begins with a label and an equality sign, if anything is
shown. -/
theorem Showable.line_begins {names : List (List Shown)} (h : Showable names)
    (hne : names ≠ []) :
    ∃ label rest, nameLine names = label ++ '=' :: rest := by
  have hjoined := joined_parts (fun r hr => (h r hr).1) hne
  obtain ⟨r, names, rfl⟩ := List.exists_cons_of_ne_nil hne
  obtain ⟨a, others, rfl⟩ :=
    List.exists_cons_of_ne_nil (h r List.mem_cons_self).1
  have hfirst : parts ((a :: others) :: names) =
      (.next, a) :: ((others.map fun b => (.also, b)) ++ parts names) :=
        List.flatMap_cons
  rw [hfirst, joined_cons] at hjoined
  exact ⟨a.label, _, (List.append_cancel_left hjoined).symm⟩

theorem Showable.nameLine_eq_nil_iff {names : List (List Shown)}
    (h : Showable names) :
    nameLine names = [] ↔ names = [] := by
  constructor
  · intro hline
    by_contra hne
    obtain ⟨label, rest, hbegins⟩ := h.line_begins hne
    rw [hline] at hbegins
    simp at hbegins
  · rintro rfl
    rfl

/-- If two names make one line, so do their attributes and joints. -/
theorem Showable.joined_eq {names names' : List (List Shown)}
    (h : Showable names) (h' : Showable names')
    (heq : nameLine names = nameLine names') :
    joined (parts names) = joined (parts names') := by
  by_cases hnil : names = []
  · have hnil' : names' = [] := by
      rw [← h'.nameLine_eq_nil_iff, ← heq, h.nameLine_eq_nil_iff]
      exact hnil
    rw [hnil, hnil']
  · have hne' : names' ≠ [] := by
      rw [Ne, ← h'.nameLine_eq_nil_iff, ← heq, h.nameLine_eq_nil_iff]
      exact hnil
    rw [joined_parts (fun r hr => (h r hr).1) hnil,
      joined_parts (fun r hr => (h' r hr).1) hne', heq]

/-! ## Names that share a line -/

/-- Names that smuggle nothing in share no line. -/
theorem nameLine_injective {names names' : List (List Shown)}
    (h : Showable names) (h' : Showable names') (hplain : Plain names)
    (hplain' : Plain names') (heq : nameLine names = nameLine names') :
    names = names' := by
  have hvalues : ∀ {names : List (List Shown)}, Plain names →
      ∀ p ∈ parts names, ¬ Smuggles p.2.value := by
    rintro names hplain ⟨j, a⟩ hp
    obtain ⟨r, hr, ha⟩ := mem_parts_iff.1 ⟨j, hp⟩
    exact hplain r hr a ha
  have hparts : parts names = parts names' :=
    joined_injective h.labelled h'.labelled (hvalues hplain) (hvalues hplain')
      (h.joined_eq h' heq)
  have hgroups := congrArg regroup hparts
  rw [regroup_parts fun r hr => (h r hr).1, regroup_parts fun r hr =>
    (h' r hr).1] at hgroups
  exact (Prod.mk.inj hgroups).2

/-- The attributes of a name start with the beginning of a relative name, or
there are none, and then they make relative names. -/
theorem exists_names {ps : List Part} (hlabels : Labelled ps)
    (hfirst : ∀ p ∈ ps.head?, p.1 = .next) :
    ∃ names, Showable names ∧ parts names = ps := by
  obtain ⟨hps, hne⟩ := parts_regroup ps
  have hopen : (regroup ps).1 = [] := by
    cases hfound : (regroup ps).1 with
    | nil => rfl
    | cons a others =>
      rw [hfound, List.map_cons, List.cons_append] at hps
      rw [hps] at hfirst
      exact absurd (hfirst _ rfl) (by simp)
  rw [hopen, List.map_nil, List.nil_append] at hps
  refine ⟨(regroup ps).2, fun r hr => ⟨hne r hr, fun a ha => ?_⟩, hps.symm⟩
  obtain ⟨j, hj⟩ := mem_parts_iff.2 ⟨r, hr, ha⟩
  rw [← hps] at hj
  exact hlabels _ hj

/-- A name that smuggles something in shares its line with the name in which
that stands for itself: its value is cut where the separator stands in it. -/
theorem exists_twin {names : List (List Shown)} (h : Showable names)
    (hsmuggles : ¬ Plain names) :
    ∃ names', Showable names' ∧ names' ≠ names ∧
      nameLine names' = nameLine names := by
  simp only [Plain, not_forall, not_not] at hsmuggles
  obtain ⟨r, hr, a, ha, j, kind, before, after, hvalue⟩ := hsmuggles
  obtain ⟨j₀, hmem⟩ := mem_parts_iff.2 ⟨r, hr, ha⟩
  obtain ⟨front, back, hsplit⟩ := List.append_of_mem hmem
  let first : Shown := ⟨a.label, before⟩
  let second : Shown := ⟨kind.label.toList, after⟩
  let cut : List Part := front ++ (j₀, first) :: (j, second) :: back
  have hlabels : Labelled cut := by
    have hall := h.labelled
    rw [hsplit] at hall
    intro p hp
    simp only [cut, List.mem_append, List.mem_cons] at hp
    rcases hp with hp | rfl | rfl | hp
    · exact hall p (List.mem_append_left _ hp)
    · exact hall (j₀, a) (List.mem_append_right _ List.mem_cons_self)
    · exact ⟨kind, rfl⟩
    · exact hall p (List.mem_append_right _ (List.mem_cons_of_mem _ hp))
  have hnames : names ≠ [] := List.ne_nil_of_mem hr
  have hstart : ∀ p ∈ (parts names).head?, p.1 = .next := by
    obtain ⟨r₀, names₀, rfl⟩ := List.exists_cons_of_ne_nil hnames
    obtain ⟨a₀, others, rfl⟩ :=
      List.exists_cons_of_ne_nil (h r₀ List.mem_cons_self).1
    intro p hp
    obtain rfl : (.next, a₀) = p := Option.some.inj hp
    rfl
  have hfirst : ∀ p ∈ cut.head?, p.1 = .next := by
    rw [hsplit] at hstart
    rcases front with _ | ⟨p₀, front⟩
    · intro p hp
      obtain rfl : (j₀, first) = p := Option.some.inj hp
      exact hstart (j₀, a) rfl
    · exact hstart
  obtain ⟨names', hnames', hparts⟩ := exists_names hlabels hfirst
  have hne : names' ≠ [] := by
    rintro rfl
    have hlength := congrArg List.length hparts
    simp [cut, parts] at hlength
  refine ⟨names', hnames', ?_, ?_⟩
  · rintro rfl
    have hlength := congrArg List.length (hsplit.symm.trans hparts)
    simp [cut] at hlength
  · have hjoined : joined (parts names') = joined (parts names) := by
      rw [hparts, hsplit, joined_append, joined_append, joined_cons,
        joined_cons, joined_cons, ← hvalue]
      simp [first, second]
    rw [joined_parts (fun r hr => (hnames' r hr).1) hne,
      joined_parts (fun r hr => (h r hr).1) hnames] at hjoined
    exact List.append_cancel_left hjoined

/-! ## Names as they are shown -/

/-- A name that can be read and smuggles nothing in. -/
def Name.Plain (n : Name) : Prop :=
  ∃ names, n.shown? = some names ∧ Certificate.Plain names

/-- The line of a name that can be read is not the one for those that cannot. -/
theorem Showable.line_ne {names : List (List Shown)} (h : Showable names) :
    String.ofList (nameLine names) ≠ "<X509Error: Invalid X.509 name>" := by
  intro heq
  have hline : nameLine names = "<X509Error: Invalid X.509 name>".toList := by
    rw [← heq, String.toList_ofList]
  by_cases hnil : names = []
  · rw [hnil] at hline
    exact absurd hline (by decide)
  · obtain ⟨label, rest, hbegins⟩ := h.line_begins hnil
    have hsign : '=' ∈ "<X509Error: Invalid X.509 name>".toList := by
      rw [← hline, hbegins]
      exact List.mem_append_right _ List.mem_cons_self
    exact absurd hsign (by decide)

/-- Names are shown in one line if neither can be read, or if what is shown of
them makes one line. -/
theorem Name.describe_eq_iff (n n' : Name) :
    n.describe = n'.describe ↔
      n.shown?.map nameLine = n'.shown?.map nameLine := by
  unfold describe
  rw [describe?_eq, describe?_eq]
  cases hn : n.shown? with
  | none =>
    cases hn' : n'.shown? with
    | none => simp
    | some names' => simpa using ((showable hn').line_ne).symm
  | some names =>
    cases hn' : n'.shown? with
    | none => simpa using (showable hn).line_ne
    | some names' =>
      simp only [Option.map_some, Option.getD_some, Option.some.injEq]
      exact ⟨fun h => by simpa using congrArg String.toList h,
        congrArg String.ofList⟩

end DeviceGateway.Certificate
