import DeviceGateway.Text.Json
import Mathlib.Data.List.TakeWhile

/-!
# The texts of a JSON value

`Value.Spells` says which texts stand for a value.  There are many: blanks may
stand around every token, and a character of a string may be escaped in several
ways.  The grammar is stated without the reader and without the writer, so that
both can be held against it.

The reader finds the value of every such text.  For strings this goes character
by character; only one escape makes the reader look further ahead.  Four
hexadecimal digits may be the first half of a character, so it tries six more
characters as the second half.  If the digits stand for a character by
themselves, what it finds there does not matter.  A number has no end of its
own: it ends where something follows that no number goes on with.

The reader is given fuel for its calls.  It needs no more of it than the text
has characters: brackets and commas are as many as the calls between them.

## Main results

* `readString_quoted`, `skipNumber_append`: strings and numbers.
* `readValue_spells`, `read?_spells`: the reader knows the whole grammar.
* `Value.Spells.unique`: a text stands for one value.
-/

namespace DeviceGateway.Text.Json

/-! ## The grammar -/

/-- Nothing but blanks. -/
def Blank (cs : List Char) : Prop := ∀ c ∈ cs, isSpace c = true

/-- Blanks around a token. -/
def Padded (P : List Char → Prop) (cs : List Char) : Prop :=
  ∃ before token behind, Blank before ∧ P token ∧ Blank behind ∧
    cs = before ++ (token ++ behind)

/-- The letters of the short escapes, with what they stand for. -/
def shortEscapes : List (Char × Char) :=
  [('\"', '\"'), ('\\', '\\'), ('/', '/'), ('b', '\x08'), ('t', '\t'),
    ('n', '\n'), ('f', '\x0c'), ('r', '\r')]

/-- What may stand between the quotes for some characters. -/
inductive Inside : List Char → List Char → Prop
  | nil : Inside [] []
  | plain {c : Char} {s cs : List Char} (hquote : c ≠ '\"') (hslash : c ≠ '\\')
      (hc : 0x20 ≤ c.toNat) (h : Inside s cs) : Inside (c :: s) (c :: cs)
  | short {letter c : Char} {s cs : List Char}
      (hletter : (letter, c) ∈ shortEscapes) (h : Inside s cs) : Inside (c :: s)
      ('\\' :: letter :: cs)
  /-- Four digits that stand for a character. -/
  | unit {a b c d : Char} {n : Nat} {s cs : List Char}
      (hunit : hexUnit? a b c d = some n) (hn : n < 0xD800 ∨ 0xDFFF < n)
      (h : Inside s cs) :
      Inside (Char.ofNat n :: s) ('\\' :: 'u' :: a :: b :: c :: d :: cs)
  /-- Four digits for either half of a character. -/
  | pair {a b c d e f g h : Char} {high low : Nat} {s cs : List Char}
      (hhigh : hexUnit? a b c d = some high)
      (hfirst : 0xD800 ≤ high ∧ high ≤ 0xDBFF)
      (hlow : hexUnit? e f g h = some low)
      (hsecond : 0xDC00 ≤ low ∧ low ≤ 0xDFFF) (hs : Inside s cs) :
      Inside
        (Char.ofNat (0x10000 + (high - 0xD800) * 0x400 + (low - 0xDC00)) :: s)
        ('\\' :: 'u' :: a :: b :: c :: d :: '\\' :: 'u' :: e :: f :: g ::
          h :: cs)

/-- A string between quotes. -/
def Quoted (s cs : List Char) : Prop :=
  ∃ inner, Inside s inner ∧ cs = '\"' :: (inner ++ ['\"'])

/-- One digit or more. -/
def IsDigits (cs : List Char) : Prop := cs ≠ [] ∧ ∀ c ∈ cs, c.isDigit = true

/-- An integer without a leading zero. -/
def IsWhole (cs : List Char) : Prop :=
  cs = ['0'] ∨ IsDigits cs ∧ cs.head? ≠ some '0'

def IsFraction (cs : List Char) : Prop :=
  cs = [] ∨ ∃ digits, IsDigits digits ∧ cs = '.' :: digits

def IsExponent (cs : List Char) : Prop :=
  cs = [] ∨ ∃ mark sign digits, mark ∈ ['e', 'E'] ∧ sign ∈ [[], ['+'], ['-']] ∧
    IsDigits digits ∧
    cs = mark :: (sign ++ digits)

def IsNumber (cs : List Char) : Prop :=
  ∃ sign whole fraction exponent, sign ∈ [[], ['-']] ∧ IsWhole whole ∧
    IsFraction fraction ∧
    IsExponent exponent ∧ cs = sign ++ (whole ++ (fraction ++ exponent))

mutual

/-- The texts of a value, without blanks around them. -/
def Value.Spells : Value → List Char → Prop
  | .null, cs => cs = "null".toList
  | .bool true, cs => cs = "true".toList
  | .bool false, cs => cs = "false".toList
  | .number written, cs => cs = written.toList ∧ IsNumber cs
  | .text s, cs => Quoted s.toList cs
  | .list items, cs =>
    ∃ inner, ItemsSpell items inner ∧ cs = '[' :: (inner ++ [']'])
  | .object fields, cs =>
    ∃ inner, FieldsSpell fields inner ∧ cs = '\x7b' :: (inner ++ ['\x7d'])

/-- The texts of list items. -/
def ItemsSpell : List Value → List Char → Prop
  | [], cs => Blank cs
  | [v], cs => Padded v.Spells cs
  | v :: w :: items, cs =>
      ∃ item more, Padded v.Spells item ∧ ItemsSpell (w :: items) more ∧
      cs = item ++ ',' :: more

/-- The texts of object fields. -/
def FieldsSpell : List (String × Value) → List Char → Prop
  | [], cs => Blank cs
  | [(key, v)], cs =>
      ∃ name value, Padded (Quoted key.toList) name ∧ Padded v.Spells value ∧
      cs = name ++ ':' :: value
  | (key, v) :: field :: fields, cs =>
      ∃ name value more, Padded (Quoted key.toList) name ∧
      Padded v.Spells value ∧ FieldsSpell (field :: fields) more ∧
      cs = name ++ ':' :: (value ++ ',' :: more)

end

/-! ## Blanks -/

theorem dropWhile_blank {blanks : List Char} (h : Blank blanks)
    (cs : List Char) :
    (blanks ++ cs).dropWhile isSpace = cs.dropWhile isSpace :=
  List.dropWhile_append_of_pos h

theorem dropWhile_blank_cons {blanks : List Char} (h : Blank blanks) {c : Char}
    (hc : isSpace c = false) (cs : List Char) :
    (blanks ++ c :: cs).dropWhile isSpace = c :: cs := by
  rw [dropWhile_blank h, List.dropWhile_cons_of_neg (by simp [hc])]

/-- Blanks in front of a value are skipped. -/
theorem readValue_blank {blanks : List Char} (h : Blank blanks) (fuel : Nat)
    (cs : List Char) :
    readValue fuel (blanks ++ cs) = readValue fuel cs := by
  cases fuel with
  | zero => rfl
  | succ fuel => simp only [readValue, dropWhile_blank h]

private theorem readFields_blank {blanks : List Char} (h : Blank blanks)
    (fuel : Nat) (done : List (String × Value)) (cs : List Char) :
    readFields fuel done (blanks ++ cs) = readFields fuel done cs := by
  cases fuel with
  | zero => rfl
  | succ fuel => simp only [readFields, dropWhile_blank h]

/-- No token needs blanks around it. -/
theorem Padded.of {P : List Char → Prop} {cs : List Char} (h : P cs) :
    Padded P cs :=
  ⟨[], cs, [], nofun, h, nofun, (List.append_nil cs).symm⟩

/-! ## Strings -/

/-- Digits that stand for a character do so even if another escape follows,
whether or not it can be read. -/
theorem readString_unit {a b c d : Char} {n : Nat}
    (h : hexUnit? a b c d = some n) (hn : n < 0xD800 ∨ 0xDFFF < n)
    (done rest : List Char) :
    readString done ('\\' :: 'u' :: a :: b :: c :: d :: rest) =
      readString (Char.ofNat n :: done) rest := by
  have hhigh : ¬ (0xD800 ≤ n ∧ n ≤ 0xDBFF) := by omega
  have hlow : ¬ (0xDC00 ≤ n ∧ n ≤ 0xDFFF) := by omega
  have hnone : ¬ (0xD800 ≤ n ∧ n ≤ 0xDFFF) := by omega
  by_cases hnext : ∃ e f g h rest',
    rest = '\\' :: 'u' :: e :: f :: g :: h :: rest'
  · obtain ⟨e, f, g, h', rest', rfl⟩ := hnext
    rw [readString.eq_2]
    cases hunit : hexUnit? e f g h' with
    | some m => simp only [h, hhigh, hlow, if_false]
    | none =>
      simp only [h]
      by_cases hthird : ∃ i j k l rest'',
        rest' = '\\' :: 'u' :: i :: j :: k :: l :: rest''
      · obtain ⟨i, j, k, l, rest'', rfl⟩ := hthird
        rw [readString.eq_2]
        simp only [hunit]
      · rw [readString.eq_3 _ _ _ _ _ _ fun i j k l rest'' hrest =>
          hthird ⟨i, j, k, l, rest'', hrest⟩]
        simp only [hunit]
  · rw [readString.eq_3 _ _ _ _ _ _ fun e f g h' rest' hrest =>
      hnext ⟨e, f, g, h', rest', hrest⟩]
    simp only [h, hnone, if_false]

private theorem readString_plain {c : Char} (hquote : c ≠ '\"')
    (hslash : c ≠ '\\') (hc : 0x20 ≤ c.toNat) (done rest : List Char) :
    readString done (c :: rest) = readString (c :: done) rest := by
  rw [readString.eq_13 done c rest hquote (fun _ _ _ _ _ _ _ _ _ h _ =>
    hslash h) (fun _ _ _ _ _ h _ => hslash h) fun _ _ h _ => hslash h]
  exact if_neg (Nat.not_lt.2 hc)

private theorem readString_short {letter c : Char}
    (h : (letter, c) ∈ shortEscapes) (done rest : List Char) :
    readString done ('\\' :: letter :: rest) = readString (c :: done) rest := by
  simp only [shortEscapes, List.mem_cons, Prod.mk.injEq, List.not_mem_nil,
    or_false] at h
  rcases h with ⟨rfl, rfl⟩ | ⟨rfl, rfl⟩ | ⟨rfl, rfl⟩ | ⟨rfl, rfl⟩ | ⟨rfl, rfl⟩ |
    ⟨rfl, rfl⟩ | ⟨rfl, rfl⟩ | ⟨rfl, rfl⟩ <;> rfl

private theorem readString_inside {s cs : List Char} (h : Inside s cs)
    (done rest : List Char) :
    readString done (cs ++ '\"' :: rest) = some (done.reverse ++ s, rest) := by
  induction h generalizing done with
  | nil => simp [readString]
  | plain hquote hslash hc h ih =>
    rw [List.cons_append, readString_plain hquote hslash hc, ih]
    simp
  | short hletter h ih =>
    rw [List.cons_append, List.cons_append, readString_short hletter, ih]
    simp
  | unit hunit hn h ih =>
    simp only [List.cons_append]
    rw [readString_unit hunit hn, ih]
    simp
  | pair hhigh hfirst hlow hsecond h ih =>
    simp only [List.cons_append]
    rw [readString.eq_2]
    simp only [hhigh, hfirst, hlow, hsecond, and_self, if_true]
    rw [ih]
    simp

theorem readString_quoted {s cs : List Char} (h : Quoted s cs)
    (rest : List Char) :
    ∃ inner, cs ++ rest = '\"' :: inner ∧
      readString [] inner = some (s, rest) := by
  obtain ⟨inner, hinner, rfl⟩ := h
  refine ⟨inner ++ '\"' :: rest, by simp, ?_⟩
  rw [readString_inside hinner]
  rfl

/-! ## Numbers -/

/-- What may follow a value: no number goes on with it. -/
def Stops (rest : List Char) : Prop :=
  ∀ c ∈ rest.head?, c.isDigit = false ∧ c ≠ '.' ∧ c ≠ 'e' ∧ c ≠ 'E'

private theorem stops_nil : Stops [] := nofun

theorem stops_cons {c : Char}
    (h : c.isDigit = false ∧ c ≠ '.' ∧ c ≠ 'e' ∧ c ≠ 'E') (rest : List Char) :
    Stops (c :: rest) := by
  intro d hd
  obtain rfl : c = d := Option.some.inj hd
  exact h

theorem Stops.blank {blanks rest : List Char} (hblank : Blank blanks)
    (h : Stops rest) :
    Stops (blanks ++ rest) := by
  cases blanks with
  | nil => exact h
  | cons c blanks =>
    refine stops_cons ?_ _
    have hc := hblank c List.mem_cons_self
    simp only [isSpace, Bool.or_eq_true, beq_iff_eq] at hc
    rcases hc with ((rfl | rfl) | rfl) | rfl <;> decide

/-- Drops a sign. -/
def skipSign : List Char → List Char
  | '-' :: r => r
  | r => r

/-- Drops an integer. -/
def skipWhole : List Char → Option (List Char)
  | '0' :: r => some r
  | r => if (skipDigits r).1 then some (skipDigits r).2 else none

/-- Drops a fraction, if there is one. -/
def skipFraction : List Char → Option (List Char)
  | '.' :: r => if (skipDigits r).1 then some (skipDigits r).2 else none
  | r => some r

/-- Drops an exponent, if there is one. -/
def skipExponent (cs : List Char) : Option (List Char) :=
  let mark := match cs with
    | 'e' :: r => some r
    | 'E' :: r => some r
    | _ => none
  match mark with
  | none => some cs
  | some r =>
    let digits := match r with
      | '+' :: r => r
      | '-' :: r => r
      | r => r
    if (skipDigits digits).1 then some (skipDigits digits).2 else none

/-- A number is skipped part by part. -/
theorem skipNumber_eq (cs : List Char) :
    skipNumber cs =
      ((skipWhole (skipSign cs)).bind skipFraction).bind skipExponent := rfl

theorem skipDigits_append {digits rest : List Char} (h : IsDigits digits)
    (hrest : ∀ c ∈ rest.head?, c.isDigit = false) :
    skipDigits (digits ++ rest) = (true, rest) := by
  have htake : rest.takeWhile Char.isDigit = [] ∧
      rest.dropWhile Char.isDigit = rest := by
    cases rest with
    | nil => exact ⟨rfl, rfl⟩
    | cons c rest => simp [hrest c rfl]
  rw [skipDigits, List.takeWhile_append_of_pos h.2,
    List.dropWhile_append_of_pos h.2, htake.1, htake.2, List.append_nil,
    List.isEmpty_eq_false_iff.2 h.1]
  rfl

theorem IsDigits.exists_cons {digits : List Char} (h : IsDigits digits) :
    ∃ c cs, digits = c :: cs ∧ c.isDigit = true := by
  obtain ⟨c, cs, rfl⟩ := List.exists_cons_of_ne_nil h.1
  exact ⟨c, cs, rfl, h.2 c List.mem_cons_self⟩

theorem IsWhole.exists_cons {whole : List Char} (h : IsWhole whole) :
    ∃ c cs, whole = c :: cs ∧ c.isDigit = true := by
  rcases h with rfl | ⟨hdigits, -⟩
  · exact ⟨'0', [], rfl, rfl⟩
  · exact hdigits.exists_cons

private theorem skipSign_of_ne {c : Char} (hc : c ≠ '-') (cs : List Char) :
    skipSign (c :: cs) = c :: cs := by
  unfold skipSign
  split
  · next h => exact absurd (List.cons.inj h).1 hc
  · rfl

private theorem skipWhole_append {whole rest : List Char} (h : IsWhole whole)
    (hrest : ∀ c ∈ rest.head?, c.isDigit = false) :
    skipWhole (whole ++ rest) = some rest := by
  rcases h with rfl | ⟨hdigits, hzero⟩
  · rfl
  · have hskip := skipDigits_append hdigits hrest
    obtain ⟨c, cs, rfl, -⟩ := hdigits.exists_cons
    unfold skipWhole
    split
    · next h => exact absurd (congrArg some (List.cons.inj h).1) hzero
    · rw [hskip]
      rfl

private theorem skipFraction_append {fraction rest : List Char}
    (h : IsFraction fraction)
    (hrest : ∀ c ∈ rest.head?, c.isDigit = false ∧ c ≠ '.') :
    skipFraction (fraction ++ rest) = some rest := by
  rcases h with rfl | ⟨digits, hdigits, rfl⟩
  · rw [List.nil_append]
    unfold skipFraction
    split
    · exact absurd rfl (hrest '.' rfl).2
    · rfl
  · simp only [List.cons_append, skipFraction,
      skipDigits_append hdigits fun c hc => (hrest c hc).1, if_true]

private theorem skipExponent_append {exponent rest : List Char}
    (h : IsExponent exponent) (hrest : Stops rest) :
    skipExponent (exponent ++ rest) = some rest := by
  rcases h with rfl | ⟨mark, sign, digits, hmark, hsign, hdigits, rfl⟩
  · rw [List.nil_append]
    cases rest with
    | nil => rfl
    | cons c rest =>
      obtain ⟨-, -, hlow, hhigh⟩ := hrest c rfl
      simp [skipExponent, hlow, hhigh]
  · have hskip := skipDigits_append hdigits fun c hc => (hrest c hc).1
    obtain ⟨c, cs, rfl, hc⟩ := hdigits.exists_cons
    have hplus : c ≠ '+' := by rintro rfl; cases hc
    have hminus : c ≠ '-' := by rintro rfl; cases hc
    simp only [List.cons_append] at hskip
    simp only [List.mem_cons, List.not_mem_nil, or_false] at hmark hsign
    rcases hmark with rfl | rfl <;> rcases hsign with rfl | rfl | rfl <;>
      simp [skipExponent, hskip, hplus, hminus]

/-- A number ends where nothing follows that it could go on with. -/
theorem skipNumber_append {number rest : List Char} (h : IsNumber number)
    (hrest : Stops rest) :
    skipNumber (number ++ rest) = some rest := by
  obtain ⟨sign, whole, fraction, exponent, hsign, hwhole, hfraction,
    hexponent, rfl⟩ := h
  have hexponentHead : ∀ c ∈ (exponent ++ rest).head?, c.isDigit = false ∧
      c ≠ '.' := by
    rcases hexponent with rfl | ⟨mark, sign, digits, hmark, -, -, rfl⟩
    · exact fun c hc => ⟨(hrest c hc).1, (hrest c hc).2.1⟩
    · intro c hc
      obtain rfl : mark = c := Option.some.inj hc
      simp only [List.mem_cons, List.not_mem_nil, or_false] at hmark
      rcases hmark with rfl | rfl <;> decide
  have hfractionHead : ∀ c ∈ (fraction ++ (exponent ++ rest)).head?,
      c.isDigit = false := by
    rcases hfraction with rfl | ⟨digits, -, rfl⟩
    · exact fun c hc => (hexponentHead c hc).1
    · intro c hc
      obtain rfl : '.' = c := Option.some.inj hc
      rfl
  have hsigned :
      skipSign (sign ++ (whole ++ (fraction ++ (exponent ++ rest)))) =
      whole ++ (fraction ++ (exponent ++ rest)) := by
    obtain ⟨c, cs, rfl, hc⟩ := hwhole.exists_cons
    simp only [List.mem_cons, List.not_mem_nil, or_false] at hsign
    rcases hsign with rfl | rfl
    · exact skipSign_of_ne (by rintro rfl; cases hc) _
    · rfl
  simp only [List.append_assoc]
  rw [skipNumber_eq, hsigned, skipWhole_append hwhole hfractionHead,
    Option.bind_some, skipFraction_append hfraction hexponentHead,
    Option.bind_some, skipExponent_append hexponent hrest]

/-- What a number may start with. -/
def NumberStart (c : Char) : Prop := c = '-' ∨ c.isDigit = true

theorem NumberStart.ne {c d : Char} (h : NumberStart c)
    (hd : (d == '-' || d.isDigit) = false) :
    c ≠ d := by
  rintro rfl
  rcases h with rfl | hdigit
  · cases hd
  · simp [hdigit] at hd

theorem NumberStart.not_space {c : Char} (h : NumberStart c) :
    isSpace c = false := by
  rw [isSpace]
  simp only [Bool.or_eq_false_iff, beq_eq_false_iff_ne]
  exact ⟨⟨⟨h.ne rfl, h.ne rfl⟩, h.ne rfl⟩, h.ne rfl⟩

theorem IsNumber.exists_cons {number : List Char} (h : IsNumber number) :
    ∃ c cs, number = c :: cs ∧ NumberStart c := by
  obtain ⟨sign, whole, fraction, exponent, hsign, hwhole, -, -, rfl⟩ := h
  obtain ⟨c, cs, rfl, hc⟩ := hwhole.exists_cons
  simp only [List.mem_cons, List.not_mem_nil, or_false] at hsign
  rcases hsign with rfl | rfl
  · exact ⟨c, _, rfl, .inr hc⟩
  · exact ⟨'-', _, rfl, .inl rfl⟩

theorem IsDigits.ne_control {digits : List Char} (h : IsDigits digits) :
    ∀ c ∈ digits, 0x20 ≤ c.toNat := by
  intro c hc
  have hdigit := h.2 c hc
  simp only [Char.isDigit, Bool.and_eq_true, decide_eq_true_eq] at hdigit
  exact Nat.le_trans (by decide) hdigit.1

/-- A number holds no control character. -/
theorem IsNumber.ne_control {number : List Char} (h : IsNumber number) :
    ∀ c ∈ number, 0x20 ≤ c.toNat := by
  obtain ⟨sign, whole, fraction, exponent, hsign, hwhole, hfraction,
    hexponent, rfl⟩ := h
  simp only [List.forall_mem_append]
  refine ⟨?_, ?_, ?_, ?_⟩
  · simp only [List.mem_cons, List.not_mem_nil, or_false] at hsign
    rcases hsign with rfl | rfl
    · exact List.forall_mem_nil _
    · exact List.forall_mem_singleton.2 (by decide)
  · rcases hwhole with rfl | ⟨hdigits, -⟩
    · exact List.forall_mem_singleton.2 (by decide)
    · exact hdigits.ne_control
  · rcases hfraction with rfl | ⟨digits, hdigits, rfl⟩
    · exact List.forall_mem_nil _
    · exact List.forall_mem_cons.2 ⟨by decide, hdigits.ne_control⟩
  · rcases hexponent with rfl | ⟨mark, expSign, digits, hmark, hexpSign,
      hdigits, rfl⟩
    · exact List.forall_mem_nil _
    · simp only [List.mem_cons, List.not_mem_nil, or_false] at hmark hexpSign
      refine List.forall_mem_cons.2
        ⟨?_, List.forall_mem_append.2 ⟨?_, hdigits.ne_control⟩⟩
      · rcases hmark with rfl | rfl <;> decide
      · rcases hexpSign with rfl | rfl | rfl
        · exact List.forall_mem_nil _
        · exact List.forall_mem_singleton.2 (by decide)
        · exact List.forall_mem_singleton.2 (by decide)

/-! ## Values -/

/-- A text of a value starts with a character that is neither blank nor the end
of a list. -/
theorem Value.Spells.head {v : Value} {cs : List Char} (h : v.Spells cs) :
    ∃ c tail, cs = c :: tail ∧ isSpace c = false ∧ c ≠ ']' := by
  cases v with
  | null =>
    obtain rfl : cs = "null".toList := h
    exact ⟨_, _, rfl, rfl, by decide⟩
  | bool b =>
    cases b with
    | true =>
      obtain rfl : cs = "true".toList := h
      exact ⟨_, _, rfl, rfl, by decide⟩
    | false =>
      obtain rfl : cs = "false".toList := h
      exact ⟨_, _, rfl, rfl, by decide⟩
  | number written =>
    obtain ⟨c, tail, htext, hc⟩ := h.2.exists_cons
    exact ⟨c, tail, htext, hc.not_space, hc.ne rfl⟩
  | text s =>
    obtain ⟨inner, -, rfl⟩ := h
    exact ⟨_, _, rfl, rfl, by decide⟩
  | list items =>
    obtain ⟨inner, -, rfl⟩ := h
    exact ⟨_, _, rfl, rfl, by decide⟩
  | object fields =>
    obtain ⟨inner, -, rfl⟩ := h
    exact ⟨_, _, rfl, rfl, by decide⟩

section Reading

variable (fuel : Nat) {rest : List Char}

private theorem readValue_number {number : List Char} (h : IsNumber number)
    (hrest : Stops rest) :
    readValue (fuel + 1) (number ++ rest) =
      some (.number (String.ofList number), rest) := by
  have hskip := skipNumber_append h hrest
  obtain ⟨c, cs, hnumber, hc⟩ := h.exists_cons
  have hdrop : (number ++ rest).dropWhile isSpace = number ++ rest := by
    rw [hnumber, List.cons_append, List.dropWhile_cons_of_neg
      (by simp [hc.not_space])]
  have hstart : ∀ {d : Char} {ds : List Char}, number ++ rest = d :: ds →
      (d == '-' || d.isDigit) = false → False := by
    intro d ds heq hd
    rw [hnumber, List.cons_append] at heq
    exact hc.ne hd (List.cons.inj heq).1
  simp only [readValue, hdrop]
  split
  · next heq => exact (hstart heq rfl).elim
  · next heq => exact (hstart heq rfl).elim
  · next heq => exact (hstart heq rfl).elim
  · next heq => exact (hstart heq rfl).elim
  · next heq => exact (hstart heq rfl).elim
  · next heq => exact (hstart heq rfl).elim
  · simp [hskip]

private theorem readValue_quoted {s cs : List Char} (h : Quoted s cs) :
    readValue (fuel + 1) (cs ++ rest) =
      some (.text (String.ofList s), rest) := by
  obtain ⟨inner, htext, hread⟩ := readString_quoted h rest
  rw [htext]
  simp [readValue, isSpace, hread]

private theorem readValue_list {c : Char} (hspace : isSpace c = false)
    (hc : c ≠ ']') {blanks : List Char} (hblank : Blank blanks) :
    readValue (fuel + 1) ('[' :: (blanks ++ c :: rest)) =
      (readItems fuel [] (blanks ++ c :: rest)).map fun r =>
        (.list r.1, r.2) := by
  simp only [readValue, List.dropWhile_cons_of_neg
    (show ¬ isSpace '[' = true by decide), dropWhile_blank_cons hblank hspace]
  split
  · next hbracket => exact absurd (List.cons.inj hbracket).1 hc
  · rfl

private theorem readValue_object {blanks : List Char} (hblank : Blank blanks) :
    readValue (fuel + 1) ('\x7b' :: (blanks ++ '\"' :: rest)) =
      (readFields fuel [] (blanks ++ '\"' :: rest)).map fun r =>
        (.object r.1, r.2) := by
  have hbrace : ¬ isSpace '\x7b' = true := by decide
  simp only [readValue, List.dropWhile_cons_of_neg hbrace,
    dropWhile_blank_cons hblank (show isSpace '\"' = false by decide)]
  rfl

private theorem readItems_last {v : Value} {blanks cs : List Char}
    (hblank : Blank blanks) (done : List Value)
    (h : readValue fuel cs = some (v, blanks ++ ']' :: rest)) :
    readItems (fuel + 1) done cs = some ((v :: done).reverse, rest) := by
  simp only [readItems, h, dropWhile_blank_cons hblank
    (show isSpace ']' = false by decide)]

private theorem readItems_comma {v : Value} {blanks cs : List Char}
    (hblank : Blank blanks) (done : List Value)
    (h : readValue fuel cs = some (v, blanks ++ ',' :: rest)) :
    readItems (fuel + 1) done cs = readItems fuel (v :: done) rest := by
  simp only [readItems, h, dropWhile_blank_cons hblank
    (show isSpace ',' = false by decide)]

/-- The name of a field is read up to the blanks in front of the colon. -/
theorem readFields_name {key : String} {name : List Char}
    (hname : Padded (Quoted key.toList) name) (cs : List Char) :
    ∃ inner blanks, Blank blanks ∧
      readString [] inner = some (key.toList, blanks ++ ':' :: cs) ∧
      ∀ fuel done, readFields fuel done (name ++ ':' :: cs) =
        readFields fuel done ('\"' :: inner) := by
  obtain ⟨before, token, behind, hbefore, htoken, hbehind, rfl⟩ := hname
  obtain ⟨inner, htext, hread⟩ := readString_quoted htoken (behind ++ ':' :: cs)
  refine ⟨inner, behind, hbehind, hread, fun fuel done => ?_⟩
  rw [List.append_assoc, List.append_assoc, readFields_blank hbefore, htext]

private theorem readFields_last {key : String} {v : Value}
    {name blanks cs : List Char} (hname : Padded (Quoted key.toList) name)
    (hblank : Blank blanks) (done : List (String × Value))
    (h : readValue fuel cs = some (v, blanks ++ '\x7d' :: rest)) :
    readFields (fuel + 1) done (name ++ ':' :: cs) =
      some (((key, v) :: done).reverse, rest) := by
  obtain ⟨inner, behind, hbehind, hread, hskip⟩ := readFields_name hname cs
  rw [hskip]
  have hquote : ¬ isSpace '\"' = true := by decide
  simp only [readFields, List.dropWhile_cons_of_neg hquote, hread,
    dropWhile_blank_cons hbehind (show isSpace ':' = false by decide), h,
    String.ofList_toList,
    dropWhile_blank_cons hblank (show isSpace '\x7d' = false by decide)]

private theorem readFields_comma {key : String} {v : Value}
    {name blanks cs : List Char} (hname : Padded (Quoted key.toList) name)
    (hblank : Blank blanks) (done : List (String × Value))
    (h : readValue fuel cs = some (v, blanks ++ ',' :: rest)) :
    readFields (fuel + 1) done (name ++ ':' :: cs) =
      readFields fuel ((key, v) :: done) rest := by
  obtain ⟨inner, behind, hbehind, hread, hskip⟩ := readFields_name hname cs
  rw [hskip]
  have hquote : ¬ isSpace '\"' = true := by decide
  simp only [readFields, List.dropWhile_cons_of_neg hquote, hread,
    dropWhile_blank_cons hbehind (show isSpace ':' = false by decide), h,
    String.ofList_toList,
    dropWhile_blank_cons hblank (show isSpace ',' = false by decide)]

end Reading

/-- The text of an item starts with blanks and then with no closing bracket. -/
theorem ItemsSpell.head {v : Value} {items : List Value} {cs : List Char}
    (h : ItemsSpell (v :: items) cs) :
    ∃ blanks c tail, Blank blanks ∧ cs = blanks ++ c :: tail ∧
      isSpace c = false ∧ c ≠ ']' := by
  have hpadded : ∀ {item : List Char}, Padded v.Spells item → ∀ more,
      ∃ blanks c tail, Blank blanks ∧ item ++ more = blanks ++ c :: tail ∧
        isSpace c = false ∧ c ≠ ']' := by
    rintro item ⟨before, token, behind, hbefore, htoken, -, rfl⟩ more
    obtain ⟨c, tail, rfl, hc⟩ := htoken.head
    exact ⟨before, c, tail ++ (behind ++ more), hbefore, by simp, hc⟩
  cases items with
  | nil => simpa using hpadded h []
  | cons w items =>
    obtain ⟨item, more, hitem, -, rfl⟩ := h
    exact hpadded hitem (',' :: more)

/-- The text of a field starts with blanks and a quote. -/
theorem FieldsSpell.head {field : String × Value}
    {fields : List (String × Value)} {cs : List Char}
    (h : FieldsSpell (field :: fields) cs) :
    ∃ blanks tail, Blank blanks ∧ cs = blanks ++ '\"' :: tail := by
  obtain ⟨key, v⟩ := field
  have hpadded : ∀ {name : List Char}, Padded (Quoted key.toList) name → ∀ more,
      ∃ blanks tail, Blank blanks ∧ name ++ more = blanks ++ '\"' :: tail := by
    rintro name ⟨before, token, behind, hbefore, ⟨inner, -, rfl⟩, -, rfl⟩ more
    exact ⟨before, inner ++ '\"' :: (behind ++ more), hbefore, by simp⟩
  cases fields with
  | nil =>
    obtain ⟨name, value, hname, -, rfl⟩ := h
    exact hpadded hname (':' :: value)
  | cons f fields =>
    obtain ⟨name, value, more, hname, -, -, rfl⟩ := h
    exact hpadded hname (':' :: (value ++ ',' :: more))

/-- A value with blanks around it is read up to the blanks behind it. -/
theorem Padded.read {v : Value} {cs rest : List Char} (h : Padded v.Spells cs)
    (fuel : Nat) (hrest : Stops rest)
    (hread : ∀ {token rest : List Char}, v.Spells token → Stops rest →
      token.length ≤ cs.length →
      readValue fuel (token ++ rest) = some (v, rest)) :
    ∃ blanks, Blank blanks ∧
      readValue fuel (cs ++ rest) = some (v, blanks ++ rest) := by
  obtain ⟨before, token, behind, hbefore, htoken, hbehind, rfl⟩ := h
  refine ⟨behind, hbehind, ?_⟩
  rw [List.append_assoc, List.append_assoc, readValue_blank hbefore]
  exact hread htoken (hrest.blank hbehind)
    (by simp only [List.length_append]; omega)

mutual

/-- A text of a value reads as that value, whatever follows it that no number
goes on with. -/
theorem readValue_spells : ∀ (v : Value) {cs : List Char}, v.Spells cs →
    ∀ (fuel : Nat) {rest : List Char}, Stops rest → cs.length ≤ fuel →
      readValue fuel (cs ++ rest) = some (v, rest)
  | v, cs, h, 0, rest, _, hfuel => by
    obtain ⟨c, tail, rfl, -⟩ := h.head
    exact absurd hfuel (Nat.not_succ_le_zero _)
  | .null, cs, h, fuel + 1, rest, _, _ => by
    obtain rfl : cs = "null".toList := h
    show readValue (fuel + 1) ('n' :: 'u' :: 'l' :: 'l' :: rest) =
      some (.null, rest)
    simp [readValue, isSpace]
  | .bool true, cs, h, fuel + 1, rest, _, _ => by
    obtain rfl : cs = "true".toList := h
    show readValue (fuel + 1) ('t' :: 'r' :: 'u' :: 'e' :: rest) =
      some (.bool true, rest)
    simp [readValue, isSpace]
  | .bool false, cs, h, fuel + 1, rest, _, _ => by
    obtain rfl : cs = "false".toList := h
    show readValue (fuel + 1) ('f' :: 'a' :: 'l' :: 's' :: 'e' :: rest) =
      some (.bool false, rest)
    simp [readValue, isSpace]
  | .number written, cs, h, fuel + 1, rest, hrest, _ => by
    rw [readValue_number fuel h.2 hrest, h.1, String.ofList_toList]
  | .text s, cs, h, fuel + 1, rest, _, _ => by
    rw [readValue_quoted fuel h, String.ofList_toList]
  | .list [], _, ⟨inner, hinner, rfl⟩, fuel + 1, rest, _, _ => by
    have hblank : Blank inner := hinner
    rw [List.cons_append, List.append_assoc]
    simp [readValue, isSpace, dropWhile_blank hblank]
  | .list (v :: items), _, ⟨inner, hitems, rfl⟩, fuel + 1, rest, _, hfuel => by
    have hshort : inner.length < fuel := by
      simp only [List.length_cons, List.length_append] at hfuel
      omega
    have hread := readItems_spells v items hitems fuel [] rest hshort
    obtain ⟨blanks, c, tail, hblank, rfl, hspace, hc⟩ := hitems.head
    simp only [List.append_assoc, List.cons_append, List.nil_append] at hread ⊢
    rw [readValue_list fuel hspace hc hblank, hread]
    rfl
  | .object [], _, ⟨inner, hinner, rfl⟩, fuel + 1, rest, _, _ => by
    have hblank : Blank inner := hinner
    rw [List.cons_append, List.append_assoc]
    simp [readValue, isSpace, dropWhile_blank hblank]
  | .object (field :: fields), _, ⟨inner, hfields, rfl⟩, fuel + 1, rest, _,
    hfuel => by
    have hshort : inner.length < fuel := by
      simp only [List.length_cons, List.length_append] at hfuel
      omega
    have hread := readFields_spells field fields hfields fuel [] rest hshort
    obtain ⟨blanks, tail, hblank, rfl⟩ := hfields.head
    simp only [List.append_assoc, List.cons_append, List.nil_append] at hread ⊢
    rw [readValue_object fuel hblank, hread]
    rfl

theorem readItems_spells : ∀ (v : Value) (items : List Value) {cs : List Char},
    ItemsSpell (v :: items) cs →
      ∀ (fuel : Nat) (done : List Value) (rest : List Char),
    cs.length < fuel →
      readItems fuel done (cs ++ ']' :: rest) =
        some (done.reverse ++ v :: items, rest)
  | v, [], cs, hitem, fuel + 1, done, rest, hfuel => by
    have hpadded : Padded v.Spells cs := hitem
    obtain ⟨blanks, hblank, hread⟩ := hpadded.read fuel
      (stops_cons (by decide : Char.isDigit ']' = false ∧ _) rest)
      fun htoken hrest hlength => readValue_spells v htoken fuel hrest
        (by omega)
    rw [readItems_last fuel hblank done hread, List.reverse_cons]
  | v, w :: items, _, ⟨item, more, hitem, hmore, rfl⟩, fuel + 1, done, rest,
    hfuel => by
    simp only [List.length_append, List.length_cons] at hfuel
    obtain ⟨blanks, hblank, hread⟩ := hitem.read fuel
      (stops_cons (by decide : Char.isDigit ',' = false ∧ _)
        (more ++ ']' :: rest))
      fun htoken hrest hlength => readValue_spells v htoken fuel hrest
        (by omega)
    have hlater := readItems_spells w items hmore fuel (v :: done) rest
      (by omega)
    rw [List.append_assoc, List.cons_append,
      readItems_comma fuel hblank done hread, hlater, List.reverse_cons,
      List.append_assoc]
    rfl

theorem readFields_spells :
    ∀ (field : String × Value) (fields : List (String × Value))
    {cs : List Char}, FieldsSpell (field :: fields) cs →
    ∀ (fuel : Nat) (done : List (String × Value)) (rest : List Char),
      cs.length < fuel →
      readFields fuel done (cs ++ '\x7d' :: rest) =
        some (done.reverse ++ field :: fields, rest)
  | (key, v), [], _, ⟨name, value, hname, hvalue, rfl⟩, fuel + 1, done, rest,
    hfuel => by
    simp only [List.length_append, List.length_cons] at hfuel
    obtain ⟨blanks, hblank, hread⟩ := hvalue.read fuel
      (stops_cons (by decide : Char.isDigit '\x7d' = false ∧ _) rest)
      fun htoken hrest hlength => readValue_spells v htoken fuel hrest
        (by omega)
    rw [List.append_assoc, List.cons_append, readFields_last fuel hname hblank
      done hread, List.reverse_cons]
  | (key, v), field :: fields, _,
      ⟨name, value, more, hname, hvalue, hmore, rfl⟩, fuel + 1, done, rest,
      hfuel => by
    simp only [List.length_append, List.length_cons] at hfuel
    obtain ⟨blanks, hblank, hread⟩ := hvalue.read fuel
      (stops_cons (by decide : Char.isDigit ',' = false ∧ _)
        (more ++ '\x7d' :: rest))
      fun htoken hrest hlength => readValue_spells v htoken fuel hrest
        (by omega)
    have hlater := readFields_spells field fields hmore fuel
      ((key, v) :: done) rest (by omega)
    rw [List.append_assoc, List.cons_append, List.append_assoc,
      List.cons_append, readFields_comma fuel hname hblank done hread, hlater,
      List.reverse_cons, List.append_assoc]
    rfl

end

/-- The reader finds the value of every text, blanks at both ends or not. -/
theorem read?_spells {v : Value} {cs : List Char} (h : Padded v.Spells cs) :
    Value.read? cs = some v := by
  obtain ⟨blanks, hblank, hread⟩ := h.read (2 * cs.length + 1) stops_nil
    fun htoken hrest hlength => readValue_spells v htoken _ hrest (by omega)
  rw [List.append_nil, List.append_nil] at hread
  simp only [Value.read?, hread, List.dropWhile_eq_nil_iff.2 hblank]
  rfl

/-- A text stands for one value. -/
theorem Value.Spells.unique {v v' : Value} {cs : List Char}
    (h : Padded v.Spells cs) (h' : Padded v'.Spells cs) : v = v' :=
  Option.some.inj ((read?_spells h).symm.trans (read?_spells h'))

end DeviceGateway.Text.Json
