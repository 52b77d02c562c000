import DeviceGateway.Environment
import Mathlib.Data.List.Infix

/-!
# What expansion replaces

A reference is a dollar sign and a name in braces.  A name holds none of these
three characters, so two references in a text are the same one or stand apart:
the text falls into references and single characters in one way only, and the
references among these pieces are all that occur in it.  Expansion writes the
value of a variable in the place of each of them and every other character where
it was, also those of a reference that was begun and not completed.

The pass reads a text once.  At a dollar sign it gives out what it has held
back, whatever that was, so what stands in front of a reference is expanded as
if it were a text of its own; behind the closing brace nothing is held back, so
what follows is expanded on its own too.  A value is written between the two and
is not read.  That is why a reference inside a value, or one that a value makes
together with the characters next to it, stays as it is.

## Main results

* `step_cases`: one character completes a reference or is only added to what was
  read.
* `expandChars_reference`: a reference separates what stands around it.
* `expandChars_of_not_refers`: a text without references is left alone.
* `exists_cut`, `cut_unique`: the pieces of a text.
* `expand_references`: all of this, for every text and every environment.
-/

namespace DeviceGateway

open Text (isIdentifier isNameStart isNameChar isIdentifier_cons)

namespace Text

/-- A character that may not stand in a name does not. -/
theorem not_mem_of_isIdentifier {name : List Char}
    (h : isIdentifier name = true) {c : Char} (hc : isNameChar c = false) :
    c ∉ name := by
  cases name with
  | nil => exact List.not_mem_nil
  | cons first rest =>
    obtain ⟨hfirst, hrest⟩ := isIdentifier_cons.1 h
    intro hmem
    have hchar : isNameChar c = true := by
      rcases List.mem_cons.1 hmem with rfl | hmem
      · simp [isNameChar, hfirst]
      · exact hrest c hmem
    rw [hc] at hchar
    cases hchar

/-- What a name begins with is a name. -/
theorem isIdentifier_of_append {front back : List Char}
    (h : isIdentifier (front ++ back) = true) (hne : front ≠ []) :
    isIdentifier front = true := by
  obtain ⟨first, rest, rfl⟩ := List.exists_cons_of_ne_nil hne
  obtain ⟨hfirst, hrest⟩ := isIdentifier_cons.1 h
  exact isIdentifier_cons.2
    ⟨hfirst, fun d hd => hrest d (List.mem_append_left _ hd)⟩

end Text

namespace Environment

/-! ## References -/

/-- The reference to a variable as it is written. -/
def referenceTo (name : List Char) : List Char :=
  '$' :: '\x7b' :: (name ++ ['\x7d'])

/-- Whether a reference stands somewhere in a text. -/
def Refers (text : List Char) : Prop :=
  ∃ before name after, isIdentifier name = true ∧
    text = before ++ (referenceTo name ++ after)

theorem Refers.of_suffix {text front : List Char} (h : Refers text) :
    Refers (front ++ text) := by
  obtain ⟨before, name, after, hname, rfl⟩ := h
  exact ⟨front ++ before, name, after, hname, by rw [List.append_assoc]⟩

theorem dollar_not_mem {name : List Char} (h : isIdentifier name = true) :
    '$' ∉ name :=
  Text.not_mem_of_isIdentifier h (by decide)

theorem closing_not_mem {name : List Char} (h : isIdentifier name = true) :
    '\x7d' ∉ name :=
  Text.not_mem_of_isIdentifier h (by decide)

/-- A text may be cut in front of a character that does not stand in its first
part. -/
theorem append_eq_append_cons {part after front back : List Char} {c : Char}
    (hc : c ∉ part) (h : part ++ after = front ++ c :: back) :
    ∃ middle, front = part ++ middle ∧ after = middle ++ c :: back := by
  rcases List.append_eq_append_iff.1 h with ⟨middle, hfront, hafter⟩ |
    ⟨middle, hpart, hback⟩
  · exact ⟨middle, hfront, hafter⟩
  · cases middle with
    | nil => exact ⟨[], by simpa using hpart.symm, hback.symm⟩
    | cons d middle =>
      obtain ⟨rfl, -⟩ := List.cons.inj hback
      exact absurd (hpart ▸ List.mem_append_right front List.mem_cons_self) hc

/-- Two references at one place are the same. -/
theorem referenceTo_append_inj {name other after rest : List Char}
    (hname : isIdentifier name = true) (hother : isIdentifier other = true)
    (h : referenceTo name ++ after = referenceTo other ++ rest) :
    name = other ∧ after = rest := by
  have hinner : name ++ '\x7d' :: after = other ++ '\x7d' :: rest := by
    simpa [referenceTo] using h
  obtain ⟨middle, hmiddle, hafter⟩ :=
    append_eq_append_cons (closing_not_mem hname) hinner
  cases middle with
  | nil => exact ⟨by simpa using hmiddle.symm, (List.cons.inj hafter).2⟩
  | cons d middle =>
    obtain ⟨rfl, -⟩ := List.cons.inj hafter
    exact absurd (hmiddle ▸ List.mem_append_right name List.mem_cons_self)
      (closing_not_mem hother)

/-- Of two references of which one begins later, it begins behind the other. -/
theorem apart_of_append {name other before after rest : List Char}
    (hname : isIdentifier name = true) (hne : before ≠ [])
    (h : referenceTo name ++ after = before ++ (referenceTo other ++ rest)) :
    ∃ middle, before = referenceTo name ++ middle ∧
      after = middle ++ (referenceTo other ++ rest) := by
  obtain ⟨first, before, rfl⟩ := List.exists_cons_of_ne_nil hne
  obtain ⟨rfl, htail⟩ := List.cons.inj h
  have hdollar : '$' ∉ '\x7b' :: (name ++ ['\x7d']) := by
    simp [dollar_not_mem hname]
  obtain ⟨middle, rfl, hafter⟩ := append_eq_append_cons hdollar htail
  exact ⟨middle, rfl, hafter⟩

/-- Two references in a text are the same one, or one of them ends before the
other begins. -/
theorem same_or_apart {name other before after front back : List Char}
    (hname : isIdentifier name = true) (hother : isIdentifier other = true)
    (h : before ++ (referenceTo name ++ after) =
      front ++ (referenceTo other ++ back)) :
    (before = front ∧ name = other ∧ after = back) ∨
      (∃ middle, front = before ++ (referenceTo name ++ middle) ∧
        after = middle ++ (referenceTo other ++ back)) ∨
      ∃ middle, before = front ++ (referenceTo other ++ middle) ∧
        back = middle ++ (referenceTo name ++ after) := by
  rcases List.append_eq_append_iff.1 h with ⟨gap, rfl, hgap⟩ | ⟨gap, rfl, hgap⟩
  · by_cases hnil : gap = []
    · subst hnil
      exact .inl ⟨(List.append_nil _).symm,
        referenceTo_append_inj hname hother hgap⟩
    · obtain ⟨middle, rfl, hafter⟩ := apart_of_append hname hnil hgap
      exact .inr (.inl ⟨middle, rfl, hafter⟩)
  · by_cases hnil : gap = []
    · subst hnil
      exact .inl
        ⟨List.append_nil _, referenceTo_append_inj hname hother hgap.symm⟩
    · obtain ⟨middle, rfl, hback⟩ := apart_of_append hother hnil hgap
      exact .inr (.inr ⟨middle, rfl, hback⟩)

/-! ## The pass -/

variable (env : Environment)

/-- Where the pass can stand: what it takes for the beginning of a name is
one. -/
def Scan.Sound : Scan → Prop
  | .reference name => name = [] ∨ isIdentifier name.reverse = true
  | _ => True

/-- A character completes a reference, or what was held back and the character
are written or held back again. -/
theorem step_cases {s : Scan} (hs : s.Sound) (c : Char) :
    (∃ name, s = .reference name ∧ c = '\x7d' ∧
      isIdentifier name.reverse = true) ∨
      (s.pending ++ [c] = (step env s c).2 ++ (step env s c).1.pending ∧
        (step env s c).1.Sound) := by
  have hrestart : ∀ held : List Char,
      held ++ [c] = held ++ (Scan.restart c).2 ++ (Scan.restart c).1.pending ∧
        (Scan.restart c).1.Sound := by
    intro held
    by_cases hc : c = '$'
    · simp [Scan.restart, hc, Scan.pending, Scan.Sound]
    · simp [Scan.restart, hc, Scan.pending, Scan.Sound]
  cases s with
  | plain => exact .inr (hrestart [])
  | dollar =>
    right
    by_cases hc : c = '\x7b'
    · simp [step, hc, Scan.pending, Scan.Sound]
    · rw [step, if_neg hc]
      exact hrestart _
  | reference name =>
    by_cases hclose : c = '\x7d' ∧ name ≠ []
    · exact .inl ⟨name, rfl, hclose.1, hs.resolve_left hclose.2⟩
    · right
      rw [step, if_neg hclose]
      by_cases hname : isIdentifier (name.reverse ++ [c]) = true
      · rw [if_pos hname]
        simp [Scan.pending, Scan.Sound, hname]
      · rw [if_neg hname]
        exact hrestart _

private theorem expandFrom_done (done : List Char) (s : Scan) (cs : List Char) :
    expandFrom env done s cs = done.reverse ++ expandFrom env [] s cs := by
  induction cs generalizing done s with
  | nil => rfl
  | cons c rest ih =>
    rw [expandFrom, ih, expandFrom, ih ((step env s c).2.reverse ++ [])]
    simp

theorem expandFrom_cons (s : Scan) (c : Char) (rest : List Char) :
    expandFrom env [] s (c :: rest) =
      (step env s c).2 ++ expandFrom env [] (step env s c).1 rest := by
  rw [expandFrom, expandFrom_done]
  simp

/-- A dollar sign separates what follows it from what was read before. -/
theorem expandFrom_dollar (s : Scan) (before rest : List Char) :
    expandFrom env [] s (before ++ '$' :: rest) =
      expandFrom env [] s before ++ expandFrom env [] .dollar rest := by
  induction before generalizing s with
  | nil =>
    have hstep : step env s '$' = (.dollar, s.pending) := by
      cases s with
      | plain => rfl
      | dollar => rfl
      | reference name =>
        have hname : ¬ isIdentifier (name.reverse ++ ['$']) = true :=
          fun h => dollar_not_mem h (by simp)
        simp [step, hname, Scan.restart]
    rw [List.nil_append, expandFrom_cons, hstep]
    rfl
  | cons c before ih =>
    rw [List.cons_append, expandFrom_cons, expandFrom_cons, ih,
      List.append_assoc]

/-- A name that goes on to its closing brace gives its value. -/
theorem expandFrom_name (held more after : List Char)
    (hname : isIdentifier (held.reverse ++ more) = true) :
    expandFrom env [] (.reference held) (more ++ '\x7d' :: after) =
      ((env (String.ofList (held.reverse ++ more))).getD "").toList ++
        expandFrom env [] .plain after := by
  induction more generalizing held with
  | nil =>
    have hheld : held ≠ [] := by
      rintro rfl
      cases hname
    rw [List.nil_append, expandFrom_cons, step, if_pos ⟨rfl, hheld⟩,
      List.append_nil]
  | cons c more ih =>
    have hc : c ≠ '\x7d' := by
      rintro rfl
      exact closing_not_mem hname (by simp)
    have hsplit : held.reverse ++ c :: more = held.reverse ++ [c] ++ more := by
      simp
    have hfront : isIdentifier (held.reverse ++ [c]) = true := by
      rw [hsplit] at hname
      exact Text.isIdentifier_of_append hname (by simp)
    have hlater : isIdentifier ((c :: held).reverse ++ more) = true := by
      rw [List.reverse_cons, ← hsplit]
      exact hname
    rw [List.cons_append, expandFrom_cons, step, if_neg fun h => hc h.1,
      if_pos hfront]
    rw [List.nil_append, ih (c :: held) hlater, List.reverse_cons, hsplit]

/-- What stands around a reference is expanded on its own, and the value between
it is not expanded. -/
theorem expandChars_reference {name : List Char}
    (hname : isIdentifier name = true) (before after : List Char) :
    expandChars env (before ++ (referenceTo name ++ after)) =
      expandChars env before ++
        (((env (String.ofList name)).getD "").toList ++
          expandChars env after) := by
  have hdollar : before ++ (referenceTo name ++ after) =
      before ++ '$' :: ('\x7b' :: (name ++ '\x7d' :: after)) := by
    simp [referenceTo]
  have hopen : step env .dollar '\x7b' = (.reference [], []) := rfl
  rw [expandChars, hdollar, expandFrom_dollar, expandFrom_cons, hopen,
    List.nil_append, expandFrom_name env [] name after hname]
  rfl

/-- A text without references is left alone: what is held back is part of the
text that is still to be written. -/
theorem expandChars_of_not_refers {text : List Char} (h : ¬ Refers text) :
    expandChars env text = text := by
  have hall : ∀ (cs : List Char) (s : Scan), s.Sound →
      ¬ Refers (s.pending ++ cs) →
      expandFrom env [] s cs = s.pending ++ cs := by
    intro cs
    induction cs with
    | nil =>
      intro s _ _
      rw [List.append_nil]
      rfl
    | cons c rest ih =>
      intro s hs hnone
      rcases step_cases env hs c with ⟨name, rfl, rfl, hname⟩ | ⟨hsame, hnext⟩
      · refine absurd ⟨[], name.reverse, rest, hname, ?_⟩ hnone
        simp [Scan.pending, referenceTo]
      · have hsplit : s.pending ++ c :: rest =
            (step env s c).2 ++ ((step env s c).1.pending ++ rest) := by
          rw [← List.append_assoc, ← hsame]
          simp
        rw [hsplit] at hnone ⊢
        rw [expandFrom_cons, ih _ hnext fun hrefers => hnone hrefers.of_suffix]
  exact hall text .plain trivial h

/-! ## Pieces -/

/-- A piece of a text: a character that stands for itself, or a reference. -/
inductive Piece where
  | char (c : Char)
  | reference (name : List Char)
  deriving DecidableEq, Repr

namespace Piece

/-- A piece as it is written. -/
def written : Piece → List Char
  | char c => [c]
  | reference name => referenceTo name

/-- A piece with the value in the place of a reference. -/
def filled : Piece → List Char
  | char c => [c]
  | reference name => ((env (String.ofList name)).getD "").toList

theorem written_ne_nil (piece : Piece) : piece.written ≠ [] := by
  cases piece <;> exact List.cons_ne_nil _ _

end Piece

/-- Whether pieces make up a text, with all references in it among them. -/
structure Cut (pieces : List Piece) (text : List Char) : Prop where
  written : pieces.flatMap Piece.written = text
  named : ∀ name, .reference name ∈ pieces → isIdentifier name = true
  /-- A reference that occurs in the text is a piece, with the others around
  it. -/
  complete : ∀ before name after, isIdentifier name = true →
    text = before ++ (referenceTo name ++ after) →
    ∃ front back, pieces = front ++ .reference name :: back ∧
      front.flatMap Piece.written = before ∧ back.flatMap Piece.written = after

private theorem cut_of_not_refers {text : List Char} (h : ¬ Refers text) :
    Cut (text.map Piece.char) text := by
  refine ⟨?_, fun name hmem => ?_, fun before name after hname heq => ?_⟩
  · rw [List.flatMap_map]
    exact List.flatMap_singleton' text
  · obtain ⟨c, -, hc⟩ := List.mem_map.1 hmem
    cases hc
  · exact absurd ⟨before, name, after, hname, heq⟩ h

/-- The pieces of two texts and a reference between them. -/
theorem Cut.around {front back : List Piece} {before after name : List Char}
    (hfront : Cut front before) (hback : Cut back after)
    (hname : isIdentifier name = true) :
    Cut (front ++ .reference name :: back)
      (before ++ (referenceTo name ++ after)) := by
  refine ⟨?_, fun other hmem => ?_, fun start other rest hother heq => ?_⟩
  · rw [List.flatMap_append, List.flatMap_cons, hfront.written, hback.written]
    rfl
  · rcases List.mem_append.1 hmem with hmem | hmem
    · exact hfront.named other hmem
    · rcases List.mem_cons.1 hmem with hsame | hmem
      · obtain rfl := Piece.reference.inj hsame
        exact hname
      · exact hback.named other hmem
  · rcases same_or_apart hname hother heq with
      ⟨rfl, rfl, rfl⟩ | ⟨middle, rfl, rfl⟩ | ⟨middle, rfl, rfl⟩
    · exact ⟨front, back, rfl, hfront.written, hback.written⟩
    · obtain ⟨inner, outer, rfl, hinner, houter⟩ :=
        hback.complete middle other rest hother rfl
      refine ⟨front ++ .reference name :: inner, outer, by simp, ?_, houter⟩
      rw [List.flatMap_append, List.flatMap_cons, hfront.written, hinner]
      rfl
    · obtain ⟨inner, outer, rfl, hinner, houter⟩ :=
        hfront.complete start other middle hother rfl
      refine ⟨inner, outer ++ .reference name :: back, by simp, hinner, ?_⟩
      rw [List.flatMap_append, List.flatMap_cons, houter, hback.written]
      rfl

/-- Every text has pieces, and expansion fills them: a reference leaves two
shorter texts. -/
theorem exists_cut (text : List Char) :
    ∃ pieces, Cut pieces text ∧
      ∀ env, expandChars env text = pieces.flatMap (Piece.filled env) := by
  induction hlength : text.length using Nat.strongRecOn generalizing text with
  | ind size ih =>
    by_cases hrefers : Refers text
    · obtain ⟨before, name, after, hname, rfl⟩ := hrefers
      simp only [referenceTo, List.length_append, List.length_cons] at hlength
      obtain ⟨front, hfront, hbefore⟩ := ih before.length (by omega) before rfl
      obtain ⟨back, hback, hafter⟩ := ih after.length (by omega) after rfl
      refine ⟨front ++ .reference name :: back, hfront.around hback hname,
        fun env => ?_⟩
      rw [expandChars_reference env hname, hbefore env, hafter env,
        List.flatMap_append, List.flatMap_cons]
      rfl
    · refine ⟨text.map Piece.char, cut_of_not_refers hrefers, fun env => ?_⟩
      rw [expandChars_of_not_refers env hrefers, List.flatMap_map]
      exact (List.flatMap_singleton' text).symm

/-- A reference with which a text begins is its first piece. -/
theorem Cut.head_of_reference {pieces : List Piece} {name after : List Char}
    (h : Cut pieces (referenceTo name ++ after))
    (hname : isIdentifier name = true) :
    ∃ back, pieces = .reference name :: back := by
  obtain ⟨front, back, hpieces, hfront, -⟩ := h.complete [] name after hname rfl
  have hnil : front = [] := by
    cases front with
    | nil => rfl
    | cons piece front =>
      rw [List.flatMap_cons] at hfront
      exact absurd (List.append_eq_nil_iff.1 hfront).1 piece.written_ne_nil
  subst hnil
  exact ⟨back, hpieces⟩

theorem Cut.tail {piece : Piece} {pieces : List Piece} {text : List Char}
    (h : Cut (piece :: pieces) text) :
    Cut pieces (pieces.flatMap Piece.written) := by
  have htext : piece.written ++ pieces.flatMap Piece.written = text := h.written
  refine ⟨rfl, fun name hmem => h.named name (List.mem_cons_of_mem _ hmem),
    fun before name after hname heq => ?_⟩
  rw [heq, ← List.append_assoc] at htext
  obtain ⟨front, back, hpieces, hfront, hback⟩ :=
    h.complete _ name after hname htext.symm
  cases front with
  | nil =>
    exact absurd (List.append_eq_nil_iff.1 hfront.symm).1 piece.written_ne_nil
  | cons first front =>
    obtain ⟨rfl, rfl⟩ := List.cons.inj hpieces
    rw [List.flatMap_cons] at hfront
    exact ⟨front, back, rfl, List.append_cancel_left hfront, hback⟩

/-- A text has its pieces in one way only. -/
theorem cut_unique {pieces others : List Piece} {text : List Char}
    (h : Cut pieces text) (h' : Cut others text) : pieces = others := by
  induction pieces generalizing others text with
  | nil =>
    have hnil : others.flatMap Piece.written = [] :=
      h'.written.trans h.written.symm
    cases others with
    | nil => rfl
    | cons other others =>
      rw [List.flatMap_cons] at hnil
      exact absurd (List.append_eq_nil_iff.1 hnil).1 other.written_ne_nil
  | cons piece pieces ih =>
    have htext : piece.written ++ pieces.flatMap Piece.written = text :=
      h.written
    have hfirst : ∃ rest, others = piece :: rest := by
      cases piece with
      | reference name =>
        rw [← htext] at h'
        exact h'.head_of_reference (h.named name List.mem_cons_self)
      | char c =>
        cases others with
        | nil =>
          rw [← h'.written] at htext
          exact absurd htext (List.cons_ne_nil _ _)
        | cons other others =>
          have hother : other.written ++ others.flatMap Piece.written = text :=
            h'.written
          cases other with
          | char d =>
            obtain ⟨rfl, -⟩ := List.cons.inj (htext.trans hother.symm)
            exact ⟨others, rfl⟩
          | reference name =>
            rw [← hother] at h
            obtain ⟨back, hback⟩ :=
              h.head_of_reference (h'.named name List.mem_cons_self)
            cases (List.cons.inj hback).1
    obtain ⟨rest, rfl⟩ := hfirst
    have hother : piece.written ++ rest.flatMap Piece.written = text :=
      h'.written
    have hrest : rest.flatMap Piece.written = pieces.flatMap Piece.written :=
      List.append_cancel_left (hother.trans htext.symm)
    have htail := h'.tail
    rw [hrest] at htail
    rw [ih h.tail htail]

/-- A text falls into references and single characters in one way, such that
every reference that occurs in it is one of these pieces.  Expansion puts the
value of the variable, or nothing if it is not set, in the place of each
reference, and leaves each of the other characters where it is.  What stands in
front of a reference and what follows it is expanded as if it stood alone, and
the value is not read.  So a text in which no reference occurs is left alone,
and one that was expanded is too, if none has come up. -/
theorem expand_references :
    (∀ s : String, ∃ pieces, Cut pieces s.toList ∧
      (∀ others, Cut others s.toList → others = pieces) ∧
      ∀ env, (expand env s).toList = pieces.flatMap (Piece.filled env)) ∧
    (∀ env before name after, isIdentifier name.toList = true →
      expand env (before ++ "$\x7b" ++ name ++ "\x7d" ++ after) =
        expand env before ++ (env name).getD "" ++ expand env after) ∧
    (∀ env s, ¬ Refers s.toList → expand env s = s) ∧
    (∀ env s, ¬ Refers (expand env s).toList →
      expand env (expand env s) = expand env s) := by
  have hfixed : ∀ env s, ¬ Refers s.toList → expand env s = s := by
    intro env s h
    rw [expand, expandChars_of_not_refers env h, String.ofList_toList]
  refine ⟨fun s => ?_, fun env before name after hname => ?_, hfixed,
    fun env s h => hfixed env _ h⟩
  · obtain ⟨pieces, hcut, hfilled⟩ := exists_cut s.toList
    refine ⟨pieces, hcut, fun others hothers => cut_unique hothers hcut,
      fun env => ?_⟩
    rw [expand, String.toList_ofList]
    exact hfilled env
  · have htext : (before ++ "$\x7b" ++ name ++ "\x7d" ++ after).toList =
        before.toList ++ (referenceTo name.toList ++ after.toList) := by
      simp [referenceTo]
    rw [← String.toList_inj, expand, String.toList_ofList, htext,
      expandChars_reference env hname]
    simp [expand]

/-- A value may hold a reference, or make one with what stands next to it. -/
example : expand (ofList [("A", "$\x7b"), ("B", "$\x7bA\x7d")])
    "$\x7b$\x7bA\x7dB\x7d$\x7bB\x7d$\x7b\x7d$" =
      "$\x7b$\x7bB\x7d$\x7bA\x7d$\x7b\x7d$" := by
  decide

end Environment

end DeviceGateway
