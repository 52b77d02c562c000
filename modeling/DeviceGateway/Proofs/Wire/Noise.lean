import DeviceGateway.Proofs.Wire.Segments
import DeviceGateway.Proofs.Wire.Tokens

/-!
# Noise

A line may say nothing: it is longer than a line may be, or it is no text, it
has fewer than three fields, or its device is blank.  Such a line is noise.  The
line decoder reports the first kind and gives out the others, which the layout
cannot read, so both leave a trace in what is found of a stream, but neither has
a part in what the stream tells.

Noise that stands where a line may begin, and that has an end of its own, does
not disturb its neighbours either.  What comes before it is reported as it would
be if nothing followed, and what comes after it is reported as if nothing had
preceded it, whether or not the decoder is still inside an over-long line by
then.

Two decoders `Concur` if they will tell the same of whatever more arrives.  A
look at something that tells nothing keeps this up on either side; two looks
that tell something tell the same.

## Main results

* `illegible_iff`: the lines that no layout can read, told from their text
  alone.
* `told_slip`: noise between two lines changes nothing in what a stream tells.
* `Concur.look_silent`, `Concur.look_both`: how decoders that concur go on.
* `Continues.slip`: a decoder does not mind noise in what it will read.
-/

namespace DeviceGateway.Wire

open Bytes.Utf8 (encode decode_eq_ok_iff)

/-! ## Lines that say nothing -/

namespace Layout

variable {layout : Layout} {line : List UInt8}

/-- What keeps a line from being read. -/
inductive Illegible (layout : Layout) (line : List UInt8) : Prop
  | notText (h : ∀ text, line ≠ encode text)
  | tooFewFields (text : List Char) (h : line = encode text)
      (hfew : (fields text).length < 3)
  | blankDevice (text : List Char) (h : line = encode text) (device : List Char)
      (hdevice : (fields text)[layout.positions.device]? = some device)
      (hblank : Text.trim (String.ofList device) = "")

/-- Fields are refused if they are too few or if the device among them is
blank. -/
theorem entryOf_eq_error_iff (layout : Layout) (name : String)
    (fs : List (List Char)) :
    (∃ fault, layout.entryOf name fs = .error fault) ↔
      fs.length < 3 ∨
        ∃ device, fs[layout.positions.device]? = some device ∧
          Text.trim (String.ofList device) = "" := by
  rcases Nat.lt_or_ge fs.length 3 with hshort | hlong
  · exact iff_of_true ⟨_, layout.entryOf_of_lt name hshort⟩ (.inl hshort)
  · rcases layout.entryOf_of_long name hlong with ⟨hblank, hrefused⟩ |
      ⟨hsound, entry, hentry, -⟩
    · exact iff_of_true ⟨_, hrefused⟩ (.inr hblank)
    · refine iff_of_false ?_ (not_or.2 ⟨Nat.not_lt.2 hlong, hsound⟩)
      rintro ⟨fault, hfault⟩
      cases hentry.symm.trans hfault

/-- A line is illegible if and only if its layout refuses it, for a tenant of
any name. -/
theorem illegible_iff (name : String) :
    layout.Illegible line ↔
      ∃ fault, layout.decode name line = .error fault := by
  unfold decode
  cases hread : Bytes.Utf8.decode line with
  | error fault =>
    refine ⟨fun _ => ⟨_, rfl⟩, fun _ => .notText fun text htext => ?_⟩
    rw [decode_eq_ok_iff.2 htext] at hread
    cases hread
  | ok text =>
    have htext : line = encode text := decode_eq_ok_iff.1 hread
    have hsame : ∀ other, line = encode other → other = text := by
      intro other hother
      rw [decode_eq_ok_iff.2 hother] at hread
      exact Except.ok.inj hread
    refine Iff.trans ?_ (entryOf_eq_error_iff layout name (fields text)).symm
    constructor
    · rintro (hnot | ⟨other, hother, hfew⟩ | ⟨other, hother, device, hdevice,
        hblank⟩)
      · exact absurd htext (hnot text)
      · rw [hsame other hother] at hfew
        exact .inl hfew
      · rw [hsame other hother] at hdevice
        exact .inr ⟨device, hdevice, hblank⟩
    · rintro (hfew | ⟨device, hdevice, hblank⟩)
      · exact .tooFewFields text htext hfew
      · exact .blankDevice text htext device hdevice hblank

/-- Whether something that is found in a stream tells anything: a line does if
it can be read. -/
def tells (layout : Layout) : Except Wire.Fault Frame → Bool
  | .ok (.line line) => (layout.decode "" line).isOk
  | .ok _ => true
  | .error _ => false

private theorem tells_line_of_illegible (h : layout.Illegible line) :
    layout.tells (.ok (.line line)) = false := by
  obtain ⟨fault, hfault⟩ := (illegible_iff "").1 h
  show (layout.decode "" line).isOk = false
  rw [hfault]
  rfl

theorem illegible_of_tells_line (h : layout.tells (.ok (.line line)) = false) :
    layout.Illegible line := by
  refine (illegible_iff "").2 ?_
  cases hread : layout.decode "" line with
  | error fault => exact ⟨fault, rfl⟩
  | ok entry =>
    have hsome : (layout.decode "" line).isOk = false := h
    rw [hread] at hsome
    cases hsome

/-- A line that says nothing, without the line feed at its end. -/
structure Noise (layout : Layout) (max : Nat) (line : List UInt8) : Prop where
  single : Lines.lineFeed ∉ line
  useless : max < line.length ∨ layout.Illegible (Lines.stripReturn line)

theorem Noise.silent {max : Nat} (h : layout.Noise max line) :
    layout.tells (Lines.report max line) = false := by
  unfold Lines.report
  split
  · next hshort =>
    exact tells_line_of_illegible (h.useless.resolve_left (Nat.not_lt.2 hshort))
  · rfl

end Layout

/-! ## Streams with noise -/

namespace Lines

/-- Whether the next octet of a stream is the first of a line. -/
def AtLineStart (bytes : List UInt8) : Prop :=
  bytes = [] ∨ bytes.getLast? = some lineFeed

instance (bytes : List UInt8) : Decidable (AtLineStart bytes) :=
  inferInstanceAs (Decidable (_ ∨ _))

theorem AtLineStart.of_append {front back : List UInt8}
    (h : AtLineStart (front ++ back)) :
    AtLineStart back := by
  rcases back.eq_nil_or_concat with rfl | ⟨init, last, rfl⟩
  · exact .inl rfl
  · rcases h with hnil | hlast
    · simp at hnil
    · right
      simpa using hlast

/-- Where a line begins, what is reported of a stream falls into two parts. -/
theorem reports_append (max : Nat) {front : List UInt8} (h : AtLineStart front)
    (back : List UInt8) :
    reports max (front ++ back) = reports max front ++ reports max back := by
  induction hlength : front.length using Nat.strongRecOn generalizing front with
  | ind n ih =>
    subst hlength
    rcases segmented front with hnone | ⟨segment, rest, hsegment, rfl⟩
    · rcases h with rfl | hlast
      · rw [reports_of_not_mem max List.not_mem_nil]
        simp
      · exact absurd (List.mem_of_getLast? hlast) hnone
    · have hless : rest.length < (segment ++ lineFeed :: rest).length := by
        rw [List.length_append, List.length_cons]
        omega
      have hrest : AtLineStart rest := by
        rw [← List.singleton_append, ← List.append_assoc] at h
        exact h.of_append
      rw [List.append_assoc, List.cons_append, reports_segment max hsegment,
        reports_segment max hsegment, ih rest.length hless hrest rfl,
        List.cons_append]

/-- What a stream tells. -/
def told (layout : Layout) (max : Nat) (bytes : List UInt8) :
    List (Except Fault Frame) :=
  (reports max bytes).filter layout.tells

/-- Noise where a line begins changes nothing in what a stream tells. -/
theorem told_slip {layout : Layout} {max : Nat} {front line : List UInt8}
    (h : AtLineStart front) (hnoise : layout.Noise max line)
    (back : List UInt8) :
    told layout max (front ++ (line ++ lineFeed :: back)) =
      told layout max (front ++ back) := by
  have hsilent := hnoise.silent
  rw [told, told, reports_append max h, reports_append max h,
    reports_segment max hnoise.single, List.filter_append, List.filter_append,
    List.filter_cons_of_neg (by rw [hsilent]; exact Bool.false_ne_true)]

end Lines

/-! ## Decoders that concur -/

namespace Decoder

/-- A look of a line decoder ends nothing and leaves a line decoder. -/
theorem next_lines_mild {state : Lines.Decoder} {input rest : List UInt8}
    {outcome : Option (Except Fault Frame)} {d : Decoder}
    (h : (lines state).next input = (outcome, d, rest)) :
    (∃ state', d = lines state') ∧ ∀ o, outcome = some o →
      goesOn unlessFatal o = true := by
  simp only [next, Prod.mk.injEq] at h
  obtain ⟨houtcome, rfl, rfl⟩ := h
  refine ⟨⟨_, rfl⟩, fun o ho => ?_⟩
  rw [ho] at houtcome
  obtain ⟨result, hresult, rfl⟩ := Option.map_eq_some_iff.1 houtcome
  cases result with
  | ok line => rfl
  | error fault =>
    have hnext : state.next input =
        (some (.error fault), (state.next input).2.1,
          (state.next input).2.2) := by
      rw [← hresult]
    rw [Lines.next_fault hnext]
    rfl

/-- There is nothing to be found where nothing is. -/
theorem next_lines_nil (state : Lines.Decoder) :
    (lines state).next [] = (none, lines state, []) := by
  obtain ⟨max, discarding⟩ := state
  cases discarding with
  | true => exact next_inside_tail List.not_mem_nil
  | false => exact next_tail List.not_mem_nil (Nat.zero_le max)

section Drain

variable {d d' : Decoder} {input rest : List UInt8}

/-- A look that finds nothing leaves the rest of the stream as it is. -/
theorem drain_look_none (h : d.next input = (none, d', rest))
    (more : List UInt8) :
    d.drain (input ++ more) = d'.drain (rest ++ more) :=
  drain_eq (.of_next_eq (next_append_none h more)
    (reads_drain d' (rest ++ more)))

theorem drain_look_some {o : Except Fault Frame}
    (h : d.next input = (some o, d', rest)) (hgo : goesOn unlessFatal o = true)
    (more : List UInt8) :
    (d.drain (input ++ more)).1 = o :: (d'.drain (rest ++ more)).1 :=
  congrArg Prod.fst
    (drain_eq (.more (next_append_some h hgo more) hgo (reads_drain d' _)))

end Drain

/-- Two decoders in front of their inputs will tell the same, whatever more
arrives. -/
def Concur (layout : Layout) (d : Decoder) (input : List UInt8) (d' : Decoder)
    (input' : List UInt8) : Prop :=
  ∀ more, (d.drain (input ++ more)).1.filter layout.tells =
    (d'.drain (input' ++ more)).1.filter layout.tells

namespace Concur

variable {layout : Layout} {d d' d₁ d₁' : Decoder}
  {input input' rest rest' : List UInt8} {o o' : Except Fault Frame}

theorem refl (layout : Layout) (d : Decoder) (input : List UInt8) :
    Concur layout d input d input :=
  fun _ => rfl

theorem symm (h : Concur layout d input d' input') :
    Concur layout d' input' d input :=
  fun more => (h more).symm

theorem arrive (h : Concur layout d input d' input') (bytes : List UInt8) :
    Concur layout d (input ++ bytes) d' (input' ++ bytes) := by
  intro more
  rw [List.append_assoc, List.append_assoc]
  exact h (bytes ++ more)

theorem look_none (h : Concur layout d input d' input')
    (hnext : d.next input = (none, d₁, rest)) :
    Concur layout d₁ rest d' input' := by
  intro more
  rw [← drain_look_none hnext]
  exact h more

/-- A look that tells nothing makes no difference. -/
theorem look_silent (h : Concur layout d input d' input')
    (hnext : d.next input = (some o, d₁, rest))
    (hgo : goesOn unlessFatal o = true) (hsilent : layout.tells o = false) :
    Concur layout d₁ rest d' input' := by
  intro more
  rw [← h more, drain_look_some hnext hgo,
    List.filter_cons_of_neg (by rw [hsilent]; exact Bool.false_ne_true)]

/-- Looks that tell something tell the same. -/
theorem look_both (h : Concur layout d input d' input')
    (hnext : d.next input = (some o, d₁, rest))
    (hgo : goesOn unlessFatal o = true) (htells : layout.tells o = true)
    (hnext' : d'.next input' = (some o', d₁', rest'))
    (hgo' : goesOn unlessFatal o' = true) (htells' : layout.tells o' = true) :
    o' = o ∧ Concur layout d₁ rest d₁' rest' := by
  have hboth : ∀ more, o = o' ∧
      (d₁.drain (rest ++ more)).1.filter layout.tells =
      (d₁'.drain (rest' ++ more)).1.filter layout.tells := by
    intro more
    have hmore := h more
    rw [drain_look_some hnext hgo, drain_look_some hnext' hgo',
      List.filter_cons_of_pos htells, List.filter_cons_of_pos htells'] at hmore
    exact List.cons.inj hmore
  exact ⟨(hboth []).1.symm, fun more => (hboth more).2⟩

/-- If one finds nothing, the other finds nothing that tells anything. -/
theorem silent_of_none (h : Concur layout d input d' input')
    (hnext : d.next input = (none, d₁, rest))
    (hnext' : d'.next input' = (some o', d₁', rest'))
    (hgo' : goesOn unlessFatal o' = true) : layout.tells o' = false := by
  have hall := h []
  have hnone : d.drain input = ([], d₁, rest) := drain_eq (.done hnext)
  rw [List.append_nil, hnone, drain_look_some hnext' hgo'] at hall
  cases htells : layout.tells o' with
  | false => rfl
  | true =>
    rw [List.filter_cons_of_pos htells] at hall
    cases hall

end Concur

/-- A decoder does not mind noise in what it will read: whatever follows comes
behind the same outcomes of the stream as a whole. -/
theorem Continues.slip {layout : Layout} {max : Nat} {arrived : List UInt8}
    {os : List (Except Fault Frame)} {d : Decoder}
    {input front line : List UInt8}
    (h : Continues (outside max) arrived os d input)
    (hstart : Lines.AtLineStart (arrived ++ front))
    (hnoise : layout.Noise max line) (back : List UInt8) :
    Concur layout d (input ++ (front ++ back))
      d (input ++ (front ++ (line ++ Lines.lineFeed :: back))) := by
  have hwhole : ∀ more,
      Lines.reports max (arrived ++ more) =
        os ++ (d.drain (input ++ more)).1 := by
    intro more
    have hreads := h more _ _ _ (reads_drain d (input ++ more))
    exact (reads_lines max (arrived ++ more)).unique hreads |>.1
  intro more
  have hplain := congrArg (List.filter layout.tells)
    (hwhole (front ++ back ++ more))
  have hnoisy := congrArg (List.filter layout.tells)
    (hwhole (front ++ (line ++ Lines.lineFeed :: back) ++ more))
  have htold := Lines.told_slip hstart hnoise (back ++ more)
  simp only [Lines.told, List.append_assoc, List.cons_append]
    at hplain hnoisy htold ⊢
  rw [htold, hplain, List.filter_append, List.filter_append] at hnoisy
  exact List.append_cancel_left hnoisy

end Decoder

end DeviceGateway.Wire
