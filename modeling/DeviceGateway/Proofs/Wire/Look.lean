import DeviceGateway.Proofs.Wire.Resumption

/-!
# A look when more has arrived

A decoder looks at the input that has arrived, and the next chunk is put behind
what the look has left.  Nothing is lost in this if a look does not depend on
how much has arrived: one that gives an outcome gives the same when more stands
behind the input, and one that gives nothing leaves a decoder and an input that
do as well as those before it.

For binary frames the waiting look changes nothing.  For lines it may: inside an
over-long line everything up to the line feed is dropped, also while that line
feed has not arrived.  A fatal fault is found again, too, but nothing is left of
the input then, so what stands behind it is dropped with it.

A look that gives something uses the input up, with one exception.  The report
of an over-long line leaves the input as it is, and the look after it drops the
line; `credit` counts this one look.

## Main results

* `next_append_none`, `next_append_some`, `next_append_fatal`: a look when more
  has arrived.
* `next_credit`: a look that gives something brings the end nearer.
-/

namespace DeviceGateway.Wire

namespace Lines

/-! ## Lines -/

private theorem cutFrom_append_some {done input line rest : List UInt8}
    {room : Nat} (h : cutFrom done room input = some (line, rest))
    (more : List UInt8) :
    cutFrom done room (input ++ more) = some (line, rest ++ more) := by
  induction room generalizing done input with
  | zero => exact absurd h (by simp [cutFrom])
  | succ room ih =>
    cases input with
    | nil => exact absurd h (by simp [cutFrom])
    | cons b input =>
      simp only [List.cons_append, cutFrom] at h ⊢
      by_cases hfeed : b = lineFeed
      · rw [if_pos hfeed] at h ⊢
        simp only [Option.some.injEq, Prod.mk.injEq] at h
        obtain ⟨rfl, rfl⟩ := h
        rfl
      · rw [if_neg hfeed] at h ⊢
        exact ih h

/-- With as many octets as are looked at, what follows does not matter. -/
theorem cutFrom_append_none {done input : List UInt8} {room : Nat}
    (h : cutFrom done room input = none) (hfull : room ≤ input.length)
    (more : List UInt8) :
    cutFrom done room (input ++ more) = none := by
  induction room generalizing done input with
  | zero => simp [cutFrom]
  | succ room ih =>
    cases input with
    | nil => exact absurd hfull (by simp)
    | cons b input =>
      simp only [List.cons_append, cutFrom] at h ⊢
      by_cases hfeed : b = lineFeed
      · rw [if_pos hfeed] at h
        cases h
      · rw [if_neg hfeed] at h ⊢
        exact ih h (Nat.le_of_succ_le_succ hfull)

theorem skipLine_append_some {input rest : List UInt8}
    (h : skipLine input = some rest) (more : List UInt8) :
    skipLine (input ++ more) = some (rest ++ more) := by
  induction input with
  | nil => cases h
  | cons b input ih =>
    simp only [List.cons_append, skipLine] at h ⊢
    by_cases hfeed : b = lineFeed
    · rw [if_pos hfeed] at h ⊢
      obtain rfl := Option.some.inj h
      rfl
    · rw [if_neg hfeed] at h ⊢
      exact ih h

private theorem skipLine_append_none {input : List UInt8}
    (h : skipLine input = none) (more : List UInt8) :
    skipLine (input ++ more) = skipLine more := by
  induction input with
  | nil => rfl
  | cons b input ih =>
    simp only [List.cons_append, skipLine] at h ⊢
    by_cases hfeed : b = lineFeed
    · rw [if_pos hfeed] at h
      cases h
    · rw [if_neg hfeed] at h ⊢
      exact ih h

private theorem skipLine_length {input rest : List UInt8}
    (h : skipLine input = some rest) :
    rest.length < input.length := by
  induction input with
  | nil => cases h
  | cons b input ih =>
    simp only [skipLine] at h
    by_cases hfeed : b = lineFeed
    · rw [if_pos hfeed] at h
      obtain rfl := Option.some.inj h
      simp
    · rw [if_neg hfeed] at h
      have := ih h
      rw [List.length_cons]
      omega

/-- The ways in which a look at an input outside of an over-long line can go. -/
inductive Looked (max : Nat) (input : List UInt8) :
    Option (Except Fault (List UInt8)) × Decoder × List UInt8 → Prop
  | line (line rest : List UInt8)
      (hcut : cut (max + 1) input = some (line, rest)) :
      Looked max input (some (.ok (stripReturn line)), ⟨max, false⟩, rest)
  | tooLong (hcut : cut (max + 1) input = none) (hlong : max < input.length) :
      Looked max input (some (.error (.lineTooLong max)), ⟨max, true⟩, input)
  | wait (hcut : cut (max + 1) input = none) (hshort : input.length ≤ max) :
      Looked max input (none, ⟨max, false⟩, input)

theorem looked (max : Nat) (discarding : Bool) (input : List UInt8) :
    Looked max input (Decoder.nextLine ⟨max, discarding⟩ input) := by
  unfold Decoder.nextLine
  cases hcut : cut (max + 1) input with
  | some parts => exact .line parts.1 parts.2 hcut
  | none =>
    by_cases hshort : input.length ≤ max
    · have hnone : (input.drop max).isEmpty = true := by simpa using hshort
      simp only [hnone, if_true]
      exact .wait hcut hshort
    · have hsome : (input.drop max).isEmpty = false := by
        rw [List.isEmpty_eq_false_iff, ne_eq, List.drop_eq_nil_iff]
        exact hshort
      simp only [hsome, Bool.false_eq_true, if_false]
      exact .tooLong hcut (Nat.lt_of_not_le hshort)

/-- Whether the input was inside an over-long line is forgotten with it. -/
theorem nextLine_discarding (max : Nat) (discarding : Bool)
    (input : List UInt8) :
    Decoder.nextLine ⟨max, discarding⟩ input =
      Decoder.nextLine ⟨max, false⟩ input := rfl

private theorem nextLine_append_some {d d' : Decoder} {input rest : List UInt8}
    {o : Except Fault (List UInt8)} (h : d.nextLine input = (some o, d', rest))
    (more : List UInt8) :
    d.nextLine (input ++ more) = (some o, d', rest ++ more) := by
  have hcase := looked d.max d.discarding input
  rw [h] at hcase
  cases hcase with
  | line line rest hcut =>
    have hcut' := cutFrom_append_some hcut more
    simp only [Decoder.nextLine, cut, hcut']
  | tooLong hcut hlong =>
    have hcut' := cutFrom_append_none hcut hlong more
    have hsome : ((input ++ more).drop d.max).isEmpty = false := by
      rw [List.isEmpty_eq_false_iff, ne_eq, List.drop_eq_nil_iff,
        List.length_append]
      omega
    simp only [Decoder.nextLine, cut, hcut', hsome, Bool.false_eq_true,
      if_false]

private theorem nextLine_eq_none {d d' : Decoder} {input rest : List UInt8}
    (h : d.nextLine input = (none, d', rest)) :
    d' = ⟨d.max, false⟩ ∧ rest = input := by
  have hcase := looked d.max d.discarding input
  rw [h] at hcase
  cases hcase with
  | wait hcut hshort => exact ⟨rfl, rfl⟩

theorem next_append_some {d d' : Decoder} {input rest : List UInt8}
    {o : Except Fault (List UInt8)} (h : d.next input = (some o, d', rest))
    (more : List UInt8) :
    d.next (input ++ more) = (some o, d', rest ++ more) := by
  unfold Decoder.next at h ⊢
  by_cases hdiscarding : d.discarding = true
  · rw [if_pos hdiscarding] at h ⊢
    cases hskip : skipLine input with
    | none =>
      rw [hskip] at h
      cases h
    | some front =>
      rw [hskip] at h
      rw [skipLine_append_some hskip]
      exact nextLine_append_some h more
  · rw [if_neg hdiscarding] at h ⊢
    exact nextLine_append_some h more

theorem next_append_none {d d' : Decoder} {input rest : List UInt8}
    (h : d.next input = (none, d', rest)) (more : List UInt8) :
    d.next (input ++ more) = d'.next (rest ++ more) := by
  obtain ⟨max, discarding⟩ := d
  cases discarding with
  | true =>
    simp only [Decoder.next, if_true] at h ⊢
    cases hskip : skipLine input with
    | none =>
      rw [hskip] at h
      obtain ⟨-, rfl, rfl⟩ := h
      rw [skipLine_append_none hskip]
      rfl
    | some front =>
      rw [hskip] at h
      obtain ⟨rfl, rfl⟩ := nextLine_eq_none h
      rw [skipLine_append_some hskip]
      rfl
  | false =>
    obtain ⟨rfl, rfl⟩ := nextLine_eq_none (d := ⟨max, false⟩) h
    rfl

/-- How many octets are left, counted twice, and one more if the next report of
an over-long line leaves them as they are. -/
def Decoder.credit (d : Decoder) (input : List UInt8) : Nat :=
  2 * input.length + if d.discarding then 0 else 1

private theorem nextLine_credit {d d' : Decoder} {input rest : List UInt8}
    {o : Except Fault (List UInt8)}
    (h : d.nextLine input = (some o, d', rest)) :
    d'.credit rest < 2 * input.length + 1 := by
  have hcase := looked d.max d.discarding input
  rw [h] at hcase
  cases hcase with
  | line line rest hcut =>
    have hsplit := congrArg List.length (cut_eq_some hcut)
    rw [List.length_append, List.length_cons] at hsplit
    simp only [Decoder.credit, Bool.false_eq_true, if_false]
    omega
  | tooLong hcut hlong => simp [Decoder.credit]

theorem next_credit {d d' : Decoder} {input rest : List UInt8}
    {o : Except Fault (List UInt8)} (h : d.next input = (some o, d', rest)) :
    d'.credit rest < d.credit input := by
  obtain ⟨max, discarding⟩ := d
  cases discarding with
  | true =>
    simp only [Decoder.next, if_true] at h
    cases hskip : skipLine input with
    | none =>
      rw [hskip] at h
      cases h
    | some front =>
      rw [hskip] at h
      have hshort := skipLine_length hskip
      have hcredit := nextLine_credit h
      simp only [Decoder.credit, if_true] at hcredit ⊢
      omega
  | false => exact nextLine_credit (d := ⟨max, false⟩) h

private theorem nextLine_fault {d d' : Decoder} {input rest : List UInt8}
    {fault : Fault} (h : d.nextLine input = (some (.error fault), d', rest)) :
    fault = .lineTooLong d.max := by
  have hcase := looked d.max d.discarding input
  rw [h] at hcase
  cases hcase with
  | tooLong hcut hlong => rfl

/-- An over-long line is all that is ever wrong. -/
theorem next_fault {d d' : Decoder} {input rest : List UInt8} {fault : Fault}
    (h : d.next input = (some (.error fault), d', rest)) :
    fault = .lineTooLong d.max := by
  unfold Decoder.next at h
  by_cases hdiscarding : d.discarding = true
  · rw [if_pos hdiscarding] at h
    cases hskip : skipLine input with
    | none =>
      rw [hskip] at h
      cases h
    | some front =>
      rw [hskip] at h
      exact nextLine_fault h
  · rw [if_neg hdiscarding] at h
    exact nextLine_fault h

end Lines

namespace Binary

/-! ## Binary frames -/

private theorem frameOf_fault {kind : Kind} {body : List UInt8} {fault : Fault}
    (h : frameOf kind body = .error fault) : fault.isFatal = true := by
  cases kind with
  | connect =>
    simp only [frameOf] at h
    split at h <;> cases h <;> rfl
  | deviceToCloud =>
    simp only [frameOf] at h
    split at h <;> cases h
    rfl
  | _ => cases h

/-- Nothing marks where the next frame starts, so every fault is fatal. -/
theorem scan_fault {max : Nat} {input : List UInt8} {fault : Fault}
    (h : scan max input = .fault fault) : fault.isFatal = true := by
  have hcase := scanned max input
  rw [h] at hcase
  cases hcase with
  | lengthTooLarge => rfl
  | tooBig => rfl
  | unknown => rfl
  | broken signature rest hfield hfits hkind hbody => exact frameOf_fault hbody

end Binary

namespace Decoder

/-! ## Any decoder -/

/-- Frames are taken up to the first fault that leaves no way on. -/
def unlessFatal (fault : Fault) : Bool := !fault.isFatal

variable {d d' : Decoder} {input rest : List UInt8}

theorem next_append_none (h : d.next input = (none, d', rest))
    (more : List UInt8) :
    d.next (input ++ more) = d'.next (rest ++ more) := by
  cases d with
  | binary state =>
    obtain ⟨max, failed⟩ := state
    cases failed with
    | true =>
      cases h
      rfl
    | false =>
      obtain ⟨rfl, rfl⟩ := wait_of_next_ready h
      rfl
  | lines state =>
    simp only [next, Prod.mk.injEq, Option.map_eq_none_iff] at h
    obtain ⟨hnone, rfl, rfl⟩ := h
    have hnext : state.next input =
        (none, (state.next input).2.1, (state.next input).2.2) := by
      rw [← hnone]
    simp only [next, Lines.next_append_none hnext more]

theorem next_append_some {o : Except Fault Frame}
    (h : d.next input = (some o, d', rest)) (hgo : goesOn unlessFatal o = true)
    (more : List UInt8) :
    d.next (input ++ more) = (some o, d', rest ++ more) := by
  cases d with
  | binary state =>
    obtain ⟨max, failed⟩ := state
    cases failed with
    | true => cases h
    | false =>
      cases o with
      | ok frame =>
        obtain ⟨hscan, rfl⟩ := frame_of_next_ready h
        exact next_ready_frame (Binary.scan_append_frame hscan more)
      | error fault =>
        obtain ⟨hscan, -, -⟩ := fault_of_next_ready h
        simp [goesOn, unlessFatal, Binary.scan_fault hscan] at hgo
  | lines state =>
    simp only [next, Prod.mk.injEq, Option.map_eq_some_iff] at h
    obtain ⟨⟨result, hsome, rfl⟩, rfl, rfl⟩ := h
    have hnext :
        state.next input = (some result, (state.next input).2.1,
          (state.next input).2.2) := by
      rw [← hsome]
    simp only [next, Lines.next_append_some hnext more, Option.map_some]

/-- A fatal fault is found in what follows it, too, and nothing else is. -/
theorem next_append_fatal {fault : Fault}
    (h : d.next input = (some (.error fault), d', rest))
    (hfatal : fault.isFatal = true) (more : List UInt8) :
    d.next (input ++ more) = (some (.error fault), d', rest) := by
  cases d with
  | binary state =>
    obtain ⟨max, failed⟩ := state
    cases failed with
    | true => cases h
    | false =>
      obtain ⟨hscan, rfl, rfl⟩ := fault_of_next_ready h
      exact next_ready_fault (Binary.scan_append_fault hscan more)
  | lines state =>
    simp only [next, Prod.mk.injEq, Option.map_eq_some_iff] at h
    obtain ⟨⟨result, hsome, hfault⟩, -, -⟩ := h
    cases result with
    | ok line => cases hfault
    | error fault' =>
      have hnext : state.next input =
          (some (.error fault'), (state.next input).2.1,
            (state.next input).2.2) := by
        rw [← hsome]
      obtain rfl : fault' = fault := Except.error.inj hfault
      rw [Lines.next_fault hnext] at hfatal
      cases hfatal

/-- What a decoder can still find in an input, as a bound on its looks. -/
def credit : Decoder → List UInt8 → Nat
  | .binary _, input => input.length
  | .lines state, input => state.credit input

theorem credit_lt_drainFuel (d : Decoder) (input : List UInt8) :
    d.credit input < drainFuel input := by
  cases d with
  | binary state =>
    rw [credit, drainFuel]
    omega
  | lines state =>
    rw [credit, drainFuel, Lines.Decoder.credit]
    split <;> omega

theorem next_credit {o : Except Fault Frame}
    (h : d.next input = (some o, d', rest)) :
    d'.credit rest < d.credit input := by
  cases d with
  | binary state =>
    obtain ⟨max, failed⟩ := state
    cases failed with
    | true => cases h
    | false =>
      cases o with
      | ok frame =>
        obtain ⟨hscan, rfl⟩ := frame_of_next_ready h
        have hshort := Binary.scan_frame_length hscan
        show rest.length < input.length
        omega
      | error fault =>
        obtain ⟨hscan, rfl, rfl⟩ := fault_of_next_ready h
        cases input with
        | nil => cases hscan
        | cons b input => exact Nat.succ_pos _
  | lines state =>
    simp only [next, Prod.mk.injEq, Option.map_eq_some_iff] at h
    obtain ⟨⟨result, hsome, rfl⟩, rfl, rfl⟩ := h
    have hnext : state.next input =
        (some result, (state.next input).2.1, (state.next input).2.2) := by
      rw [← hsome]
    exact Lines.next_credit hnext

end Decoder

end DeviceGateway.Wire
