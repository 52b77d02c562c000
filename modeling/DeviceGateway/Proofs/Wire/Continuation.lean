import DeviceGateway.Proofs.Wire.Look

/-!
# Reading on

A stream is read in parts: some looks now, and more when more has arrived.  At
any time between two looks the decoder and the input that is left stand for the
whole stream so far.  `Continues` says what this means: whatever arrives later,
what is read of the input that is left comes behind what was read before, and
together they are what would be read of the stream as a whole.

Looks may stop at any time and go on later, so this also covers a reader that is
told to wait while there are frames to take.

## Main results

* `reads_drain`: a drain reads to the end; its bound is never met.
* `Continues.look_none`, `Continues.look_some`: a look leads on.
* `Continues.drain_eq_of_next`: when nothing more is found, everything was read.
* `feed_drain`: a stream is read alike in any chunks.
-/

namespace DeviceGateway.Wire.Decoder

variable {d d' : Decoder} {input rest : List UInt8}

/-! ## Drains -/

/-- Taking outcomes off an input up to a fatal fault. -/
abbrev Reads (d : Decoder) (input : List UInt8) (os : List (Except Fault Frame))
    (d' : Decoder) (rest : List UInt8) : Prop :=
  Drains unlessFatal d input os d' rest

theorem exists_reads (d : Decoder) (input : List UInt8) :
    ∃ os d' rest, Reads d input os d' rest ∧ os.length ≤ d.credit input := by
  induction hcredit : d.credit input using Nat.strongRecOn
    generalizing d input with
  | ind n ih =>
    subst hcredit
    rcases hnext : d.next input with ⟨outcome, d', rest⟩
    cases outcome with
    | none => exact ⟨[], d', rest, .done hnext, Nat.zero_le _⟩
    | some o =>
      have hless := next_credit hnext
      cases hgo : goesOn unlessFatal o with
      | false => exact ⟨[o], d', rest, .last hnext hgo, Nat.lt_of_le_of_lt
        (Nat.zero_le _) hless⟩
      | true =>
        obtain ⟨os, d'', rest', hreads, hlength⟩ := ih _ hless d' rest rfl
        refine ⟨o :: os, d'', rest', .more hnext hgo hreads, ?_⟩
        rw [List.length_cons]
        omega

/-- The bound on the number of outcomes is never met. -/
theorem drain_eq {os : List (Except Fault Frame)}
    (h : Reads d input os d' rest) :
    d.drain input = (os, d', rest) := by
  obtain ⟨os', d'', rest', h', hlength⟩ := exists_reads d input
  obtain ⟨rfl, rfl, rfl⟩ := h.unique h'
  have hfuel : os.length < drainFuel input :=
    Nat.lt_of_le_of_lt hlength (credit_lt_drainFuel d input)
  exact h.drainWith_eq hfuel []

theorem reads_drain (d : Decoder) (input : List UInt8) :
    Reads d input (d.drain input).1 (d.drain input).2.1
      (d.drain input).2.2 := by
  obtain ⟨os, d', rest, h, -⟩ := exists_reads d input
  rw [drain_eq h]
  exact h

/-- The first look is all that reading depends on. -/
theorem Drains.of_next_eq {goOn : Fault → Bool} {d₁ d₂ : Decoder}
    {input₁ input₂ : List UInt8} {os : List (Except Fault Frame)}
    (hnext : d₁.next input₁ = d₂.next input₂)
    (h : Drains goOn d₂ input₂ os d' rest) :
    Drains goOn d₁ input₁ os d' rest := by
  cases h with
  | done h => exact .done (hnext.trans h)
  | last h hstop => exact .last (hnext.trans h) hstop
  | more h hgo hmore => exact .more (hnext.trans h) hgo hmore

/-! ## Reading on -/

/-- After some looks at what has arrived of a stream, a decoder and an input
stand for the whole: whatever more arrives, what is read of them comes behind
the outcomes so far. -/
def Continues (d₀ : Decoder) (arrived : List UInt8)
    (os : List (Except Fault Frame)) (d : Decoder) (input : List UInt8) :
    Prop :=
  ∀ more os' d' rest, Reads d (input ++ more) os' d' rest →
    Reads d₀ (arrived ++ more) (os ++ os') d' rest

namespace Continues

variable {d₀ : Decoder} {arrived : List UInt8} {os : List (Except Fault Frame)}

theorem refl (d : Decoder) (input : List UInt8) :
    Continues d input [] d input :=
  fun _ _ _ _ h => h

theorem arrive (h : Continues d₀ arrived os d input) (chunk : List UInt8) :
    Continues d₀ (arrived ++ chunk) os d (input ++ chunk) := by
  intro more os' d' rest hreads
  rw [List.append_assoc] at hreads ⊢
  exact h (chunk ++ more) os' d' rest hreads

theorem look_none (h : Continues d₀ arrived os d input)
    (hnext : d.next input = (none, d', rest)) :
    Continues d₀ arrived os d' rest := by
  intro more os' d'' rest' hreads
  exact h more os' d'' rest' (.of_next_eq (next_append_none hnext more) hreads)

theorem look_some (h : Continues d₀ arrived os d input) {o : Except Fault Frame}
    (hnext : d.next input = (some o, d', rest))
    (hgo : goesOn unlessFatal o = true) :
    Continues d₀ arrived (os ++ [o]) d' rest := by
  intro more os' d'' rest' hreads
  rw [List.append_assoc]
  exact h more _ d'' rest' (.more (next_append_some hnext hgo more) hgo hreads)

/-- A fatal fault ends the whole stream with it. -/
theorem look_fatal (h : Continues d₀ arrived os d input) {fault : Fault}
    (hnext : d.next input = (some (.error fault), d', rest))
    (hfatal : fault.isFatal = true) (more : List UInt8) :
    Reads d₀ (arrived ++ more) (os ++ [.error fault]) d' rest := by
  have hstop : goesOn unlessFatal (.error fault) = false := by
    simp [goesOn, unlessFatal, hfatal]
  exact h more _ d' rest (.last (next_append_fatal hnext hfatal more) hstop)

/-- What was read so far comes first in all that is ever read. -/
theorem isPrefix (h : Continues d₀ arrived os d input) (more : List UInt8) :
    os <+: (d₀.drain (arrived ++ more)).1 := by
  obtain ⟨os', d', rest, hreads, -⟩ := exists_reads d (input ++ more)
  rw [drain_eq (h more os' d' rest hreads)]
  exact List.prefix_append os os'

/-- Once a look gives nothing, everything that has arrived is read. -/
theorem drain_eq_of_next (h : Continues d₀ arrived os d input)
    (hnext : d.next input = (none, d', rest)) :
    d₀.drain arrived = (os, d', rest) := by
  have hreads := h [] [] d' rest (by rw [List.append_nil]; exact .done hnext)
  rw [List.append_nil, List.append_nil] at hreads
  exact drain_eq hreads

/-- What is read of a part is read of the whole, a fatal fault included. -/
theorem drained_isPrefix (h : Continues d₀ arrived os d input)
    {os' : List (Except Fault Frame)} (hreads : Reads d input os' d' rest)
    (more : List UInt8) :
    os ++ os' <+: (d₀.drain (arrived ++ more)).1 := by
  induction hreads generalizing os with
  | done hnext =>
    rw [List.append_nil]
    exact h.isPrefix more
  | @last d d' input rest o hnext hstop =>
    cases o with
    | ok frame => cases hstop
    | error fault =>
      have hfatal : fault.isFatal = true := by
        simpa [goesOn, unlessFatal] using hstop
      have hall := congrArg Prod.fst (drain_eq (h.look_fatal hnext hfatal more))
      exact ⟨[], (List.append_nil _).trans hall.symm⟩
  | @more d d₁ d' input rest₁ rest o os' hnext hgo hmore ih =>
    have hrest := ih (h.look_some hnext hgo)
    rwa [List.append_assoc] at hrest

/-- Draining what is there leads on, unless it comes to a fatal fault. -/
theorem drained (h : Continues d₀ arrived os d input)
    {os' : List (Except Fault Frame)} (hreads : Reads d input os' d' rest)
    (hmild : ∀ o ∈ os', goesOn unlessFatal o = true) :
    Continues d₀ arrived (os ++ os') d' rest ∧
      d'.next rest = (none, d', rest) := by
  induction hreads generalizing os with
  | done hnext =>
    have hquiet := next_append_none hnext []
    rw [List.append_nil, List.append_nil, hnext] at hquiet
    rw [List.append_nil]
    exact ⟨h.look_none hnext, hquiet.symm⟩
  | @last d d' input rest o hnext hstop =>
    rw [hmild o List.mem_cons_self] at hstop
    cases hstop
  | @more d d₁ d' input rest₁ rest o os' hnext hgo hmore ih =>
    have hrest := ih (h.look_some hnext hgo) fun o ho =>
      hmild o (List.mem_cons_of_mem _ ho)
    rwa [List.append_assoc] at hrest

end Continues

/-- A stream in which nothing is fatal is read alike in any chunks. -/
theorem feed_drain {d₀ : Decoder} {arrived : List UInt8}
    {os : List (Except Fault Frame)} (chunks : List (List UInt8))
    (h : Continues d₀ arrived os d input)
    (hquiet : d.next input = (none, d, input))
    (hmild : ∀ o ∈ (d₀.drain (arrived ++ chunks.flatten)).1,
      goesOn unlessFatal o = true) :
    d₀.drain (arrived ++ chunks.flatten) =
      (os ++ (feed drain d input chunks).1, (feed drain d input chunks).2) := by
  induction chunks generalizing arrived os d input with
  | nil =>
    rw [List.flatten_nil, List.append_nil, h.drain_eq_of_next hquiet]
    simp [feed]
  | cons chunk chunks ih =>
    rw [List.flatten_cons, ← List.append_assoc] at hmild ⊢
    have harrived := h.arrive chunk
    have hreads := reads_drain d (input ++ chunk)
    have hmild' : ∀ o ∈ (d.drain (input ++ chunk)).1,
        goesOn unlessFatal o = true := by
      intro o ho
      have hfront := harrived.drained_isPrefix hreads chunks.flatten
      exact hmild o (hfront.subset (List.mem_append_right os ho))
    obtain ⟨hon, hquiet'⟩ := harrived.drained hreads hmild'
    rw [ih hon hquiet' hmild]
    simp [feed]

end DeviceGateway.Wire.Decoder
