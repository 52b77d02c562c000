import DeviceGateway.Proofs.Wire.Draining
import DeviceGateway.Proofs.Wire.Scanning

/-!
# Binary frames do not depend on chunks

The octets of a binary connection arrive in chunks that have nothing to do with
its frames.  A decoder that is fed chunk by chunk gives the same frames as one
that is given everything at once, then the same fault if there is one, and ends
in the same state with the same input left over.  This holds of every stream,
also of one that is no sequence of frames.

A decoder is ready or failed.  What a ready one finds at the front of its input
is found again when more has arrived behind it, and a decoder that waits leaves
its input as it is, so nothing is lost between two chunks.  A failed one drops
everything, so nothing of what arrives later can matter.

## Main results

* `Drains.append`: draining a stream is draining its front, then the rest.
* `feed_binary`: feeding chunks is draining their concatenation.
-/

namespace DeviceGateway.Wire.Decoder

/-- A binary decoder that may still find frames. -/
def ready (max : Nat) : Decoder := Format.binary.decoder max

/-- A binary decoder after a fault. -/
def failed (max : Nat) : Decoder := .binary ⟨max, true⟩

/-- The frames of a binary stream are taken up to the first fault. -/
abbrev ReadsBinary (d : Decoder) (input : List UInt8)
    (os : List (Except Fault Frame)) (d' : Decoder) (rest : List UInt8) :
    Prop :=
  Drains (fun _ => false) d input os d' rest

variable {max : Nat} {input rest : List UInt8} {f : Frame} {fault : Fault}

/-! ## One look -/

theorem next_ready_wait (h : Binary.scan max input = .wait) :
    (ready max).next input = (none, ready max, input) := by
  simp [ready, Format.decoder, next, Binary.Decoder.next, h]

theorem next_ready_frame (h : Binary.scan max input = .frame f rest) :
    (ready max).next input = (some (.ok f), ready max, rest) := by
  simp [ready, Format.decoder, next, Binary.Decoder.next, h]

theorem next_ready_fault (h : Binary.scan max input = .fault fault) :
    (ready max).next input = (some (.error fault), failed max, []) := by
  simp [ready, failed, Format.decoder, next, Binary.Decoder.next, h]

theorem next_failed (max : Nat) (input : List UInt8) :
    (failed max).next input = (none, failed max, []) := rfl

/-- The ways in which a look of a ready decoder can go. -/
theorem next_ready (max : Nat) (input : List UInt8) :
    (Binary.scan max input = .wait ∧
      (ready max).next input = (none, ready max, input)) ∨
    (∃ f rest, Binary.scan max input = .frame f rest ∧
      (ready max).next input = (some (.ok f), ready max, rest)) ∨
    ∃ fault, Binary.scan max input = .fault fault ∧
      (ready max).next input = (some (.error fault), failed max, []) := by
  cases h : Binary.scan max input with
  | wait => exact .inl ⟨rfl, next_ready_wait h⟩
  | frame f rest => exact .inr (.inl ⟨f, rest, rfl, next_ready_frame h⟩)
  | fault fault => exact .inr (.inr ⟨fault, rfl, next_ready_fault h⟩)

section Inversion

variable {d' : Decoder}

theorem wait_of_next_ready (h : (ready max).next input = (none, d', rest)) :
    d' = ready max ∧ rest = input := by
  rcases next_ready max input with ⟨-, hnext⟩ | ⟨_, _, -, hnext⟩ | ⟨_, -, hnext⟩
  · rw [hnext] at h
    cases h
    exact ⟨rfl, rfl⟩
  · rw [hnext] at h
    cases h
  · rw [hnext] at h
    cases h

theorem frame_of_next_ready
    (h : (ready max).next input = (some (.ok f), d', rest)) :
    Binary.scan max input = .frame f rest ∧ d' = ready max := by
  rcases next_ready max input with ⟨-, hnext⟩ | ⟨_, _, hscan, hnext⟩ |
    ⟨_, -, hnext⟩
  · rw [hnext] at h
    cases h
  · rw [hnext] at h
    cases h
    exact ⟨hscan, rfl⟩
  · rw [hnext] at h
    cases h

theorem fault_of_next_ready
    (h : (ready max).next input = (some (.error fault), d', rest)) :
    Binary.scan max input = .fault fault ∧ d' = failed max ∧ rest = [] := by
  rcases next_ready max input with ⟨-, hnext⟩ | ⟨_, _, -, hnext⟩ |
    ⟨_, hscan, hnext⟩
  · rw [hnext] at h
    cases h
  · rw [hnext] at h
    cases h
  · rw [hnext] at h
    cases h
    exact ⟨hscan, rfl, rfl⟩

end Inversion

/-- A frame takes exactly itself off the input: a signature, a length field and
the body that the field announces. -/
theorem octets_of_scan_frame (h : Binary.scan max input = .frame f rest) :
    ∃ signature field body, input = signature :: (field ++ (body ++ rest)) ∧
      Length.decode field = .value body.length field.length := by
  have hcase := Binary.scanned max input
  rw [h] at hcase
  cases hcase with
  | frame signature rest hfield hfits hkind hbody =>
    exact ⟨signature, _, _, rfl, hfield⟩

/-! ## Reading a stream -/

/-- Nothing comes of what a failed decoder is given. -/
theorem readsBinary_failed (max : Nat) (input : List UInt8) :
    ReadsBinary (failed max) input [] (failed max) [] :=
  .done (next_failed max input)

theorem eq_of_readsBinary_failed {os : List (Except Fault Frame)} {d' : Decoder}
    (h : ReadsBinary (failed max) input os d' rest) :
    os = [] ∧ d' = failed max ∧ rest = [] := by
  cases h with
  | done h =>
    simp only [next_failed, Prod.mk.injEq, true_and] at h
    exact ⟨rfl, h.1.symm, h.2.symm⟩
  | last h => cases h
  | more h => cases h

/-- A ready decoder reads every stream: some frames, and then it waits or has
failed.  It gives no more outcomes than there are octets. -/
theorem exists_readsBinary (max : Nat) (input : List UInt8) :
    ∃ frames : List Frame, frames.length ≤ input.length ∧
      ((∃ rest,
          ReadsBinary (ready max) input (frames.map .ok) (ready max) rest ∧
          Binary.scan max rest = .wait) ∨
        ∃ fault,
          ReadsBinary (ready max) input (frames.map .ok ++ [.error fault])
          (failed max) []) := by
  induction hlen : input.length using Nat.strongRecOn generalizing input with
  | ind n ih =>
    subst hlen
    rcases next_ready max input with ⟨hscan, h⟩ | ⟨f, rest, hscan, h⟩ |
      ⟨fault, hscan, h⟩
    · exact ⟨[], Nat.zero_le _, .inl ⟨input, .done h, hscan⟩⟩
    · have hshort := Binary.scan_frame_length hscan
      obtain ⟨frames, hcount, hend⟩ := ih rest.length (by omega) rest rfl
      refine ⟨f :: frames, by rw [List.length_cons]; omega, ?_⟩
      rcases hend with ⟨rest', hreads, hwait⟩ | ⟨fault, hreads⟩
      · exact .inl ⟨rest', .more h rfl hreads, hwait⟩
      · exact .inr ⟨fault, .more h rfl hreads⟩
    · exact ⟨[], Nat.zero_le _, .inr ⟨fault, .last h rfl⟩⟩

/-- Draining a stream is draining its front, and then what is left of it with
the rest of the stream behind.  What arrives behind a fault is dropped by the
decoder that the fault has left. -/
theorem Drains.append {os os' : List (Except Fault Frame)} {d d' d'' : Decoder}
    {rest' more : List UInt8} (h : ReadsBinary d input os d' rest)
    (hd : d = ready max ∨ d = failed max)
    (h' : ReadsBinary d' (rest ++ more) os' d'' rest') :
    ReadsBinary d (input ++ more) (os ++ os') d'' rest' := by
  induction h with
  | done h =>
    rcases hd with rfl | rfl
    · obtain ⟨rfl, rfl⟩ := wait_of_next_ready h
      exact h'
    · rw [next_failed] at h
      cases h
      obtain ⟨rfl, rfl, rfl⟩ := eq_of_readsBinary_failed h'
      exact readsBinary_failed max _
  | @last d d' input rest o h hstop =>
    rcases hd with rfl | rfl
    · cases o with
      | ok f => cases hstop
      | error fault =>
        obtain ⟨hscan, rfl, rfl⟩ := fault_of_next_ready h
        obtain ⟨rfl, rfl, rfl⟩ := eq_of_readsBinary_failed h'
        exact .last (next_ready_fault (Binary.scan_append_fault hscan more)) rfl
    · rw [next_failed] at h
      cases h
  | @more d d₁ d' input rest₁ rest o os h hgo hmore ih =>
    rcases hd with rfl | rfl
    · cases o with
      | ok f =>
        obtain ⟨hscan, rfl⟩ := frame_of_next_ready h
        have hmore' := ih (.inl rfl) h'
        exact .more (next_ready_frame (Binary.scan_append_frame hscan more))
          rfl hmore'
      | error fault => cases hgo
    · rw [next_failed] at h
      cases h

/-! ## Feeding chunks -/

/-- Whatever reads a stream is what a drain comes to. -/
theorem drainToFault_eq {os : List (Except Fault Frame)} {d d' : Decoder}
    (h : ReadsBinary d input os d' rest)
    (hcount : os.length ≤ input.length + 1) :
    d.drainToFault input = (os, d', rest) :=
  h.drainWith_eq (by rw [drainFuel]; omega) []

/-- A drain reads its input to the end, and leaves a decoder that is ready and
waits, or one that has failed. -/
theorem readsBinary_drainToFault {d : Decoder}
    (hd : d = ready max ∨ d = failed max) (input : List UInt8) :
    let out := d.drainToFault input
    ReadsBinary d input out.1 out.2.1 out.2.2 ∧
      (out.2.1 = ready max ∨ out.2.1 = failed max) ∧
      ReadsBinary out.2.1 out.2.2 [] out.2.1 out.2.2 := by
  rcases hd with rfl | rfl
  · obtain ⟨frames, hcount, ⟨rest, hreads, hwait⟩ | ⟨fault, hreads⟩⟩ :=
      exists_readsBinary max input
    · rw [drainToFault_eq hreads (by rw [List.length_map]; omega)]
      exact ⟨hreads, .inl rfl, .done (next_ready_wait hwait)⟩
    · rw [drainToFault_eq hreads (by simpa using hcount)]
      exact ⟨hreads, .inr rfl, readsBinary_failed max []⟩
  · have hreads := readsBinary_failed max input
    rw [drainToFault_eq hreads (Nat.zero_le _)]
    exact ⟨hreads, .inr rfl, readsBinary_failed max []⟩

/-- What is fed in chunks is read as one stream, if nothing was to be had of
what was there before. -/
theorem readsBinary_feed {d : Decoder} (hd : d = ready max ∨ d = failed max)
    (hquiet : ReadsBinary d input [] d input) (chunks : List (List UInt8)) :
    let out := feed drainToFault d input chunks
    ReadsBinary d (input ++ chunks.flatten) out.1 out.2.1 out.2.2 := by
  induction chunks generalizing d input with
  | nil =>
    rw [List.flatten_nil, List.append_nil]
    exact hquiet
  | cons chunk chunks ih =>
    obtain ⟨hfirst, hd', hquiet'⟩ :=
      readsBinary_drainToFault hd (input ++ chunk)
    rw [List.flatten_cons, ← List.append_assoc]
    exact hfirst.append hd (ih hd' hquiet')

/-- Of a stream, a ready decoder gives frames, and then it waits and is still
ready, or it gives one fault, has failed and keeps nothing. -/
theorem drainToFault_ready (max : Nat) (input : List UInt8) :
    let out := (ready max).drainToFault input
    ∃ frames : List Frame,
      (out.1 = frames.map .ok ∧ out.2.1 = ready max ∧
        (ready max).next out.2.2 = (none, ready max, out.2.2)) ∨
      ∃ fault, out.1 = frames.map .ok ++ [.error fault] ∧
        out.2 = (failed max, []) := by
  obtain ⟨frames, hcount, ⟨rest, hreads, hwait⟩ | ⟨fault, hreads⟩⟩ :=
    exists_readsBinary max input
  · rw [drainToFault_eq hreads (by rw [List.length_map]; omega)]
    exact ⟨frames, .inl ⟨rfl, rfl, next_ready_wait hwait⟩⟩
  · rw [drainToFault_eq hreads (by simpa using hcount)]
    exact ⟨frames, .inr ⟨fault, rfl, rfl⟩⟩

/-- Feeding a binary decoder any stream in any chunks comes to what draining
the stream at once does: the same frames, the same fault if one ends them, the
same state, and the same input left over.  Look by look, one that gives nothing
leaves the input alone, one that gives a frame takes that frame off, and one
that gives a fault leaves a decoder of which nothing comes any more. -/
theorem feed_binary (max : Nat) (chunks : List (List UInt8)) :
    let whole := (ready max).drainToFault chunks.flatten
    feed drainToFault (ready max) [] chunks = whole ∧
    (∃ frames : List Frame,
      (whole.1 = frames.map .ok ∧ whole.2.1 = ready max ∧
        (ready max).next whole.2.2 = (none, ready max, whole.2.2)) ∨
      ∃ fault, whole.1 = frames.map .ok ++ [.error fault] ∧
        whole.2 = (failed max, [])) ∧
    (∀ input d' rest, (ready max).next input = (none, d', rest) →
      d' = ready max ∧ rest = input) ∧
    (∀ input f d' rest, (ready max).next input = (some (.ok f), d', rest) →
      d' = ready max ∧ ∃ signature field body,
        input = signature :: (field ++ (body ++ rest)) ∧
          Length.decode field = .value body.length field.length) ∧
    (∀ input fault d' rest,
      (ready max).next input = (some (.error fault), d', rest) →
      d' = failed max ∧ rest = []) ∧
    (∀ later,
      feed drainToFault (failed max) [] later = ([], failed max, [])) := by
  refine ⟨?_, drainToFault_ready max _, fun input d' rest h =>
    wait_of_next_ready h, fun input f d' rest h =>
      ?_, fun input fault d' rest h => (fault_of_next_ready h).2,
    fun later => ?_⟩
  · have hempty : Binary.scan max [] = .wait := rfl
    have hready : ready max = ready max ∨ ready max = failed max := .inl rfl
    have hfed := readsBinary_feed hready (.done (next_ready_wait hempty)) chunks
    have hwhole := (readsBinary_drainToFault hready chunks.flatten).1
    obtain ⟨hos, hd, hrest⟩ := hfed.unique hwhole
    exact Prod.ext hos (Prod.ext hd hrest)
  · obtain ⟨hscan, hd⟩ := frame_of_next_ready h
    exact ⟨hd, octets_of_scan_frame hscan⟩
  · have hfailed : failed max = ready max ∨ failed max = failed max := .inr rfl
    have hfed := readsBinary_feed hfailed (readsBinary_failed max []) later
    obtain ⟨hos, hd, hrest⟩ := eq_of_readsBinary_failed hfed
    exact Prod.ext hos (Prod.ext hd hrest)

end DeviceGateway.Wire.Decoder
