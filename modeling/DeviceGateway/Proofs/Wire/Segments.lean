import DeviceGateway.Proofs.Wire.Continuation

/-!
# Lines are a split

A text stream is split at its line feeds.  Every segment that a line feed ends
is reported once: as a line without the carriage return at its end, or, if it
has more than `max` octets, as a line that is too long.  What stands behind the
last line feed waits for its end, and is reported as too long, and dropped, as
soon as it has more than `max` octets.

A line decoder comes to this without ever looking at more than `max + 1` octets
for a line feed, with a state that says whether it is inside an over-long line,
and in chunks that may end anywhere: before the line feed, between it and the
carriage return, or inside a line that was already reported.  A report leaves
the input as it is, so the line feed that ends the over-long line is found by
the look after it, and that look takes the next segment too.

## Main results

* `segmented`, `splitOn_segment`: a stream is split segment by segment.
* `next_segment`, `next_segment_long`, `next_inside`: a look follows the split.
* `reads_lines`: reading a stream reports its segments.
* `feed_lines`: so does reading it in any chunks.
-/

namespace DeviceGateway.Wire

namespace Lines

/-- What is reported of a segment that a line feed ends. -/
def report (max : Nat) (segment : List UInt8) : Except Fault Frame :=
  if segment.length ≤ max then .ok (.line (stripReturn segment))
  else .error (.lineTooLong max)

/-- What stands behind the last line feed. -/
def tail (bytes : List UInt8) : List UInt8 :=
  (bytes.splitOn lineFeed).getLast (List.splitOn_ne_nil lineFeed bytes)

/-- The segments that a line feed ends. -/
def ended (bytes : List UInt8) : List (List UInt8) :=
  (bytes.splitOn lineFeed).dropLast

private theorem ended_of_not_mem {bytes : List UInt8} (h : lineFeed ∉ bytes) :
    ended bytes = [] := by
  rw [ended, List.splitOn_eq_singleton h]
  rfl

theorem tail_of_not_mem {bytes : List UInt8} (h : lineFeed ∉ bytes) :
    tail bytes = bytes := by
  simp [tail, List.splitOn_eq_singleton h]

section Split

variable {segment : List UInt8} (rest : List UInt8)

theorem splitOn_segment (h : lineFeed ∉ segment) :
    (segment ++ lineFeed :: rest).splitOn lineFeed =
      segment :: rest.splitOn lineFeed :=
  List.splitOn_append_cons_self_of_not_mem h rest

private theorem ended_segment (h : lineFeed ∉ segment) :
    ended (segment ++ lineFeed :: rest) = segment :: ended rest := by
  rw [ended, splitOn_segment rest h,
    List.dropLast_cons_of_ne_nil (List.splitOn_ne_nil lineFeed rest)]
  rfl

theorem tail_segment (h : lineFeed ∉ segment) :
    tail (segment ++ lineFeed :: rest) = tail rest := by
  simp [tail, splitOn_segment rest h, List.getLast_cons
    (List.splitOn_ne_nil lineFeed rest)]

end Split

/-- A stream has a first segment that a line feed ends, or is not ended
itself. -/
theorem segmented (bytes : List UInt8) :
    lineFeed ∉ bytes ∨ ∃ segment rest, lineFeed ∉ segment ∧
      bytes = segment ++ lineFeed :: rest := by
  induction bytes with
  | nil => exact .inl (List.not_mem_nil)
  | cons b bytes ih =>
    by_cases hfeed : b = lineFeed
    · exact .inr ⟨[], bytes, List.not_mem_nil, by rw [hfeed]; rfl⟩
    · have hne : lineFeed ≠ b := fun h => hfeed h.symm
      rcases ih with hnone | ⟨segment, rest, hsegment, rfl⟩
      · exact .inl (List.not_mem_cons_of_ne_of_not_mem hne hnone)
      · exact .inr ⟨b :: segment, rest,
          List.not_mem_cons_of_ne_of_not_mem hne hsegment, rfl⟩

/-! ## The reader on a segment -/

theorem cutFrom_of_not_mem {bytes : List UInt8} (h : lineFeed ∉ bytes)
    (done : List UInt8) (room : Nat) : cutFrom done room bytes = none := by
  induction bytes generalizing done room with
  | nil => cases room <;> rfl
  | cons b bytes ih =>
    have hne : b ≠ lineFeed := fun hb => h (hb ▸ List.mem_cons_self)
    cases room with
    | zero => rfl
    | succ room =>
      rw [cutFrom, if_neg hne]
      exact ih (fun hmem => h (List.mem_cons_of_mem b hmem)) _ _

/-- A line feed is found if it is among the octets that are looked at. -/
theorem cutFrom_segment {segment : List UInt8} (h : lineFeed ∉ segment)
    (rest done : List UInt8) (room : Nat) :
      cutFrom done room (segment ++ lineFeed :: rest) =
      if segment.length < room then some (done.reverse ++ segment, rest)
      else none := by
  induction segment generalizing done room with
  | nil =>
    cases room with
    | zero => simp [cutFrom]
    | succ room => simp [cutFrom]
  | cons b segment ih =>
    have hne : b ≠ lineFeed := fun hb => h (hb ▸ List.mem_cons_self)
    have hsegment : lineFeed ∉ segment := fun hmem =>
      h (List.mem_cons_of_mem b hmem)
    cases room with
    | zero => simp [cutFrom]
    | succ room =>
      rw [List.cons_append, cutFrom, if_neg hne, ih hsegment]
      simp

private theorem skipLine_of_not_mem {bytes : List UInt8}
    (h : lineFeed ∉ bytes) :
    skipLine bytes = none := by
  induction bytes with
  | nil => rfl
  | cons b bytes ih =>
    have hne : b ≠ lineFeed := fun hb => h (hb ▸ List.mem_cons_self)
    rw [skipLine, if_neg hne]
    exact ih fun hmem => h (List.mem_cons_of_mem b hmem)

private theorem skipLine_segment {segment : List UInt8} (h : lineFeed ∉ segment)
    (rest : List UInt8) :
    skipLine (segment ++ lineFeed :: rest) = some rest := by
  induction segment with
  | nil => simp [skipLine]
  | cons b segment ih =>
    have hne : b ≠ lineFeed := fun hb => h (hb ▸ List.mem_cons_self)
    rw [List.cons_append, skipLine, if_neg hne]
    exact ih fun hmem => h (List.mem_cons_of_mem b hmem)

/-! ## Reading the split -/

/-- What is reported of a stream: of each segment that a line feed ends, and of
what stands behind the last line feed if it is too long by now. -/
def reports (max : Nat) (bytes : List UInt8) : List (Except Fault Frame) :=
  (ended bytes).map (report max) ++
    if max < (tail bytes).length then [.error (.lineTooLong max)] else []

/-- What is kept of a stream: what stands behind the last line feed, unless it
is too long. -/
def kept (max : Nat) (bytes : List UInt8) : List UInt8 :=
  if max < (tail bytes).length then [] else tail bytes

section Reports

variable (max : Nat)

theorem reports_of_not_mem {bytes : List UInt8} (h : lineFeed ∉ bytes) :
    reports max bytes = if max < bytes.length then [.error (.lineTooLong max)]
      else [] := by
  simp [reports, ended_of_not_mem h, tail_of_not_mem h]

theorem reports_segment {segment : List UInt8} (h : lineFeed ∉ segment)
    (rest : List UInt8) :
    reports max (segment ++ lineFeed :: rest) =
      report max segment :: reports max rest := by
  simp [reports, ended_segment rest h, tail_segment rest h]

private theorem kept_segment {segment : List UInt8} (h : lineFeed ∉ segment)
    (rest : List UInt8) :
    kept max (segment ++ lineFeed :: rest) = kept max rest := by
  rw [kept, kept, tail_segment rest h]

/-- Nothing that is reported of a text stream is fatal. -/
theorem reports_mild (bytes : List UInt8) :
    ∀ o ∈ reports max bytes, Decoder.goesOn Decoder.unlessFatal o = true := by
  intro o ho
  rcases List.mem_append.1 ho with hended | htail
  · obtain ⟨segment, -, rfl⟩ := List.mem_map.1 hended
    rw [report]
    split <;> rfl
  · split at htail
    · rw [List.mem_singleton.1 htail]
      rfl
    · exact absurd htail List.not_mem_nil

end Reports

end Lines

namespace Decoder

open Lines (lineFeed report tail ended reports kept)

variable {max : Nat}

/-- A line decoder outside of an over-long line. -/
def outside (max : Nat) : Decoder := .lines ⟨max, false⟩

/-- A line decoder inside an over-long line. -/
def inside (max : Nat) : Decoder := .lines ⟨max, true⟩

/-! ### One look -/

section Segment

variable {segment : List UInt8} (rest : List UInt8)

theorem next_segment (h : lineFeed ∉ segment) (hshort : segment.length ≤ max) :
    (outside max).next (segment ++ lineFeed :: rest) =
      (some (report max segment), outside max, rest) := by
  have hcut : Lines.cut (max + 1) (segment ++ lineFeed :: rest) =
      some (segment, rest) := by
    rw [Lines.cut, Lines.cutFrom_segment h, if_pos (Nat.lt_succ_of_le hshort)]
    rfl
  simp [outside, next, Lines.Decoder.next, Lines.Decoder.nextLine, hcut, report,
    hshort, Except.map]

/-- An over-long line is reported before it is dropped. -/
theorem next_segment_long (h : lineFeed ∉ segment)
    (hlong : max < segment.length) :
    (outside max).next (segment ++ lineFeed :: rest) =
      (some (report max segment), inside max, segment ++ lineFeed :: rest) := by
  have hcut : Lines.cut (max + 1) (segment ++ lineFeed :: rest) = none := by
    rw [Lines.cut, Lines.cutFrom_segment h, if_neg (Nat.not_lt.2 hlong)]
  have hmore : ¬ segment.length + (rest.length + 1) ≤ max := by omega
  have hreport : ¬ segment.length ≤ max := Nat.not_le.2 hlong
  simp [outside, inside, next, Lines.Decoder.next, Lines.Decoder.nextLine, hcut,
    report, hmore, hreport, Except.map]

theorem next_inside (h : lineFeed ∉ segment) :
    (inside max).next (segment ++ lineFeed :: rest) =
      (outside max).next rest := by
  simp [outside, inside, next, Lines.Decoder.next, Lines.skipLine_segment h,
    Lines.nextLine_discarding]

end Segment

section Tail

variable {bytes : List UInt8}

theorem next_tail (h : lineFeed ∉ bytes) (hshort : bytes.length ≤ max) :
    (outside max).next bytes = (none, outside max, bytes) := by
  have hcut : Lines.cut (max + 1) bytes = none :=
    Lines.cutFrom_of_not_mem h [] _
  simp [outside, next, Lines.Decoder.next, Lines.Decoder.nextLine, hcut, hshort]

private theorem next_tail_long (h : lineFeed ∉ bytes)
    (hlong : max < bytes.length) :
    (outside max).next bytes =
      (some (.error (.lineTooLong max)), inside max, bytes) := by
  have hcut : Lines.cut (max + 1) bytes = none :=
    Lines.cutFrom_of_not_mem h [] _
  have hnot : ¬ bytes.length ≤ max := Nat.not_le.2 hlong
  simp [outside, inside, next, Lines.Decoder.next, Lines.Decoder.nextLine, hcut,
    hnot, Except.map]

theorem next_inside_tail (h : lineFeed ∉ bytes) :
    (inside max).next bytes = (none, inside max, []) := by
  simp [inside, next, Lines.Decoder.next, Lines.skipLine_of_not_mem h]

end Tail

/-! ### The whole stream -/

/-- The state of a line decoder that has read a stream. -/
def afterLines (max : Nat) (bytes : List UInt8) : Decoder :=
  if max < (tail bytes).length then inside max else outside max

/-- Reading a stream reports its segments.  The look after a report drops the
segment and takes what comes first in the rest. -/
theorem reads_lines (max : Nat) (bytes : List UInt8) :
    Reads (outside max) bytes (reports max bytes) (afterLines max bytes)
      (kept max bytes) := by
  induction hlength : bytes.length using Nat.strongRecOn generalizing bytes with
  | ind n ih =>
    subst hlength
    rcases Lines.segmented bytes with hnone | ⟨segment, rest, hsegment, rfl⟩
    · rw [Lines.reports_of_not_mem max hnone, afterLines, kept,
        Lines.tail_of_not_mem hnone]
      by_cases hlong : max < bytes.length
      · rw [if_pos hlong, if_pos hlong, if_pos hlong]
        exact .more (next_tail_long hnone hlong) rfl
          (.done (next_inside_tail hnone))
      · rw [if_neg hlong, if_neg hlong, if_neg hlong]
        exact .done (next_tail hnone (Nat.le_of_not_lt hlong))
    · have hless : rest.length < (segment ++ lineFeed :: rest).length := by
        rw [List.length_append, List.length_cons]
        omega
      have hrest := ih rest.length hless rest rfl
      rw [Lines.reports_segment max hsegment, Lines.kept_segment max hsegment,
        afterLines, Lines.tail_segment rest hsegment]
      by_cases hshort : segment.length ≤ max
      · have hgo : goesOn unlessFatal (report max segment) = true := by
          rw [report, if_pos hshort]
          rfl
        exact .more (next_segment rest hsegment hshort) hgo hrest
      · have hgo : goesOn unlessFatal (report max segment) = true := by
          rw [report, if_neg hshort]
          rfl
        have hinside := hrest.of_next_eq (next_inside rest hsegment)
        exact .more (next_segment_long rest hsegment (Nat.lt_of_not_le hshort))
          hgo hinside

/-- A text stream that is fed in any chunks, whatever its lines are read as
later, gives one outcome for each segment that a line feed ends, in order, and
one more if what stands behind the last line feed is too long.  What is kept is
that part of the stream, unchanged, or nothing if it was reported. -/
theorem feed_lines (layout : Layout) (max : Nat) (chunks : List (List UInt8)) :
    let bytes := chunks.flatten
    feed drain ((Format.text layout).decoder max) [] chunks =
      ((ended bytes).map (report max) ++
          (if max < (tail bytes).length then [.error (.lineTooLong max)]
            else []),
        .lines ⟨max, decide (max < (tail bytes).length)⟩,
        if max < (tail bytes).length then [] else tail bytes) := by
  intro bytes
  have hdrain : (outside max).drain bytes =
      (reports max bytes, afterLines max bytes, kept max bytes) :=
    drain_eq (reads_lines max bytes)
  have hempty : (outside max).next [] = (none, outside max, []) :=
    next_tail List.not_mem_nil (Nat.zero_le max)
  have hmild : ∀ o ∈ ((outside max).drain ([] ++ bytes)).1,
      goesOn unlessFatal o = true := by
    rw [List.nil_append, hdrain]
    exact Lines.reports_mild max bytes
  have hfeed := feed_drain chunks (Continues.refl (outside max) []) hempty hmild
  rw [List.nil_append, List.nil_append] at hfeed
  have hstate : afterLines max bytes =
      .lines ⟨max, decide (max < (tail bytes).length)⟩ := by
    unfold afterLines
    split
    · next hlong => rw [decide_eq_true hlong]; rfl
    · next hshort => rw [decide_eq_false hshort]; rfl
  calc feed drain (outside max) [] chunks
      = (outside max).drain bytes := hfeed.symm
    _ = (reports max bytes, afterLines max bytes, kept max bytes) := hdrain
    _ = _ := by rw [hstate]; rfl

end Decoder

end DeviceGateway.Wire
