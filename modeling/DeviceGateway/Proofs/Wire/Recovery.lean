import DeviceGateway.Proofs.Wire.Resumption
import DeviceGateway.Proofs.Wire.Writing

/-!
# Reading back what was written

Packets are written into a buffer one after another, and one that cannot be
written is passed over.  Whoever reads the buffer finds the packets that were
written, in order and with the fields they had, and then stands as if it had
never read anything, in front of whatever follows.

The reader's limit has to be no smaller than the writer's.  Both limits are on
the whole frame, so a frame of exactly the limit is written and read.

## Main results

* `written_recovered`: what is written, what is not, and what is read back.
-/

namespace DeviceGateway.Wire

namespace Binary

/-! ## A buffer of frames -/

/-- The octets of a packet, none if it cannot be written. -/
def octetsOf (max : Nat) (p : Packet) : List UInt8 :=
  match encode max p with
  | .ok octets => octets
  | .error _ => []

private theorem write_eq_ok_iff {max : Nat} {p : Packet} {buffer : List UInt8} :
    (write max p buffer).1 = .ok () ↔ p.Fits max := by
  rw [← encode_isOk_iff, write]
  cases encode max p with
  | ok octets => simp
  | error fault => simp

private theorem write_buffer (max : Nat) (p : Packet) (buffer : List UInt8) :
    (write max p buffer).2 = buffer ++ octetsOf max p := by
  rw [write, octetsOf]
  cases encode max p with
  | ok octets => rfl
  | error fault => exact (List.append_nil buffer).symm

private theorem write_isOk (max : Nat) (p : Packet) (buffer : List UInt8) :
    (write max p buffer).1.isOk = (encode max p).isOk := by
  rw [write]
  cases encode max p with
  | ok octets => rfl
  | error fault => rfl

/-- A packet that cannot be written leaves the buffer as it is. -/
theorem write_of_ne_ok {max : Nat} {p : Packet} {buffer : List UInt8}
    (h : (write max p buffer).1 ≠ .ok ()) :
    (write max p buffer).2 = buffer := by
  rw [write] at h ⊢
  cases hencode : encode max p with
  | ok octets =>
    rw [hencode] at h
    exact absurd rfl h
  | error fault => rfl

theorem octetsOf_of_not_isOk {max : Nat} {p : Packet}
    (h : (encode max p).isOk = false) :
    octetsOf max p = [] := by
  rw [octetsOf]
  cases hencode : encode max p with
  | ok octets =>
    rw [hencode] at h
    cases h
  | error fault => rfl

theorem encode_of_isOk {max : Nat} {p : Packet}
    (h : (encode max p).isOk = true) :
    encode max p = .ok (octetsOf max p) := by
  rw [octetsOf]
  cases hencode : encode max p with
  | ok octets => rfl
  | error fault =>
    rw [hencode] at h
    cases h

/-- The packets of a list that were written, by what came of each. -/
def written (packets : List Packet) (results : List (Except Fault Unit)) :
    List Packet :=
  ((packets.zip results).filter fun x => x.2.isOk).map Prod.fst

private theorem writeAll_buffer (max : Nat) (packets : List Packet)
    (buffer : List UInt8) :
    (writeAll max packets buffer).2 =
      buffer ++ packets.flatMap (octetsOf max) := by
  induction packets generalizing buffer with
  | nil => exact (List.append_nil buffer).symm
  | cons p packets ih =>
    simp only [writeAll, ih, write_buffer, List.flatMap_cons, List.append_assoc]

/-- Whether a packet is written does not depend on what was written before. -/
theorem written_writeAll (max : Nat) (packets : List Packet)
    (buffer : List UInt8) :
    written packets (writeAll max packets buffer).1 =
      packets.filter fun p => (encode max p).isOk := by
  induction packets generalizing buffer with
  | nil => rfl
  | cons p packets ih =>
    have hrest := ih (write max p buffer).2
    rw [written] at hrest
    simp only [writeAll, written, List.zip_cons_cons, List.filter_cons,
      write_isOk]
    cases (encode max p).isOk with
    | true => simp [hrest]
    | false => simp [hrest]

end Binary

namespace Decoder

open Binary

/-- What so many looks at an input come to, one after the other. -/
def looks : Nat → Decoder → List UInt8 →
    List (Option (Except Fault Frame)) × Decoder × List UInt8
  | 0, d, input => ([], d, input)
  | n + 1, d, input =>
    let first := d.next input
    let others := looks n first.2.1 first.2.2
    (first.1 :: others.1, others.2)

variable {max max' : Nat}

/-- Of each packet that was written one look finds the frame, and leaves the
octets that were written after it. -/
theorem looks_octets (hmax : max ≤ max') (packets : List Packet)
    (rest : List UInt8) :
    let kept := packets.filter fun p => (encode max p).isOk
    looks kept.length (ready max') (packets.flatMap (octetsOf max) ++ rest) =
      (kept.map fun p => some (.ok p.frame), ready max', rest) := by
  induction packets with
  | nil => rfl
  | cons p packets ih =>
    dsimp only at ih ⊢
    rw [List.flatMap_cons, List.append_assoc, List.filter_cons]
    cases hok : (encode max p).isOk with
    | true =>
      have hscan := scan_encode (encode_of_isOk hok) hmax
        (packets.flatMap (octetsOf max) ++ rest)
      simp only [if_true, List.length_cons, looks, next_ready_frame hscan, ih,
        List.map_cons]
    | false =>
      rw [octetsOf_of_not_isOk hok, List.nil_append]
      exact ih

/-- What is read behind frames that were written is what is read without
them. -/
theorem readsBinary_octets (hmax : max ≤ max') (packets : List Packet)
    {rest rest' : List UInt8} {os : List (Except Fault Frame)} {d : Decoder}
    (h : ReadsBinary (ready max') rest os d rest') :
    ReadsBinary (ready max') (packets.flatMap (octetsOf max) ++ rest)
      (((packets.filter fun p => (encode max p).isOk).map fun p =>
        .ok p.frame) ++ os) d rest' := by
  induction packets with
  | nil => exact h
  | cons p packets ih =>
    rw [List.flatMap_cons, List.append_assoc, List.filter_cons]
    cases hok : (encode max p).isOk with
    | true =>
      have hscan := scan_encode (encode_of_isOk hok) hmax
        (packets.flatMap (octetsOf max) ++ rest)
      exact .more (next_ready_frame hscan) rfl ih
    | false =>
      rw [octetsOf_of_not_isOk hok, List.nil_append]
      exact ih

/-- A packet is written exactly if it keeps to the limits, and otherwise the
buffer stays as it is.  Packets that were written into one buffer are read back
in order, each with the fields it had; after so many looks the decoder is as it
was at the start, and the input is what followed them, so all that comes next is
what a fresh decoder finds in it. -/
theorem written_recovered (hmax : max ≤ max') (packets : List Packet)
    (rest : List UInt8) :
    let out := writeAll max packets []
    let kept := written packets out.1
    (∀ p buffer, ((write max p buffer).1 = .ok () ↔ p.Fits max) ∧
      ((write max p buffer).1 ≠ .ok () → (write max p buffer).2 = buffer)) ∧
    looks kept.length (ready max') (out.2 ++ rest) =
      (kept.map fun p => some (.ok p.frame), ready max', rest) ∧
    (ready max').drainToFault (out.2 ++ rest) =
      ((kept.map fun p => .ok p.frame) ++ ((ready max').drainToFault rest).1,
        ((ready max').drainToFault rest).2) := by
  intro out kept
  have hkept : kept = packets.filter fun p => (encode max p).isOk :=
    written_writeAll max packets []
  have hbuffer : out.2 = packets.flatMap (octetsOf max) := by
    rw [writeAll_buffer, List.nil_append]
  rw [hkept, hbuffer]
  refine ⟨fun p buffer => ⟨write_eq_ok_iff, write_of_ne_ok⟩,
    looks_octets hmax packets rest, ?_⟩
  have hfresh : ready max' = ready max' ∨ ready max' = failed max' := .inl rfl
  have hrest := (readsBinary_drainToFault hfresh rest).1
  have hwhole :=
    (readsBinary_drainToFault hfresh (packets.flatMap (octetsOf max) ++ rest)).1
  obtain ⟨hos, hd, hleft⟩ :=
    hwhole.unique (readsBinary_octets hmax packets hrest)
  exact Prod.ext hos (Prod.ext hd hleft)

/-- The second of three packets is an octet too long.  Behind the others stands
the first half of a heartbeat. -/
theorem written_recovered_two :
    let device : DeviceId := ⟨"d", by decide, by decide⟩
    let packets : List Packet :=
      [.connect ⟨device, "", "", 1⟩, .data device [1, 2, 3, 4, 5, 6, 7],
        .data device [9]]
    11 ≤ 12 ∧ written packets (writeAll 11 packets []).1 =
        [.connect ⟨device, "", "", 1⟩, .data device [9]] ∧
      looks 2 (ready 12) ((writeAll 11 packets []).2 ++ [0x60]) =
        ([some (.ok (.connect ⟨device, "", "", 1⟩)),
          some (.ok (.data (Reading.of device [9])))], ready 12, [0x60]) := by
  intro device packets
  have hlimits : 11 ≤ 12 := by decide
  have hkept : written packets (writeAll 11 packets []).1 =
      [.connect ⟨device, "", "", 1⟩, .data device [9]] := by decide +kernel
  have h := (written_recovered hlimits packets [0x60]).2.1
  rw [hkept] at h
  exact ⟨hlimits, hkept, h⟩

end Decoder

end DeviceGateway.Wire
