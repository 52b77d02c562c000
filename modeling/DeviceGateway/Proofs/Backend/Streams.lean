import DeviceGateway.Proofs.Backend.Uses

/-!
# Upstream streams carry whole frames

The streams of a pool are written by clients that know nothing of each other, on
a network of which nothing is assumed: opening a stream may fail, and a write
may fail or take too long after any number of octets.  What holds all the same
is an invariant of the connections.  The stream that a connection has is its
own, no write on it went wrong, and the connection knows when it was used last.
A write that goes wrong takes the stream away from its connection, and as no
other connection has it, nobody writes there again.

Four things can happen to the streams of a connection: it gives its stream up,
it is given a fresh one, a frame is written on it in full, or a write goes
wrong.  Each keeps the invariant, and every use of a pool is made of them.

## Main results

* `Kept.use`: one use keeps the invariant, and what it does to the streams is in
  order.
* `Kept.after`: and so does a run.
* `streams_whole`: what stands on the streams, for every run and every network.
-/

namespace DeviceGateway.Backend.Pool

/-! ## The invariant -/

/-- The streams are what the log says, and each connection has a stream that is
sound, its own, and known to have been used when the connection says. -/
structure Kept (idle : Nat) (log : List Event) (p : Pool) : Prop where
  orderly : Orderly idle log
  known : ∀ e ∈ log, e.stream < p.streams.length
  content : ∀ k, k < p.streams.length → p.streams[k]? = some (laid k log)
  current : ∀ (index : Nat) (line : Line) (k : Nat),
    p.lines[index]? = some line →
    line.stream = some k → k < p.streams.length ∧ Unbroken k log ∧
      lastUse k log = some line.lastUsed ∧ line.lastUsed ≤ p.now
  apart : ∀ (index index' : Nat) (line line' : Line) (k : Nat),
    p.lines[index]? = some line →
    p.lines[index']? = some line' → line.stream = some k →
      line'.stream = some k →
      index = index'

section Silent

variable {k : Nat} {log : List Event}

/-- Of a stream that is not in the log, nothing is known. -/
theorem laid_of_silent (h : ∀ e ∈ log, e.stream ≠ k) : laid k log = [] := by
  rw [laid, List.flatMap_eq_nil_iff]
  intro e he
  cases e with
  | opened => rfl
  | wrote stream frame outcome time => exact if_neg (h _ he)

private theorem unbroken_of_silent (h : ∀ e ∈ log, e.stream ≠ k) :
    Unbroken k log := by
  intro e he hbreaks
  cases e with
  | opened => exact hbreaks
  | wrote stream frame outcome time => exact h _ he hbreaks.1

end Silent

namespace Kept

variable {idle : Nat} {log : List Event} {p : Pool} {index k : Nat}
  {line line' : Line}

/-- A connection that is changed, and the others. -/
theorem lines_setLine (hset : (p.setLine index line').lines[k]? = some line) :
    (k = index ∧ line = line') ∨ (k ≠ index ∧ p.lines[k]? = some line) := by
  by_cases hk : index = k
  · subst hk
    left
    have h : (p.lines.set index line')[index]? = some line := hset
    rw [List.getElem?_set_self'] at h
    obtain ⟨old, -, rfl⟩ := Option.map_eq_some_iff.1 h
    exact ⟨rfl, rfl⟩
  · right
    have h : (p.lines.set index line')[k]? = some line := hset
    rw [List.getElem?_set_ne hk] at h
    exact ⟨Ne.symm hk, h⟩

/-- A connection gives its stream up. -/
theorem dropped (h : Kept idle log p) (index : Nat) (line' : Line)
    (hline : line'.stream = none) :
    Kept idle log (p.setLine index line') where
  orderly := h.orderly
  known := h.known
  content := h.content
  current := by
    intro i line k hi hk
    rcases lines_setLine hi with ⟨rfl, rfl⟩ | ⟨-, hi⟩
    · rw [hline] at hk
      cases hk
    · exact h.current i line k hi hk
  apart := by
    intro i j line line₂ k hi hj hik hjk
    rcases lines_setLine hi with ⟨rfl, rfl⟩ | ⟨-, hi⟩
    · rw [hline] at hik
      cases hik
    · rcases lines_setLine hj with ⟨rfl, rfl⟩ | ⟨-, hj⟩
      · rw [hline] at hjk
        cases hjk
      · exact h.apart i j line line₂ k hi hj hik hjk

end Kept

/-- The pool with a fresh stream on a connection. -/
def withStream (p : Pool) (index : Nat) : Pool :=
  { p with streams := p.streams ++ [[]] }.setLine index
    ⟨some p.streams.length, p.now⟩

namespace Kept

variable {idle : Nat} {log : List Event} {p : Pool} {index k : Nat}
  {line line' : Line}

/-- One stream may go to one connection if no other has it. -/
theorem apart_of_one (h : Kept idle log p) (index stream : Nat)
    {lines : List Line}
    (hone : ∀ (i : Nat) (line : Line) (k : Nat),
      lines[i]? = some line → line.stream = some k →
      (i = index ∧ k = stream) ∨ (p.lines[i]? = some line ∧ k ≠ stream))
    (i j : Nat) (line line' : Line) (k : Nat) (hi : lines[i]? = some line)
    (hj : lines[j]? = some line') (hik : line.stream = some k)
    (hjk : line'.stream = some k) :
    i = j := by
  rcases hone i line k hi hik with ⟨hindex, hstream⟩ | ⟨hold, hother⟩
  · rcases hone j line' k hj hjk with ⟨hindex', -⟩ | ⟨-, hother⟩
    · rw [hindex, hindex']
    · exact absurd hstream hother
  · rcases hone j line' k hj hjk with ⟨-, hstream⟩ | ⟨hold', -⟩
    · exact absurd hstream hother
    · exact h.apart i j line line' k hold hold' hik hjk

/-- A connection is given a fresh stream. -/
theorem opened (h : Kept idle log p) (index : Nat) :
    Kept idle (log ++ [.opened p.streams.length p.now])
      (p.withStream index) := by
  have hsilent : ∀ e ∈ log, e.stream ≠ p.streams.length :=
    fun e he => Nat.ne_of_lt (h.known e he)
  have hbreaks (k : Nat) : ¬ (Event.opened p.streams.length p.now).Breaks k :=
    id
  have hlength : (p.withStream index).streams.length =
      p.streams.length + 1 := by
    simp [withStream, setLine]
  have hcurrent : ∀ (i : Nat) (line : Line) (k : Nat),
      (p.withStream index).lines[i]? = some line → line.stream = some k →
      (i = index ∧ line = ⟨some p.streams.length, p.now⟩ ∧
        k = p.streams.length) ∨
        (p.lines[i]? = some line ∧ k < p.streams.length) := by
    intro i line k hi hk
    rcases lines_setLine hi with ⟨rfl, rfl⟩ | ⟨-, hi⟩
    · exact .inl ⟨rfl, rfl, (Option.some.inj hk).symm⟩
    · exact .inr ⟨hi, (h.current i line k hi hk).1⟩
  constructor
  case orderly =>
    exact h.orderly.concat hsilent
  case known =>
    intro e he
    rw [hlength]
    rcases List.mem_append.1 he with he | he
    · exact Nat.lt_succ_of_lt (h.known e he)
    · obtain rfl := List.mem_singleton.1 he
      exact Nat.lt_succ_self _
  case content =>
    intro k hk
    rw [hlength] at hk
    have hstreams : (p.withStream index).streams = p.streams ++ [[]] := rfl
    rw [laid_concat, hstreams]
    show _ = some (laid k log ++ [])
    rw [List.append_nil]
    by_cases hold : k < p.streams.length
    · rw [List.getElem?_append_left hold]
      exact h.content k hold
    · obtain rfl : k = p.streams.length := by omega
      rw [List.getElem?_append_right (Nat.le_refl _), Nat.sub_self,
        laid_of_silent hsilent]
      rfl
  case current =>
    intro i line k hi hk
    rw [hlength, unbroken_concat, lastUse_concat]
    rcases hcurrent i line k hi hk with ⟨-, rfl, rfl⟩ | ⟨hi, hold⟩
    · refine ⟨Nat.lt_succ_self _, ⟨unbroken_of_silent hsilent, hbreaks _⟩, ?_,
        Nat.le_refl _⟩
      simp [Event.use?]
    · obtain ⟨-, hunbroken, hused, hpast⟩ := h.current i line k hi hk
      refine ⟨Nat.lt_succ_of_lt hold, ⟨hunbroken, hbreaks k⟩, ?_, hpast⟩
      rw [Event.use?, if_neg (Nat.ne_of_gt hold), hused]
      rfl
  case apart =>
    refine h.apart_of_one index p.streams.length fun i line k hi hk => ?_
    rcases hcurrent i line k hi hk with ⟨hindex, -, hfresh⟩ | ⟨hi, hold⟩
    · exact .inl ⟨hindex, hfresh⟩
    · exact .inr ⟨hi, Nat.ne_of_lt hold⟩

/-- A frame is written on the stream of a connection: in full, and the stream is
used now; or not, and the connection gives it up. -/
theorem wrote (h : Kept idle log p) (hline : p.lines[index]? = some line)
    (hk : line.stream = some k) (hidle : p.now - line.lastUsed ≤ idle)
    (frame : List UInt8) (outcome : Write) (line' : Line)
    (hdone : outcome = .done → line' = ⟨some k, p.now⟩)
    (hnot : outcome ≠ .done → line'.stream = none) :
    Kept idle (log ++ [.wrote k frame outcome p.now])
      ((p.append k (outcome.left frame)).setLine index line') := by
  obtain ⟨hknown, hunbroken, hused, hpast⟩ := h.current index line k hline hk
  have hlength :
      ((p.append k (outcome.left frame)).setLine index line').streams.length =
      p.streams.length := by
    simp [append, setLine]
  have hcurrent : ∀ (i : Nat) (line : Line) (k' : Nat),
      ((p.append k (outcome.left frame)).setLine index line').lines[i]? =
        some line →
        line.stream = some k' →
      (i = index ∧ line = ⟨some k, p.now⟩ ∧ k' = k ∧ outcome = .done) ∨
        (p.lines[i]? = some line ∧ k' ≠ k) := by
    intro i line₂ k' hi hk'
    rcases lines_setLine hi with ⟨rfl, rfl⟩ | ⟨hne, hi⟩
    · by_cases houtcome : outcome = .done
      · obtain rfl := hdone houtcome
        exact .inl ⟨rfl, rfl, (Option.some.inj hk').symm, houtcome⟩
      · rw [hnot houtcome] at hk'
        cases hk'
    · refine .inr ⟨hi, ?_⟩
      rintro rfl
      exact hne (h.apart i index line₂ line k' hi hline hk' hk)
  constructor
  case orderly =>
    exact h.orderly.concat ⟨hunbroken, line.lastUsed, hused, hpast, hidle⟩
  case known =>
    intro e he
    rw [hlength]
    rcases List.mem_append.1 he with he | he
    · exact h.known e he
    · obtain rfl := List.mem_singleton.1 he
      exact hknown
  case content =>
    intro k' hk'
    rw [hlength] at hk'
    show (p.streams.modify k (· ++ outcome.left frame))[k']? = _
    rw [List.getElem?_modify, h.content k' hk', laid_concat, Event.laid]
    by_cases heq : k = k'
    · simp [heq]
    · simp [heq]
  case current =>
    intro i line₂ k' hi hk'
    rw [hlength, unbroken_concat, lastUse_concat]
    rcases hcurrent i line₂ k' hi hk' with ⟨-, rfl, rfl, rfl⟩ | ⟨hi, hne⟩
    · exact ⟨hknown,
        ⟨hunbroken, fun hbreaks => hbreaks.2 rfl⟩, by
          simp [Event.use?], Nat.le_refl _⟩
    · obtain ⟨hknown', hunbroken', hused', hpast'⟩ :=
        h.current i line₂ k' hi hk'
      refine ⟨hknown', ⟨hunbroken', fun hbreaks => hne hbreaks.1.symm⟩,
        ?_, hpast'⟩
      have huse : (Event.wrote k frame outcome p.now).use? k' = none := by
        cases outcome <;> simp [Event.use?, Ne.symm hne]
      rw [huse, hused']
      rfl
  case apart =>
    refine h.apart_of_one index k fun i line₂ k' hi hk' => ?_
    exact (hcurrent i line₂ k' hi hk').imp_left fun hcase =>
      ⟨hcase.1, hcase.2.2.1⟩

/-- The invariant is about connections, streams and the time. -/
theorem of_fields {q : Pool} (h : Kept idle log p) (hlines : q.lines = p.lines)
    (hstreams : q.streams = p.streams) (hnow : p.now ≤ q.now) :
    Kept idle log q where
  orderly := h.orderly
  known := by
    rw [hstreams]
    exact h.known
  content := by
    rw [hstreams]
    exact h.content
  current := by
    intro i line k hi hk
    rw [hlines] at hi
    rw [hstreams]
    obtain ⟨hknown, hunbroken, hused, hpast⟩ := h.current i line k hi hk
    exact ⟨hknown, hunbroken, hused, Nat.le_trans hpast hnow⟩
  apart := by
    rw [hlines]
    exact h.apart

/-- A connection is made, without a stream. -/
theorem lineOf (h : Kept idle log p) (slot : Nat) :
    Kept idle log (p.lineOf slot).2 := by
  unfold Pool.lineOf
  split
  · exact h
  · have hold : ∀ (i : Nat) (line : Line) (k : Nat),
        (p.lines ++ [{ lastUsed := p.now }])[i]? = some line →
          line.stream = some k →
          p.lines[i]? = some line := by
      intro i line k hi hk
      by_cases hlt : i < p.lines.length
      · rwa [List.getElem?_append_left hlt] at hi
      · rw [List.getElem?_append_right (Nat.not_lt.1 hlt)] at hi
        obtain rfl := List.mem_singleton.1 (List.mem_of_getElem? hi)
        cases hk
    exact ⟨h.orderly, h.known, h.content,
      fun i line k hi hk => h.current i line k (hold i line k hi hk) hk,
      fun i j line line₂ k hi hj hik hjk =>
        h.apart i j line line₂ k (hold i line k hi hik) (hold j line₂ k hj hjk)
          hik hjk⟩

end Kept

/-! ## What a use leaves alone -/

private theorem lineOf_streams (p : Pool) (slot : Nat) :
    (p.lineOf slot).2.streams = p.streams := by
  unfold lineOf
  split <;> rfl

/-- What opening, writing and giving up streams leave alone. -/
structure Steady (p q : Pool) : Prop where
  slots : q.slots = p.slots
  clients : q.clients = p.clients
  now : q.now = p.now
  lines : q.lines.length = p.lines.length

namespace Steady

variable {p q r : Pool}

private theorem refl (p : Pool) : Steady p p := ⟨rfl, rfl, rfl, rfl⟩

theorem trans (h : Steady p q) (h' : Steady q r) : Steady p r :=
  ⟨h'.slots.trans h.slots, h'.clients.trans h.clients, h'.now.trans h.now,
    h'.lines.trans h.lines⟩

private theorem setLine (p : Pool) (index : Nat) (line : Line) :
    Steady p (p.setLine index line) :=
  ⟨rfl, rfl, rfl, List.length_set⟩

end Steady

section Uses

variable {s : PoolSetup} {n : Network} {log : List Event} {p q : Pool}
  {index : Nat}

theorem opening_of_same (h : q.streams.length = p.streams.length) :
    opening p q = [] := by
  rw [opening, h, if_neg (Nat.lt_irrefl _)]

private theorem opening_congr {q' : Pool}
    (h : q'.streams.length = q.streams.length) (hnow : q'.now = q.now) :
    opening p q' = opening p q := by
  rw [opening, opening, h, hnow]

private theorem dial_cases (p : Pool) (index : Nat) :
    (∃ fault,
      p.dial s n index = (.error fault, { p with dials := p.dials + 1 })) ∨
      p.dial s n index =
        (.ok p.streams.length, { p with dials := p.dials + 1 }.withStream
          index) := by
  unfold dial
  cases n.dial p.dials with
  | opened => exact .inr rfl
  | failed text => exact .inl ⟨_, rfl⟩
  | timedOut => exact .inl ⟨_, rfl⟩

/-- The stream that a connection was given, and that may be written on. -/
def Ready (s : PoolSetup) (q : Pool) (index stream : Nat) : Prop :=
  ∃ line, q.lines[index]? = some line ∧ line.stream = some stream ∧
    q.now - line.lastUsed ≤ s.idleTimeout

theorem Kept.dial (h : Kept s.idleTimeout log p)
    (hindex : index < p.lines.length) :
    Kept s.idleTimeout (log ++ opening p (p.dial s n index).2)
      (p.dial s n index).2 ∧
      Steady p (p.dial s n index).2 ∧
      ∀ stream, (p.dial s n index).1 = .ok stream →
        Ready s (p.dial s n index).2 index stream := by
  rcases p.dial_cases (s := s) (n := n) index with ⟨fault, hdial⟩ | hdial
  · rw [hdial]
    have hnone : opening p { p with dials := p.dials + 1 } = [] :=
      opening_of_same rfl
    refine ⟨?_, ⟨rfl, rfl, rfl, rfl⟩, nofun⟩
    dsimp only
    rw [hnone, List.append_nil]
    exact h.of_fields rfl rfl (Nat.le_refl _)
  · have hopened :
        opening p ({ p with dials := p.dials + 1 }.withStream index) =
        [.opened p.streams.length p.now] := by
      have hlt : p.streams.length <
          ({ p with dials := p.dials + 1 }.withStream
            index).streams.length := by
        show p.streams.length < (p.streams ++ [[]]).length
        simp
      rw [opening, if_pos hlt]
      rfl
    rw [hdial, hopened]
    refine ⟨?_, ⟨rfl, rfl, rfl, List.length_set⟩, ?_⟩
    · have hfields : Kept s.idleTimeout log { p with dials := p.dials + 1 } :=
        h.of_fields rfl rfl (Nat.le_refl _)
      exact hfields.opened index
    · intro stream hstream
      obtain rfl := Except.ok.inj hstream
      refine ⟨⟨some p.streams.length, p.now⟩, ?_, rfl, ?_⟩
      · exact List.getElem?_set_self hindex
      · show p.now - p.now ≤ s.idleTimeout
        omega

theorem Kept.refresh (h : Kept s.idleTimeout log p)
    (hindex : index < p.lines.length) :
    Kept s.idleTimeout (log ++ opening p (p.refresh s n index).2)
      (p.refresh s n index).2 ∧
      Steady p (p.refresh s n index).2 ∧
      ∀ stream, (p.refresh s n index).1 = .ok stream →
        Ready s (p.refresh s n index).2 index stream := by
  rcases p.refresh_cases (s := s) (n := n) index with ⟨-, hr⟩ | ⟨_, -, -, hr⟩ |
    ⟨stream, hstream, hidle, hr⟩
  · rw [hr]
    exact h.dial hindex
  · rw [hr]
    have hsame := Steady.setLine p index (withoutStream (p.lineAt index))
    have hindex' : index <
        (p.setLine index (withoutStream (p.lineAt index))).lines.length := by
      rwa [hsame.lines]
    obtain ⟨hkept, hsteady, hready⟩ :=
      (h.dropped index _ rfl).dial (n := n) hindex'
    exact ⟨hkept, hsame.trans hsteady, hready⟩
  · rw [hr]
    refine ⟨?_, Steady.refl p, ?_⟩
    · rw [opening_of_same rfl, List.append_nil]
      exact h
    · intro stream' hstream'
      obtain rfl := Except.ok.inj hstream'
      have hline : p.lines[index]? = some (p.lineAt index) := by
        rw [lineAt, List.getElem?_eq_getElem hindex]
        rfl
      exact ⟨p.lineAt index, hline, hstream, hidle⟩

/-! ## Writing -/

private theorem write_cases (p : Pool) (index : Nat) (frame : List UInt8) :
    let reached := p.refresh s n index
    (∃ fault, reached.1 = .error fault ∧
      p.writing s n index frame = opening p reached.2 ∧
      p.write s n index frame = (.error fault, reached.2)) ∨
    ∃ k line outcome, reached.1 = .ok k ∧
      p.writing s n index frame =
        opening p reached.2 ++ [.wrote k frame outcome reached.2.now] ∧
      (p.write s n index frame).2 =
        (({ reached.2 with writes := reached.2.writes + 1 }.append k
          (outcome.left frame)).setLine index line) ∧
      ((outcome = .done ∧ (p.write s n index frame).1 = .ok () ∧
        line = ⟨some k, reached.2.now⟩) ∨
        (outcome ≠ .done ∧
          (∃ fault, (p.write s n index frame).1 = .error fault) ∧
          line.stream = none)) := by
  unfold write writing
  dsimp only
  generalize p.refresh s n index = reached
  obtain ⟨result, q⟩ := reached
  cases result with
  | error fault => exact .inl ⟨fault, rfl, rfl, rfl⟩
  | ok k =>
    right
    dsimp only
    cases n.write q.writes with
    | done => exact ⟨k, _, .done, rfl, rfl, rfl, .inl ⟨rfl, rfl, rfl⟩⟩
    | failed written text =>
      exact ⟨k, _, .failed written text, rfl, rfl, rfl,
        .inr ⟨nofun, ⟨_, rfl⟩, rfl⟩⟩
    | timedOut written =>
      exact ⟨k, _, .timedOut written, rfl, rfl, rfl,
        .inr ⟨nofun, ⟨_, rfl⟩, rfl⟩⟩

/-- What comes of a frame: it is written in full on the stream that the
connection has then, or the sender is told that it was not. -/
inductive Fate (p : Pool) (index : Nat) (frame : List UInt8)
    (events : List Event) :
    Except Fault Unit → Pool → Prop
  | written {q : Pool} {k : Nat}
      (hevents : events = opening p q ++ [.wrote k frame .done q.now])
      (hcurrent : (q.lineAt index).stream = some k) :
      Fate p index frame events (.ok ()) q
  | unsent {q : Pool} {fault : Fault} (hevents : events = opening p q) :
      Fate p index frame events (.error fault) q
  | broken {q : Pool} {fault : Fault} {k : Nat} {outcome : Write}
      (hnot : outcome ≠ .done)
      (hevents : events = opening p q ++ [.wrote k frame outcome q.now])
      (hgone : (q.lineAt index).stream = none) :
      Fate p index frame events (.error fault) q

private theorem lineAt_setLine (hindex : index < p.lines.length) (line : Line) :
    (p.setLine index line).lineAt index = line := by
  rw [lineAt, setLine, List.getElem?_set_self hindex]
  rfl

theorem Kept.write (h : Kept s.idleTimeout log p)
    (hindex : index < p.lines.length) (frame : List UInt8) :
    Kept s.idleTimeout (log ++ p.writing s n index frame)
      (p.write s n index frame).2 ∧
      Steady p (p.write s n index frame).2 ∧
      Fate p index frame (p.writing s n index frame) (p.write s n index frame).1
        (p.write s n index frame).2 := by
  obtain ⟨hkept, hsteady, hready⟩ := h.refresh (n := n) hindex
  rcases p.write_cases (s := s) (n := n) index frame with
    ⟨fault, -, hwriting, hwrite⟩ | ⟨k, line, outcome, hk, hwriting, hpool,
      hresult⟩
  · rw [hwriting, hwrite]
    exact ⟨hkept, hsteady, .unsent rfl⟩
  · obtain ⟨old, hold, hstream, hidle⟩ := hready k hk
    generalize p.refresh s n index = reached at *
    obtain ⟨result, q⟩ := reached
    dsimp only at *
    have hfields : Kept s.idleTimeout (log ++ opening p q)
        { q with writes := q.writes + 1 } :=
      hkept.of_fields rfl rfl (Nat.le_refl _)
    have hwrote := hfields.wrote hold hstream hidle frame outcome line
    have hsame : Steady q (({ q with writes := q.writes + 1 }.append k
        (outcome.left frame)).setLine index line) := ⟨rfl, rfl, rfl,
          List.length_set⟩
    have hopening : opening p (p.write s n index frame).2 = opening p q := by
      rw [hpool]
      exact opening_congr (List.length_modify ..) rfl
    have hnow : (p.write s n index frame).2.now = q.now := by rw [hpool]; rfl
    have hline : (p.write s n index frame).2.lineAt index = line := by
      rw [hpool]
      exact lineAt_setLine (by rw [← hsteady.lines] at hindex; exact hindex)
        line
    refine ⟨?_, ?_, ?_⟩
    · rw [hwriting, hpool, ← List.append_assoc]
      rcases hresult with ⟨hdone, -, hline⟩ | ⟨hnot, -, hline⟩
      · exact hwrote (fun _ => hline) fun hnot => absurd hdone hnot
      · exact hwrote (fun hdone => absurd hdone hnot) fun _ => hline
    · rw [hpool]
      exact hsteady.trans hsame
    · rcases hresult with ⟨rfl, hresult, rfl⟩ | ⟨hnot, ⟨fault, hresult⟩, hgone⟩
      · rw [hresult]
        refine .written (k := k) ?_ ?_
        · rw [hwriting, hopening, hnow]
        · rw [hline]
      · rw [hresult]
        refine .broken (k := k) hnot ?_ ?_
        · rw [hwriting, hopening, hnow]
        · rw [hline]
          exact hgone

/-! ## Clients and slots -/

/-- Each slot that was used has a connection, and a client has that of its
slot. -/
structure Housed (s : PoolSetup) (p : Pool) : Prop where
  slot : ∀ slot index, p.slots.lookup slot = some index → index < p.lines.length
  client : ∀ own ∈ p.clients, p.slots.lookup (s.slotOf own.deviceId) =
    some own.line

namespace Housed

theorem of_steady (h : Housed s p) (hsteady : Steady p q) : Housed s q where
  slot := by
    rw [hsteady.slots, hsteady.lines]
    exact h.slot
  client := by
    rw [hsteady.slots, hsteady.clients]
    exact h.client

theorem line_lt (h : Housed s p) {own : PoolClient} (hown : own ∈ p.clients) :
    own.line < p.lines.length :=
  h.slot _ _ (h.client own hown)

private theorem lineOf (h : Housed s p) (slot : Nat) :
    Housed s (p.lineOf slot).2 ∧
      (p.lineOf slot).2.slots.lookup slot = some (p.lineOf slot).1 := by
  unfold Pool.lineOf
  split
  · next index hfound => exact ⟨h, hfound⟩
  · next hnone =>
    refine ⟨⟨?_, ?_⟩, by simp⟩
    · intro slot' index hlookup
      rw [List.length_append, List.length_singleton]
      rw [List.lookup_cons] at hlookup
      split at hlookup
      · obtain rfl := Option.some.inj hlookup
        exact Nat.lt_succ_self _
      · exact Nat.lt_succ_of_lt (h.slot slot' index hlookup)
    · intro own hown
      have hold := h.client own hown
      have hne : s.slotOf own.deviceId ≠ slot := by
        rintro rfl
        rw [hnone] at hold
        cases hold
      rw [List.lookup_cons, beq_eq_false_iff_ne.2 hne]
      exact hold

end Housed

/-! ## Runs -/

/-- A client is made, and for it a stream may be opened. -/
theorem Kept.connect (h : Kept s.idleTimeout log p) (hhoused : Housed s p)
    (identity : Identity) :
    Kept s.idleTimeout (log ++ opening p (p.connect s n identity).2)
      (p.connect s n identity).2 ∧
      Housed s (p.connect s n identity).2 := by
  have hfirst := h.lineOf (s.slotOf identity.id)
  obtain ⟨hhoused₁, hlookup⟩ := hhoused.lineOf (s.slotOf identity.id)
  have hindex := hhoused₁.slot _ _ hlookup
  obtain ⟨hkept, hsteady, -⟩ := hfirst.refresh (n := n) hindex
  have hopening : opening p ((p.lineOf (s.slotOf identity.id)).2.refresh s n
      (p.lineOf (s.slotOf identity.id)).1).2 =
        opening (p.lineOf (s.slotOf identity.id)).2
          ((p.lineOf (s.slotOf identity.id)).2.refresh s n
            (p.lineOf (s.slotOf identity.id)).1).2 := by
    unfold opening
    rw [lineOf_streams]
  rw [← hopening] at hkept
  rcases p.connect_cases (s := s) (n := n) identity with ⟨fault, -, hconnect⟩ |
    ⟨stream, -, hconnect⟩
  · rw [hconnect]
    exact ⟨hkept, hhoused₁.of_steady hsteady⟩
  · rw [hconnect]
    refine ⟨hkept.of_fields rfl rfl (Nat.le_refl _),
      (hhoused₁.of_steady hsteady).slot, ?_⟩
    intro own hown
    show List.lookup _ ((p.lineOf (s.slotOf identity.id)).2.refresh s n
      (p.lineOf (s.slotOf identity.id)).1).2.slots = _
    rw [hsteady.slots]
    rcases List.mem_append.1 hown with hown | hown
    · rw [← p.lineOf_clients (s.slotOf identity.id)] at hown
      exact hhoused₁.client own hown
    · obtain rfl := List.mem_singleton.1 hown
      exact hlookup

theorem Kept.use (h : Kept s.idleTimeout log p) (hhoused : Housed s p)
    (u : Use) :
    Kept s.idleTimeout (log ++ p.events s n u) (p.use s n u).2 ∧
      Housed s (p.use s n u).2 := by
  cases u with
  | connect identity => exact h.connect hhoused identity
  | send client message =>
    show Kept _ (log ++ p.events s n (.send client message))
      (p.send s n client message).2 ∧
      Housed s (p.send s n client message).2
    rcases p.send_cases (s := s) (n := n) client message with
      ⟨-, hevents, hsend⟩ |
        ⟨own, hown, ⟨-, hevents, hsend⟩ | ⟨-, hevents, hsend⟩⟩
    · rw [hevents, hsend, List.append_nil]
      exact ⟨h, hhoused⟩
    · rw [hevents, hsend, List.append_nil]
      exact ⟨h, hhoused⟩
    · have hindex := hhoused.line_lt (List.mem_of_getElem? hown)
      obtain ⟨hkept, hsteady, -⟩ := h.write (n := n) hindex
        (Envelope.of own.deviceId message).encode
      rw [hevents, hsend]
      exact ⟨hkept, hhoused.of_steady hsteady⟩
  | close client =>
    show Kept _ (log ++ []) (p.close client) ∧ Housed s (p.close client)
    rw [List.append_nil]
    refine ⟨h.of_fields rfl rfl (Nat.le_refl _), hhoused.slot, ?_⟩
    intro own hown
    obtain ⟨old, hold, hdevice, hline⟩ := mem_close hown
    rw [← hdevice, ← hline]
    exact hhoused.client old hold
  | wait milliseconds =>
    show Kept _ (log ++ []) (p.advance milliseconds) ∧
      Housed s (p.advance milliseconds)
    rw [List.append_nil]
    exact ⟨h.of_fields rfl rfl (Nat.le_add_right _ _), hhoused.slot,
      hhoused.client⟩

theorem Kept.start (idle : Nat) : Kept idle [] ({} : Pool) where
  orderly := .nil
  known := nofun
  content := nofun
  current := by
    intro index line k hline
    cases hline
  apart := by
    intro index index' line line' k hline
    cases hline

theorem Kept.after (uses : List Use) :
    Kept s.idleTimeout (({} : Pool).traffic s n uses)
      (({} : Pool).after s n uses) ∧
      Housed s (({} : Pool).after s n uses) := by
  induction uses using List.reverseRecOn with
  | nil => exact ⟨.start _, nofun, nofun⟩
  | append_singleton uses u ih =>
    rw [after_concat, traffic_concat]
    exact ih.1.use ih.2 u

/-- Clients of one device have one connection. -/
theorem Housed.line_eq (h : Housed s p) {own own' : PoolClient}
    (hown : own ∈ p.clients) (hown' : own' ∈ p.clients)
    (hdevice : own.deviceId = own'.deviceId) : own.line = own'.line := by
  have hline := h.client own hown
  rw [hdevice, h.client own' hown'] at hline
  exact (Option.some.inj hline).symm

/-- A send of a client that is closed, or that there is not, comes to nothing;
of any other, its frame meets its fate. -/
theorem Kept.send (h : Kept s.idleTimeout log p) (hhoused : Housed s p)
    (client : Client) (message : Message) :
    let r := p.send s n client message
    let events := p.events s n (.send client message)
    (events = [] ∧ r.2 = p ∧ ∃ deviceId, r.1 = .error (.closed deviceId)) ∨
      ∃ own, p.clients[client.number]? = some own ∧ own.closed = false ∧
        Fate p own.line (Envelope.of own.deviceId message).encode events r.1
          r.2 := by
  intro r events
  rcases p.send_cases (s := s) (n := n) client message with
    ⟨-, hevents, hsend⟩ |
      ⟨own, hown, ⟨-, hevents, hsend⟩ | ⟨hopen, hevents, hsend⟩⟩
  · exact .inl ⟨hevents, congrArg Prod.snd hsend, _, congrArg Prod.fst hsend⟩
  · exact .inl ⟨hevents, congrArg Prod.snd hsend, _, congrArg Prod.fst hsend⟩
  · have hindex := hhoused.line_lt (List.mem_of_getElem? hown)
    obtain ⟨-, -, hfate⟩ :=
      h.write (n := n) hindex (Envelope.of own.deviceId message).encode
    refine .inr ⟨own, hown, hopen, ?_⟩
    show Fate p own.line _ (p.events s n (.send client message))
      (p.send s n client message).1 (p.send s n client message).2
    rw [hevents, hsend]
    exact hfate

end Uses

/-- However a pool is used, and whatever the network does:

* a stream holds the frames that were written on it in full, in order, and
  behind them at most the front of one whose write went wrong;
* a frame is written only on a stream on which no write went wrong before, and
  which was opened or written on no longer ago than a stream may be idle;
* a send that succeeds has its frame written in full on one stream, the one that
  the connection of the client has then, and one that does not succeed has no
  frame written in full and leaves octets on one stream at most;
* all clients of a device have one connection;
* from when a client is closed, everything else goes as if nothing more were
  done through it: the streams, what happens to them, and the answers to the
  others are the same, and its own messages are refused. -/
theorem streams_whole (s : PoolSetup) (n : Network) (uses : List Use) :
    let start : Pool := {}
    let p := start.after s n uses
    let log := start.traffic s n uses
    (∀ k, k < p.streams.length →
      ∃ tail, p.streams[k]? = some ((delivered k log).flatten ++ tail) ∧
        (tail = [] ∨ ∃ front frame outcome time back,
          log = front ++ .wrote k frame outcome time :: back ∧ outcome ≠ .done ∧
            tail <+: frame)) ∧
    (∀ front k frame outcome time back,
      log = front ++ .wrote k frame outcome time :: back →
      Unbroken k front ∧ ∃ used, lastUse k front = some used ∧ used ≤ time ∧
        time - used ≤ s.idleTimeout) ∧
    (∀ front client message back, uses = front ++ .send client message :: back →
      let q := start.after s n front
      let r := q.send s n client message
      let events := q.events s n (.send client message)
      (events = [] ∧ r.2 = q ∧ ∃ deviceId, r.1 = .error (.closed deviceId)) ∨
        ∃ own, q.clients[client.number]? = some own ∧ own.closed = false ∧
          Fate q own.line (Envelope.of own.deviceId message).encode events
            r.1 r.2) ∧
    (∀ own ∈ p.clients, ∀ own' ∈ p.clients, own.deviceId = own'.deviceId →
      own.line = own'.line) ∧
    (∀ front client own back, uses = front ++ .close client :: back →
      (start.after s n front).clients[client.number]? = some own →
      let q := start.after s n front
      let others := back.filter fun u => !u.through client.number
      ((q.close client).after s n back).streams = (q.after s n others).streams ∧
        (q.close client).traffic s n back = q.traffic s n others ∧
        (((q.close client).answers s n back).filter fun entry =>
          !entry.1.through client.number) = q.answers s n others ∧
        ∀ client' message answer, client'.number = client.number →
          (Use.send client' message, answer) ∈
            (q.close client).answers s n back →
            answer = .error (.closed own.deviceId)) := by
  intro start p log
  obtain ⟨hkept, hhoused⟩ := Kept.after (s := s) (n := n) uses
  refine ⟨?_, ?_, ?_, ?_, ?_⟩
  · intro k hk
    obtain ⟨tail, htail, hcause⟩ := hkept.orderly.laid_eq k
    exact ⟨tail, (hkept.content k hk).trans (congrArg some htail), hcause⟩
  · intro front k frame outcome time back hlog
    exact hkept.orderly front _ back hlog
  · intro front client message back huses
    obtain ⟨hfront, hhousedFront⟩ := Kept.after (s := s) (n := n) front
    exact hfront.send hhousedFront client message
  · intro own hown own' hown' hdevice
    exact hhoused.line_eq hown hown' hdevice
  · intro front client own back huses hown
    obtain ⟨hafter, htraffic, hanswers, hrefused⟩ :=
      run_close (s := s) (n := n) hown back
    refine ⟨?_, htraffic, hanswers, hrefused⟩
    rw [hafter]
    rfl

end DeviceGateway.Backend.Pool
