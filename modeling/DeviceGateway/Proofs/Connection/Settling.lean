import DeviceGateway.Proofs.Connection.Lockstep

/-!
# Courses leave nothing behind

Octets of a device may lie in the input of its connection while reading is held
back, and reading is held back only while a CONNECT is worked on.  So it has to
be seen that they are taken up afterwards, although nothing may arrive any more
that would make the connection look at its input.

Taking the input up leaves it `Settled`.  Rounds are bounded in number because a
loop has to end, but the bound is never met: a round takes something off the
input or reports an over-long line, and what can still be done so is less each
time.  So the rounds end because the session is closed, because reading is held
back, or because the input gives nothing more.

Whatever can come next either takes the input up or has no part in it.  Only
octets that come in and are not taken up at once can be lying there: a
connection that takes up what it reads has its input settled at any time.

## Main results

* `process_settled`: processing ends with the input settled.
* `turn_settled`, `course_settled`: the input of such a connection is settled.
* `in_step_of_settled`: it has then read its whole stream.
-/

namespace DeviceGateway

namespace Connection

variable {σ : Type} {v : Services σ} {peer : Option Peer}
  {origin : Established → Prop} {asked : Prop} {arrived : List UInt8}
  {c : Connection} {w : World σ} {h : Run σ} {tenancy : Tenancy} {now : Nat}

/-! ## The end of processing -/

/-- The input of a connection is taken up as far as it may be: the session is
closed, or reading is held back, or nothing more is found. -/
def Settled (v : Services σ) (c : Connection) : Prop :=
  c.session.flags.closed = true ∨ c.session.flags.throttled = true ∨
    ∀ tenancy chain d, c.chain.resolve v.table v.maxMessageSize c.peer =
      .ok (tenancy, chain) →
      chain.decoder = some d → (d.next c.input).1 = none

/-- An input that is settled gives nothing to a session that is open and
reading. -/
theorem Settled.next_eq_none (hs : Settled v c)
    (hopen : c.session.flags.closed = false)
    (hreading : c.session.flags.throttled = false) {chain : Chain}
    {d : Wire.Decoder}
    (hresolve : c.chain.resolve v.table v.maxMessageSize c.peer =
      .ok (tenancy, chain))
    (hdecoder : chain.decoder = some d) :
        (d.next c.input).1 = none := by
  rcases hs with hclosed | hthrottled | hquiet
  · rw [hopen] at hclosed
    cases hclosed
  · rw [hreading] at hthrottled
    cases hthrottled
  · exact hquiet tenancy chain d hresolve hdecoder

/-- A look that gave nothing gives nothing again. -/
theorem settled_of_nothing {tenancy : Tenancy} {d : Wire.Decoder}
    (hready : c.chain.Ready d tenancy) {chain : Chain} {input : List UInt8}
    (hnext : c.chain.next c.input = (none, chain, input)) :
    Settled v { c with chain, input } := by
  obtain ⟨d', hlook, hready'⟩ := hready.next hnext
  have hagain := Wire.Decoder.next_append_none hlook []
  rw [List.append_nil, List.append_nil, hlook] at hagain
  refine .inr (.inr fun tenancy' chain' d'' hresolve hdecoder => ?_)
  have hsame := (hready'.resolve v.table v.maxMessageSize c.peer).symm.trans
    hresolve
  obtain ⟨-, rfl⟩ := Prod.mk.inj (Except.ok.inj hsame)
  obtain rfl : d' = d'' := Option.some.inj (hready'.decoder.symm.trans hdecoder)
  exact (congrArg Prod.fst hagain).symm

/-- A round that is not the last leaves less to be done. -/
theorem round_credit {tenancy tenancy' : Tenancy} {d : Wire.Decoder}
    {c' : Connection} {w' : World σ} (hready : c.chain.Ready d tenancy)
    (hround : c.round v w now tenancy = (some tenancy', c', w')) :
    ∃ d', c'.chain.Ready d' tenancy' ∧
      d'.credit c'.input < d.credit c.input := by
  have hcase := rounded v c w now tenancy
  generalize hout : c.round v w now tenancy = out at hcase
  obtain ⟨htenancy, hafter⟩ := Prod.mk.inj (hout.symm.trans hround)
  obtain ⟨goOn, after⟩ := out
  obtain rfl : after = (c', w') := hafter
  cases hcase with
  | closed hclosed => cases htenancy
  | throttled hopen hthrottled => cases htenancy
  | nothing hopen hreading hnext => cases htenancy
  | @frame hopen hreading chain input frame hnext after hafter =>
    obtain ⟨d', hlook, hready'⟩ := hready.next hnext
    obtain ⟨learned, hchain, hinput, -⟩ :=
      takeFrame_rest v { c with chain, input } w now tenancy frame
    rw [hafter] at hchain hinput
    have hready'' : c'.chain.Ready d' learned := by
      rw [hchain]
      exact hready'.learn learned
    obtain rfl : learned = tenancy' :=
      Option.some.inj (hready''.tenancy.symm.trans htenancy)
    refine ⟨d', hready'', ?_⟩
    rw [hinput]
    exact Wire.Decoder.next_credit hlook
  | gap hopen hreading hnext hmild f =>
    obtain ⟨d', hlook, hready'⟩ := hready.next hnext
    obtain rfl : tenancy = tenancy' := Option.some.inj htenancy
    exact ⟨d', hready', Wire.Decoder.next_credit hlook⟩
  | failed hopen hreading hnext hfatal f cause => cases htenancy

/-- The last round leaves the input settled. -/
theorem round_settled {tenancy : Tenancy} {d : Wire.Decoder}
    (hready : c.session.flags.closed = false → c.chain.Ready d tenancy)
    (hround : (c.round v w now tenancy).1 = none) :
    Settled v (c.round v w now tenancy).2.1 := by
  have hcase := rounded v c w now tenancy
  generalize c.round v w now tenancy = out at hcase hround
  cases hcase with
  | closed hclosed => exact .inl hclosed
  | throttled hopen hthrottled => exact .inr (.inl hthrottled)
  | nothing hopen hreading hnext =>
    exact settled_of_nothing (hready hopen) hnext
  | @frame hopen hreading chain input frame hnext after hafter =>
    obtain ⟨learned, htenancy⟩ :=
      takeFrame_tenancy v { c with chain, input } w now tenancy frame
    rw [hafter] at htenancy
    cases hround.symm.trans htenancy
  | gap hopen hreading hnext hmild f => cases hround
  | failed hopen hreading hnext hfatal f cause =>
    exact .inl (Session.shutdown_closed v.transport c.session _ cause)

/-- With bound enough, the rounds go on until the input is settled. -/
theorem processFrames_settled {now fuel : Nat} {tenancy : Tenancy}
    {d : Wire.Decoder} (hready : c.chain.Ready d tenancy)
    (hfuel : d.credit c.input < fuel) :
    Settled v (processFrames v now fuel tenancy c w).1 := by
  induction fuel generalizing c w tenancy d with
  | zero => exact absurd hfuel (Nat.not_lt_zero _)
  | succ fuel ih =>
    unfold processFrames
    rcases hround : c.round v w now tenancy with ⟨goOn, c', w'⟩
    cases goOn with
    | none =>
      have hsettled :=
        round_settled (fun _ => hready) (congrArg Prod.fst hround)
      rw [hround] at hsettled
      exact hsettled
    | some tenancy' =>
      obtain ⟨d', hready', hless⟩ := round_credit hready hround
      exact ih hready' (Nat.lt_of_lt_of_le hless (Nat.le_of_lt_succ hfuel))

/-- A connection whose chain can be resolved has its input settled when it was
processed. -/
theorem process_settled {now : Nat} {tenancy : Tenancy} {chain : Chain}
    {d : Wire.Decoder}
    (hresolve : c.chain.resolve v.table v.maxMessageSize c.peer =
      .ok (tenancy, chain))
    (hready : chain.Ready d tenancy) : Settled v (c.process v w now).1 := by
  rw [process_of_resolve hresolve]
  exact processFrames_settled hready
    (Wire.Decoder.credit_lt_drainFuel d c.input)

/-- There is nothing to be found where nothing is. -/
theorem settled_of_nil (v : Services σ) (h : c.input = []) : Settled v c := by
  refine .inr (.inr fun _ _ d _ _ => ?_)
  rw [h]
  cases d with
  | binary state =>
    obtain ⟨max, failed⟩ := state
    cases failed <;> rfl
  | lines state =>
    obtain ⟨max, discarding⟩ := state
    have hcut : Wire.Lines.cut (max + 1) [] = none := rfl
    cases discarding with
    | true => rfl
    | false => simp [Wire.Decoder.next, Wire.Lines.Decoder.next,
      Wire.Lines.Decoder.nextLine, hcut]

/-! ## Turns that leave nothing -/

/-- The chain of a connection can be resolved as long as its session is open. -/
def Resolves (v : Services σ) (c : Connection) : Prop :=
  c.session.flags.closed = false → ∃ tenancy chain d,
    c.chain.resolve v.table v.maxMessageSize c.peer = .ok (tenancy, chain) ∧
      chain.Ready d tenancy

theorem Followed.resolves (hf : Followed v peer origin asked arrived c w h) :
    Resolves v c := by
  intro hopen
  obtain ⟨chain, d, tenancy, os, hresolve, hs, -⟩ := hf.current hopen
  exact ⟨tenancy, chain, d, hresolve, hs.ready⟩

/-- What a CONNECT brings does not keep the chain from being resolved. -/
theorem Resolves.complete (hr : Resolves v c) (w : World σ) (now : Nat)
    (outcome : Except Failure Established) : Resolves v { c with
      session := (c.session.complete v.transport w now outcome).1
      connecting := none } := by
  intro hopen
  exact hr
    ((Session.complete_keeps v.transport c.session w now outcome).opened hopen)

/-- The input is settled once it was taken up. -/
theorem Resolves.process (hr : Resolves v c) (w : World σ) (now : Nat) :
    Settled v (c.process v w now).1 := by
  cases hclosed : c.session.flags.closed with
  | true =>
    have hkeeps : c.session.Keeps (c.process v w now).1.session :=
      moves_preserve (fun c' _ => c.session.Keeps c'.session)
        (fun hmove hkept => hkept.trans (move_keeps hmove)) process_moves
        (.refl _)
    exact .inl (hkeeps.closed hclosed)
  | false =>
    obtain ⟨tenancy, chain, d, hresolve, hready⟩ := hr hclosed
    exact process_settled hresolve hready

/-- Resolving the chain again changes nothing for the input. -/
theorem Settled.resolve (hs : Settled v c) (hr : Resolves v c) (w : World σ) :
    Settled v (c.resolve v w).2.1 := by
  unfold Connection.resolve
  split
  · next tenancy chain hresolve =>
    cases hclosed : c.session.flags.closed with
    | true => exact .inl hclosed
    | false =>
      obtain ⟨tenancy', chain', d, hresolve', hready⟩ := hr hclosed
      obtain ⟨rfl, rfl⟩ :=
        Prod.mk.inj (Except.ok.inj (hresolve.symm.trans hresolve'))
      rcases hs with hclosed' | hthrottled | hquiet
      · exact .inl hclosed'
      · exact .inr (.inl hthrottled)
      · refine .inr (.inr fun tenancy' chain' d' hagain hdecoder => ?_)
        have hsame :=
          (hready.resolve v.table v.maxMessageSize c.peer).symm.trans hagain
        obtain ⟨rfl, rfl⟩ := Prod.mk.inj (Except.ok.inj hsame)
        exact hquiet tenancy chain d' hresolve hdecoder
  · exact .inl (Session.shutdown_closed v.transport c.session w _)

/-- A round finds nothing in an input that is settled. -/
theorem Settled.round (hs : Settled v c)
    (hready : c.session.flags.closed = false → ∃ d, c.chain.Ready d tenancy)
    (w : World σ) (now : Nat) : Settled v (c.round v w now tenancy).2.1 := by
  have hcase := rounded v c w now tenancy
  generalize c.round v w now tenancy = out at hcase
  have hnothing : ∀ {o chain input}, c.session.flags.closed = false →
      c.session.flags.throttled = false →
      c.chain.next c.input = (some o, chain, input) →
      False := by
    intro o chain input hopen hreading hnext
    obtain ⟨d, hready⟩ := hready hopen
    obtain ⟨d', hlook, -⟩ := hready.next hnext
    have hnone := hs.next_eq_none hopen hreading (hready.resolve _ _ _)
      hready.decoder
    rw [hlook] at hnone
    cases hnone
  cases hcase with
  | closed hclosed => exact .inl hclosed
  | throttled hopen hthrottled => exact hs
  | nothing hopen hreading hnext =>
    obtain ⟨d, hready⟩ := hready hopen
    exact settled_of_nothing hready hnext
  | frame hopen hreading hnext hafter =>
    exact (hnothing hopen hreading hnext).elim
  | gap hopen hreading hnext hmild f =>
    exact (hnothing hopen hreading hnext).elim
  | failed hopen hreading hnext hfatal f cause =>
    exact (hnothing hopen hreading hnext).elim

/-- The outcome of the CONNECT has what is left in the input taken up. -/
theorem takeOutcome_settled (hr : Resolves v c) (w : World σ) (now : Nat)
    (outcome : Except Failure Established) :
    Settled v (c.takeOutcome v w now outcome).1 := by
  have hr' := hr.complete w now outcome
  unfold takeOutcome
  dsimp only
  split
  · next hempty => exact settled_of_nil v (List.isEmpty_iff.1 hempty)
  · exact hr'.process _ now

/-- Checking the keep-alive has no part in the input. -/
theorem Settled.checkKeepAlive (hs : Settled v c) (w : World σ) (now : Nat) :
    Settled v
      { c with session := (c.session.checkKeepAlive v.transport w now).1 } := by
  have hcase := Session.checked v.transport c.session w now
  generalize c.session.checkKeepAlive v.transport w now = out at hcase
  cases hcase with
  | unsupervised hquiet => exact hs
  | silent hopen hpos hlate =>
    exact .inl (Session.shutdown_closed v.transport _ w _)
  | timely hopen hpos htimely => exact hs

/-- Whatever comes next leaves the input settled, unless it is octets that are
not taken up. -/
theorem turn_settled (hr : Resolves v c) (hs : Settled v c) (x : Turn σ)
    (hx : ∀ bytes, x ≠ .arrive bytes) : Settled v (turn v (c, w) x).1 := by
  cases x with
  | event now event =>
    cases event with
    | read bytes =>
      have hr' : Resolves v { c with input := c.input ++ bytes } := hr
      exact hr'.process _ now
    | connectReady =>
      simp only [turn, handle]
      cases c.connecting with
      | none => exact hs
      | some request => exact takeOutcome_settled hr _ now _
    | keepAliveDue => exact hs.checkKeepAlive w now
    | sessionClosed => exact hs
    | gatewayShutdown =>
      exact .inl (Session.shutdown_closed v.transport c.session w _)
    | hungUp => exact .inl (Session.shutdown_closed v.transport c.session w _)
    | readFailed text =>
      exact .inl (Session.shutdown_closed v.transport c.session w _)
  | outcome now outcome =>
    simp only [turn]
    split
    · exact takeOutcome_settled hr w now outcome
    · exact hs
  | arrive bytes => exact absurd rfl (hx bytes)
  | resolve => exact hs.resolve hr w
  | round now =>
    have hs' := hs.resolve hr w
    simp only [turn, Connection.resolve] at hs' ⊢
    cases hresolve : c.chain.resolve v.table v.maxMessageSize c.peer with
    | error fault =>
      exact .inl (Session.shutdown_closed v.transport c.session w _)
    | ok resolved =>
      obtain ⟨tenancy, chain⟩ := resolved
      simp only [hresolve] at hs' ⊢
      refine hs'.round (fun hopen => ?_) w now
      obtain ⟨tenancy', chain', d, hresolve', hready⟩ := hr hopen
      obtain ⟨rfl, rfl⟩ :=
        Prod.mk.inj (Except.ok.inj (hresolve.symm.trans hresolve'))
      exact ⟨d, hready⟩
  | elsewhere backend => exact hs

/-- A connection that takes up what it reads has its input settled at any
time. -/
theorem course_settled (hf : Followed v peer (fun _ => True) True arrived c w h)
    (hs : Settled v c) (turns : List (Turn σ))
    (hturns : ∀ bytes, .arrive bytes ∉ turns) :
    Settled v (course v (c, w) turns).1 := by
  induction turns generalizing arrived c w h with
  | nil => exact hs
  | cons x turns ih =>
    have hx : ∀ bytes, x ≠ .arrive bytes := by
      intro bytes hx
      exact hturns bytes (List.mem_cons.2 (.inl hx.symm))
    obtain ⟨h', hf'⟩ := turn_followed hf x (fun _ => trivial) (.inl trivial)
      (fun _ _ _ => trivial)
    exact ih hf' (turn_settled hf.resolves hs x hx)
      fun bytes hmem => hturns bytes (List.mem_cons_of_mem x hmem)

/-- A connection that is open and reading has found its whole stream when
nothing is left in its input. -/
theorem InStep.found_of_settled {os : List (Except Wire.Fault Wire.Frame)}
    {d : Wire.Decoder} {chain : Chain}
    (hs : InStep v peer arrived os { c with chain } w d tenancy)
    (hopen : c.session.flags.closed = false)
    (hreading : c.session.flags.throttled = false) (hsettled : Settled v c)
    (hresolve : c.chain.resolve v.table v.maxMessageSize c.peer =
      .ok (tenancy, chain)) :
    v.found peer arrived = os := by
  have hquiet := hsettled.next_eq_none hopen hreading hresolve hs.ready.decoder
  rcases hnext : d.next c.input with ⟨outcome, d', rest⟩
  rw [hnext] at hquiet
  obtain rfl : outcome = none := hquiet
  exact congrArg Prod.fst (hs.continues.drain_eq_of_next hnext)

/-- Such a connection is in step with the whole of its stream. -/
theorem Followed.in_step_of_settled
    (hf : Followed v peer origin asked arrived c w h)
    (hopen : c.session.flags.closed = false)
    (hreading : c.session.flags.throttled = false) (hsettled : Settled v c) :
    ∃ chain d tenancy,
    c.chain.resolve v.table v.maxMessageSize c.peer = .ok (tenancy, chain) ∧
      InStep v peer arrived (v.found peer arrived)
        { c with chain } w d tenancy ∧
      h.Told (v.said peer arrived) := by
  obtain ⟨chain, d, tenancy, os, hresolve, hs, htold⟩ := hf.current hopen
  have hall := hs.found_of_settled hopen hreading hsettled hresolve
  rw [Services.said, hall]
  exact ⟨chain, d, tenancy, hresolve, hs, htold⟩

end Connection

end DeviceGateway
