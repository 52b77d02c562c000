import DeviceGateway.Proofs.Connection.Settling
import DeviceGateway.Proofs.Connection.Unison
import DeviceGateway.Proofs.Session.Causes

/-!
# Noise does not disturb a connection

Between the lines of a device there may be noise: lines that are too long, that
are no text, that have too few fields, or whose device is blank.  A course with
noise goes like the same course without it.  After every turn the session has
received the same, it is in the same state, the connection knows the same
tenant, and the same messages were sent.  Only the counts tell the two apart.

Noise is slipped into a course line by line, each where a line of the stream may
begin.  Up to there the two courses are the same.  At that turn one input gets a
line more than the other, and from then on the two connections are `Twins`: they
are alike, and once their chains are resolved they are in unison.  No turn ends
this.  When the CONNECT has its outcome, one input may be empty and the other
not, so that only one connection looks; what it finds then tells nothing.

Nor does a text connection ever fail in decoding, whatever comes.  A failure
that arose there can only have come with the outcome of a CONNECT, from outside.

## Main results

* `Twins.turn`: whatever comes next, twins stay twins.
* `Twins.course_decodings`: what is to blame for a failure in decoding.
* `course_undisturbed`: a course goes the same with noise.
-/

namespace DeviceGateway

open Relation (ReflTransGen)
open Wire (Frame Layout)
open Wire.Decoder (Concur)

namespace Connection

variable {σ : Type} {v : Services σ} {layout : Layout} {known : Tenancy}
  {state state' : Wire.Lines.Decoder} {r r' : Connection × World σ} {now : Nat}

/-! ## Twins -/

/-- Two connections that are alike, and in unison once their chains are
resolved.  If a CONNECT is worked on, they are. -/
structure Twins (v : Services σ) (layout : Layout)
    (r r' : Connection × World σ) : Prop
    extends Alike r r' where
  unison : ∃ known state state' chain chain',
    r.1.chain.resolve v.table v.maxMessageSize r.1.peer = .ok (known, chain) ∧
    r'.1.chain.resolve v.table v.maxMessageSize r'.1.peer =
      .ok (known, chain') ∧
    Unison layout known state state' ({ r.1 with chain }, r.2)
      ({ r'.1 with chain := chain' }, r'.2)
  busy : r.1.connecting.isSome = true →
    r.1.chain.contains Chain.decoderName = true ∧
      r'.1.chain.contains Chain.decoderName = true

theorem Unison.twins (h : Unison layout known state state' r r')
    (v : Services σ) :
    Twins v layout r r' :=
  { h with
    unison :=
      ⟨known, state, state', r.1.chain, r'.1.chain, h.lined.resolve _ _ _,
        h.lined'.resolve _ _ _, h⟩
    busy := fun _ => ⟨h.lined.contains, h.lined'.contains⟩ }

theorem Concerted.twins {a a' : List Parcel × Connection × World σ}
    (h : Concerted layout a a') (v : Services σ) :
    a'.1 = a.1 ∧ Twins v layout a.2 a'.2 := by
  obtain ⟨hintake, known, state, state', hunison⟩ := h
  exact ⟨hintake, hunison.twins v⟩

namespace Twins

private theorem symm (h : Twins v layout r r') : Twins v layout r' r where
  toAlike := h.toAlike.symm
  unison := by
    obtain ⟨known, state, state', chain, chain', hresolve, hresolve',
      hunison⟩ := h.unison
    exact ⟨known, state', state, chain', chain, hresolve', hresolve,
      hunison.symm⟩
  busy hbusy := by
    rw [h.connecting] at hbusy
    exact (h.busy hbusy).symm

/-- What has no part in the inputs keeps twins if it keeps them alike. -/
theorem of_alike (h : Twins v layout r r') {r₁ r₁' : Connection × World σ}
    (halike : Alike r₁ r₁')
    (hsame : r₁.1.chain = r.1.chain ∧ r₁.1.input = r.1.input ∧
      r₁.1.peer = r.1.peer)
    (hsame' : r₁'.1.chain = r'.1.chain ∧ r₁'.1.input = r'.1.input ∧
      r₁'.1.peer = r'.1.peer)
    (hopened : r₁.1.session.flags.closed = false →
      r.1.session.flags.closed = false)
    (hbusy : r₁.1.connecting.isSome = true → r.1.connecting.isSome = true) :
    Twins v layout r₁ r₁' where
  toAlike := halike
  unison := by
    obtain ⟨known, state, state', chain, chain', hresolve, hresolve',
      hunison⟩ := h.unison
    refine ⟨known, state, state', chain,
      chain', by rw [hsame.1, hsame.2.2, hresolve], by rw [hsame'.1, hsame'.2.2,
        hresolve'], ?_⟩
    exact
      { halike with
        tenancy := hunison.tenancy
        lined := hunison.lined
        lined' := hunison.lined'
        concur := fun hopen => by
          have hconcur := hunison.concur (hopened hopen)
          rw [← hsame.2.1, ← hsame'.2.1] at hconcur
          exact hconcur }
  busy hsome := by
    rw [hsame.1, hsame'.1]
    exact h.busy (hbusy hsome)

/-- The same octets come in to both. -/
theorem arrive (h : Twins v layout r r') (bytes : List UInt8) :
    Twins v layout ({ r.1 with input := r.1.input ++ bytes }, r.2)
      ({ r'.1 with input := r'.1.input ++ bytes }, r'.2) where
  toAlike := { h with }
  unison := by
    obtain ⟨known, state, state', chain, chain', hresolve, hresolve',
      hunison⟩ := h.unison
    exact ⟨known, state, state', chain, chain', hresolve, hresolve',
      { hunison with
        concur := fun hopen => (hunison.concur hopen).arrive bytes }⟩
  busy := h.busy

/-- Counts do not matter. -/
theorem count (h : Twins v layout r r') (f f' : Metrics → Metrics) :
    Twins v layout (r.1, r.2.count f) (r'.1, r'.2.count f') :=
  h.of_alike { h with } ⟨rfl, rfl, rfl⟩ ⟨rfl, rfl, rfl⟩ id id

/-! ## Taking the inputs up -/

theorem processIntake_of_resolve {c : Connection} {chain : Chain}
    (hresolve : c.chain.resolve v.table v.maxMessageSize c.peer =
      .ok (known, chain))
    (w : World σ) (now : Nat) : c.processIntake v w now =
      framesIntake v now (Wire.Decoder.drainFuel c.input) known
        { c with chain } w := by
  simp only [processIntake, Connection.resolve, hresolve]

theorem process (h : Twins v layout r r') (now : Nat) :
    Concerted layout (r.1.processIntake v r.2 now, r.1.process v r.2 now)
      (r'.1.processIntake v r'.2 now, r'.1.process v r'.2 now) := by
  obtain ⟨known, state, state', chain, chain', hresolve, hresolve', hunison⟩ :=
    h.unison
  rw [processIntake_of_resolve hresolve, processIntake_of_resolve hresolve',
    process_of_resolve hresolve, process_of_resolve hresolve']
  exact takeUp_unison v now hunison (Wire.Decoder.credit_lt_drainFuel _ _)
    (Wire.Decoder.credit_lt_drainFuel _ _)

/-- With nothing in its input, a connection has nothing to take up. -/
theorem process_nil (v : Services σ) {c : Connection}
    (hlined : c.chain.Lined layout state known) (hinput : c.input = [])
    (w : World σ) (now : Nat) :
    c.processIntake v w now = [] ∧ ∃ chain, chain.Lined layout state known ∧
      c.process v w now = ({ c with chain }, w) := by
  have hresolve := hlined.resolve v.table v.maxMessageSize c.peer
  have hempty : { c with input := [] } = c := by rw [← hinput]
  have htake : ∃ chain, chain.Lined layout state known ∧
      takeUp v now 2 known (c, w) = ([], { c with chain }, w) := by
    by_cases hclosed : c.session.flags.closed = true
    · exact ⟨c.chain, hlined, takeUp_last _ (by simp [round, hclosed, hempty])
        (by simp [roundIntake, hclosed]) 1⟩
    by_cases hthrottled : c.session.flags.throttled = true
    · exact ⟨c.chain, hlined,
        takeUp_last _ (by simp [round, hclosed, hthrottled])
        (by simp [roundIntake, hthrottled]) 1⟩
    obtain ⟨outcome, chain, state₁, input, hlook⟩ := hlined.exists_look c.input
    have hnone := hlook.look
    rw [hinput, Wire.Decoder.next_lines_nil] at hnone
    cases hnone
    obtain ⟨hround, hintake⟩ := round_none (Bool.eq_false_iff.2 hclosed)
      (Bool.eq_false_iff.2 hthrottled) hlook.next v w now known
    rw [← hinput] at hround
    exact ⟨chain, hlook.lined, takeUp_last _ hround hintake 1⟩
  obtain ⟨chain, hchain, htake⟩ := htake
  have hfuel : Wire.Decoder.drainFuel c.input = 2 := by rw [hinput]; rfl
  rw [processIntake_of_resolve hresolve, process_of_resolve hresolve, hfuel]
  exact ⟨congrArg Prod.fst htake, chain, hchain, congrArg Prod.snd htake⟩

/-- A connection whose input is empty may wait while the other looks at its
own. -/
theorem wait (h : Twins v layout r r')
    (hcontains : r.1.chain.contains Chain.decoderName = true)
    (hinput : r.1.input = []) (now : Nat) :
    r'.1.processIntake v r'.2 now = [] ∧
      Twins v layout r (r'.1.process v r'.2 now) := by
  obtain ⟨hintake, known₁, state₁, state₁', hends⟩ := h.process now
  obtain ⟨known, state, state', chain, chain', hresolve, -, hunison⟩ := h.unison
  obtain rfl : chain = r.1.chain := Chain.eq_of_resolve hcontains hresolve
  obtain ⟨hnothing, chain₁, hlined, hprocess⟩ :=
    process_nil v hunison.lined hinput r.2 now
  rw [hprocess] at hends
  obtain ⟨rfl, rfl⟩ := hlined.unique hends.lined
  exact ⟨hintake.trans hnothing,
    (hends.pass hunison.lined rfl hends.concur).twins v⟩

theorem takeOutcome (h : Twins v layout r r')
    (hbusy : r.1.connecting.isSome = true) (now : Nat)
    (outcome : Except Failure Established) :
    r'.1.outcomeIntake v r'.2 now outcome =
      r.1.outcomeIntake v r.2 now outcome ∧
      Twins v layout (r.1.takeOutcome v r.2 now outcome)
        (r'.1.takeOutcome v r'.2 now outcome) := by
  have hkeeps := Session.complete_keeps v.transport r.1.session r.2 now outcome
  have hcompleted := h.of_alike (h.toAlike.complete v now outcome)
    ⟨rfl, rfl, rfl⟩ ⟨rfl, rfl, rfl⟩ hkeeps.opened nofun
  obtain ⟨hcontains, hcontains'⟩ := h.busy hbusy
  unfold Connection.takeOutcome outcomeIntake
  dsimp only
  by_cases hempty : r.1.input.isEmpty = true
  · by_cases hempty' : r'.1.input.isEmpty = true
    · rw [if_pos hempty, if_pos hempty', if_pos hempty, if_pos hempty']
      exact ⟨rfl, hcompleted⟩
    · rw [if_pos hempty, if_neg hempty', if_pos hempty, if_neg hempty']
      exact hcompleted.wait hcontains (List.isEmpty_iff.1 hempty) now
  · by_cases hempty' : r'.1.input.isEmpty = true
    · rw [if_neg hempty, if_pos hempty', if_neg hempty, if_pos hempty']
      obtain ⟨hintake, htwins⟩ :=
        hcompleted.symm.wait hcontains' (List.isEmpty_iff.1 hempty') now
      exact ⟨hintake.symm, htwins.symm⟩
    · rw [if_neg hempty, if_neg hempty', if_neg hempty, if_neg hempty']
      exact (hcompleted.process now).twins v

/-- Both CONNECTs are worked out alike. -/
theorem completeConnect (h : Twins v layout r r') {request : Connect}
    (hconnecting : r.1.connecting = some request) (now : Nat) :
    r'.1.outcomeIntake v (workOut v r' request).2 now (workOut v r' request).1 =
        r.1.outcomeIntake v (workOut v r request).2 now
          (workOut v r request).1 ∧
      Twins v layout (r.1.completeConnect v r.2 now request)
        (r'.1.completeConnect v r'.2 now request) := by
  have hcomplete : ∀ r : Connection × World σ,
      r.1.completeConnect v r.2 now request =
      r.1.takeOutcome v (workOut v r request).2 now (workOut v r request).1 :=
        fun _ => rfl
  obtain ⟨houtcome, halike⟩ := h.toAlike.workOut v request
  have hworked := h.of_alike halike ⟨rfl, rfl, rfl⟩ ⟨rfl, rfl, rfl⟩ id id
  rw [hcomplete r, hcomplete r', houtcome]
  exact hworked.takeOutcome (by rw [hconnecting]; rfl) now
    (workOut v r request).1

end Twins

/-! ## Turns -/

/-- A turn that is not a part of taking the input up.  After such a part, a
course with noise may be a line behind. -/
def Turn.Whole (x : Turn σ) : Prop := ∀ now, x ≠ .round now

theorem Twins.turn (h : Twins v layout r r') (x : Turn σ) (hx : x.Whole) :
    turnIntake v r' x = turnIntake v r x ∧
      Twins v layout (Connection.turn v r x) (Connection.turn v r' x) := by
  have hfinish : ∀ {a a' : Connection × World σ}, Twins v layout a a' →
      Twins v layout ({ a.1 with finished := true, connecting := none }, a.2)
        ({ a'.1 with finished := true, connecting := none }, a'.2) := by
    intro a a' ha
    exact ha.of_alike ha.toAlike.finish ⟨rfl, rfl, rfl⟩ ⟨rfl, rfl, rfl⟩ id nofun
  have hshutdown : ∀ cause, Twins v layout (r.1.shutdown v r.2 cause)
      (r'.1.shutdown v r'.2 cause) := by
    intro cause
    exact h.of_alike (h.toAlike.shutdown v cause) ⟨rfl, rfl, rfl⟩
      ⟨rfl, rfl, rfl⟩
      (Session.shutdown_keeps v.transport r.1.session r.2 cause).opened id
  cases x with
  | event now event =>
    cases event with
    | read bytes =>
      have harrived :=
        (h.arrive bytes).count (fun m => m.recordBytes bytes.length) fun m =>
          m.recordBytes bytes.length
      exact (harrived.process now).twins v
    | connectReady =>
      simp only [turnIntake, Connection.turn, handle, h.connecting]
      cases hconnecting : r.1.connecting with
      | none => exact ⟨rfl, h⟩
      | some request => exact h.completeConnect hconnecting now
    | keepAliveDue =>
      have hkeeps :=
        Session.checkKeepAlive_keeps v.transport r.1.session r.2 now
      exact ⟨rfl, h.of_alike (h.toAlike.checkKeepAlive v now) ⟨rfl, rfl, rfl⟩
        ⟨rfl, rfl, rfl⟩ hkeeps.opened id⟩
    | sessionClosed => exact ⟨rfl, hfinish h⟩
    | gatewayShutdown => exact ⟨rfl, hfinish (hshutdown none)⟩
    | hungUp => exact ⟨rfl, hfinish (hshutdown none)⟩
    | readFailed text =>
      refine ⟨rfl, ?_⟩
      simp only [Connection.turn, handle, h.session]
      exact hfinish (hshutdown _)
  | outcome now outcome =>
    simp only [turnIntake, Connection.turn, h.connecting]
    by_cases hbusy : r.1.connecting.isSome = true
    · rw [if_pos hbusy, if_pos hbusy, if_pos hbusy, if_pos hbusy]
      exact h.takeOutcome hbusy now outcome
    · rw [if_neg hbusy, if_neg hbusy, if_neg hbusy, if_neg hbusy]
      exact ⟨rfl, h⟩
  | arrive bytes => exact ⟨rfl, h.arrive bytes⟩
  | resolve =>
    obtain ⟨known, state, state', chain, chain', hresolve, hresolve',
      hunison⟩ := h.unison
    simp only [turnIntake, Connection.turn, Connection.resolve, hresolve,
      hresolve']
    exact ⟨trivial, hunison.twins v⟩
  | round now => exact absurd rfl (hx now)
  | elsewhere backend =>
    have hworld : { r'.2 with backend }.unmetered =
        { r.2 with backend }.unmetered := by
      simp only [World.unmetered, h.ledger, h.journal]
    exact ⟨rfl, h.of_alike { h with world := hworld } ⟨rfl, rfl, rfl⟩
      ⟨rfl, rfl, rfl⟩ id id⟩

/-! ## Courses -/

private theorem course_append (v : Services σ) (first : Connection × World σ)
    (turns turns' : List (Turn σ)) :
    course v first (turns ++ turns') =
      course v (course v first turns) turns' := by
  rw [course, List.foldl_append]
  rfl

private theorem intake_append (v : Services σ) (first : Connection × World σ)
    (turns turns' : List (Turn σ)) :
    intake v first (turns ++ turns') =
      intake v first turns ++ intake v (course v first turns) turns' := by
  induction turns generalizing first with
  | nil => rfl
  | cons x turns ih =>
    rw [List.cons_append, intake, intake, ih, List.append_assoc]
    rfl

theorem Twins.course (h : Twins v layout r r') {turns : List (Turn σ)}
    (hturns : ∀ x ∈ turns, x.Whole) :
    intake v r' turns = intake v r turns ∧
      Twins v layout (Connection.course v r turns)
        (Connection.course v r' turns) := by
  induction turns generalizing r r' with
  | nil => exact ⟨rfl, h⟩
  | cons x turns ih =>
    obtain ⟨hturn, hnext⟩ := h.turn x (hturns x List.mem_cons_self)
    obtain ⟨hrest, hlast⟩ := ih hnext fun y hy =>
      hturns y (List.mem_cons_of_mem x hy)
    exact ⟨by rw [intake, intake, hturn, hrest], hlast⟩

section Start

variable {peer : Option Peer} (hformat : (v.tenancy peer).format = .text layout)
include hformat

/-- The decoder that a connection of this peer starts with. -/
theorem decoder_of_format :
    (v.tenancy peer).decoder = .outside v.maxMessageSize := by
  have hmax : (v.tenancy peer).maxMessageSize = v.maxMessageSize := by
    rcases Services.tenancy_cases v peer with ⟨info, format, -, h⟩ | ⟨-, h⟩
    · rw [h]
      rfl
    · rw [h]
      rfl
  rw [Tenancy.decoder, hformat, hmax]
  rfl

/-- A connection is its own twin at the start. -/
theorem start_twins (connectionId : String) (now : Nat) (w : World σ) :
    Twins v layout (start v connectionId peer now, w)
      (start v connectionId peer now, w) := by
  obtain ⟨chain, hresolve, hready⟩ :=
    Chain.initial_resolve v.table v.maxMessageSize peer
  have hdecoder : (v.table.lookup v.maxMessageSize peer).decoder =
      .lines ⟨v.maxMessageSize, false⟩ := decoder_of_format hformat
  rw [hdecoder] at hready
  have hlined : chain.Lined layout ⟨v.maxMessageSize, false⟩ (v.tenancy peer) :=
    ⟨hready, hformat⟩
  exact
    { Alike.refl _ with
      unison := ⟨v.tenancy peer, _, _, chain, chain, hresolve, hresolve,
        { Alike.refl _ with
          lined := hlined
          lined' := hlined
          concur := fun _ => Concur.refl layout _ _ }⟩
      busy := nofun }

/-- If one of two connections that were the same gets noise beside what comes in
to both, they are twins. -/
theorem Twins.slip (h : Twins v layout r r) {origin : Established → Prop}
    {asked : Prop} {arrived : List UInt8} {run : Run σ}
    (hf : Followed v peer origin asked arrived r.1 r.2 run)
    {front line : List UInt8}
    (hstart : Wire.Lines.AtLineStart (arrived ++ front))
    (hnoise : layout.Noise v.maxMessageSize line) (back : List UInt8) :
    Twins v layout ({ r.1 with input := r.1.input ++ (front ++ back) }, r.2)
      ({ r.1 with input := r.1.input ++ (front ++
        (line ++ Wire.Lines.lineFeed :: back)) },
        r.2) := by
  obtain ⟨known, state, state', chain, chain', hresolve, hresolve', hunison⟩ :=
    h.unison
  obtain ⟨-, rfl⟩ := Prod.mk.inj (Except.ok.inj (hresolve.symm.trans hresolve'))
  obtain ⟨rfl, -⟩ := hunison.lined.unique hunison.lined'
  refine
    { h with
      unison := ⟨known, state', state', chain, chain, hresolve, hresolve,
        { hunison with concur := fun hopen => ?_ }⟩
      busy := h.busy }
  obtain ⟨chain', d, known', os, hagain, hs, -⟩ := hf.current hopen
  obtain ⟨-, rfl⟩ := Prod.mk.inj (Except.ok.inj (hagain.symm.trans hresolve))
  obtain rfl : d = .lines state' :=
    Option.some.inj (hs.ready.decoder.symm.trans hunison.lined.decoder)
  have hcontinues := hs.continues
  rw [decoder_of_format hformat] at hcontinues
  exact hcontinues.slip hstart hnoise back

end Start

/-! ## Courses with noise -/

/-- The turns with which octets come in. -/
inductive Delivers : (List UInt8 → Turn σ) → Prop
  | read (now : Nat) : Delivers fun bytes => .event now (.read bytes)
  | arrive : Delivers .arrive

/-- One line of noise is slipped in among the octets of a turn, where a line of
the stream may begin. -/
inductive Slipped (layout : Layout) (max : Nat) :
    List (Turn σ) → List (Turn σ) → Prop
  | slip {before after : List (Turn σ)} {deliver : List UInt8 → Turn σ}
      (hdeliver : Delivers deliver) {front back line : List UInt8}
      (hstart : Wire.Lines.AtLineStart (before.flatMap Turn.octets ++ front))
      (hnoise : layout.Noise max line) :
      Slipped layout max (before ++ deliver (front ++ back) :: after)
        (before ++ deliver (front ++ (line ++ Wire.Lines.lineFeed :: back)) ::
          after)

/-- Any number of lines of noise are slipped in. -/
abbrev Noisy (layout : Layout) (max : Nat) :
    List (Turn σ) → List (Turn σ) → Prop :=
  ReflTransGen (Slipped layout max)

section Noise

variable {turns turns' : List (Turn σ)} {max : Nat}

/-- A front of a course with noise is the front of the course, with noise or
without. -/
theorem Slipped.take (h : Slipped layout max turns turns') (k : Nat) :
    turns'.take k = turns.take k ∨
      Slipped layout max (turns.take k) (turns'.take k) := by
  obtain @⟨before, after, deliver, hdeliver, front, back, line, hstart,
    hnoise⟩ := h
  by_cases hle : k ≤ before.length
  · left
    rw [List.take_append_of_le_length hle, List.take_append_of_le_length hle]
  · obtain ⟨m, rfl⟩ : ∃ m, k = before.length + (m + 1) :=
      ⟨k - before.length - 1, by omega⟩
    rw [List.take_length_add_append, List.take_length_add_append]
    exact .inr (.slip hdeliver hstart hnoise)

theorem Noisy.take (h : Noisy layout max turns turns') (k : Nat) :
    Noisy layout max (turns.take k) (turns'.take k) := by
  induction h with
  | refl => exact .refl
  | tail _ hlast ih =>
    rcases hlast.take k with hsame | hslipped
    · rw [hsame]
      exact ih
    · exact ih.tail hslipped

/-- Noise makes no turn a part of taking the input up. -/
theorem Slipped.whole (h : Slipped layout max turns turns')
    (hturns : ∀ x ∈ turns, x.Whole) :
    ∀ x ∈ turns', x.Whole := by
  obtain @⟨before, after, deliver, hdeliver, front, back, line, hstart,
    hnoise⟩ := h
  intro x hx
  rcases List.mem_append.1 hx with hbefore | hafter
  · exact hturns x (List.mem_append_left _ hbefore)
  · rcases List.mem_cons.1 hafter with rfl | hafter
    · cases hdeliver <;> exact nofun
    · exact hturns x (List.mem_append_right _ (List.mem_cons_of_mem _ hafter))

section Start

variable {peer : Option Peer} (hformat : (v.tenancy peer).format = .text layout)
include hformat

/-- One line of noise is received by no session and leaves twins. -/
theorem Slipped.twins (h : Slipped layout v.maxMessageSize turns turns')
    (hturns : ∀ x ∈ turns, x.Whole) (connectionId : String) (now : Nat)
    (backend : σ) (metrics : Option Metrics) :
    let first :=
      (start v connectionId peer now, ({ backend, metrics } : World σ))
    intake v first turns' = intake v first turns ∧
      Twins v layout (course v first turns) (course v first turns') := by
  intro first
  obtain @⟨before, after, deliver, hdeliver, front, back, line, hstart,
    hnoise⟩ := h
  have hbefore : ∀ x ∈ before, x.Whole := fun x hx =>
    hturns x (List.mem_append_left _ hx)
  have hafter : ∀ x ∈ after, x.Whole := fun x hx =>
    hturns x (List.mem_append_right _ (List.mem_cons_of_mem _ hx))
  obtain ⟨-, hsame⟩ :=
    (start_twins hformat connectionId now { backend, metrics }).course hbefore
  obtain ⟨run, hf⟩ := course_followed
    (start_followed v connectionId peer now backend metrics
      (fun _ => True) True) before
    (fun _ _ _ => trivial) (.inl trivial) (fun _ _ _ _ _ _ _ => trivial)
  rw [List.nil_append] at hf
  have hslip := hsame.slip hformat hf hstart hnoise back
  rw [intake_append, intake_append, course_append, course_append]
  generalize course v first before = r at hslip
  have hturn : turnIntake v r
        (deliver (front ++ (line ++ Wire.Lines.lineFeed :: back))) =
        turnIntake v r (deliver (front ++ back)) ∧
      Twins v layout (turn v r (deliver (front ++ back)))
        (turn v r
          (deliver (front ++ (line ++ Wire.Lines.lineFeed :: back)))) := by
    cases hdeliver with
    | arrive => exact ⟨rfl, hslip⟩
    | read instant =>
      have hcounted :=
        hslip.count (fun m => m.recordBytes (front ++ back).length) fun m =>
          m.recordBytes (front ++ (line ++ Wire.Lines.lineFeed :: back)).length
      exact (hcounted.process instant).twins v
  obtain ⟨hrest, hlast⟩ := hturn.2.course hafter
  refine ⟨?_, hlast⟩
  rw [intake, intake, hturn.1, hrest]

theorem Noisy.alike (h : Noisy layout v.maxMessageSize turns turns')
    (hturns : ∀ x ∈ turns, x.Whole) (connectionId : String) (now : Nat)
    (backend : σ) (metrics : Option Metrics) :
    let first :=
      (start v connectionId peer now, ({ backend, metrics } : World σ))
    (∀ x ∈ turns', x.Whole) ∧ intake v first turns' = intake v first turns ∧
      Alike (course v first turns) (course v first turns') := by
  intro first
  induction h with
  | refl => exact ⟨hturns, rfl, .refl _⟩
  | tail _ hlast ih =>
    obtain ⟨hwhole, hintake, halike⟩ := ih
    obtain ⟨hnext, htwins⟩ :=
      hlast.twins hformat hwhole connectionId now backend metrics
    exact ⟨hlast.whole hwhole, hnext.trans hintake, halike.trans htwins.toAlike⟩

end Start

end Noise

/-! ## Failures in decoding -/

section Decodings

variable {failure : Failure}

private theorem takeFrame_decodings (v : Services σ) (c : Connection)
    (w : World σ) (now : Nat) (tenancy : Tenancy) (frame : Frame) :
    (c.takeFrame v w now tenancy frame).2.decodings = w.decodings := by
  have hworld := congrArg Prod.snd (takeFrame_session v c w now tenancy frame)
  dsimp only at hworld
  rw [hworld]
  split
  · rfl
  · exact Session.receive_decodings v.transport c.session _ now _

/-- A round of a text connection does not fail, and the chain is still one of
lines. -/
theorem round_decodings {c : Connection}
    (hlined : c.chain.Lined layout state known) (v : Services σ) (w : World σ)
    (now : Nat) :
    (c.round v w now known).2.2.decodings = w.decodings ∧
      ∀ learned, (c.round v w now known).1 = some learned →
        ∃ state',
          (c.round v w now known).2.1.chain.Lined layout state' learned := by
  obtain ⟨outcome, chain, state', input, hlook⟩ := hlined.exists_look c.input
  have hcase := rounded v c w now known
  generalize c.round v w now known = out at hcase
  cases hcase with
  | closed hclosed => exact ⟨rfl, nofun⟩
  | throttled hopen hthrottled => exact ⟨rfl, nofun⟩
  | nothing hopen hreading hnext => exact ⟨rfl, nofun⟩
  | @frame hopen hreading chain₁ input₁ frame hnext after hafter =>
    obtain ⟨rfl, rfl, rfl⟩ : outcome = some (.ok frame) ∧ chain = chain₁ ∧
      input = input₁ := by
      simpa using hlook.next.symm.trans hnext
    obtain ⟨learned, htook⟩ :=
      takeFrame_lined (c := { c with chain, input }) hlook.lined v w now frame
    rw [← hafter]
    refine ⟨takeFrame_decodings v _ w now known frame,
      fun learned' hlearned => ?_⟩
    obtain rfl : learned = learned' :=
      Option.some.inj (htook.tenancy.symm.trans hlearned)
    exact ⟨state', htook⟩
  | @gap hopen hreading chain₁ input₁ fault hnext hmild f =>
    obtain ⟨rfl, rfl, rfl⟩ : outcome = some (.error fault) ∧ chain = chain₁ ∧
      input = input₁ := by
      simpa using hlook.next.symm.trans hnext
    refine ⟨rfl, fun learned hlearned => ?_⟩
    obtain rfl : known = learned := Option.some.inj hlearned
    exact ⟨state', hlook.lined⟩
  | @failed hopen hreading chain₁ input₁ fault hnext hfatal f cause =>
    obtain ⟨rfl, -, -⟩ : outcome = some (.error fault) ∧ chain = chain₁ ∧
      input = input₁ := by
      simpa using hlook.next.symm.trans hnext
    have hgo := hlook.mild _ rfl
    simp [Wire.Decoder.goesOn, Wire.Decoder.unlessFatal, hfatal] at hgo

private theorem processFrames_decodings {c : Connection}
    (hlined : c.chain.Lined layout state known) (v : Services σ) (w : World σ)
    (now fuel : Nat) :
    (processFrames v now fuel known c w).2.decodings = w.decodings := by
  induction fuel generalizing c w known state with
  | zero => rfl
  | succ fuel ih =>
    have hround := round_decodings hlined v w now
    unfold processFrames
    generalize c.round v w now known = out at hround
    obtain ⟨goOn, c', w'⟩ := out
    cases goOn with
    | none => exact hround.1
    | some learned =>
      obtain ⟨state', hlined'⟩ := hround.2 learned rfl
      exact (ih hlined' w').trans hround.1

namespace Twins

theorem process_decodings (h : Twins v layout r r') (now : Nat) :
    (r.1.process v r.2 now).2.decodings = r.2.decodings := by
  obtain ⟨known, state, state', chain, chain', hresolve, -, hunison⟩ := h.unison
  rw [process_of_resolve hresolve]
  exact processFrames_decodings hunison.lined v r.2 now _

theorem takeOutcome_decodings (h : Twins v layout r r') (now : Nat)
    (outcome : Except Failure Established)
    (hmem : failure ∈ (r.1.takeOutcome v r.2 now outcome).2.decodings) :
    failure ∈ r.2.decodings ∨ outcome = .error failure := by
  refine Session.complete_decodings v.transport r.1.session r.2 now outcome ?_
  have hkeeps := Session.complete_keeps v.transport r.1.session r.2 now outcome
  have hcompleted := h.of_alike (h.toAlike.complete v now outcome)
    ⟨rfl, rfl, rfl⟩ ⟨rfl, rfl, rfl⟩ hkeeps.opened nofun
  unfold Connection.takeOutcome at hmem
  dsimp only at hmem
  split at hmem
  · exact hmem
  · rw [hcompleted.process_decodings now] at hmem
    exact hmem

/-- A CONNECT that is worked out fails in connecting, if it fails. -/
theorem completeConnect_decodings (h : Twins v layout r r') (now : Nat)
    (request : Connect)
    (hmem : failure ∈ (r.1.completeConnect v r.2 now request).2.decodings) :
    failure ∈ r.2.decodings := by
  obtain ⟨backend, hworld⟩ := establish_world v.transport r.2
    ((r.1.chain.tenancy.map Tenancy.tenantId).getD "") v.session.maxKeepAlive
    r.1.session.connectionId request
  have hworked := h.of_alike (h.toAlike.workOut v request).2 ⟨rfl, rfl, rfl⟩
    ⟨rfl, rfl, rfl⟩ id id
  rcases hworked.takeOutcome_decodings now (workOut v r request).1 hmem with
    hbefore | houtcome
  · have hsame : (workOut v r request).2 = { r.2 with backend } := hworld
    rw [hsame] at hbefore
    exact hbefore
  · have hscope := establish_scope houtcome
    rw [World.scope_of_mem_decodings hmem] at hscope
    exact absurd hscope (by decide)

/-- Whatever comes next, only an outcome of the CONNECT brings a failure in
decoding. -/
theorem turn_decodings (h : Twins v layout r r') {x : Turn σ} (hx : x.Whole)
    (hmem : failure ∈ (Connection.turn v r x).2.decodings) :
    failure ∈ r.2.decodings ∨ ∃ now, x = .outcome now (.error failure) := by
  have hshutdown : (r.1.shutdown v r.2 none).2.decodings = r.2.decodings := by
    show (r.1.session.shutdown v.transport r.2 none).2.decodings = _
    rw [Session.shutdown_decodings]
    exact List.append_nil _
  cases x with
  | event now event =>
    left
    cases event with
    | read bytes =>
      have harrived :=
        (h.arrive bytes).count (fun m => m.recordBytes bytes.length) id
      have hsame := harrived.process_decodings now
      exact hsame ▸ hmem
    | connectReady =>
      simp only [Connection.turn, handle] at hmem
      cases hconnecting : r.1.connecting with
      | none =>
        rw [hconnecting] at hmem
        exact hmem
      | some request =>
        rw [hconnecting] at hmem
        exact h.completeConnect_decodings now request hmem
    | keepAliveDue =>
      have hsame :=
        Session.checkKeepAlive_decodings v.transport r.1.session r.2 now
      exact hsame ▸ hmem
    | sessionClosed => exact hmem
    | gatewayShutdown => exact hshutdown ▸ hmem
    | hungUp => exact hshutdown ▸ hmem
    | readFailed text =>
      have hscope : ((Failure.ofIo text).inScope "Read"
          r.1.session.connectionId).scope.operation ≠ some "Decode" := by
        show some "Read" ≠ _
        decide
      have hsame := Session.shutdown_decodings_of_ne v.transport r.1.session
        r.2 hscope
      exact hsame ▸ hmem
  | outcome now outcome =>
    simp only [Connection.turn] at hmem
    split at hmem
    · exact (h.takeOutcome_decodings now outcome hmem).imp_right fun houtcome =>
        ⟨now, by rw [houtcome]⟩
    · exact .inl hmem
  | arrive bytes => exact .inl hmem
  | resolve =>
    obtain ⟨known, state, state', chain, chain', hresolve, -, -⟩ := h.unison
    simp only [Connection.turn, Connection.resolve, hresolve] at hmem
    exact .inl hmem
  | round now => exact absurd rfl (hx now)
  | elsewhere backend => exact .inl hmem

/-- What is to blame for a failure in decoding. -/
theorem course_decodings (h : Twins v layout r r') {turns : List (Turn σ)}
    (hturns : ∀ x ∈ turns, x.Whole)
    (hmem : failure ∈ (Connection.course v r turns).2.decodings) :
    failure ∈ r.2.decodings ∨ ∃ now, .outcome now (.error failure) ∈ turns := by
  induction turns generalizing r r' with
  | nil => exact .inl hmem
  | cons x turns ih =>
    have hx := hturns x List.mem_cons_self
    rcases ih (h.turn x hx).2 (fun y hy => hturns y (List.mem_cons_of_mem x hy))
      hmem with
      hbefore | ⟨now, hlater⟩
    · exact (h.turn_decodings hx hbefore).imp_right fun ⟨now, hnow⟩ =>
        ⟨now, by rw [hnow]; exact List.mem_cons_self⟩
    · exact .inr ⟨now, List.mem_cons_of_mem x hlater⟩

end Twins

end Decodings

/-! ## Undisturbed courses -/

/-- Take any course of a text connection, whether the certificate names its
tenant or its lines will, and slip lines of noise in among the octets that come
in, any number of them and each where a line may begin.  Then after every turn
the session has received the same parcels, and the two connections are alike: in
the session, the tenancy and the topic stage, and in what was handed over,
entered and given up.  A failure in decoding closes neither of them: it can only
come with an outcome of the CONNECT that a turn brings.

A turn takes the input up as a whole, since nothing else happens to a connection
while it does so.  What others do with the backend meanwhile belongs to the
transport, whose state may be anything. -/
theorem course_undisturbed (v : Services σ) (connectionId : String)
    (peer : Option Peer) (now : Nat) (backend : σ) (metrics : Option Metrics)
    (layout : Layout) (turns turns' : List (Turn σ))
    (hformat : (v.tenancy peer).format = .text layout)
    (hturns : ∀ x ∈ turns, x.Whole)
    (hnoisy : Noisy layout v.maxMessageSize turns turns') (k : Nat) :
    let first :=
      (start v connectionId peer now, ({ backend, metrics } : World σ))
    intake v first (turns'.take k) = intake v first (turns.take k) ∧
      Alike (course v first (turns.take k)) (course v first (turns'.take k)) ∧
      ∀ failure ∈ (course v first (turns'.take k)).2.decodings,
        ∃ instant, .outcome instant (.error failure) ∈ turns' := by
  intro first
  have hfront : ∀ x ∈ turns.take k, x.Whole := fun x hx =>
    hturns x (List.mem_of_mem_take hx)
  obtain ⟨hwhole, hintake, halike⟩ :=
    (hnoisy.take k).alike hformat hfront connectionId now backend metrics
  refine ⟨hintake, halike, fun failure hmem => ?_⟩
  have hstart : Twins v layout first first :=
    start_twins hformat connectionId now _
  rcases hstart.course_decodings hwhole hmem with hnone | ⟨instant, hoccurs⟩
  · cases hnone
  · exact ⟨instant, List.mem_of_mem_take hoccurs⟩

/-- The lines `T~0~d~x` and `T~1~d~y` come in with one read.  Between them, a
line of two tildes and one that is too long are slipped in. -/
theorem course_undisturbed_two :
    let taking : Backend.Transport Unit :=
      ⟨fun s _ _ => (.ok ⟨0, "d"⟩, s), fun s _ _ => (.ok (), s), fun s _ => s⟩
    let v : Services Unit :=
      ⟨taking, {}, 8, ⟨⟨[("T.d", ⟨"d", "h/d", "s"⟩)]⟩, [], 0⟩, ⟨none, "", 1⟩⟩
    let turns : List (Turn Unit) :=
      [.event 0 (.read [84, 126, 48, 126, 100, 126, 120, 10, 84, 126, 49, 126,
        100, 126, 121, 10]), .event 1 .connectReady]
    let turns' : List (Turn Unit) :=
      [.event 0 (.read [84, 126, 48, 126, 100, 126, 120, 10, 126, 126, 10, 97,
          97, 97, 97, 97, 97, 97, 97, 97, 10, 84, 126, 49, 126, 100, 126,
          121, 10]),
        .event 1 .connectReady]
    let first := (start v "c" none 0, ({ backend := () } : World Unit))
    (intake v first (turns'.take 2) = intake v first (turns.take 2) ∧
      Alike (course v first (turns.take 2)) (course v first (turns'.take 2)) ∧
      ∀ failure ∈ (course v first (turns'.take 2)).2.decodings,
        ∃ instant, .outcome instant (.error failure) ∈ turns') ∧
    (intake v first turns).length = 2 ∧
      (course v first turns).2.accepted.length = 2 := by
  intro taking v turns turns' first
  have hturns : ∀ x ∈ turns, x.Whole := by
    intro x hx
    rcases List.mem_cons.1 hx with rfl | hx
    · exact nofun
    · rw [List.mem_singleton.1 hx]
      exact nofun
  have htildes : Layout.selfIdentifying.Noise 8 [126, 126] :=
    ⟨by decide, .inr (.tooFewFields ['~', '~'] (by decide) (by decide))⟩
  have hlong : Layout.selfIdentifying.Noise 8 (List.replicate 9 97) :=
    ⟨by decide, .inl (by decide)⟩
  have hfirst : Slipped .selfIdentifying 8 turns _ :=
    @Slipped.slip Unit .selfIdentifying 8 [] [.event 1 .connectReady] _
      (.read 0) [84, 126, 48, 126, 100, 126, 120, 10] [84, 126, 49, 126, 100,
        126, 121, 10] _ (by decide)
      htildes
  have hsecond : Slipped .selfIdentifying 8 _ turns' :=
    @Slipped.slip Unit .selfIdentifying 8 [] [.event 1 .connectReady] _
      (.read 0) [84, 126, 48, 126, 100, 126, 120, 10, 126, 126, 10] [84, 126,
        49, 126, 100, 126, 121, 10] _
      (by decide) hlong
  refine ⟨?_, by decide +kernel, by decide +kernel⟩
  exact course_undisturbed v "c" none 0 () none .selfIdentifying turns turns'
    rfl hturns ((ReflTransGen.single hfirst).tail hsecond) 2

end Connection

end DeviceGateway
