import DeviceGateway.Proofs.Connection.Intake
import DeviceGateway.Proofs.Wire.Noise

/-!
# Two connections in unison

Two connections of one text format are in `Unison` if they are alike and their
decoders concur: from now on their inputs will tell the same.  What does not
tell anything may lie in either input, and more of it in one than in the other.

Taking the inputs up keeps the two in unison, although it takes a different
number of rounds.  A round that finds nothing worth telling leaves its
connection alike and hands nothing over, so the other connection may wait.  When
both find something that tells, it is the same line, and the two go on
together.  What is left to be found is less after every round of either, and
this is what the rounds are counted by.

## Main results

* `Topic.decode_silent`, `round_silent`: what tells nothing changes nothing.
* `takeUp_unison`: both inputs are taken up with the same intake.
-/

namespace DeviceGateway

open Wire (Frame Layout)
open Wire.Decoder (Concur goesOn unlessFatal)

/-! ## Chains of text lines -/

namespace Chain

/-- A chain that was resolved for lines of a layout. -/
structure Lined (chain : Chain) (layout : Layout) (state : Wire.Lines.Decoder)
    (known : Tenancy) : Prop extends Ready chain (.lines state) known where
  format : known.format = .text layout

variable {chain : Chain} {layout : Layout} {state : Wire.Lines.Decoder}
  {tenancy : Tenancy}

/-- A chain has one decoder and one tenancy. -/
theorem Lined.unique {layout' : Layout} {state' : Wire.Lines.Decoder}
    {tenancy' : Tenancy} (h : chain.Lined layout state tenancy)
    (h' : chain.Lined layout' state' tenancy') :
    state' = state ∧ tenancy' = tenancy := by
  have hdecoder : Wire.Decoder.lines state' = .lines state :=
    Option.some.inj (h'.decoder.symm.trans h.decoder)
  exact ⟨Wire.Decoder.lines.inj hdecoder, Option.some.inj
    (h'.tenancy.symm.trans h.tenancy)⟩

/-- A look of such a chain at an input, which is a look of its decoder. -/
structure Look (chain : Chain) (layout : Layout) (known : Tenancy)
    (state : Wire.Lines.Decoder) (input : List UInt8)
    (outcome : Option (Except Wire.Fault Frame)) (chain' : Chain)
    (state' : Wire.Lines.Decoder) (rest : List UInt8) : Prop where
  next : chain.next input = (outcome, chain', rest)
  look : (Wire.Decoder.lines state).next input = (outcome, .lines state', rest)
  lined : chain'.Lined layout state' known
  mild : ∀ o, outcome = some o → goesOn unlessFatal o = true

theorem Lined.exists_look (h : chain.Lined layout state tenancy)
    (input : List UInt8) :
    ∃ outcome chain' state' rest,
      chain.Look layout tenancy state input outcome chain' state' rest := by
  rcases hnext : chain.next input with ⟨outcome, chain', rest⟩
  obtain ⟨d', hlook, hready⟩ := h.toReady.next hnext
  obtain ⟨⟨state', rfl⟩, hmild⟩ := Wire.Decoder.next_lines_mild hlook
  exact ⟨outcome, chain', state', rest, hnext, hlook, ⟨hready, h.format⟩, hmild⟩

theorem Lined.learn (h : chain.Lined layout state tenancy) {tenancy' : Tenancy}
    (hformat : tenancy'.format = tenancy.format) :
    { chain with tenancy := some tenancy' }.Lined layout state tenancy' :=
  ⟨h.toReady.learn tenancy', hformat.trans h.format⟩

end Chain

/-- No frame changes the format. -/
theorem Topic.decode_format (t : Topic) (tenancy : Tenancy)
    (needsConnect : Bool) (frame : Frame) (l : Ledger) :
    (t.decode tenancy needsConnect frame l).2.2.1.format = tenancy.format := by
  cases frame with
  | line bytes =>
    have hformat := tenancy.decodeLine_format bytes
    simp only [decode]
    generalize tenancy.decodeLine bytes = out at hformat
    obtain ⟨reading, tenancy'⟩ := out
    cases reading <;> exact hformat
  | _ => rfl

/-- A line that tells nothing is forgotten. -/
theorem Topic.decode_silent {layout : Layout} {tenancy : Tenancy}
    (hformat : tenancy.format = .text layout) {frame : Frame}
    (hsilent : layout.tells (.ok frame) = false) (t : Topic)
    (needsConnect : Bool) (l : Ledger) :
    t.decode tenancy needsConnect frame l = (none, t, tenancy, l) := by
  cases frame with
  | line bytes =>
    obtain ⟨fault, hfault⟩ := (Layout.illegible_iff tenancy.tenantName).1
      (Layout.illegible_of_tells_line hsilent)
    simp [decode, Tenancy.decodeLine, hformat, hfault]
  | _ => cases hsilent

namespace Connection

variable {σ : Type} {v : Services σ} {layout : Layout} {tenancy : Tenancy}
  {state state' : Wire.Lines.Decoder} {r r' : Connection × World σ} {now : Nat}

/-! ## Rounds -/

section Round

variable {c : Connection} {chain : Chain} {input : List UInt8}
  (hopen : c.session.flags.closed = false)
  (hreading : c.session.flags.throttled = false)
include hopen hreading

theorem round_none (hnext : c.chain.next c.input = (none, chain, input))
    (v : Services σ) (w : World σ) (now : Nat) (tenancy : Tenancy) :
    c.round v w now tenancy = (none, { c with chain, input }, w) ∧
      c.roundIntake w tenancy = [] := by
  constructor
  · simp [round, hopen, hreading, hnext]
  · simp [roundIntake, hopen, hreading, hnext]

/-- A round that finds a frame hands over what is made of it. -/
theorem round_frame {frame : Frame}
    (hnext : c.chain.next c.input = (some (.ok frame), chain, input))
    (v : Services σ) (w : World σ) (now : Nat) (tenancy : Tenancy) :
    let out := { c with chain, input }.takeFrame v w now tenancy frame
    c.round v w now tenancy = (out.1.chain.tenancy, out) ∧
      c.roundIntake w tenancy = (c.handed w tenancy frame).toList := by
  constructor
  · obtain ⟨tenancy', htenancy⟩ :=
      takeFrame_tenancy v { c with chain, input } w now tenancy frame
    simp [round, hopen, hreading, hnext, htenancy]
  · simp [roundIntake, hopen, hreading, hnext]

/-- A round that finds what tells nothing leaves everything but the input and
the counts as it is. -/
theorem round_silent {o : Except Wire.Fault Frame}
    (hlook : c.chain.Look layout tenancy state c.input (some o) chain state'
      input)
    (hsilent : layout.tells o = false) (v : Services σ) (w : World σ)
    (now : Nat) :
    ∃ f, c.round v w now tenancy = (some tenancy, { c with chain, input },
      w.count f) ∧
      c.roundIntake w tenancy = [] := by
  obtain ⟨hnext, -, hlined, hmild⟩ := hlook
  have hgo := hmild o rfl
  cases o with
  | error fault =>
    have hmild : fault.isFatal = false := by
      simpa [goesOn, unlessFatal] using hgo
    refine ⟨fun m => m.recordDrop (dropReason fault), ?_, ?_⟩
    · simp [round, hopen, hreading, hnext, hmild]
    · simp [roundIntake, hopen, hreading, hnext]
  | ok frame =>
    have hdecode := Topic.decode_silent hlined.format hsilent c.topic
      (c.session.needsConnect && c.connecting.isNone) w.ledger
    have hchain : { chain with tenancy := some tenancy } = chain := by
      rw [← hlined.tenancy]
    obtain ⟨hround, hintake⟩ := round_frame hopen hreading hnext v w now tenancy
    rw [takeFrame_eq] at hround
    simp only [hdecode, informed, hchain] at hround
    rw [hlined.tenancy] at hround
    refine ⟨Metrics.recordFrame, hround, ?_⟩
    rw [hintake, handed, hdecode]
    rfl

end Round

/-- A frame leaves the decoder and its format. -/
theorem takeFrame_lined {c : Connection}
    (h : c.chain.Lined layout state tenancy) (v : Services σ) (w : World σ)
    (now : Nat) (frame : Frame) :
    ∃ learned, (c.takeFrame v w now tenancy frame).1.chain.Lined layout state
      learned := by
  obtain ⟨learned, hrest, -⟩ := takeFrame_rest v c w now tenancy frame
  have hchain := (takeFrame_informed v c w now tenancy frame).1
  refine ⟨learned, ?_⟩
  rw [hrest] at hchain ⊢
  refine h.learn ?_
  rw [Option.some.inj (congrArg Chain.tenancy hchain)]
  exact Topic.decode_format _ _ _ _ _

/-! ## Unison -/

/-- Two connections that are alike and whose inputs will tell the same, as long
as the session is open. -/
structure Unison (layout : Layout) (known : Tenancy)
    (state state' : Wire.Lines.Decoder) (r r' : Connection × World σ) :
    Prop extends Alike r r' where
  lined : r.1.chain.Lined layout state known
  lined' : r'.1.chain.Lined layout state' known
  concur : r.1.session.flags.closed = false →
    Concur layout (.lines state) r.1.input (.lines state') r'.1.input

namespace Unison

theorem symm (h : Unison layout tenancy state state' r r') :
    Unison layout tenancy state' state r' r where
  toAlike := h.toAlike.symm
  lined := h.lined'
  lined' := h.lined
  concur hopen := by
    rw [h.session] at hopen
    exact (h.concur hopen).symm

/-- One connection has looked at its input and found nothing that tells. -/
theorem pass {chain : Chain} {state₁ : Wire.Lines.Decoder} {input : List UInt8}
    {w : World σ} (h : Unison layout tenancy state state' r r')
    (hlined : chain.Lined layout state₁ tenancy)
    (hworld : w.unmetered = r.2.unmetered)
    (hconcur : r.1.session.flags.closed = false →
      Concur layout (.lines state₁) input (.lines state') r'.1.input) :
    Unison layout tenancy state₁ state' ({ r.1 with chain, input }, w) r' where
  peer := h.peer
  tenancy := by rw [h.tenancy, hlined.tenancy, h.lined.tenancy]
  topic := h.topic
  session := h.session
  connecting := h.connecting
  finished := h.finished
  world := h.world.trans hworld.symm
  lined := hlined
  lined' := h.lined'
  concur := hconcur

/-- A closed session has what was read thrown away. -/
theorem discard (h : Unison layout tenancy state state' r r')
    (hclosed : r.1.session.flags.closed = true) :
    Unison layout tenancy state state' ({ r.1 with input := [] }, r.2)
      ({ r'.1 with input := [] }, r'.2) :=
  { h with
    concur := fun hopen => by
      have hopen' : r.1.session.flags.closed = false := hopen
      rw [hclosed] at hopen'
      cases hopen' }

variable {chain chain' : Chain} {state₁ state₁' : Wire.Lines.Decoder}
  {input input' : List UInt8}

/-- Both have found the same frame. -/
theorem takeFrame (v : Services σ)
    (h : Unison layout tenancy state state' r r')
    (hlined : chain.Lined layout state₁ tenancy)
    (hlined' : chain'.Lined layout state₁' tenancy)
    (hconcur : Concur layout (.lines state₁) input (.lines state₁') input')
    (now : Nat) (frame : Frame) :
    let out := { r.1 with chain, input }.takeFrame v r.2 now tenancy frame
    let out' := { r'.1 with chain := chain', input := input' }.takeFrame v r'.2
      now tenancy frame
    ∃ learned, out.1.chain.tenancy = some learned ∧
      out'.1.chain.tenancy = some learned ∧
      out.1.input = input ∧ out'.1.input = input' ∧
      Unison layout learned state₁ state₁' out out' := by
  intro out out'
  have halike : Alike ({ r.1 with chain, input }, r.2)
      ({ r'.1 with chain := chain', input := input' }, r'.2) :=
    { h with tenancy := by rw [hlined.tenancy, hlined'.tenancy] }
  have htaken : Alike out out' := halike.takeFrame v now tenancy frame
  obtain ⟨learned, htook⟩ :=
    takeFrame_lined (c := { r.1 with chain, input }) hlined v r.2 now frame
  obtain ⟨learned', htook'⟩ :=
    takeFrame_lined (c := { r'.1 with chain := chain', input := input' })
      hlined' v r'.2 now frame
  have hlearned := htaken.tenancy.trans htook.tenancy
  obtain rfl : learned' = learned :=
    Option.some.inj (htook'.tenancy.symm.trans hlearned)
  obtain ⟨-, -, hinput, -⟩ :=
    takeFrame_rest v { r.1 with chain, input } r.2 now tenancy frame
  obtain ⟨-, -, hinput', -⟩ :=
    takeFrame_rest v { r'.1 with chain := chain', input := input' } r'.2 now
      tenancy frame
  refine ⟨learned', htook.tenancy, htook'.tenancy, hinput, hinput',
    { htaken with
      lined := htook
      lined' := htook'
      concur := fun _ => ?_ }⟩
  rw [show out.1.input = _ from hinput, show out'.1.input = _ from hinput']
  exact hconcur

end Unison

/-! ## Taking the inputs up -/

/-- What the session receives while frames are taken off the input, and what
comes out. -/
def takeUp (v : Services σ) (now fuel : Nat) (tenancy : Tenancy)
    (r : Connection × World σ) :
    List Parcel × Connection × World σ :=
  (framesIntake v now fuel tenancy r.1 r.2,
    processFrames v now fuel tenancy r.1 r.2)

theorem takeUp_more {tenancy' : Tenancy} {out : Connection × World σ}
    {parcels : List Parcel}
    (hround : r.1.round v r.2 now tenancy = (some tenancy', out))
    (hintake : r.1.roundIntake r.2 tenancy = parcels) (fuel : Nat) :
    takeUp v now (fuel + 1) tenancy r =
      (parcels ++ (takeUp v now fuel tenancy' out).1,
        (takeUp v now fuel tenancy' out).2) := by
  simp only [takeUp, framesIntake, processFrames, hround, hintake]

theorem takeUp_last (out : Connection × World σ)
    (hround : r.1.round v r.2 now tenancy = (none, out))
    (hintake : r.1.roundIntake r.2 tenancy = []) (fuel : Nat) :
    takeUp v now (fuel + 1) tenancy r = ([], out) := by
  simp only [takeUp, framesIntake, processFrames, hround, hintake,
    List.append_nil]

/-- Two connections have received the same and are in unison. -/
def Concerted (layout : Layout) (a a' : List Parcel × Connection × World σ) :
    Prop :=
  a'.1 = a.1 ∧ ∃ known state state', Unison layout known state state' a.2 a'.2

section Rounds

variable (v : Services σ) (now : Nat) {chain chain' : Chain}
  {state₁ state₁' : Wire.Lines.Decoder} {input input' : List UInt8}
  {o : Except Wire.Fault Frame}

/-- A round that tells nothing may be left out. -/
theorem takeUp_silent (h : Unison layout tenancy state state' r r')
    (hopen : r.1.session.flags.closed = false)
    (hreading : r.1.session.flags.throttled = false)
    (hlook :
      r.1.chain.Look layout tenancy state r.1.input (some o) chain state₁ input)
    (hsilent : layout.tells o = false) (fuel : Nat) :
    ∃ next, takeUp v now (fuel + 1) tenancy r = takeUp v now fuel tenancy next ∧
      next.1.input = input ∧ Unison layout tenancy state₁ state' next r' := by
  obtain ⟨f, hround, hintake⟩ :=
    round_silent hopen hreading hlook hsilent v r.2 now
  refine ⟨({ r.1 with chain, input }, r.2.count f),
    takeUp_more hround hintake fuel, rfl, ?_⟩
  exact h.pass hlook.lined rfl fun _ =>
    (h.concur hopen).look_silent hlook.look (hlook.mild o rfl) hsilent

/-- Two rounds that tell something are taken together. -/
theorem takeUp_telling {o' : Except Wire.Fault Frame}
    (h : Unison layout tenancy state state' r r')
    (hopen : r.1.session.flags.closed = false)
    (hreading : r.1.session.flags.throttled = false)
    (hlook :
      r.1.chain.Look layout tenancy state r.1.input (some o) chain state₁ input)
    (hlook' :
      r'.1.chain.Look layout tenancy state' r'.1.input (some o') chain' state₁'
        input')
    (htells : layout.tells o = true) (htells' : layout.tells o' = true)
    (fuel fuel' : Nat) :
    ∃ parcels learned next next',
      takeUp v now (fuel + 1) tenancy r =
        (parcels ++ (takeUp v now fuel learned next).1,
          (takeUp v now fuel learned next).2) ∧
      takeUp v now (fuel' + 1) tenancy r' =
        (parcels ++ (takeUp v now fuel' learned next').1,
          (takeUp v now fuel' learned next').2) ∧
      next.1.input = input ∧ next'.1.input = input' ∧
      Unison layout learned state₁ state₁' next next' := by
  have hopen' : r'.1.session.flags.closed = false := by rw [h.session, hopen]
  have hreading' : r'.1.session.flags.throttled = false := by
    rw [h.session, hreading]
  obtain ⟨rfl, hconcur⟩ := (h.concur hopen).look_both hlook.look
    (hlook.mild o rfl) htells hlook'.look (hlook'.mild o' rfl) htells'
  cases o' with
  | error fault => cases htells
  | ok frame =>
    obtain ⟨hround, hintake⟩ :=
      round_frame hopen hreading hlook.next v r.2 now tenancy
    obtain ⟨hround', hintake'⟩ :=
      round_frame hopen' hreading' hlook'.next v r'.2 now tenancy
    obtain ⟨learned, hknown, hknown', hinput, hinput', hunison⟩ :=
      h.takeFrame v hlook.lined hlook'.lined hconcur now frame
    rw [hknown] at hround
    rw [hknown'] at hround'
    rw [h.toAlike.handed tenancy frame] at hintake'
    exact ⟨_, learned, _, _, takeUp_more hround hintake fuel,
      takeUp_more hround' hintake' fuel', hinput, hinput', hunison⟩

/-- Two rounds that find nothing are the last. -/
theorem takeUp_nothing (h : Unison layout tenancy state state' r r')
    (hopen : r.1.session.flags.closed = false)
    (hreading : r.1.session.flags.throttled = false)
    (hlook :
      r.1.chain.Look layout tenancy state r.1.input none chain state₁ input)
    (hlook' :
      r'.1.chain.Look layout tenancy state' r'.1.input none chain'
        state₁' input')
    (fuel fuel' : Nat) :
    Concerted layout (takeUp v now (fuel + 1) tenancy r)
      (takeUp v now (fuel' + 1) tenancy r') := by
  have hopen' : r'.1.session.flags.closed = false := by rw [h.session, hopen]
  have hreading' : r'.1.session.flags.throttled = false := by
    rw [h.session, hreading]
  obtain ⟨hround, hintake⟩ :=
    round_none hopen hreading hlook.next v r.2 now tenancy
  obtain ⟨hround', hintake'⟩ :=
    round_none hopen' hreading' hlook'.next v r'.2 now tenancy
  have hconcur := (h.concur hopen).look_none hlook.look
  have hpassed := h.pass hlook.lined rfl fun _ => hconcur
  have hboth := hpassed.symm.pass hlook'.lined rfl fun _ =>
    hconcur.symm.look_none hlook'.look
  rw [takeUp_last _ hround hintake, takeUp_last _ hround' hintake']
  exact ⟨rfl, tenancy, state₁, state₁', hboth.symm⟩

/-- Two connections that must not look at their inputs stop. -/
theorem takeUp_stopped (h : Unison layout tenancy state state' r r')
    (hstopped : r.1.session.flags.closed = true ∨
      r.1.session.flags.throttled = true)
    (fuel fuel' : Nat) :
    Concerted layout (takeUp v now (fuel + 1) tenancy r)
      (takeUp v now (fuel' + 1) tenancy r') := by
  by_cases hclosed : r.1.session.flags.closed = true
  · have hclosed' : r'.1.session.flags.closed = true := by
      rw [h.session, hclosed]
    rw [takeUp_last ({ r.1 with input := [] }, r.2) (by simp [round, hclosed])
        (by simp [roundIntake, hclosed]),
      takeUp_last ({ r'.1 with input := [] }, r'.2) (by simp [round, hclosed'])
        (by simp [roundIntake, hclosed'])]
    exact ⟨rfl, tenancy, state, state', h.discard hclosed⟩
  · have hthrottled := hstopped.resolve_left hclosed
    have hclosed' : ¬ r'.1.session.flags.closed = true := by rwa [h.session]
    have hthrottled' : r'.1.session.flags.throttled = true := by
      rw [h.session, hthrottled]
    rw [takeUp_last r (by simp [round, hclosed, hthrottled])
        (by simp [roundIntake, hthrottled]),
      takeUp_last r' (by simp [round, hclosed', hthrottled'])
        (by simp [roundIntake, hthrottled'])]
    exact ⟨rfl, tenancy, state, state', h⟩

end Rounds

/-- Both inputs are taken up to their ends, with the same intake: a side that
finds what tells nothing goes on alone. -/
theorem takeUp_unison (v : Services σ) (now : Nat)
    (h : Unison layout tenancy state state' r r') {fuel fuel' : Nat}
    (hfuel : (Wire.Decoder.lines state).credit r.1.input < fuel)
    (hfuel' : (Wire.Decoder.lines state').credit r'.1.input < fuel') :
    Concerted layout (takeUp v now fuel tenancy r)
      (takeUp v now fuel' tenancy r') := by
  induction hsum : fuel + fuel' using Nat.strongRecOn
    generalizing fuel fuel' tenancy state state' r r' with
  | ind total ih =>
    obtain ⟨m, rfl⟩ : ∃ m, fuel = m + 1 := ⟨fuel - 1, by omega⟩
    obtain ⟨m', rfl⟩ : ∃ m, fuel' = m + 1 := ⟨fuel' - 1, by omega⟩
    by_cases hstopped : r.1.session.flags.closed = true ∨
      r.1.session.flags.throttled = true
    · exact takeUp_stopped v now h hstopped m m'
    rw [not_or, Bool.not_eq_true, Bool.not_eq_true] at hstopped
    obtain ⟨hopen, hreading⟩ := hstopped
    have hopen' : r'.1.session.flags.closed = false := by rw [h.session, hopen]
    have hreading' : r'.1.session.flags.throttled = false := by
      rw [h.session, hreading]
    have hconcur := h.concur hopen
    obtain ⟨outcome, chain, state₁, input, hlook⟩ :=
      h.lined.exists_look r.1.input
    obtain ⟨outcome', chain', state₁', input', hlook'⟩ :=
      h.lined'.exists_look r'.1.input
    have hleft : ∀ o, outcome = some o → layout.tells o = false →
        Concerted layout (takeUp v now (m + 1) tenancy r)
          (takeUp v now (m' + 1) tenancy r') := by
      rintro o rfl hsilent
      have hless := Wire.Decoder.next_credit hlook.look
      obtain ⟨next, htake, rfl, hunison⟩ := takeUp_silent v now h hopen hreading
        hlook hsilent m
      rw [htake]
      exact ih (m + (m' + 1)) (by omega) hunison (by omega) hfuel' rfl
    have hright : ∀ o, outcome' = some o → layout.tells o = false →
        Concerted layout (takeUp v now (m + 1) tenancy r)
          (takeUp v now (m' + 1) tenancy r') := by
      rintro o rfl hsilent
      have hless := Wire.Decoder.next_credit hlook'.look
      obtain ⟨next, htake, rfl, hunison⟩ := takeUp_silent v now h.symm hopen'
        hreading' hlook' hsilent m'
      rw [htake]
      exact ih (m + 1 + m') (by omega) hunison.symm hfuel (by omega) rfl
    cases outcome with
    | none =>
      cases outcome' with
      | none => exact takeUp_nothing v now h hopen hreading hlook hlook' m m'
      | some o' =>
        exact hright o' rfl (hconcur.silent_of_none hlook.look hlook'.look
          (hlook'.mild o' rfl))
    | some o =>
      cases outcome' with
      | none =>
        exact hleft o rfl (hconcur.symm.silent_of_none hlook'.look hlook.look
          (hlook.mild o rfl))
      | some o' =>
        by_cases htells : layout.tells o = true
        · by_cases htells' : layout.tells o' = true
          · have hless := Wire.Decoder.next_credit hlook.look
            have hless' := Wire.Decoder.next_credit hlook'.look
            obtain ⟨parcels, learned, next, next', htake, htake', rfl, rfl,
              hunison⟩ :=
              takeUp_telling v now h hopen hreading hlook hlook' htells
                htells' m m'
            obtain ⟨hrest, hends⟩ := ih (m + m') (by omega) hunison (by omega)
              (by omega) rfl
            rw [htake, htake']
            exact ⟨by rw [hrest], hends⟩
          · exact hright o' rfl (Bool.eq_false_iff.2 htells')
        · exact hleft o rfl (Bool.eq_false_iff.2 htells)

end Connection

end DeviceGateway
