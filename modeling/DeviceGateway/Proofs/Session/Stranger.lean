import DeviceGateway.Proofs.Session.Loyalty
import DeviceGateway.Proofs.Session.Closing

/-!
# Packets of another device

A device that was authenticated must not make the gateway send in the name of
another one.  In the line of a run there may be packets of other devices
anywhere: a device may put any id into what it sends, also into the packet that
came with the CONNECT of another id.  `Meets` says that a run has come to such a
packet, the first of its line, while the session was still open.

This is when a session is marked as configured wrongly, and there is no other
way.  The packet is not handed over, the session is closed with a failure that
says why, the bridge is told of it, and nothing is handed over afterwards.

A run may also be watched by others who share the world with it.  They change
the backend, count, and enter payloads in the ledger, but they write nothing in
the journal, so `Sound`, which is all that is known of a run, is not affected.

## Main results

* `conduct_step`: each thing that can be asked keeps the account of why a
  session closed.
* `sound_step`, `Sound.aside`: a run stays sound, also in a world with others.
* `Sound.faithful`: what a sound run says for its device.
-/

namespace DeviceGateway

namespace Session

variable {σ : Type} (t : Backend.Transport σ)

/-! ## What does not mark a session -/

/-- Closing sets one flag and leaves the others alone. -/
theorem shutdown_flags (s : Session) (w : World σ) (cause : Option Failure) :
    (s.shutdown t w cause).1.flags = s.flags.markClosed.2 := by
  cases hclosed : s.flags.closed with
  | true =>
    rw [shutdown_of_closed t hclosed, Flags.markClosed, ← hclosed]
  | false =>
    rw [shutdown_of_open t hclosed]
    rfl

/-- Before it is connected, a session relays nothing that could mark it. -/
theorem receive_misconfigured {s : Session} (h : s.flags.phase ≠ .connected)
    (w : World σ) (now : Nat) (parcel : Parcel) :
    (s.receive t w now parcel).2.1.flags.misconfigured =
      s.flags.misconfigured := by
  have hcase := received t s w now parcel
  generalize s.receive t w now parcel = out at hcase
  cases hcase with
  | dropped hclosed => rfl
  | empty hopen hdata hconnect => rfl
  | begun hopen hphase request hconnect => rfl
  | unexpected hopen hphase hconnect p hdata =>  rw [shutdown_flags]; rfl
  | queued hopen hphase p hdata => exact (enqueue_flags (s.heard now) p).2.1
  | live hopen hphase p hdata => exact absurd hphase h

end Session

namespace Run

open Session (laden Loyal Fallen Verdict OfferedBy)

variable {σ : Type} {r : Run σ} {asked : Prop}

/-! ## The account of a run -/

/-- Why the session of a run is open or closed.  Others may have asked a bound
session to close only if `asked` holds. -/
inductive Conduct (asked : Prop) (r : Run σ) : Prop
  | unbound (hbound : r.bound = none)
      (hflag : r.session.flags.misconfigured = false)
  | loyal (e : Established) (hbound : r.bound = some e)
      (h : Loyal e r.line r.session r.world)
  /-- It fell at some point of its line. -/
  | fallen (e : Established) (cause : Option Failure)
      (taken rest : List DataPacket) (hbound : r.bound = some e)
      (hclosed : r.session.flags.closed = true) (hline : r.line = taken ++ rest)
      (haccepted : r.world.accepted = taken.map r.session.setup.message)
      (hcause : r.world.causes.head? = some cause)
      (hown : ∀ q ∈ taken, q.deviceId.text = e.identity.id)
      (hverdict : Verdict e r.session r.world cause taken rest)
  /-- It was asked to close between two packets. -/
  | asked (hasked : asked) (e : Established) (hbound : r.bound = some e)
      (hclosed : r.session.flags.closed = true)
      (haccepted : r.world.accepted = r.line.map r.session.setup.message)
      (hflag : r.session.flags.misconfigured = false)

namespace Conduct

theorem of_fallen {e : Established} {cause : Option Failure}
    {taken rest : List DataPacket} (hbound : r.bound = some e)
    (hline : r.line = taken ++ rest)
    (h : Fallen e cause taken rest r.session r.world) : r.Conduct asked :=
  .fallen e cause taken rest hbound h.spent.closed hline h.accepted h.causes
    h.own h.verdict

theorem configured (h : r.Conduct asked) (hbound : r.bound = none) :
    r.session.flags.misconfigured = false := by
  cases h with
  | unbound _ hflag => exact hflag
  | loyal e hbound' => rw [hbound] at hbound'; cases hbound'
  | fallen e cause taken rest hbound' => rw [hbound] at hbound'; cases hbound'
  | asked _ e hbound' => rw [hbound] at hbound'; cases hbound'

theorem loyal_of_open (h : r.Conduct asked) {e : Established}
    (hbound : r.bound = some e) (hopen : r.session.flags.closed = false) :
    Loyal e r.line r.session r.world := by
  cases h with
  | unbound hbound' => rw [hbound] at hbound'; cases hbound'
  | loyal e' hbound' hloyal =>
    obtain rfl : e = e' := Option.some.inj (hbound.symm.trans hbound')
    exact hloyal
  | fallen e' cause taken rest hbound' hclosed =>
    rw [hopen] at hclosed; cases hclosed
  | asked _ e' hbound' hclosed => rw [hopen] at hclosed; cases hclosed

/-- A closed session that stays as it is was closed for the same reason. -/
theorem unmoved {r' : Run σ} (h : r.Conduct asked)
    (hclosed : r.session.flags.closed = true) (hmove : r.Unmoved r') :
    r'.Conduct asked := by
  have haccepted' : r'.world.accepted = r.world.accepted :=
    World.accepted_congr hmove.offers
  cases h with
  | unbound hbound hflag =>
    exact .unbound (hmove.bound.trans hbound) (by rw [hmove.session, hflag])
  | loyal e hbound hloyal =>
    rw [hloyal.opened] at hclosed
    cases hclosed
  | fallen e cause taken rest hbound hclosed hline haccepted hcause hown
    hverdict =>
    refine .fallen e cause taken rest (hmove.bound.trans hbound)
      (by rw [hmove.session, hclosed]) (hmove.line.trans hline) ?_
      (hmove.head_causes hcause) hown ?_
    · rw [haccepted', hmove.session, haccepted]
    · rw [hmove.session]
      cases hverdict with
      | stranger p more hid hcause' hflag hletters =>
        refine .stranger p more hid hcause' hflag ?_
        rw [World.letters, hmove.offers]
        exact hletters
      | own p more hid hflag => exact .own p more hid hflag
      | silent rest elapsed hcause' hflag =>
        exact .silent rest elapsed hcause' hflag
  | asked hasked e hbound hclosed haccepted hflag =>
    refine .asked hasked e (hmove.bound.trans hbound)
      (by rw [hmove.session, hclosed]) ?_ (by rw [hmove.session, hflag])
    rw [haccepted', hmove.session, hmove.line, haccepted]

end Conduct

/-! ## Steps -/

theorem note_bound (r : Run σ) (parcel : Parcel) (reception : Reception) :
    (r.note parcel reception).bound = r.bound := by
  cases reception with
  | beginConnect request => rfl
  | handled =>
    simp only [note]
    split
    · rfl
    · split <;> rfl

/-- Nothing but a CONNECT that succeeds binds a session, or marks it. -/
theorem Unbound.conduct_step (t : Backend.Transport σ) (h : r.Unbound)
    (hconduct : r.Conduct asked)
    (hphase : r.session.flags.phase ≠ .connected) {d : Demand}
    (hd : ∀ now e, d = .complete now (.ok e) → r.awaiting = false) :
    (r.step t d).Conduct asked := by
  have hflag := hconduct.configured h.bound
  cases d with
  | receive now parcel =>
    refine .unbound ((note_bound r parcel _).trans h.bound) ?_
    simp only [step]
    rw [Session.receive_misconfigured t hphase]
    exact hflag
  | complete now outcome =>
    simp only [step]
    cases outcome with
    | error failure =>
      split
      · refine .unbound h.bound ?_
        simp only [Session.complete]
        rw [Session.shutdown_flags]
        exact hflag
      · exact .unbound h.bound hflag
    | ok e =>
      rw [hd now e rfl, if_neg Bool.false_ne_true]
      exact .unbound h.bound hflag
  | checkKeepAlive now =>
    simp only [step, h.checkKeepAlive t now]
    exact .unbound h.bound hflag
  | shutdown cause =>
    refine .unbound h.bound ?_
    simp only [step]
    rw [Session.shutdown_flags]
    exact hflag

theorem Waiting.conduct_complete (t : Backend.Transport σ) (h : r.Waiting)
    (hconduct : r.Conduct asked) (now : Nat) (e : Established) :
    (r.step t (.complete now (.ok e))).Conduct asked := by
  have hflag := hconduct.configured h.bound
  simp only [step, h.awaiting, if_true, conclude, h.opened, Bool.false_eq_true,
    if_false]
  have hline : r.queued ++ laden r.held ++ r.live =
      r.session.pending ++ laden r.session.held := by
    rw [h.live, List.append_nil, h.pending, h.held]
  rcases Session.loyal_complete t h.opened hflag h.offers h.disposals h.causes e
    now with
    hloyal | ⟨cause, taken, rest, hsplit, hfallen⟩
  · exact .loyal e rfl (by rw [line, hline]; exact hloyal)
  · exact .of_fallen rfl (hline.trans hsplit) hfallen

theorem Serving.conduct_receive (t : Backend.Transport σ) {e : Established}
    (h : r.Serving e) (hconduct : r.Conduct asked) (now : Nat)
    (parcel : Parcel) :
    (r.step t (.receive now parcel)).Conduct asked := by
  have hopen := h.flowing.opened
  have hphase := h.flowing.phase
  have hheard : Loyal e r.line (r.session.heard now) r.world :=
    (hconduct.loyal_of_open h.bound hopen).of_session rfl rfl rfl rfl rfl
  have hcase := Session.received t r.session r.world now parcel
  simp only [step]
  generalize r.session.receive t r.world now parcel = out at hcase
  cases hcase with
  | dropped hclosed => exact absurd hclosed (by simp [hopen])
  | empty _ hdata hconnect =>
    simp only [note, hopen, hphase, hdata, Option.toList_none, List.append_nil,
      Bool.false_eq_true, if_false]
    exact .loyal e h.bound hheard
  | begun _ hphase' => exact absurd (hphase.symm.trans hphase') (by decide)
  | unexpected _ hphase' => exact absurd (hphase.symm.trans hphase') (by decide)
  | queued _ hphase' => exact absurd (hphase.symm.trans hphase') (by decide)
  | live _ _ p hdata =>
    simp only [note, hopen, hphase, hdata, Option.toList_some,
      Bool.false_eq_true, if_false]
    have hline : r.queued ++ laden r.held ++ (r.live ++ [p]) = r.line ++ [p] :=
      (List.append_assoc _ _ _).symm
    rcases hheard.relay t p with ⟨hsession, hloyal⟩ | ⟨cause, hfallen⟩
    · rw [hsession]
      exact .loyal e h.bound (by rw [line, hline]; exact hloyal)
    · exact .of_fallen h.bound hline (hfallen [])

theorem Serving.conduct_step (t : Backend.Transport σ) {e : Established}
    (h : r.Serving e) (hconduct : r.Conduct asked) {d : Demand}
    (hd : ∀ cause, d = .shutdown cause → asked) :
    (r.step t d).Conduct asked := by
  have hopen := h.flowing.opened
  have hloyal := hconduct.loyal_of_open h.bound hopen
  cases d with
  | receive now parcel => exact h.conduct_receive t hconduct now parcel
  | complete now outcome =>
    simp only [step, h.awaiting, Bool.false_eq_true, if_false]
    exact hconduct
  | checkKeepAlive now =>
    simp only [step]
    rcases hloyal.checkKeepAlive t now with ⟨deadline, hchecked⟩ |
      ⟨cause, hfallen⟩
    · rw [hchecked]
      exact .loyal e h.bound (hloyal.of_session rfl rfl rfl rfl rfl)
    · exact .of_fallen h.bound (List.append_nil _).symm (hfallen [] (.inr rfl))
  | shutdown cause =>
    have hhalted := h.flowing.shutdown t cause [] (fun p hp => by cases hp)
    refine .asked (hd cause rfl) e h.bound hhalted.spent.closed
      hhalted.accepted ?_
    simp only [step]
    rw [Session.shutdown_flags]
    exact hloyal.configured

/-- Whatever is asked of a session, the account of why it is open or closed can
be kept up. -/
theorem conduct_step (t : Backend.Transport σ) (h : r.Situation)
    (hconduct : r.Conduct asked) {d : Demand}
    (hd : r.session.flags.closed = false → ∀ cause, d = .shutdown cause →
      asked) :
    (r.step t d).Conduct asked := by
  cases h with
  | idle h =>
    exact h.toUnbound.conduct_step t hconduct (by simp [h.phase]) fun _ _ _ =>
      h.awaiting
  | waiting h =>
    by_cases hd : ∃ now e, d = .complete now (.ok e)
    · obtain ⟨now, e, rfl⟩ := hd
      exact h.conduct_complete t hconduct now e
    · exact h.toUnbound.conduct_step t hconduct (by simp [h.phase])
        fun now e he => absurd ⟨now, e, he⟩ hd
  | dropped h =>
    exact hconduct.unmoved h.spent.closed (unmoved_of_spent t h.spent d)
  | serving e h => exact h.conduct_step t hconduct (hd h.flowing.opened)
  | served e cause taken rest h =>
    exact hconduct.unmoved h.halted.spent.closed
      (unmoved_of_spent t h.halted.spent d)

/-! ## Sound runs -/

/-- All that is known of a run at any point. -/
structure Sound (asked : Prop) (r : Run σ) : Prop where
  situation : r.Situation
  conduct : r.Conduct asked

theorem sound_start (setup : SessionSetup) (connectionId : String) (now : Nat)
    (w : World σ) :
    (start setup connectionId now w).Sound asked :=
  ⟨situation_start setup connectionId now w, .unbound rfl rfl⟩

theorem sound_step (t : Backend.Transport σ) (h : r.Sound asked) {d : Demand}
    (hd : r.session.flags.closed = false → ∀ cause, d = .shutdown cause →
      asked) :
    (r.step t d).Sound asked :=
  ⟨situation_step t h.situation d, conduct_step t h.situation h.conduct hd⟩

theorem sound_run (t : Backend.Transport σ) (h : r.Sound True)
    (demands : List Demand) :
    (r.run t demands).Sound True := by
  induction demands generalizing r with
  | nil => exact h
  | cons d demands ih => exact ih (sound_step t h fun _ _ _ => trivial)

section Aside

variable {w : World σ}

theorem Unbound.aside (h : r.Unbound) (hoffers : w.offers = r.world.offers) :
    { r with world := w }.Unbound :=
  { h with offers := hoffers.trans h.offers }

theorem Situation.aside (h : r.Situation)
    (hjournal : w.journal = r.world.journal) :
    { r with world := w }.Situation := by
  have hview : ∀ {α : Type} (f : Happening → Option α),
      w.view f = r.world.view f := by
    intro α f
    rw [World.view, World.view, hjournal]
  have hoffers : w.offers = r.world.offers := hview _
  have hdisposals : w.disposals = r.world.disposals := hview _
  have hcauses : w.causes = r.world.causes := hview _
  cases h with
  | idle h =>
    exact .idle { h with
      toUnbound := h.toUnbound.aside hoffers
      disposals := hdisposals.trans h.disposals
      causes := hcauses.trans h.causes }
  | waiting h =>
    exact .waiting { h with
      toUnbound := h.toUnbound.aside hoffers
      disposals := hdisposals.trans h.disposals
      causes := hcauses.trans h.causes }
  | dropped h =>
    obtain ⟨cause, hcause⟩ := h.causes
    exact .dropped { h with
      toUnbound := h.toUnbound.aside hoffers
      disposals := hdisposals.trans h.disposals
      causes := ⟨cause, (congrArg List.head? hcauses).trans hcause⟩ }
  | serving e h =>
    exact .serving e
      { h with flowing := h.flowing.of_views hoffers hdisposals hcauses }
  | served e cause taken rest h =>
    have hhalted := h.halted
    exact .served e cause taken rest { h with
      halted := { hhalted with
        offers := by unfold OfferedBy; rw [hoffers]; exact hhalted.offers
        accepted := (World.accepted_congr hoffers).trans hhalted.accepted
        causes := (congrArg List.head? hcauses).trans hhalted.causes
        disposals := hdisposals.trans hhalted.disposals
        stop := by rw [hoffers]; exact hhalted.stop } }

/-- What others do in the world leaves a run sound if they write nothing in its
journal. -/
theorem Sound.aside (h : r.Sound asked)
    (hjournal : w.journal = r.world.journal) :
    { r with world := w }.Sound asked := by
  have hview : ∀ {α : Type} (f : Happening → Option α),
      w.view f = r.world.view f := by
    intro α f
    rw [World.view, World.view, hjournal]
  have hoffers : w.offers = r.world.offers := hview _
  have hcauses : w.causes = r.world.causes := hview _
  have haccepted' := World.accepted_congr hoffers
  refine ⟨h.situation.aside hjournal, ?_⟩
  cases h.conduct with
  | unbound hbound hflag => exact .unbound hbound hflag
  | loyal e hbound hloyal =>
    exact .loyal e hbound (hloyal.of_views hoffers (hview _) hcauses)
  | fallen e cause taken rest hbound hclosed hline haccepted hcause hown
    hverdict =>
    refine .fallen e cause taken rest hbound hclosed hline
      (haccepted'.trans haccepted) ((congrArg List.head? hcauses).trans hcause)
      hown ?_
    cases hverdict with
    | stranger p more hid hcause' hflag hletters =>
      refine .stranger p more hid hcause' hflag ?_
      rw [World.letters, hoffers]
      exact hletters
    | own p more hid hflag => exact .own p more hid hflag
    | silent rest elapsed hcause' hflag =>
      exact .silent rest elapsed hcause' hflag
  | asked hasked e hbound hclosed haccepted hflag =>
    exact .asked hasked e hbound hclosed (haccepted'.trans haccepted) hflag

end Aside

/-! ## Speaking for one device -/

/-- A run has come to a packet of another device: all that is before it in the
line is of the bound device and was accepted, and it was not that the device was
found silent before anything was relayed. -/
structure Meets (r : Run σ) (e : Established) (taken : List DataPacket)
    (p : DataPacket) (rest : List DataPacket) : Prop where
  bound : r.bound = some e
  line : r.line = taken ++ p :: rest
  own : ∀ q ∈ taken, q.deviceId.text = e.identity.id
  stranger : p.deviceId.text ≠ e.identity.id
  accepted : r.world.accepted = taken.map r.session.setup.message
  heard : ∀ elapsed,
    r.world.causes.head? ≠ some (some (r.session.silenceFailure elapsed))

/-- A run whose session speaks for the device that it is bound to, and for no
other. -/
structure Faithful (r : Run σ) : Prop where
  unbound : r.bound = none → r.world.offers = []
  /-- Messages go to the client that the CONNECT has brought, and are made of
  packets of the device that it was brought for. -/
  bound : ∀ e, r.bound = some e → r.session.identity = some e.identity ∧
    ∀ o ∈ r.world.offers, e.bridge.client = some o.client ∧
      o.deviceId.text = e.identity.id
  misconfigured : r.session.flags.misconfigured = true ↔
    ∃ e taken p rest, r.Meets e taken p rest
  /-- At a packet of another device the session is closed, with nothing handed
  over but what was before it, and its bridge is told why. -/
  met : ∀ e taken p rest, r.Meets e taken p rest →
    r.session.flags.closed = true ∧
    r.world.letters = taken.map r.session.setup.letter ∧
    ∃ failure : Failure, failure.code = .unresolvedSendingClient ∧
      failure = r.session.strangerFailure p e.identity ∧
      r.world.causes.head? = some (some failure) ∧
      r.world.disposals = [(e.bridge, some failure)]

/-- A line is taken up to one point. -/
theorem taken_unique {setup : SessionSetup}
    {taken taken' rest rest' : List DataPacket}
    (hline : taken ++ rest = taken' ++ rest')
    (haccepted : taken.map setup.message = taken'.map setup.message) :
    taken = taken' ∧ rest = rest' := by
  have hlength := congrArg List.length haccepted
  rw [List.length_map, List.length_map] at hlength
  exact List.append_inj hline hlength

private theorem not_meets_of_accepted
    (haccepted : r.world.accepted = r.line.map r.session.setup.message)
    {e : Established} {taken : List DataPacket} {p : DataPacket}
    {rest : List DataPacket} :
    ¬ r.Meets e taken p rest := by
  intro h
  have hsame : r.line ++ [] = taken ++ p :: rest := by
    rw [List.append_nil, h.line]
  have hnone := (taken_unique hsame (haccepted.symm.trans h.accepted)).2
  cases hnone

/-- A run that meets a packet of another device is one that fell there. -/
theorem Sound.verdict_of_meets (h : r.Sound asked) {e : Established}
    {taken : List DataPacket} {p : DataPacket} {rest : List DataPacket}
    (hmeets : r.Meets e taken p rest) :
    r.session.flags.closed = true ∧ ∃ cause, r.world.causes.head? = some cause ∧
      cause = some (r.session.strangerFailure p e.identity) ∧
      r.session.flags.misconfigured = true ∧
      r.world.letters = taken.map r.session.setup.letter := by
  cases h.conduct with
  | unbound hbound => rw [hmeets.bound] at hbound; cases hbound
  | loyal e' hbound hloyal =>
    exact absurd hmeets (not_meets_of_accepted hloyal.accepted)
  | asked _ e' hbound hclosed haccepted hflag =>
    exact absurd hmeets (not_meets_of_accepted haccepted)
  | fallen e' cause taken' rest' hbound hclosed hline haccepted hcause hown
    hverdict =>
    obtain rfl : e = e' := Option.some.inj (hmeets.bound.symm.trans hbound)
    obtain ⟨rfl, rfl⟩ :=
      taken_unique (hmeets.line.symm.trans hline)
        (hmeets.accepted.symm.trans haccepted)
    cases hverdict with
    | stranger p more hid hcause' hflag hletters =>
      exact ⟨hclosed, cause, hcause, hcause', hflag, hletters⟩
    | own p more hid hflag => exact absurd hid hmeets.stranger
    | silent rest elapsed hcause' hflag =>
      rw [hcause'] at hcause
      exact absurd hcause (hmeets.heard elapsed)

theorem Sound.meets_of_misconfigured (h : r.Sound asked)
    (hflag : r.session.flags.misconfigured = true) :
    ∃ e taken p rest, r.Meets e taken p rest := by
  cases h.conduct with
  | unbound hbound hnot => rw [hflag] at hnot; cases hnot
  | loyal e hbound hloyal => rw [hloyal.configured] at hflag; cases hflag
  | asked _ e hbound hclosed haccepted hnot => rw [hflag] at hnot; cases hnot
  | fallen e cause taken rest hbound hclosed hline haccepted hcause hown
    hverdict =>
    cases hverdict with
    | stranger p more hid hcause' _ hletters =>
      refine ⟨e, taken, p, more, hbound, hline, hown, hid, haccepted,
        fun elapsed hsilent => ?_⟩
      rw [hcause, hcause'] at hsilent
      have hcode :=
        congrArg Failure.code (Option.some.inj (Option.some.inj hsilent))
      cases hcode
    | own p more hid hnot => rw [hflag] at hnot; cases hnot
    | silent rest elapsed hcause' hnot => rw [hflag] at hnot; cases hnot

theorem Sound.faithful (h : r.Sound asked) : r.Faithful where
  unbound hbound := by
    cases h.situation with
    | idle h => exact h.offers
    | waiting h => exact h.offers
    | dropped h => exact h.offers
    | serving e h => exact absurd hbound (by simp [h.bound])
    | served e cause taken rest h => exact absurd hbound (by simp [h.bound])
  bound e hbound := by
    cases h.situation with
    | idle h => exact absurd hbound (by simp [h.bound])
    | waiting h => exact absurd hbound (by simp [h.bound])
    | dropped h => exact absurd hbound (by simp [h.bound])
    | serving e' h =>
      obtain rfl : e' = e := Option.some.inj (h.bound.symm.trans hbound)
      exact ⟨h.flowing.identity, h.flowing.offers⟩
    | served e' cause taken rest h =>
      obtain rfl : e' = e := Option.some.inj (h.bound.symm.trans hbound)
      exact ⟨h.halted.identity, h.halted.offers⟩
  misconfigured := by
    constructor
    · exact h.meets_of_misconfigured
    · rintro ⟨e, taken, p, rest, hmeets⟩
      obtain ⟨-, -, -, -, hflag, -⟩ := h.verdict_of_meets hmeets
      exact hflag
  met e taken p rest hmeets := by
    obtain ⟨hclosed, cause, hcause, rfl, -, hletters⟩ :=
      h.verdict_of_meets hmeets
    obtain ⟨hone, cause', hcause', hdisposals⟩ := h.situation.disposed hclosed
    obtain rfl : cause' = some (r.session.strangerFailure p e.identity) :=
      Option.some.inj (hcause'.symm.trans hcause)
    have hlate : r.late = none := by
      rcases hone with hnone | hlate
      · rw [hmeets.bound] at hnone
        cases hnone
      · exact hlate
    refine ⟨hclosed, hletters, _, rfl, rfl, hcause, ?_⟩
    rw [hdisposals, dues, hmeets.bound, hlate]
    rfl

end Run

end DeviceGateway
