import DeviceGateway.Proofs.Session.Conveyance

/-!
# For whom a bound session speaks

A bound session hands a packet to its client only if the packet is of the device
that was bound.  A session is `Loyal` as long as it is open: every packet of its
line is of that device and was handed over, nothing else was, and it is not
marked as configured wrongly.  When it closes while it works on its line it is
`Fallen`, and `Verdict` says why: it came to a packet of another device, it came
to one of its own that was not accepted, or its device was silent.  Only the
first of these marks the session.

## Main results

* `Loyal.relay`, `Loyal.checkKeepAlive`: a loyal session stays loyal or falls.
* `loyal_complete`: so does one whose CONNECT succeeds.
-/

namespace DeviceGateway

/-- A message and the device whose packet it was made of. -/
def Offer.letter (o : Offer) : DeviceId × Backend.Message :=
  (o.deviceId, o.message)

/-- The letter that a packet travels in. -/
def SessionSetup.letter (setup : SessionSetup) (p : DataPacket) :
    DeviceId × Backend.Message :=
  (p.deviceId, setup.message p)

/-- The letters that were handed to clients, whether or not they were taken. -/
def World.letters {σ : Type} (w : World σ) :
    List (DeviceId × Backend.Message) :=
  w.offers.map Offer.letter

namespace Session

variable {σ : Type} {e : Established} {s : Session} {w : World σ}
  {line taken rest : List DataPacket} {cause : Option Failure}

/-! ## Loyal and fallen -/

/-- A session that is bound and open: all of its line is of the bound device and
was accepted, nothing but its line was handed over, and reading is not held
back. -/
structure Loyal (e : Established) (line : List DataPacket) (s : Session)
    (w : World σ) : Prop
    extends Flowing e line s w where
  own : ∀ q ∈ line, q.deviceId.text = e.identity.id
  letters : w.letters = line.map s.setup.letter
  configured : s.flags.misconfigured = false
  reading : s.flags.throttled = false

/-- What ended a line with some packets taken. -/
inductive Verdict (e : Established) (s : Session) (w : World σ)
    (cause : Option Failure) (taken : List DataPacket) : List DataPacket → Prop
  /-- A packet of another device, which was not handed over. -/
  | stranger (p : DataPacket) (more : List DataPacket)
      (hid : p.deviceId.text ≠ e.identity.id)
      (hcause : cause = some (s.strangerFailure p e.identity))
      (hflag : s.flags.misconfigured = true)
      (hletters : w.letters = taken.map s.setup.letter) :
      Verdict e s w cause taken (p :: more)
  /-- A packet of the device itself, which was not accepted. -/
  | own (p : DataPacket) (more : List DataPacket)
      (hid : p.deviceId.text = e.identity.id)
      (hflag : s.flags.misconfigured = false) :
      Verdict e s w cause taken (p :: more)
  | silent (rest : List DataPacket) (elapsed : Nat)
      (hcause : cause = some (s.silenceFailure elapsed))
      (hflag : s.flags.misconfigured = false) : Verdict e s w cause taken rest

/-- A bound session that closed while it worked on its line or was checked. -/
structure Fallen (e : Established) (cause : Option Failure)
    (taken rest : List DataPacket) (s : Session) (w : World σ) :
    Prop extends Halted e cause taken rest s w where
  own : ∀ q ∈ taken, q.deviceId.text = e.identity.id
  verdict : Verdict e s w cause taken rest

namespace Loyal

/-- What a session holds, and when it was heard or is to be checked, has no part
in its being loyal. -/
theorem of_session (h : Loyal e line s w) {s' : Session}
    (hflags : s'.flags = s.flags) (hidentity : s'.identity = s.identity)
    (hkeepAlive : s'.keepAlive = s.keepAlive) (hbridge : s'.bridge = s.bridge)
    (hsetup : s'.setup = s.setup) : Loyal e line s' w where
  toFlowing := h.toFlowing.of_session (by rw [hflags])
    (by rw [hflags]) hidentity hkeepAlive hbridge hsetup
  own := h.own
  letters := by rw [hsetup]; exact h.letters
  configured := by rw [hflags]; exact h.configured
  reading := by rw [hflags]; exact h.reading

theorem of_views (h : Loyal e line s w) {w' : World σ}
    (hoffers : w'.offers = w.offers) (hdisposals : w'.disposals = w.disposals)
    (hcauses : w'.causes = w.causes) :
    Loyal e line s w' :=
  { h with
    toFlowing := h.toFlowing.of_views hoffers hdisposals hcauses
    letters := by rw [World.letters, hoffers]; exact h.letters }

private theorem count (h : Loyal e line s w) (f : Metrics → Metrics) :
    Loyal e line s (w.count f) :=
  h.of_views (World.view_count w f _) (World.view_count w f _)
    (World.view_count w f _)

/-- One more packet is handed over and accepted, or the session falls, whatever
follows. -/
theorem relay (t : Backend.Transport σ) (h : Loyal e line s w)
    (p : DataPacket) :
    ((s.relay t w p).1 = s ∧ Loyal e (line ++ [p]) s (s.relay t w p).2) ∨
      ∃ cause, ∀ more, Fallen e cause line (p :: more)
        (s.relay t w p).1 (s.relay t w p).2 := by
  have hcase := relayed t h.opened w p
  generalize s.relay t w p = out at hcase
  cases hcase with
  | stranger bound hbound hid =>
    obtain rfl : bound = e.identity := by
      rw [h.identity] at hbound
      exact (Option.some.inj hbound).symm
    have hmarked : Flowing e line { s with flags := s.flags.markMisconfigured }
        (w.release p) :=
      (h.toFlowing.release p).of_session rfl rfl rfl rfl rfl rfl
    have hoffers :
        ({ s with flags := s.flags.markMisconfigured }.shutdown t (w.release p)
          (some (s.strangerFailure p e.identity))).2.offers = w.offers := by
      simp [view_shutdown t hmarked.opened]
    refine .inr ⟨_, fun more =>
      { toHalted := hmarked.shutdown t _ _ fun q hq => ?_, own := h.own
        verdict := .stranger p more hid ?_ ?_ ?_ }⟩
    · obtain rfl : p = q := Option.some.inj hq
      exact .stranger hid rfl
    · rw [shutdown_of_open t hmarked.opened]
      rfl
    · rw [shutdown_of_open t hmarked.opened]
      rfl
    · rw [shutdown_of_open t hmarked.opened, World.letters, hoffers]
      exact h.letters
  | bridgeless hown hbridge =>
    rw [h.bridge] at hbridge
    cases hbridge
  | unserved hown bridge hbridge hclient =>
    obtain rfl := h.bridge_eq hbridge
    have hreleased := h.toFlowing.release p
    refine .inr ⟨_, fun more =>
      { toHalted := hreleased.shutdown t _ _ fun q hq => .unserved hclient rfl
        own := h.own
        verdict := .own p more (h.owns hown) ?_ }⟩
    rw [shutdown_of_open t h.opened]
    exact h.configured
  | accepted hown bridge hbridge client hclient u hsend =>
    obtain rfl := h.bridge_eq hbridge
    have hid := h.owns hown
    have hsent : Loyal e (line ++ [p]) s
        (w.send t client p.deviceId (s.setup.message p)).2 :=
      { toFlowing := h.toFlowing.send_ok t hclient hid hsend
        own := fun q hq => by
          rcases List.mem_append.1 hq with hold | hnew
          · exact h.own q hold
          · rw [List.mem_singleton.1 hnew]
            exact hid
        letters := by
          have hbefore := h.letters
          rw [World.letters] at hbefore
          simp [World.letters, hbefore, Offer.letter, SessionSetup.letter]
        configured := h.configured
        reading := h.reading }
    exact .inl ⟨rfl, hsent.count _⟩
  | refused hown bridge hbridge client hclient fault hsend =>
    obtain rfl := h.bridge_eq hbridge
    have hid := h.owns hown
    have hsent := (h.toFlowing.send_error t hclient hid hsend).count
      Metrics.recordRelayFailure
    refine .inr ⟨_, fun more =>
      { toHalted := hsent.shutdown t _ _ fun q hq => ?_, own := h.own
        verdict := .own p more hid ?_ }⟩
    · obtain rfl : p = q := Option.some.inj hq
      exact .refused client fault (by simp [hsend, ended]) rfl
    · rw [shutdown_of_open t h.opened]
      exact h.configured

/-- A device that is silent makes its session fall, at the end of its line or
before anything of it was relayed. -/
theorem checkKeepAlive (t : Backend.Transport σ) (h : Loyal e line s w)
    (now : Nat) :
    (∃ deadline, s.checkKeepAlive t w now = ({ s with deadline }, w)) ∨
    ∃ cause, ∀ rest, line = [] ∨ rest = [] →
      Fallen e cause line rest (s.checkKeepAlive t w now).1
        (s.checkKeepAlive t w now).2 := by
  have hcase := checked t s w now
  generalize s.checkKeepAlive t w now = out at hcase
  cases hcase with
  | unsupervised => exact .inl ⟨none, rfl⟩
  | silent hopen hpos hlate =>
    have hunscheduled : Loyal e line { s with deadline := none } w :=
      h.of_session rfl rfl rfl rfl rfl
    refine .inr ⟨_, fun rest hsides =>
      { toHalted := hunscheduled.toFlowing.shutdown t _ rest fun p hp => ?_
        own := h.own
        verdict := .silent rest (now - s.lastActivity) ?_ ?_ }⟩
    · rcases hsides with rfl | rfl
      · exact .silent rfl _ (h.keepAlive ▸ hlate) rfl
      · cases hp
    · rw [shutdown_of_open t hunscheduled.opened]
      rfl
    · rw [shutdown_of_open t hunscheduled.opened]
      exact h.configured
  | timely => exact .inl ⟨_, rfl⟩

end Loyal

/-- A loyal session conveys what it holds. -/
theorem Loyal.conveys (t : Backend.Transport σ) (e : Established) :
    Conveys t (Loyal e) fun taken rest s w => ∃ cause,
      Fallen e cause taken rest s w where
  relay h p := by
    rcases h.relay t p with hloyal | ⟨cause, hfallen⟩
    · exact .inl hloyal
    · exact .inr fun more => ⟨cause, hfallen more⟩
  release h p :=
    h.of_views (World.view_release _ p _) (World.view_release _ p _)
      (World.view_release _ p _)
  stored h _ _ _ := h.of_session rfl rfl rfl rfl rfl
  check h now := by
    rcases h.checkKeepAlive t now with hchecked | ⟨cause, hfallen⟩
    · exact .inl hchecked
    · exact .inr fun rest => ⟨cause, hfallen rest (.inl rfl)⟩
  spent h := by
    obtain ⟨cause, hfallen⟩ := h
    exact hfallen.spent

/-- A CONNECT that succeeds on an open session binds it, and everything that
waited for it is handed over up to the first packet that makes the session
fall. -/
theorem loyal_complete (t : Backend.Transport σ)
    (hopen : s.flags.closed = false)
    (hconfigured : s.flags.misconfigured = false) (hoffers : w.offers = [])
    (hdisposals : w.disposals = []) (hcauses : w.causes = []) (e : Established)
    (now : Nat) :
    let out := s.complete t w now (.ok e)
    Loyal e (s.pending ++ laden s.held) out.1 out.2 ∨
    ∃ cause taken rest, s.pending ++ laden s.held = taken ++ rest ∧
      Fallen e cause taken rest out.1 out.2 := by
  have hbound : Loyal e [] (s.bind e) (w.count fun m => m.recordConnect none) :=
    { toFlowing := Flowing.of_bind hopen hoffers hdisposals hcauses e
      own := by simp
      letters := by simp [World.letters, hoffers]
      configured := hconfigured
      reading := rfl }
  rcases (Loyal.conveys t e).complete hopen e now hbound with
    ⟨hloyal, -⟩ | ⟨taken, rest, hline, cause, hfallen⟩
  · exact .inl hloyal
  · exact .inr ⟨cause, taken, rest, hline, hfallen⟩

end Session

end DeviceGateway
