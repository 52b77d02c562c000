import DeviceGateway.Proofs.Connection.Clocked
import DeviceGateway.Proofs.Session.Metering
import DeviceGateway.Proofs.Session.Pace

/-!
# What a connection has heard

A session knows when it last received something.  Octets have their own
instants, those at which they arrived in the socket, and between the two lie
reading and taking up.  A connection `Hears` its device if the session can
answer for the octets that were read: everything that has been made of them was
already said by what had arrived by the last activity.

What makes this last is that a frame is received after its octets have arrived.
So the last activity is never before the octets of a frame that was taken, and
when reading is held back, by the session that takes a frame, it is not before
any octet that was read.  Octets that are read later are taken up before
anything else is done.

## Main results

* `run_hears`: a connection hears its device throughout.
* `said_heard`: since the last activity nothing was read that would count as
  one.
-/

namespace DeviceGateway

open Wire (Frame)

namespace Clocked

/-! ## Instants -/

/-- The octets that arrived before an instant. -/
def before (instant : Nat) (octets : List (Nat × UInt8)) : List UInt8 :=
  (octets.filter fun o => o.1 < instant).map Prod.snd

/-- Octets in the order in which they arrived. -/
def Ordered (octets : List (Nat × UInt8)) : Prop :=
  octets.Pairwise fun o o' => o.1 ≤ o'.1

variable {octets more : List (Nat × UInt8)} {instant later : Nat}

theorem before_append (instant : Nat) (octets more : List (Nat × UInt8)) :
    before instant (octets ++ more) =
      before instant octets ++ before instant more := by
  simp [before]

theorem before_of_lt (h : ∀ o ∈ octets, o.1 < instant) :
    before instant octets = octets.map Prod.snd := by
  have hall : octets.filter (fun o => o.1 < instant) = octets := by
    apply List.filter_eq_self.2
    intro o ho
    exact decide_eq_true (h o ho)
  rw [before, hall]

theorem before_of_ge (h : ∀ o ∈ octets, instant ≤ o.1) :
    before instant octets = [] := by
  have hnone : octets.filter (fun o => o.1 < instant) = [] := by
    apply List.filter_eq_nil_iff.2
    intro o ho
    have hge := h o ho
    simp only [decide_eq_true_eq]
    omega
  rw [before, hnone]
  rfl

/-- What arrived earlier came first. -/
theorem before_isPrefix (h : Ordered octets) (hle : instant ≤ later) :
    before instant octets <+: before later octets := by
  induction octets with
  | nil => exact List.nil_prefix
  | cons o octets ih =>
    obtain ⟨hfirst, hrest⟩ := List.pairwise_cons.1 h
    by_cases hearly : o.1 < instant
    · have hfront : ∀ bound, o.1 < bound →
          before bound (o :: octets) = o.2 :: before bound octets := by
        intro bound hbound
        simp [before, hbound]
      rw [hfront instant hearly, hfront later (Nat.lt_of_lt_of_le hearly hle)]
      exact List.cons_prefix_cons.2 ⟨rfl, ih hrest⟩
    · have hnone : before instant (o :: octets) = [] := by
        apply before_of_ge
        intro o' ho'
        rcases List.mem_cons.1 ho' with rfl | hmem
        · omega
        · have hafter := hfirst o' hmem
          omega
      rw [hnone]
      exact List.nil_prefix

/-- What arrived earlier says the front of what arrived later. -/
theorem said_before_isPrefix {σ : Type} (v : Services σ) (peer : Option Peer)
    (h : Ordered octets) (hle : instant ≤ later) :
    v.said peer (before instant octets) <+:
      v.said peer (before later octets) := by
  obtain ⟨between, hbetween⟩ := before_isPrefix h hle
  rw [← hbetween]
  exact Services.said_isPrefix _ between

end Clocked

namespace Connection

open Clocked (before Ordered)

variable {σ : Type} {v : Services σ} {peer : Option Peer}
  {heard : List (Nat × UInt8)} {os : List (Except Wire.Fault Frame)}
  {c : Connection} {w : World σ} {d : Wire.Decoder} {tenancy : Tenancy}
  {now : Nat}

/-! ## Taking a frame -/

/-- A frame that is taken counts as activity, or nothing is made of it. -/
theorem InStep.takeFrame {arrived : List UInt8}
    (hs : InStep v peer arrived os c w d tenancy)
    (hopen : c.session.flags.closed = false)
    (hunheld : c.session.flags.phase = .notConnected → c.session.held = none)
    {chain : Chain} {input : List UInt8} {frame : Frame}
    (hnext : c.chain.next c.input = (some (.ok frame), chain, input))
    (now : Nat) :
    let out := { c with chain, input }.takeFrame v w now tenancy frame
    (∃ d' tenancy',
      InStep v peer arrived (os ++ [.ok frame]) out.1 out.2 d' tenancy') ∧
      (out.1.session.lastActivity = now ∨ out.1.session = c.session ∧
        (v.decodeAll peer (os ++ [.ok frame])).1 =
          (v.decodeAll peer os).1) := by
  generalize hneeds : (c.session.needsConnect && c.connecting.isNone) =
    needsConnect
  obtain ⟨d', said, hs', hall, hparcel⟩ := hs.look_frame hnext needsConnect
  rw [takeFrame_eq]
  simp only [hneeds]
  generalize c.topic.decode tenancy needsConnect frame w.ledger =
    out at hs' hparcel
  obtain ⟨parcel, topic, tenancy', ledger⟩ := out
  dsimp only at hs' hparcel ⊢
  cases said with
  | none =>
    subst hparcel
    rw [Option.toList_none, List.append_nil] at hall
    exact ⟨⟨d', tenancy', hs'⟩, .inr ⟨rfl, hall⟩⟩
  | some q =>
    rw [Option.map_some] at hparcel
    subst hparcel
    generalize Topic.introduce c.topic.setup tenancy' needsConnect q = p
    generalize hw' : { w.count Metrics.recordFrame with ledger } = w' at hs'
    have hledger :=
      (Session.receive_accounts v.transport hunheld w' now p).allocated
    have hactive := (Session.receive_heard v.transport c.session w' now p).1
    rw [hopen, if_neg Bool.false_ne_true] at hactive
    exact ⟨⟨d', tenancy', hs'.of_session rfl rfl rfl hledger⟩, .inl hactive⟩

/-! ## Activity -/

/-- What was made of the frames so far was said by what had arrived by the last
activity of the session. -/
def Acknowledged (v : Services σ) (peer : Option Peer)
    (heard : List (Nat × UInt8)) (c : Connection) (w : World σ)
    (tenancy : Tenancy) : Prop :=
  ∃ d os, InStep v peer (heard.map Prod.snd) os c w d tenancy ∧
    (v.decodeAll peer os).1 <+:
      v.said peer (before (c.session.lastActivity + 1) heard)

/-- A round leaves everything acknowledged.  It may hold reading back, but not
without having received something now.  All octets that were read arrived by
now, so a frame that was found is said by what did. -/
theorem Acknowledged.round (ha : Acknowledged v peer heard c w tenancy)
    (hopen : c.session.flags.closed = false)
    (hunheld : c.session.flags.phase = .notConnected → c.session.held = none)
    (hpast : ∀ o ∈ heard, o.1 ≤ now) :
    let out := c.round v w now tenancy
    out.2.1.session.flags.closed = false →
      (∃ tenancy', Acknowledged v peer heard out.2.1 out.2.2 tenancy') ∧
      (out.2.1.session = c.session ∨
        c.session.flags.throttled = false ∧
          out.2.1.session.lastActivity = now) := by
  obtain ⟨d, os, hs, hsaid⟩ := ha
  have hcase := rounded v c w now tenancy
  intro out hopen'
  have hout : c.round v w now tenancy = out := rfl
  clear_value out
  rw [hout] at hcase
  cases hcase with
  | closed hclosed => exact absurd (hopen.symm.trans hclosed) Bool.false_ne_true
  | throttled _ hthrottled => exact ⟨⟨tenancy, d, os, hs, hsaid⟩, .inl rfl⟩
  | nothing _ hreading hnext =>
    obtain ⟨d', hs'⟩ := hs.look_none hnext
    exact ⟨⟨tenancy, d', os, hs', hsaid⟩, .inl rfl⟩
  | @frame _ hreading chain input frame hnext after hafter =>
    obtain ⟨⟨d', tenancy', hs'⟩, hheard⟩ := hs.takeFrame hopen hunheld hnext now
    rw [hafter] at hs' hheard
    rcases hheard with hactive | ⟨hsession, hsame⟩
    · have hall : before (now + 1) heard = heard.map Prod.snd :=
        Clocked.before_of_lt fun o ho => Nat.lt_succ_of_le (hpast o ho)
      refine ⟨⟨tenancy', d', _, hs', ?_⟩, .inr ⟨hreading, hactive⟩⟩
      rw [hactive, hall]
      exact hs'.isPrefix
    · refine ⟨⟨tenancy', d', _, hs', ?_⟩, .inl hsession⟩
      rw [hsame, hsession]
      exact hsaid
  | gap _ hreading hnext hmild f =>
    obtain ⟨d', hs'⟩ := hs.look_fault hnext hmild
    refine ⟨⟨tenancy, d', _, hs'.of_session rfl rfl rfl rfl, ?_⟩, .inl rfl⟩
    rw [v.decodeAll_fault]
    exact hsaid
  | failed _ hreading hnext hfatal f cause =>
    have hclosed :=
      Session.shutdown_closed v.transport c.session (w.count f) cause
    exact absurd (hopen'.symm.trans hclosed) Bool.false_ne_true

/-- A session that is open and has not begun a CONNECT holds no data of one. -/
theorem Beside.unheld {origin : Established → Prop} {asked : Prop}
    {arrived : List UInt8} {h : Run σ}
    (hb : Beside v peer origin asked arrived c w h)
    (hopen : c.session.flags.closed = false) :
    c.session.flags.phase = .notConnected → c.session.held = none := by
  intro hphase
  rw [← hb.session] at hopen hphase ⊢
  exact (hb.sound.situation.idle_of_open hopen hphase).held

end Connection

namespace Clocked

open Connection (Followed Acknowledged Settled)

variable {σ : Type} {v : Services σ} {peer : Option Peer} {r r' : Clocked σ}

/-- A connection whose session can answer for what was read. -/
structure Hears (v : Services σ) (peer : Option Peer) (r : Clocked σ) :
    Prop where
  followed : ∃ h, Followed v peer (fun _ => True) True (r.heard.map Prod.snd)
    r.connection r.world h
  acknowledged : r.connection.session.flags.closed = false → ∃ tenancy chain,
    r.connection.chain.resolve v.table v.maxMessageSize r.connection.peer =
      .ok (tenancy, chain) ∧
      Acknowledged v peer r.heard { r.connection with chain } r.world tenancy
  /-- Reading is held back since something was received. -/
  held : r.connection.session.flags.closed = false →
    r.connection.session.flags.throttled = true →
      ∀ o ∈ r.heard, o.1 ≤ r.connection.session.lastActivity
  settled : r.busy = false → Settled v r.connection
  ordered : Ordered (r.heard ++ r.socket)
  past : ∀ o ∈ r.heard ++ r.socket, o.1 ≤ r.clock

namespace Hears

/-- Nothing is left to ask of a session that is closed. -/
theorem closing (h : r.Hears v peer) {out : Connection × World σ} {busy : Bool}
    (hfollowed : ∃ h', Followed v peer (fun _ => True) True
      (r.heard.map Prod.snd) out.1 out.2 h')
    (hclosed : out.1.session.flags.closed = true) :
    (r.put out busy).Hears v peer := by
  have hnot : out.1.session.flags.closed ≠ false := by simp [hclosed]
  exact
    { followed := hfollowed
      acknowledged := fun hopen => absurd hopen hnot
      held := fun hopen => absurd hopen hnot
      settled := fun _ => .inl hclosed
      ordered := h.ordered
      past := h.past }

/-- What is done to the session alone leaves what was heard acknowledged. -/
theorem of_session (h : r.Hears v peer) {out : Connection × World σ}
    {busy : Bool}
    (hfollowed : ∃ h',
      Followed v peer (fun _ => True) True (r.heard.map Prod.snd) out.1 out.2
        h')
    (hchain : out.1.chain = r.connection.chain)
    (hinput : out.1.input = r.connection.input)
    (htopic : out.1.topic = r.connection.topic)
    (hpeer : out.1.peer = r.connection.peer)
    (hledger : out.2.ledger.allocated = r.world.ledger.allocated)
    (hactivity : out.1.session.lastActivity = r.connection.session.lastActivity)
    (hkeeps : r.connection.session.Keeps out.1.session)
    (hthrottled : out.1.session.flags.closed = false →
      out.1.session.flags.throttled = true →
      r.connection.session.flags.throttled = true)
    (hsettled : busy = false → Settled v out.1) :
    (r.put out busy).Hears v peer where
  followed := hfollowed
  acknowledged := by
    intro hopen'
    obtain ⟨tenancy, chain, hresolve, d, os, hs, hsaid⟩ :=
      h.acknowledged (hkeeps.opened hopen')
    refine ⟨tenancy, chain, ?_, d, os,
      hs.of_session rfl hinput htopic hledger, ?_⟩
    · show out.1.chain.resolve v.table v.maxMessageSize out.1.peer = _
      rw [hchain, hpeer]
      exact hresolve
    · show _ <+: v.said peer (before (out.1.session.lastActivity + 1) r.heard)
      rw [hactivity]
      exact hsaid
  held := by
    intro hopen' hthrottled'
    show ∀ o ∈ r.heard, o.1 ≤ out.1.session.lastActivity
    rw [hactivity]
    exact h.held (hkeeps.opened hopen') (hthrottled hopen' hthrottled')
  settled := hsettled
  ordered := h.ordered
  past := h.past

theorem wait (h : r.Hears v peer) (delay : Nat) :
    (r.wait delay).Hears v peer :=
  { h with
    past := fun o ho =>
      Nat.le_trans (h.past o ho) (Nat.le_add_right r.clock delay) }

private theorem arrive (h : r.Hears v peer) (bytes : List UInt8) :
    (r.happen v (.arrive bytes)).Hears v peer := by
  have hstamps : ∀ o ∈ bytes.map fun byte => (r.clock, byte),
      o.1 = r.clock := by
    intro o ho
    obtain ⟨byte, -, rfl⟩ := List.mem_map.1 ho
    rfl
  refine { h with ordered := ?_, past := ?_ }
  · show Ordered
      (r.heard ++ (r.socket ++ bytes.map fun byte => (r.clock, byte)))
    rw [← List.append_assoc]
    apply List.pairwise_append.2
    refine ⟨h.ordered, ?_, ?_⟩
    · apply List.pairwise_of_forall_mem_list
      intro o ho o' ho'
      exact Nat.le_of_eq ((hstamps o ho).trans (hstamps o' ho').symm)
    · intro o ho o' ho'
      rw [hstamps o' ho']
      exact h.past o ho
  · show ∀ o ∈ r.heard ++ (r.socket ++ bytes.map fun byte => (r.clock, byte)),
      o.1 ≤ r.clock
    rw [← List.append_assoc]
    intro o ho
    rcases List.mem_append.1 ho with hbefore | hnew
    · exact h.past o hbefore
    · exact Nat.le_of_eq (hstamps o hnew)

theorem read (h : r.Hears v peer)
    (hreading : r.connection.session.flags.throttled = false) (count : Nat) :
    (r.read count).Hears v peer := by
  have hsplit : (r.heard ++ r.socket.take count) ++ r.socket.drop count =
      r.heard ++ r.socket := by
    rw [List.append_assoc, List.take_append_drop]
  have hmap : (r.heard ++ r.socket.take count).map Prod.snd =
      r.heard.map Prod.snd ++ (r.socket.take count).map Prod.snd :=
        List.map_append
  constructor
  · obtain ⟨h', hf⟩ := h.followed
    have hf' : Followed v peer (fun _ => True) True
        (r.heard.map Prod.snd ++ (r.socket.take count).map Prod.snd)
          (r.read count).connection
        (r.read count).world { h' with world := (r.read count).world } :=
      (hf.arrive ((r.socket.take count).map Prod.snd)).aside rfl rfl
    rw [← hmap] at hf'
    exact ⟨_, hf'⟩
  · intro hopen
    obtain ⟨tenancy, chain, hresolve, d, os, hs, hsaid⟩ := h.acknowledged hopen
    refine ⟨tenancy, chain, hresolve, d, os, ?_, ?_⟩
    · show Connection.InStep v peer
        ((r.heard ++ r.socket.take count).map Prod.snd) os _ _ d tenancy
      rw [hmap]
      exact { hs with continues := hs.continues.arrive _ }
    · show _ <+: v.said peer (before (r.connection.session.lastActivity + 1)
        (r.heard ++ r.socket.take count))
      rw [before_append]
      exact hsaid.trans (Services.said_isPrefix _ _)
  · intro _ hthrottled
    exact absurd (hreading.symm.trans hthrottled) Bool.false_ne_true
  · intro hidle
    cases hidle
  · show Ordered ((r.heard ++ r.socket.take count) ++ r.socket.drop count)
    rw [hsplit]
    exact h.ordered
  · show ∀ o ∈ (r.heard ++ r.socket.take count) ++ r.socket.drop count,
      o.1 ≤ r.clock
    rw [hsplit]
    exact h.past

/-- A round is made after the octets have arrived that it takes up. -/
theorem round (h : r.Hears v peer) : (r.round v).Hears v peer := by
  obtain ⟨h', hf⟩ := h.followed
  rcases hf.resolve with ⟨tenancy, chain, hresolve, hu⟩ |
    ⟨⟨fault, hresolve⟩, hclosed⟩
  · rw [round_of_resolve hresolve]
    obtain ⟨hfollowed, -⟩ := Connection.round_followed hu (.inl trivial) r.clock
    by_cases hclosed : r.connection.session.flags.closed = true
    · have hround : { r.connection with chain }.round v r.world r.clock
          tenancy =
          (none, { r.connection with chain, input := [] }, r.world) :=
            if_pos hclosed
      rw [hround] at hfollowed ⊢
      exact h.closing hfollowed hclosed
    · have hopen := Bool.eq_false_iff.2 hclosed
      obtain ⟨tenancy', chain', hresolve', hacknowledged⟩ :=
        h.acknowledged hopen
      obtain ⟨rfl, rfl⟩ :=
        Prod.mk.inj (Except.ok.inj (hresolve.symm.trans hresolve'))
      have hpast : ∀ o ∈ r.heard, o.1 ≤ r.clock := fun o ho =>
        h.past o (List.mem_append_left _ ho)
      have hround := hacknowledged.round hopen (hf.toBeside.unheld hopen) hpast
      obtain ⟨d, os, hs, -⟩ := hacknowledged
      have hsettled :
          ({ r.connection with chain }.round v r.world r.clock tenancy).1 =
            none →
          Settled v
            ({ r.connection with chain }.round v r.world r.clock tenancy).2.1 :=
        Connection.round_settled fun _ => hs.ready
      generalize { r.connection with chain }.round v r.world r.clock tenancy =
        out at hfollowed hround hsettled
      constructor
      · exact hfollowed
      · intro hopen'
        obtain ⟨⟨tenancy', d', os', hs', hsaid'⟩, -⟩ := hround hopen'
        exact ⟨tenancy', out.2.1.chain, hs'.ready.resolve _ _ _, d', os',
          hs', hsaid'⟩
      · intro hopen' hthrottled'
        show ∀ o ∈ r.heard, o.1 ≤ out.2.1.session.lastActivity
        obtain ⟨-, hsession | ⟨-, hactive⟩⟩ := hround hopen'
        · rw [hsession]
          apply h.held hopen
          rw [← hsession]
          exact hthrottled'
        · rw [hactive]
          exact hpast
      · intro hidle
        exact hsettled
          (Option.not_isSome_iff_eq_none.1 (Bool.eq_false_iff.1 hidle))
      · exact h.ordered
      · exact h.past
  · have hfailed := (hf.shutdown (fun _ => trivial) _).discard
      (Session.shutdown_closed v.transport r.connection.session r.world
        (some (fault.toFailure.inScope "ResolveTenancy"
          r.connection.session.connectionId)))
    simp only [Clocked.round, Connection.resolve, hresolve]
    exact h.closing ⟨_, hfailed⟩ (Session.shutdown_closed _ _ _ _)

/-- The outcome of the CONNECT has no part in what was heard. -/
theorem conclude (h : r.Hears v peer) {request : Connect}
    (hrequest : r.connection.connecting = some request) :
    (r.conclude v request).Hears v peer := by
  obtain ⟨h', hf⟩ := h.followed
  obtain ⟨backend, hworld⟩ := Connection.establish_world v.transport r.world
    ((r.connection.chain.tenancy.map Tenancy.tenantId).getD "")
    v.session.maxKeepAlive
    r.connection.session.connectionId request
  unfold Clocked.conclude
  dsimp only
  rw [hworld]
  generalize (establish v.transport r.world _ _ _ request).1 = outcome
  have haside : Followed v peer (fun _ => True) True (r.heard.map Prod.snd)
      r.connection { r.world with backend }
      { h' with world := { r.world with backend } } := hf.aside rfl rfl
  have hf' := haside.complete (by rw [hrequest]; rfl) r.clock outcome
    (fun _ _ _ => trivial)
  have hkeeps := Session.complete_keeps v.transport r.connection.session
    { r.world with backend } r.clock outcome
  have haccounts := Session.complete_accounts v.transport r.connection.session
    { r.world with backend } r.clock outcome
  have hunhindered :=
    Session.complete_unhindered v.transport r.connection.session
      { r.world with backend } r.clock outcome
  apply h.of_session ⟨_, hf'⟩ rfl rfl rfl rfl haccounts.allocated
    (Session.complete_heard _ _ _ _ _) hkeeps
  · intro hopen' hthrottled'
    exact absurd (hthrottled'.symm.trans (hunhindered hopen').2)
      (Ne.symm Bool.false_ne_true)
  · intro hidle
    have hempty : r.connection.input.isEmpty = true := by
      simpa using hidle
    exact Connection.settled_of_nil v (List.isEmpty_iff.1 hempty)

private theorem check (h : r.Hears v peer) (hidle : r.busy = false) :
    (r.serve v .keepAliveDue).Hears v peer := by
  obtain ⟨h', hf⟩ := h.followed
  have hkeeps := Session.checkKeepAlive_keeps v.transport r.connection.session
    r.world r.clock
  have haccounts :=
    Session.checkKeepAlive_accounts v.transport r.connection.session
      r.world r.clock
  apply h.of_session ⟨_, hf.checkKeepAlive r.clock⟩ rfl rfl rfl rfl
    haccounts.allocated (Session.checkKeepAlive_heard _ _ _ _) hkeeps
  · intro hopen' hthrottled'
    have hpasses := Session.checkKeepAlive_passes v.transport
      r.connection.session r.world r.clock
    rcases hpasses with ⟨-, hflags⟩ | ⟨hclosed, -⟩
    · rw [← hflags]
      exact hthrottled'
    · exact absurd (hopen'.symm.trans hclosed) Bool.false_ne_true
  · intro _
    exact (h.settled hidle).checkKeepAlive r.world r.clock

private theorem leave (h : r.Hears v peer) (failed : Option String) :
    (r.serve v (ending failed)).Hears v peer := by
  obtain ⟨h', hf⟩ := h.followed
  cases failed with
  | none =>
    exact h.closing ⟨_, (hf.shutdown (fun _ => trivial) none).finish⟩
      (Session.shutdown_closed _ _ _ _)
  | some text =>
    exact h.closing ⟨_, (hf.shutdown (fun _ => trivial) _).finish⟩
      (Session.shutdown_closed _ _ _ _)

private theorem finish (h : r.Hears v peer) (hidle : r.busy = false) :
    (r.serve v .sessionClosed).Hears v peer := by
  obtain ⟨h', hf⟩ := h.followed
  exact h.of_session ⟨_, hf.finish⟩ rfl rfl rfl rfl rfl rfl (.refl _)
    (fun _ => id) fun _ => h.settled hidle

private theorem elsewhere (h : r.Hears v peer) (backend : σ) :
    (r.happen v (.elsewhere backend)).Hears v peer := by
  obtain ⟨h', hf⟩ := h.followed
  have h' : (r.put (r.connection, { r.world with backend }) r.busy).Hears
      v peer :=
    h.of_session ⟨_, hf.aside rfl rfl⟩ rfl rfl rfl rfl rfl rfl (.refl _)
      (fun _ => id) h.settled
  exact h'

private theorem resolve (h : r.Hears v peer) (hidle : r.busy = false) :
    (r.put (r.connection.resolve v r.world).2 false).Hears v peer := by
  obtain ⟨h', hf⟩ := h.followed
  have hsettled := (h.settled hidle).resolve hf.resolves r.world
  rcases hf.resolve with ⟨tenancy, chain, hresolve, h'', hf'', -⟩ |
    ⟨⟨fault, hresolve⟩, hclosed⟩
  · simp only [Connection.resolve, hresolve] at hsettled ⊢
    refine
      { followed := ⟨h'', hf''⟩
        acknowledged := fun hopen => ?_
        held := h.held
        settled := fun _ => hsettled
        ordered := h.ordered
        past := h.past }
    obtain ⟨tenancy', chain', hresolve', d, os, hs, hsaid⟩ :=
      h.acknowledged hopen
    obtain ⟨rfl, rfl⟩ :=
      Prod.mk.inj (Except.ok.inj (hresolve.symm.trans hresolve'))
    exact ⟨tenancy, chain, hs.ready.resolve _ _ _, d, os, hs, hsaid⟩
  · have hshut := hf.shutdown (fun _ => trivial)
      (some (fault.toFailure.inScope "ResolveTenancy"
        r.connection.session.connectionId))
    simp only [Connection.resolve, hresolve]
    exact h.closing ⟨_, hshut⟩ (Session.shutdown_closed _ _ _ _)

end Hears

/-! ## Runs -/

private theorem happen_hears (h : r.Hears v peer) (x : Incident σ) :
    (r.happen v x).Hears v peer := by
  cases x with
  | arrive bytes => exact h.arrive bytes
  | elsewhere backend => exact h.elsewhere backend
  | read count =>
    simp only [happen]
    split
    · next hready =>
      rw [Bool.and_eq_true, Bool.not_eq_true'] at hready
      exact h.read hready.2 count
    · exact h
  | round =>
    simp only [happen]
    split
    · exact h.round
    · exact h
  | conclude =>
    simp only [happen]
    split
    · exact h
    · next request hrequest =>
      split
      · exact h.conclude hrequest
      · exact h
  | check =>
    simp only [happen]
    split
    · next hready =>
        exact h.check (idle_of_waiting (Bool.and_eq_true _ _ ▸ hready).1)
    · exact h
  | leave failed =>
    simp only [happen]
    split
    · exact h.leave failed
    · exact h
  | finish =>
    simp only [happen]
    split
    · next hready =>
      rw [Bool.and_eq_true, Bool.not_eq_true'] at hready
      exact h.finish hready.1
    · exact h
  | resolve =>
    simp only [happen]
    split
    · next hwaiting => exact h.resolve (idle_of_waiting hwaiting)
    · exact h

theorem run_hears (h : r.Hears v peer) (steps : List (Nat × Incident σ)) :
    (r.run v steps).Hears v peer := by
  induction steps generalizing r with
  | nil => exact h
  | cons x steps ih => exact ih (happen_hears (h.wait x.1) x.2)

theorem start_hears (v : Services σ) (connectionId : String)
    (peer : Option Peer) (now : Nat) (backend : σ) (metrics : Option Metrics) :
    (start v connectionId peer now { backend, metrics }).Hears v peer := by
  have hf := Connection.start_followed v connectionId peer now backend metrics
    (fun _ => True) True
  constructor
  · exact ⟨_, hf⟩
  · intro _
    obtain ⟨chain, hresolve, hready⟩ :=
      Chain.initial_resolve v.table v.maxMessageSize peer
    exact ⟨_, chain, hresolve, _, [],
      { ready := hready, continues := .refl _ [], topic := rfl, tenancy := rfl
        ledger := rfl },
      List.nil_prefix⟩
  · intro _ hthrottled
    cases hthrottled
  · intro _
    exact Connection.settled_of_nil v rfl
  · exact .nil
  · intro o ho
    cases ho

/-- A connection that is not busy can answer for all that was read: since the
last activity nothing came that would count as one. -/
theorem Hears.said_heard (h : r.Hears v peer) (hidle : r.busy = false)
    (hopen : r.connection.session.flags.closed = false) {instant : Nat}
    (hlater : r.connection.session.lastActivity < instant) :
    v.said peer (before instant r.heard) =
      v.said peer (r.heard.map Prod.snd) := by
  have hordered : Ordered r.heard := (List.pairwise_append.1 h.ordered).1
  have hpast : ∀ o ∈ r.heard, o.1 ≤ r.clock := fun o ho =>
    h.past o (List.mem_append_left _ ho)
  have hall : before (r.clock + instant + 1) r.heard =
      r.heard.map Prod.snd := by
    apply before_of_lt
    intro o ho
    have hle := hpast o ho
    omega
  have hless : v.said peer (before instant r.heard) <+:
      v.said peer (r.heard.map Prod.snd) := by
    rw [← hall]
    exact said_before_isPrefix v peer hordered (by omega)
  have hmuch : v.said peer (r.heard.map Prod.snd) <+:
      v.said peer (before instant r.heard) := by
    by_cases hthrottled : r.connection.session.flags.throttled = true
    · have hearly : before instant r.heard = r.heard.map Prod.snd := by
        apply before_of_lt
        intro o ho
        exact Nat.lt_of_le_of_lt (h.held hopen hthrottled o ho) hlater
      refine ⟨[], ?_⟩
      rw [List.append_nil, hearly]
    · obtain ⟨tenancy, chain, hresolve, d, os, hs, hsaid⟩ :=
        h.acknowledged hopen
      have hfound := hs.found_of_settled hopen (Bool.eq_false_iff.2 hthrottled)
        (h.settled hidle) hresolve
      rw [Services.said, hfound]
      exact hsaid.trans (said_before_isPrefix v peer hordered hlater)
  exact hless.eq_of_length_le hmuch.length_le

end Clocked

end DeviceGateway
