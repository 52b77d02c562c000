import DeviceGateway.Proofs.Session.Effect

/-!
# What a session does with payloads

A payload has its number in the ledger.  The account of a session lists the
numbers it has to answer for: those that are crossed out, as often as they are
crossed out, and those of the data the session holds.  An operation may move
numbers from one part of the account to the other, and it may add the numbers
of data that was handed to it.  It may not drop one, and it may not write one
twice.

`Accounts` says this of one operation, as a rearrangement of lists, so that
what is crossed out twice counts twice.  It enters nothing in the ledger:
numbers are made by those who hand the data over.

## Main results

* `shutdown_accounts` to `complete_accounts`: no operation drops a payload or
  gives one up twice.
* `receive_accounts`: a parcel that is taken in adds its own data and nothing
  else.
-/

namespace DeviceGateway

/-- The number of a packet's payload in the ledger. -/
def DataPacket.serial (p : DataPacket) : Nat := p.payload.serial

namespace World

variable {σ : Type}

@[simp] theorem ledger_dispose (t : Backend.Transport σ) (w : World σ)
    (b : Bridge) (cause : Option Failure) :
    (w.dispose t b cause).2.ledger = w.ledger := by
  unfold dispose
  split <;> rfl

theorem ledger_releaseAll (w : World σ) (ps : List DataPacket) :
    (w.releaseAll ps).ledger =
      ⟨w.ledger.allocated, (ps.map DataPacket.serial).reverse ++
        w.ledger.given⟩ := by
  unfold releaseAll
  induction ps generalizing w with
  | nil => rfl
  | cons p ps ih =>
    rw [List.foldl_cons, ih]
    simp [release, DataPacket.release, Ledger.release, DataPacket.serial]

end World

namespace Session

variable {σ : Type}

/-- The numbers that a session has to answer for. -/
def account (s : Session) (w : World σ) : List Nat :=
  w.ledger.given ++ s.holdings.map DataPacket.serial

/-- Some data was taken in, and every number is still answered for as often as
before. -/
structure Accounts (taken : List DataPacket) (s : Session) (w : World σ)
    (out : Session × World σ) : Prop where
  allocated : out.2.ledger.allocated = w.ledger.allocated
  account : (out.1.account out.2).Perm (taken.map DataPacket.serial ++
    s.account w)

section Accounts

variable {taken more : List DataPacket} {s s₁ : Session} {w w₁ : World σ}
  {out : Session × World σ}

/-- Nothing was done that concerns payloads. -/
theorem Accounts.of_eq (hholdings : s₁.holdings = s.holdings)
    (hledger : w₁.ledger = w.ledger) :
    Accounts [] s w (s₁, w₁) where
  allocated := by rw [hledger]
  account := by
    simp only [Session.account, hholdings, hledger]
    exact .refl _

theorem Accounts.trans (h : Accounts taken s w (s₁, w₁))
    (h' : Accounts more s₁ w₁ out) :
    Accounts (taken ++ more) s w out where
  allocated := h'.allocated.trans h.allocated
  account := by
    have hboth :=
      h'.account.trans (h.account.append_left (more.map DataPacket.serial))
    rw [List.map_append, List.append_assoc]
    refine hboth.trans ?_
    rw [← List.append_assoc, ← List.append_assoc]
    exact List.perm_append_comm.append_right _

/-- Data that a session puts among what it holds. -/
theorem Accounts.stored (h : s₁.holdings.Perm (taken ++ s.holdings)) :
    Accounts taken s w (s₁, w) where
  allocated := rfl
  account := by
    have hserials : (s₁.holdings.map DataPacket.serial).Perm
        (taken.map DataPacket.serial ++ s.holdings.map DataPacket.serial) := by
      rw [← List.map_append]
      exact h.map _
    calc (s₁.account w).Perm
          (w.ledger.given ++ (taken.map DataPacket.serial ++
            s.holdings.map DataPacket.serial)) :=
        hserials.append_left _
      List.Perm _ (taken.map DataPacket.serial ++ s.account w) :=
        List.perm_append_comm_assoc _ _ _

/-- Data that a session takes from what it holds and then deals with. -/
theorem Accounts.unstored (h : Accounts taken s₁ w out)
    (hs : s.holdings.Perm (taken ++ s₁.holdings)) : Accounts [] s w out where
  allocated := h.allocated
  account := h.account.trans (Accounts.stored hs).account.symm

end Accounts

theorem release_accounts (s : Session) (w : World σ) (p : DataPacket) :
    Accounts [p] s w (s, w.release p) := ⟨rfl, .refl _⟩

theorem releaseAll_accounts (s : Session) (w : World σ) (ps : List DataPacket) :
    Accounts ps s w (s, w.releaseAll ps) where
  allocated := by rw [World.ledger_releaseAll]
  account := by
    simp only [account, World.ledger_releaseAll, List.append_assoc]
    exact (List.reverse_perm _).append_right _

/-! ## Closing and relaying -/

/-- Closing gives up what the session holds, whatever becomes of the bridge. -/
theorem ledger_shutdown (t : Backend.Transport σ) {s : Session}
    (h : s.flags.closed = false) (w : World σ) (cause : Option Failure) :
    (s.shutdown t w cause).2.ledger = (w.releaseAll s.holdings).ledger := by
  rw [World.ledger_releaseAll]
  cases hbridge : s.bridge <;>
    simp [shutdown, h, hbridge, World.ledger_releaseAll, World.count, World.ask,
      holdings]

theorem shutdown_accounts (t : Backend.Transport σ) (s : Session) (w : World σ)
    (cause : Option Failure) : Accounts [] s w (s.shutdown t w cause) := by
  cases hclosed : s.flags.closed with
  | true =>
    rw [shutdown_of_closed t hclosed]
    exact .of_eq rfl rfl
  | false =>
    have hreleased := releaseAll_accounts s.ended w s.holdings
    have hledger := ledger_shutdown t hclosed w cause
    have hended := shutdown_of_open t hclosed w cause
    generalize s.shutdown t w cause = out at hledger hended
    obtain ⟨s', w'⟩ := out
    obtain rfl : s' = s.ended := hended
    have hsettled : Accounts s.holdings s.ended w (s.ended, w') := by
      simpa using hreleased.trans (.of_eq rfl hledger)
    exact hsettled.unstored (by simp [ended, holdings])

/-- A packet is given up, by the session or, in a message, by the backend. -/
theorem relay_accounts (t : Backend.Transport σ) (s : Session) (w : World σ)
    (p : DataPacket) :
    Accounts [p] s w (s.relay t w p) := by
  cases hclosed : s.flags.closed with
  | true =>
    rw [relay_of_closed t hclosed]
    exact release_accounts s w p
  | false =>
    have hcase := relayed t hclosed w p
    generalize s.relay t w p = out at hcase
    cases hcase with
    | stranger bound hbound hid =>
      have hmarked : Accounts [p] s w
          ({ s with flags := s.flags.markMisconfigured }, w.release p) :=
            ⟨rfl, .refl _⟩
      exact hmarked.trans (shutdown_accounts t _ _ _)
    | bridgeless hown hbridge => exact release_accounts s w p
    | unserved hown bridge hbridge hclient =>
      exact (release_accounts s w p).trans (shutdown_accounts t _ _ _)
    | accepted hown bridge hbridge client hclient u hsend =>
      exact ⟨rfl, .refl _⟩
    | refused hown bridge hbridge client hclient fault hsend =>
      have hsent : Accounts [p] s w (s,
          (w.send t client p.deviceId (s.setup.message p)).2.count
          Metrics.recordRelayFailure) :=
        ⟨rfl, .refl _⟩
      exact hsent.trans (shutdown_accounts t _ _ _)

private theorem relayPending_accounts (t : Backend.Transport σ) (count : Nat)
    (s : Session) (w : World σ) :
    Accounts [] s w (relayPending t count s w) := by
  induction count generalizing s w with
  | zero => exact .of_eq rfl rfl
  | succ count ih =>
    unfold relayPending
    split
    · exact .of_eq rfl rfl
    · next p rest hpending =>
      have hrelayed := relay_accounts t { s with pending := rest } w p
      have hall : Accounts [p] { s with pending := rest } w _ :=
        hrelayed.trans (ih _ _)
      exact hall.unstored (by simp [holdings, hpending])

private theorem relayHeld_accounts (t : Backend.Transport σ) (s : Session)
    (w : World σ) :
    Accounts [] s w (s.relayHeld t w) := by
  unfold relayHeld
  split
  · exact .of_eq rfl rfl
  · next p hheld =>
    have hholdings :
        s.holdings.Perm ([p] ++ holdings { s with held := none }) := by
      simp [holdings, hheld]
    dsimp only
    split
    · exact (release_accounts _ w p).unstored hholdings
    · exact (relay_accounts t _ w p).unstored hholdings

/-! ## The other operations -/

theorem checkKeepAlive_accounts (t : Backend.Transport σ) (s : Session)
    (w : World σ) (now : Nat) : Accounts [] s w (s.checkKeepAlive t w now) := by
  have hcase := checked t s w now
  generalize s.checkKeepAlive t w now = out at hcase
  cases hcase with
  | unsupervised h => exact .of_eq rfl rfl
  | silent hopen hpos hlate =>
    have hunset : Accounts [] s w ({ s with deadline := none }, w) :=
      .of_eq rfl rfl
    exact hunset.trans (shutdown_accounts t _ _ _)
  | timely hopen hpos htimely => exact .of_eq rfl rfl

private theorem supervise_accounts (t : Backend.Transport σ) (s : Session)
    (w : World σ) (now : Nat) :
    Accounts [] s w (s.supervise t w now) := by
  unfold supervise
  split
  · exact .of_eq rfl rfl
  · exact checkKeepAlive_accounts t s w now

theorem complete_accounts (t : Backend.Transport σ) (s : Session) (w : World σ)
    (now : Nat) (outcome : Except Failure Established) :
    Accounts [] s w (s.complete t w now outcome) := by
  cases outcome with
  | error failure =>
    have hcounted : Accounts [] s w (s, w.count fun m => m.recordConnect
        (some failure.code)) :=
      .of_eq rfl rfl
    exact hcounted.trans (shutdown_accounts t _ _ _)
  | ok e =>
    cases hclosed : s.flags.closed with
    | true =>
      rw [complete_of_closed t hclosed]
      exact .of_eq rfl (by simp)
    | false =>
      rw [complete_of_open t hclosed]
      have hbound :
          Accounts [] s w (s.bind e, w.count fun m => m.recordConnect none) :=
        .of_eq rfl rfl
      exact hbound.trans <| (supervise_accounts t _ _ now).trans <|
        (relayPending_accounts t _ _ _).trans (relayHeld_accounts t _ _)

/-- The session must not hold data of a CONNECT that it has not begun: a CONNECT
that is begun takes its place. -/
theorem receive_accounts (t : Backend.Transport σ) {s : Session}
    (hunheld : s.flags.phase = .notConnected → s.held = none) (w : World σ)
    (now : Nat) (parcel : Parcel) :
    Accounts parcel.data.toList s w (s.receive t w now parcel).2 := by
  have hheard : ∀ w : World σ, Accounts [] s w (s.heard now, w) :=
    fun w => .of_eq rfl rfl
  have hcase := received t s w now parcel
  generalize s.receive t w now parcel = out at hcase
  cases hcase with
  | dropped hclosed => exact releaseAll_accounts s w _
  | empty hopen hdata hconnect =>
    rw [hdata]
    exact hheard w
  | begun hopen hphase request hconnect =>
    refine .stored ?_
    simpa [holdings, heard, hunheld hphase] using List.perm_append_comm
  | unexpected hopen hphase hconnect p hdata =>
    rw [hdata]
    have hreleased : Accounts [p] s w (s.heard now, w.release p) :=
      (release_accounts s w p).trans (hheard _)
    exact hreleased.trans (shutdown_accounts t _ _ _)
  | queued hopen hphase p hdata =>
    rw [hdata]
    refine .stored ?_
    simp only [holdings, enqueue, heard, List.append_assoc]
    exact List.perm_append_comm_assoc _ _ _
  | live hopen hphase p hdata =>
    rw [hdata]
    exact (hheard w).trans (relay_accounts t _ _ _)

end Session

end DeviceGateway
