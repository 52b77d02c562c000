import DeviceGateway.Connection.World

/-!
# Reading the journal of a session

The journal of a world holds everything that happened at the edge of a session,
the latest first.  Three questions are asked of it: which messages were handed
to clients and what came of them, which bridges were put away and for what
cause, and with which causes the session was asked to close.  Each is a view of
the journal, in the order in which things happened.

Every operation on a world adds at most one happening.  One rule for each says
so of all views at once, and with these rules nothing about sessions needs to
look at the journal itself.

## Main results

* `view_ask`, `view_dispose`, `view_send`: what adds to a view, and that it
  does so at the end.
* `accepted_send_ok`, `accepted_send_error`: a message is accepted exactly if
  the client takes it.
-/

namespace DeviceGateway

/-- A message that was handed to a client, and what came of it. -/
structure Offer where
  client : Backend.Client
  deviceId : DeviceId
  message : Backend.Message
  result : Except Backend.Fault Unit

/-- The message of an offer that was taken. -/
def Offer.taken? (o : Offer) : Option Backend.Message :=
  match o.result with
  | .ok _ => some o.message
  | .error _ => none

namespace Happening

/-- The offer that a happening is. -/
@[simp] def offer? : Happening → Option Offer
  | .offered client deviceId message result =>
    some ⟨client, deviceId, message, result⟩
  | .disposed .. => none
  | .asked _ => none

/-- The bridge that a happening puts away, and the cause. -/
@[simp] def disposal? : Happening → Option (Bridge × Option Failure)
  | .offered .. => none
  | .disposed bridge cause => some (bridge, cause)
  | .asked _ => none

/-- The cause with which a happening asks a session to close. -/
@[simp] def cause? : Happening → Option (Option Failure)
  | .offered .. => none
  | .disposed .. => none
  | .asked cause => some cause

end Happening

namespace World

variable {σ α : Type}

/-- What a question finds in the journal, in the order in which it happened. -/
def view (f : Happening → Option α) (w : World σ) : List α :=
  w.journal.reverse.filterMap f

/-- The messages that were handed to clients. -/
abbrev offers (w : World σ) : List Offer := w.view Happening.offer?

/-- The bridges that were put away, and the causes. -/
abbrev disposals (w : World σ) : List (Bridge × Option Failure) :=
  w.view Happening.disposal?

/-- The causes with which the session was asked to close. -/
abbrev causes (w : World σ) : List (Option Failure) := w.view Happening.cause?

/-- The messages that clients took. -/
def accepted (w : World σ) : List Backend.Message :=
  w.offers.filterMap Offer.taken?

/-! ## What an operation adds to a view -/

/-- A happening comes last in every view that shows it. -/
theorem view_of_journal_cons {w w' : World σ} {h : Happening}
    (hjournal : w'.journal = h :: w.journal) (f : Happening → Option α) :
    w'.view f = w.view f ++ (f h).toList := by
  rw [view, hjournal, List.reverse_cons, List.filterMap_append, view]
  cases hf : f h <;> simp [hf]

@[simp] theorem view_count (w : World σ) (g : Metrics → Metrics)
    (f : Happening → Option α) :
    (w.count g).view f = w.view f := rfl

@[simp] theorem view_release (w : World σ) (p : DataPacket)
    (f : Happening → Option α) :
    (w.release p).view f = w.view f := rfl

@[simp] theorem view_releaseAll (w : World σ) (ps : List DataPacket)
    (f : Happening → Option α) :
    (w.releaseAll ps).view f = w.view f := by
  unfold releaseAll
  induction ps generalizing w with
  | nil => rfl
  | cons p ps ih => rw [List.foldl_cons, ih, view_release]

@[simp] theorem view_ask (w : World σ) (cause : Option Failure)
    (f : Happening → Option α) :
    (w.ask cause).view f = w.view f ++ (f (.asked cause)).toList :=
  view_of_journal_cons rfl f

/-- A bridge that was put away before closes nothing, but the journal has it. -/
@[simp] theorem view_dispose (t : Backend.Transport σ) (w : World σ)
    (b : Bridge) (cause : Option Failure) (f : Happening → Option α) :
    (w.dispose t b cause).2.view f =
      w.view f ++ (f (.disposed b cause)).toList := by
  refine view_of_journal_cons ?_ f
  unfold dispose
  split <;> rfl

section Send

variable {t : Backend.Transport σ} {w : World σ} {client : Backend.Client}
  {deviceId : DeviceId} {m : Backend.Message}

@[simp] theorem view_send (f : Happening → Option α) :
    (w.send t client deviceId m).2.view f =
      w.view f ++
        (f (.offered client deviceId m
          (w.send t client deviceId m).1)).toList :=
  view_of_journal_cons rfl f

theorem accepted_send_ok {u : Unit}
    (h : (w.send t client deviceId m).1 = .ok u) :
    (w.send t client deviceId m).2.accepted = w.accepted ++ [m] := by
  simp [accepted, h, Offer.taken?]

theorem accepted_send_error {fault : Backend.Fault}
    (h : (w.send t client deviceId m).1 = .error fault) :
    (w.send t client deviceId m).2.accepted = w.accepted := by
  simp [accepted, h, Offer.taken?]

end Send

/-- Equal offers are taken alike. -/
theorem accepted_congr {w w' : World σ} (h : w'.offers = w.offers) :
    w'.accepted = w.accepted := by
  rw [accepted, accepted, h]

end World

end DeviceGateway
