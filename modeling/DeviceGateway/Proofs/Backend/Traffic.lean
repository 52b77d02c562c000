import DeviceGateway.Backend.Pool
import Mathlib.Data.List.Induction

/-!
# Traffic on upstream streams

A log says what happened to the streams of a pool: which were opened and when,
and which frames were written on them, with what success.  What a stream holds
can be read off the log alone.

A log is orderly if a frame is written only on a stream that was opened, on
which no write failed, and that was not idle for too long; it was used when it
was opened and each time a frame was written in full.  From this one rule it
follows that a stream holds whole frames, one behind the other, and after them
at most the front of one more: after a write that failed, nothing is written
there.

## Main results

* `Orderly.concat`, `Orderly.of_concat`: the rule, event by event.
* `Orderly.laid_eq`: what a stream holds after an orderly log.
-/

namespace DeviceGateway.Backend

/-! ## Events -/

/-- What happens to a stream. -/
inductive Event where
  | opened (stream time : Nat)
  | wrote (stream : Nat) (frame : List UInt8) (outcome : Write) (time : Nat)
  deriving DecidableEq, Repr

namespace Event

/-- The stream that an event is about. -/
def stream : Event → Nat
  | opened stream _ => stream
  | wrote stream _ _ _ => stream

/-- When a stream was used: opening it counts, and a frame written in full. -/
def use? (k : Nat) : Event → Option Nat
  | opened stream time => if stream = k then some time else none
  | wrote stream _ .done time => if stream = k then some time else none
  | wrote .. => none

/-- The frame that was written in full on a stream. -/
def whole? (k : Nat) : Event → Option (List UInt8)
  | wrote stream frame .done _ => if stream = k then some frame else none
  | _ => none

/-- Whether a write on a stream failed or took too long. -/
def Breaks (k : Nat) : Event → Prop
  | wrote stream _ outcome _ => stream = k ∧ outcome ≠ .done
  | opened .. => False

end Event

/-- The octets of a frame that a write leaves on its stream. -/
def Write.left (frame : List UInt8) : Write → List UInt8
  | .done => frame
  | .failed written _ => frame.take written
  | .timedOut written => frame.take written

theorem Write.left_isPrefix (frame : List UInt8) (outcome : Write) :
    outcome.left frame <+: frame := by
  cases outcome with
  | done => exact List.prefix_refl frame
  | failed written text => exact List.take_prefix written frame
  | timedOut written => exact List.take_prefix written frame

/-- The octets that an event leaves on a stream. -/
def Event.laid (k : Nat) : Event → List UInt8
  | .wrote stream frame outcome _ =>
    if stream = k then outcome.left frame else []
  | .opened .. => []

/-! ## Logs -/

section Logs

variable (k : Nat) (log : List Event) (e : Event)

/-- No write on the stream went wrong. -/
def Unbroken : Prop :=
  ∀ e ∈ log, ¬ e.Breaks k

/-- When the stream was used last. -/
def lastUse : Option Nat :=
  log.reverse.findSome? (Event.use? k)

/-- The frames that were written in full on the stream. -/
def delivered : List (List UInt8) :=
  log.filterMap (Event.whole? k)

/-- The octets on the stream. -/
def laid : List UInt8 :=
  log.flatMap (Event.laid k)

theorem unbroken_concat :
    Unbroken k (log ++ [e]) ↔ Unbroken k log ∧ ¬ e.Breaks k := by
  simp [Unbroken, or_imp, forall_and]

theorem lastUse_concat :
    lastUse k (log ++ [e]) = (e.use? k).or (lastUse k log) := by
  rw [lastUse, List.reverse_concat, List.findSome?_cons]
  cases e.use? k <;> rfl

theorem delivered_concat :
    delivered k (log ++ [e]) = delivered k log ++ (e.whole? k).toList := by
  rw [delivered, List.filterMap_append, List.filterMap_cons]
  cases e.whole? k <;> rfl

theorem laid_concat : laid k (log ++ [e]) = laid k log ++ e.laid k := by
  rw [laid, List.flatMap_append, List.flatMap_singleton]
  rfl

end Logs

/-- What may happen next: any stream is opened that there was not, and a frame
is written on one that is neither broken nor idle for too long. -/
def Event.InOrder (idle : Nat) (log : List Event) : Event → Prop
  | .opened stream _ => ∀ e ∈ log, e.stream ≠ stream
  | .wrote stream _ _ time =>
    Unbroken stream log ∧ ∃ used, lastUse stream log = some used ∧ used ≤ time ∧
      time - used ≤ idle

/-- Each event of the log was in order after those before it. -/
def Orderly (idle : Nat) (log : List Event) : Prop :=
  ∀ front e back, log = front ++ e :: back → e.InOrder idle front

namespace Orderly

variable {idle : Nat} {log : List Event} {e : Event} {k : Nat}

theorem nil : Orderly idle [] := by
  intro front e back h
  exact absurd h (by simp)

theorem concat (h : Orderly idle log) (he : e.InOrder idle log) :
    Orderly idle (log ++ [e]) := by
  intro front e' back hlog
  cases back using List.reverseRecOn with
  | nil =>
    obtain ⟨rfl, rfl⟩ := List.append_singleton_inj.1 hlog
    exact he
  | append_singleton back last =>
    rw [← List.cons_append, ← List.append_assoc] at hlog
    exact h front e' back (List.append_singleton_inj.1 hlog).1

theorem of_concat (h : Orderly idle (log ++ [e])) :
    Orderly idle log ∧ e.InOrder idle log := by
  constructor
  · intro front e' back hlog
    exact h front e' (back ++ [e])
      (by rw [hlog, List.append_assoc, List.cons_append])
  · exact h log e [] rfl

end Orderly

/-! ## What a stream holds -/

section Laid

variable {idle k : Nat} {log : List Event} {e : Event}

/-- An event that breaks nothing leaves a frame in full, or nothing. -/
theorem Event.laid_of_not_breaks (h : ¬ e.Breaks k) :
    e.laid k = (e.whole? k).toList.flatten := by
  cases e with
  | opened => rfl
  | wrote stream frame outcome time =>
    by_cases hk : stream = k
    · cases outcome with
      | done => simp [laid, whole?, hk, Write.left]
      | failed => exact absurd ⟨hk, nofun⟩ h
      | timedOut => exact absurd ⟨hk, nofun⟩ h
    · cases outcome <;> simp [laid, whole?, hk]

/-- An event that breaks a stream leaves the front of a frame there. -/
theorem Event.Breaks.inv (h : e.Breaks k) :
    ∃ frame outcome time, e = .wrote k frame outcome time ∧ outcome ≠ .done ∧
      e.whole? k = none ∧ e.laid k <+: frame := by
  cases e with
  | opened => exact h.elim
  | wrote stream frame outcome time =>
    obtain ⟨rfl, hdone⟩ := h
    refine ⟨frame, outcome, time, rfl, hdone, ?_, ?_⟩
    · cases outcome with
      | done => exact absurd rfl hdone
      | failed => rfl
      | timedOut => rfl
    · rw [laid, if_pos rfl]
      exact outcome.left_isPrefix frame

/-- A stream on which no write failed holds what was delivered there. -/
theorem laid_of_unbroken (h : Unbroken k log) :
    laid k log = (delivered k log).flatten := by
  induction log using List.reverseRecOn with
  | nil => rfl
  | append_singleton log e ih =>
    rw [unbroken_concat] at h
    rw [laid_concat, delivered_concat, ih h.1, Event.laid_of_not_breaks h.2,
      List.flatten_append]

/-- After a write that failed, an orderly log leaves the stream alone. -/
theorem laid_of_broken (hnot : ¬ Unbroken k log) (he : e.InOrder idle log) :
    e.laid k = [] ∧ e.whole? k = none := by
  cases e with
  | opened => exact ⟨rfl, rfl⟩
  | wrote stream frame outcome time =>
    have hk : stream ≠ k := by
      rintro rfl
      exact hnot he.1
    cases outcome <;> simp [Event.laid, Event.whole?, hk]

/-- A stream holds the frames that were delivered there, whole and in order, and
behind them at most the front of one whose write failed. -/
theorem Orderly.laid_eq (h : Orderly idle log) (k : Nat) :
    ∃ tail, laid k log = (delivered k log).flatten ++ tail ∧
      (tail = [] ∨ ∃ front frame outcome time back,
        log = front ++ .wrote k frame outcome time :: back ∧ outcome ≠ .done ∧
          tail <+: frame) := by
  induction log using List.reverseRecOn with
  | nil => exact ⟨[], rfl, .inl rfl⟩
  | append_singleton log e ih =>
    obtain ⟨hlog, he⟩ := h.of_concat
    by_cases hunbroken : Unbroken k log
    · by_cases hbreaks : e.Breaks k
      · obtain ⟨frame, outcome, time, rfl, hdone, hwhole, hfront⟩ := hbreaks.inv
        refine ⟨_, ?_, .inr ⟨log, frame, outcome, time, [], rfl, hdone, hfront⟩⟩
        rw [laid_concat, delivered_concat, hwhole, laid_of_unbroken hunbroken]
        simp
      · refine ⟨[], ?_, .inl rfl⟩
        rw [List.append_nil]
        exact laid_of_unbroken
          ((unbroken_concat k log e).2 ⟨hunbroken, hbreaks⟩)
    · obtain ⟨hlaid, hwhole⟩ := laid_of_broken hunbroken he
      obtain ⟨tail, htail, hcause⟩ := ih hlog
      refine ⟨tail, ?_, ?_⟩
      · rw [laid_concat, delivered_concat, hlaid, hwhole, htail]
        simp
      · refine hcause.imp_right ?_
        rintro ⟨front, frame, outcome, time, back, rfl, hdone, hfront⟩
        exact ⟨front, frame, outcome, time, back ++ [e], by simp, hdone, hfront⟩

end Laid

end DeviceGateway.Backend
