import DeviceGateway.Metrics.Basic

/-!
# Listeners

A listener accepts connections up to a limit; one above it is turned away and
not counted.  A listener that is told to stop accepts nothing more.  It hears
that only while it is running: a signal sent before its first turn is lost.

## Main results

* `active_le_limit`: the limit holds.
-/

namespace DeviceGateway

/-- A listener. -/
structure Listener where
  /-- Whether its connections are TLS sessions. -/
  secure : Bool
  limit : Nat
  active : Nat := 0
  running : Bool := false
  stopped : Bool := false
  deriving DecidableEq, Repr

namespace Listener

/-- The listener for connections without TLS. -/
def plain (limit : Nat) : Listener :=
  { secure := false, limit }

/-- The name connections are counted under. -/
def label (l : Listener) : String :=
  if l.secure then "tls" else "tcp"

/-- Lets the listener have its turn. -/
def turn (l : Listener) : Listener :=
  { l with running := true }

/-- Tells the listener to stop. -/
def shutdown (l : Listener) : Listener :=
  { l with stopped := l.stopped || l.running }

/-- Accepts a connection, unless there are too many or the listener was
stopped. -/
def accept (l : Listener) (m : Metrics) : Bool × Listener × Metrics :=
  if l.stopped || !l.running || l.limit ≤ l.active then (false, l, m)
  else (true, { l with active := l.active + 1 },
    (m.recordAccept l.label).opened)

/-- A connection has ended. -/
def release (l : Listener) (m : Metrics) : Listener × Metrics :=
  ({ l with active := l.active - 1 }, m.ended)

theorem active_le_limit {l : Listener} (h : l.active ≤ l.limit) (m : Metrics) :
    (l.accept m).2.1.active ≤ (l.accept m).2.1.limit := by
  unfold accept
  split
  · exact h
  · next hroom =>
    simp only [Bool.or_eq_true, decide_eq_true_eq, not_or] at hroom
    have hactive := hroom.2
    show l.active + 1 ≤ l.limit
    omega

end Listener

end DeviceGateway
