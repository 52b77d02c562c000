import DeviceGateway.Failure
import DeviceGateway.Metrics.Significand

/-!
# Metrics

The gateway counts what happens to connections and frames.  Some counts are
kept apart by a label: the listener that accepted a connection, the reason a
frame was dropped, the outcome of a CONNECT, the cause of a shutdown.

## Main results

* `total_bump`: recording one event adds one to the total of its counts.
* `keepAliveTimeouts_recordShutdown`: keep-alive timeouts are counted with the
  shutdowns they cause.
-/

namespace DeviceGateway

/-- Counts by label, in the order of the labels. -/
abbrev Tally := List (String × Nat)

namespace Tally

/-- Counts one event.  The count is exact; one that is kept as a floating-point
number is so below 2^53 events, and stands still there. -/
def bump (label : String) : Tally → Tally
  | [] => [(label, 1)]
  | (l, n) :: rest =>
    if l = label then (l, n + 1) :: rest
    else if label < l then (label, 1) :: (l, n) :: rest
    else (l, n) :: bump label rest

/-- How many events were counted in all. -/
def total (t : Tally) : Nat :=
  (t.map Prod.snd).foldr (· + ·) 0

theorem total_bump (label : String) (t : Tally) :
    (bump label t).total = t.total + 1 := by
  induction t with
  | nil => rfl
  | cons entry rest ih =>
    obtain ⟨l, n⟩ := entry
    simp only [bump]
    split
    · simp only [total, List.map_cons, List.foldr_cons]
      omega
    · split
      · simp only [total, List.map_cons, List.foldr_cons]
        omega
      · simp only [total, List.map_cons, List.foldr_cons] at ih ⊢
        omega

end Tally

/-- What the gateway counts.  Plain counts are natural numbers here and not
words, which start again at 2^64, and counts by label do not stand still at
2^53.  Only the octets that were read are rounded, since they may come to more
than that. -/
structure Metrics where
  activeConnections : Int := 0
  accepted : Tally := []
  bytesReceived : Nat := 0
  framesDecoded : Nat := 0
  framesDropped : Tally := []
  connects : Tally := []
  relayed : Nat := 0
  relayFailures : Nat := 0
  keepAliveTimeouts : Nat := 0
  shutdowns : Tally := []
  deriving DecidableEq, Repr

namespace Metrics

/-- A connection was opened. -/
def opened (m : Metrics) : Metrics :=
  { m with activeConnections := m.activeConnections + 1 }

/-- A connection has ended. -/
def ended (m : Metrics) : Metrics :=
  { m with activeConnections := m.activeConnections - 1 }

/-- A listener accepted a connection. -/
def recordAccept (m : Metrics) (listener : String) : Metrics :=
  { m with accepted := m.accepted.bump listener }

/-- Octets were read from a device. -/
def recordBytes (m : Metrics) (count : Nat) : Metrics :=
  { m with bytesReceived := Significand.round (m.bytesReceived +
    Significand.round count) }

/-- A frame was decoded. -/
def recordFrame (m : Metrics) : Metrics :=
  { m with framesDecoded := m.framesDecoded + 1 }

/-- A frame or line was dropped. -/
def recordDrop (m : Metrics) (reason : String) : Metrics :=
  { m with framesDropped := m.framesDropped.bump reason }

/-- The label of a CONNECT's outcome. -/
def outcomeLabel (failure : Option Code) : String :=
  (failure.map Code.name).getD "ok"

/-- A CONNECT was completed; no code means success. -/
def recordConnect (m : Metrics) (failure : Option Code) : Metrics :=
  { m with connects := m.connects.bump (outcomeLabel failure) }

/-- A message was handed to the backend. -/
def recordRelay (m : Metrics) : Metrics :=
  { m with relayed := m.relayed + 1 }

/-- The backend did not take a message. -/
def recordRelayFailure (m : Metrics) : Metrics :=
  { m with relayFailures := m.relayFailures + 1 }

/-- The label of a shutdown's cause. -/
def causeLabel (cause : Option Code) : String :=
  (cause.map Code.name).getD "closed"

/-- A connection was shut down; no code means that nothing went wrong. -/
def recordShutdown (m : Metrics) (cause : Option Code) : Metrics :=
  { m with
    keepAliveTimeouts :=
      if cause = some .keepAliveTimedOut then m.keepAliveTimeouts + 1
      else m.keepAliveTimeouts
    shutdowns := m.shutdowns.bump (causeLabel cause) }

theorem keepAliveTimeouts_recordShutdown (m : Metrics) (cause : Option Code) :
    (m.recordShutdown cause).keepAliveTimeouts =
      m.keepAliveTimeouts + if cause = some .keepAliveTimedOut then 1
        else 0 := by
  simp only [recordShutdown]
  split <;> omega

end Metrics

end DeviceGateway
