import DeviceGateway.Failure

/-!
# Backend faults

A fault says why the backend did not take a connection or a message.  Those of
the connection pass, so the sender may try again; a client that was closed and
a message that was refused stay so.
-/

namespace DeviceGateway.Backend

/-- Why the backend did not take something. -/
inductive Fault where
  | connection (text : String)
  | connectTimeout (endpoint : String) (milliseconds : Nat)
  | sendTimeout (milliseconds : Nat)
  | closed (deviceId : String)
  | encoding (text : String)
  | rejected (text : String)
  deriving DecidableEq, Repr

namespace Fault

/-- The wording of a fault. -/
def message : Fault → String
  | connection text => "backend connection error: " ++ text
  | connectTimeout endpoint milliseconds =>
    "backend connect to " ++ endpoint ++ s!" timed out after {milliseconds}ms"
  | sendTimeout milliseconds =>
    s!"backend send timed out after {milliseconds}ms"
  | closed deviceId => "backend client for '" ++ deviceId ++ "' is closed"
  | encoding text => "failed to encode backend message: " ++ text
  | rejected text => "backend rejected message: " ++ text

/-- Whether a later attempt may succeed. -/
def isTransient : Fault → Bool
  | connection _ => true
  | connectTimeout .. => true
  | sendTimeout _ => true
  | _ => false

/-- The code of the failure that a fault makes. -/
def code : Fault → Code
  | connectTimeout .. => .connectionTimedOut
  | sendTimeout _ => .genericTimeout
  | closed _ => .channelClosed
  | _ => .invalidOperation

/-- The failure of a connection whose backend does not take something. -/
def toFailure (f : Fault) : Failure :=
  { code := f.code, message := f.message, transient := f.isTransient }

end Fault

end DeviceGateway.Backend
