/-!
# Failures

A failure ends a device connection.  It carries a code that is counted and
shown, a message, whether the peer may try again, and a scope: the operation
that was going on and the connection it belonged to.  A failure passes through
several operations on its way out, and the innermost one names the scope, so a
part of the scope that is there is never replaced.

Whoever reports a failure gives it a tracking id of sixteen hexadecimal digits,
under which the report is found again.

## Main results

* `inScope_inScope`: the innermost scope wins.
* `ofName_name`: a code is found under its name.
-/

namespace DeviceGateway

/-- What kind of failure ended a connection. -/
inductive Code where
  | channelClosed
  | genericTimeout
  | invalidOperation
  | notSupported
  | keepAliveTimedOut
  | connectionTimedOut
  | connectExpected
  | unresolvedSendingClient
  | unknownPacketType
  | clientClosedRequest
  | authenticationFailed
  deriving DecidableEq, Repr

namespace Code

/-- All codes, by ascending number. -/
def all : List Code :=
  [channelClosed, genericTimeout, invalidOperation, notSupported,
    keepAliveTimedOut, connectionTimedOut, connectExpected,
    unresolvedSendingClient, unknownPacketType,
    clientClosedRequest, authenticationFailed]

/-- The number of a code. -/
def number : Code → Nat
  | channelClosed => 400001
  | genericTimeout => 400002
  | invalidOperation => 400003
  | notSupported => 400004
  | keepAliveTimedOut => 400005
  | connectionTimedOut => 400006
  | connectExpected => 400007
  | unresolvedSendingClient => 400008
  | unknownPacketType => 400012
  | clientClosedRequest => 400499
  | authenticationFailed => 401000

/-- The name a code is shown and counted under. -/
def name : Code → String
  | channelClosed => "ChannelClosed"
  | genericTimeout => "GenericTimeout"
  | invalidOperation => "InvalidOperation"
  | notSupported => "NotSupported"
  | keepAliveTimedOut => "KeepAliveTimedOut"
  | connectionTimedOut => "ConnectionTimedOut"
  | connectExpected => "ConnectExpected"
  | unresolvedSendingClient => "UnResolvedSendingClient"
  | unknownPacketType => "UnknownPacketType"
  | clientClosedRequest => "ClientClosedRequest"
  | authenticationFailed => "AuthenticationFailed"

/-- The code with a given name, if any. -/
def ofName (s : String) : Option Code :=
  all.find? fun c => c.name == s

/-- A code with its number. -/
def describe (c : Code) : String :=
  c.name ++ "(" ++ toString c.number ++ ")"

theorem ofName_name (c : Code) : ofName c.name = some c := by
  cases c <;> decide

end Code

/-- Where a failure arose. -/
structure Scope where
  operation : Option String := none
  connection : Option String := none
  deriving DecidableEq, Repr

/-- What ends a connection. -/
structure Failure where
  code : Code
  message : String
  /-- Whether the peer may try again. -/
  transient : Bool := false
  scope : Scope := {}
  deriving DecidableEq, Repr

namespace Failure

/-- A failure that will not pass by itself. -/
def of (code : Code) (message : String) : Failure :=
  { code := code, message := message }

/-- Marks a failure as one after which the peer may try again. -/
def asTransient (f : Failure) : Failure :=
  { f with transient := true }

/-- Names the operation and the connection, where they are not named yet. -/
def inScope (f : Failure) (operation connection : String) : Failure :=
  { f with
    scope :=
      { operation := f.scope.operation.orElse fun _ => some operation
        connection := f.scope.connection.orElse fun _ => some connection } }

/-- The failure of a socket. -/
def ofIo (text : String) : Failure :=
  (of .channelClosed text).asTransient

/-- The report of a failure under a tracking id. -/
def describe (f : Failure) (trackingId : String) : String :=
  f.message ++ " [" ++ f.code.describe ++ ", tracking id " ++ trackingId ++ "]"

/-- The digit of a value below sixteen. -/
def trackingDigit (n : Nat) : Char :=
  if n < 10 then Char.ofNat (48 + n) else Char.ofNat (87 + n)

/-- The tracking id made from a random number. -/
def trackingId (seed : UInt64) : String :=
  String.ofList ((List.range 16).map fun i => trackingDigit
    (seed.toNat >>> (4 * (15 - i)) % 16))

theorem inScope_inScope (f : Failure) (op₁ conn₁ op₂ conn₂ : String) :
    (f.inScope op₁ conn₁).inScope op₂ conn₂ = f.inScope op₁ conn₁ := by
  cases hop : f.scope.operation <;> cases hconn : f.scope.connection <;>
    simp [inScope, hop, hconn]

end Failure

/-- Two steps succeed if the second does on what the first gives. -/
theorem bind_eq_ok {ε α β : Type} {x : Except ε α} {f : α → Except ε β}
    {b : β} :
    x >>= f = .ok b ↔ ∃ a, x = .ok a ∧ f a = .ok b := by
  cases x with
  | error fault => simp [bind, Except.bind]
  | ok a => simp [bind, Except.bind]

end DeviceGateway
