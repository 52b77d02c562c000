/-!
# The payload ledger

Payload octets are the only thing of size that the gateway holds for a device,
so every payload is entered in a ledger when it is taken in and crossed out when
it is given up.  Each entry has a serial number, which makes "given up exactly
once" a statement about a list of numbers rather than about two counters that
happen to agree.

## Main results

* `allocated_allocate`, `released_release`: what each operation does to the
  counts.
* `outstanding_allocate`: a new entry is outstanding until it is released.
-/

namespace DeviceGateway

/-- Octets that were entered in a ledger under a serial number. -/
structure Payload where
  serial : Nat
  bytes : List UInt8
  deriving DecidableEq, Repr

/-- How many payloads were entered, and which were given up, the latest
first. -/
structure Ledger where
  allocated : Nat := 0
  given : List Nat := []
  deriving DecidableEq, Repr

namespace Ledger

/-- Enters octets under the next serial number. -/
def allocate (l : Ledger) (bytes : List UInt8) : Payload × Ledger :=
  (⟨l.allocated, bytes⟩, { l with allocated := l.allocated + 1 })

/-- Crosses a payload out. -/
def release (l : Ledger) (p : Payload) : Ledger :=
  { l with given := p.serial :: l.given }

/-- Crosses several payloads out, in order. -/
def releaseAll (l : Ledger) (ps : List Payload) : Ledger :=
  ps.foldl release l

/-- How many payloads were given up. -/
def released (l : Ledger) : Nat :=
  l.given.length

/-- How many payloads are still held. -/
def outstanding (l : Ledger) : Nat :=
  l.allocated - l.released

@[simp]
theorem allocated_allocate (l : Ledger) (bytes : List UInt8) :
    (l.allocate bytes).2.allocated = l.allocated + 1 := rfl

@[simp]
theorem released_allocate (l : Ledger) (bytes : List UInt8) :
    (l.allocate bytes).2.released = l.released := rfl

@[simp]
theorem allocated_release (l : Ledger) (p : Payload) :
    (l.release p).allocated = l.allocated := rfl

@[simp]
theorem released_release (l : Ledger) (p : Payload) :
    (l.release p).released = l.released + 1 := rfl

theorem outstanding_allocate (l : Ledger) (bytes : List UInt8)
    (h : l.released ≤ l.allocated) :
    (l.allocate bytes).2.outstanding = l.outstanding + 1 := by
  simp only [outstanding, allocated_allocate, released_allocate]
  omega

end Ledger

end DeviceGateway
