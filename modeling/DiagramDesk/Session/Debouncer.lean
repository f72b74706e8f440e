/-! Waiting for a quiet moment: a request fires once no other request has come for a while. Times
are in milliseconds. -/
namespace DiagramDesk

/-- A delay, and the time of the last request that has not fired. -/
structure Debouncer where
  delay : Nat
  pending : Option Nat := none
  deriving DecidableEq, Repr

namespace Debouncer

def renderDelay : Nat := 250

/-- Notes a request; the wait starts anew. -/
def queue (d : Debouncer) (now : Nat) : Debouncer := { d with pending := some now }

/-- Whether a request has waited long enough. A clock that went back counts as one that stands
still. -/
def isReady (d : Debouncer) (now : Nat) : Bool := match d.pending with
  | some since => d.delay ≤ now - since
  | none => false

def fire (d : Debouncer) (now : Nat) : Bool × Debouncer :=
  if d.isReady now then (true, { d with pending := none }) else (false, d)

end Debouncer

end DiagramDesk
