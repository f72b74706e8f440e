import DiagramDesk.Codec.Zlib

/-! Decoders that are called with some input and with room for so many bytes, and the loop that
expands a byte string with one of them: it calls again with more room as long as room is all that
was missing. -/
namespace DiagramDesk

namespace Decoder

inductive Status where
  | ok
  /-- The call could not go on. -/
  | stuck
  /-- The stream is at its end. -/
  | ended
  deriving DecidableEq, Repr

/-- What a call did: how much of the input it took, what it wrote, and the state it left. -/
structure Call (State : Type) where
  status : Status
  consumed : Nat
  written : List UInt8
  state : State

end Decoder

/-- A decoder: a call is given input and the room for what it writes; it has no result if the input
is refused. -/
structure Decoder where
  State : Type
  start : State
  call : State → List UInt8 → Nat → Option (Decoder.Call State)

namespace Decoder

/-- A decoder that is told in its first call that there will be no other one. The call may still be
short of room, but then every other one is refused. -/
def once (d : Decoder) : Decoder where
  State := Option d.State
  start := some d.start
  call
    | none, _, _ => none
    | some state, input, room => (d.call state input room).map fun c =>
      ⟨if c.status = .ended then .ended else .stuck, c.consumed, c.written, none⟩

structure Buffer (d : Decoder) where
  state : d.State := d.start
  consumed : Nat := 0
  content : List UInt8 := []

def Buffer.append {d : Decoder} (b : d.Buffer) (c : Call d.State) : d.Buffer :=
  ⟨c.state, b.consumed + c.consumed, b.content ++ c.written⟩

/-- One turn with a buffer of the given capacity: an answer, or else what the next turn starts
with. Only a full buffer is a reason to go on. -/
def turn (d : Decoder) (bytes : List UInt8) (capacity : Nat) (b : d.Buffer) :
    Option (List UInt8) ⊕ d.Buffer :=
  match d.call b.state (bytes.drop b.consumed) (capacity - b.content.length) with
  | none => .inl none
  | some c =>
    let b := b.append c
    if c.status = .ended then .inl (if b.consumed = bytes.length then some b.content else none)
    else if b.content.length = capacity then .inr b
    else .inl none

/-- The answer of the loop from turn `k` on, if there is one within so many turns. -/
def fill (d : Decoder) (bytes : List UInt8) (capacity : Nat → Nat) :
    Nat → Nat → d.Buffer → Option (Option (List UInt8))
  | 0, _, _ => none
  | turns + 1, k, b => match d.turn bytes (capacity k) b with
    | .inl answer => some answer
    | .inr b => d.fill bytes capacity turns (k + 1) b

/-- The answer of the loop on some bytes. The buffer has a capacity for each turn. -/
def inflate (d : Decoder) (capacity : Nat → Nat) (turns : Nat) (bytes : List UInt8) :
    Option (Option (List UInt8)) := d.fill bytes capacity turns 0 {}

/-- The capacities of the buffer for a stream of `n` bytes: they double. -/
def doubling (n k : Nat) : Nat := Zlib.room n <<< k

end Decoder

namespace Zlib

/-- The stream at the head of some bytes: its content and its length. -/
def ahead? (bytes : List UInt8) : Option (List UInt8 × Nat) :=
  (List.range (bytes.length + 1)).findSome? fun n => (decompress? (bytes.take n)).map (·, n)

/-- A decoder of streams that takes its input only when it comes to the end. In between it knows how
much it has written. -/
def decoder : Decoder where
  State := Nat
  start := 0
  call done input room := (ahead? input).map fun (content, length) =>
    if content.length ≤ done + room then ⟨.ended, length, content.drop done, content.length⟩
    else ⟨.ok, 0, (content.drop done).take room, done + room⟩

end Zlib

end DiagramDesk
