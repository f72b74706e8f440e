/-! Decisions that were packed by their chances. A chance is that of a no, in parts of 256. What is
left of a row of decisions is a number below a range; each decision splits the range, and the number
tells which side it fell on. Behind the last byte stands one more byte of zeros, and then nothing. -/
namespace DiagramDesk.Webp

structure Decisions where
  rest : List UInt8
  /-- Whether the byte behind the last one was taken. -/
  isOver : Bool := false
  value : Nat := 0
  /-- How many bits the value has. -/
  bits : Nat := 0
  range : Nat := 255
  deriving Repr

abbrev Deciding := StateT Decisions Option

/-- The decisions with at least eight bits in their value, if there are so many. -/
def Decisions.filled? (d : Decisions) : Option Decisions :=
  if 8 ≤ d.bits then some d
  else match d.rest with
    | b :: rest =>
      some { d with rest := rest, value := d.value * 256 + b.toNat, bits := d.bits + 8 }
    | [] =>
      if d.isOver then none
      else some { d with isOver := true, value := d.value * 256, bits := d.bits + 8 }

def doublings (range : Nat) : Nat := 7 - Nat.log2 range

def decision (chance : Nat) : Deciding Bool := fun d => do
  let d ← d.filled?
  let split := 1 + (d.range - 1) * chance / 256
  let bound := split <<< (d.bits - 8)
  let isYes := bound ≤ d.value
  let range := if isYes then d.range - split else split
  let n := doublings range
  return (isYes, { d with
    value := if isYes then d.value - bound else d.value
    range := range <<< n
    bits := d.bits - n })

def flag : Deciding Bool := decision 128

def number : Nat → Deciding Nat
  | 0 => pure 0
  | n + 1 => do
    let b ← flag
    return b.toNat <<< n + (← number n)

/-- The number in `n` bits with a sign behind it, if it is told; else zero. -/
def offset (n : Nat) : Deciding Int := do
  if ← flag then
    let v ← number n
    return if ← flag then -(v : Int) else v
  else return 0

inductive Ways (α : Type) where
  | goal (a : α)
  | fork (chance : Nat) (no yes : Ways α)

def Ways.go : Ways α → Deciding α
  | goal a => pure a
  | fork chance no yes => do if ← decision chance then yes.go else no.go

end DiagramDesk.Webp
