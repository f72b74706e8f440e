import DiagramDesk.Picture.Basic
import DiagramDesk.Picture.Bytes

/-! Pictures made of blocks of four by four pixels. A block has two colors; each of its pixels is
one of them or a mixture. Alpha is left out, told for each pixel, or mixed in the same way. -/
namespace DiagramDesk.Texture

inductive Blend where
  | none | told | mixed
  deriving DecidableEq, Repr

def side : Nat := 4

def Blend.blockBytes : Blend → Nat
  | none => 8
  | told | mixed => 16

/-- What a picture has to tell about itself, and what it may tell. -/
def neededFlags : Nat := 0x1007
def knownFlags : Nat := 0x8A100F

/-- The blend by the name of the packing, or by its number behind the head; and where the head
ends. -/
def blend? (b : Bytes) : Option (Blend × Nat) :=
  let named (name : String) : Bool := b.holds 84 name.toUTF8.toList
  if named "DXT1" then some (.none, 128)
  else if named "DXT3" then some (.told, 128)
  else if named "DXT5" then some (.mixed, 128)
  else if named "DX10" then do
    let n ← b.low? 128 4
    let dimensions ← b.low? 132 4
    let marks ← b.low? 136 4
    let count ← b.low? 140 4
    if dimensions < 2 ∨ 4 < dimensions ∨ (marks ≠ 0 ∧ marks ≠ 4) ∨ (dimensions = 4 ∧ count ≠ 1) then
      failure
    else if 70 ≤ n ∧ n ≤ 72 then return (.none, 148)
    else if 73 ≤ n ∧ n ≤ 75 then return (.told, 148)
    else if 76 ≤ n ∧ n ≤ 78 then return (.mixed, 148)
    else failure
  else none

def color (n : Nat) : Pixel :=
  ⟨n / 2048 % 32 * 255 / 31, n / 32 % 64 * 255 / 63, n % 32 * 255 / 31, 255⟩

def mixture (p q : Pixel) (ofP ofQ : Nat) : Pixel :=
  let mix (a b : Nat) : Nat := (a * ofP + b * ofQ + 1) / (ofP + ofQ)
  ⟨mix p.red q.red, mix p.green q.green, mix p.blue q.blue, 255⟩

/-- The four colors of a block. Without alpha, two colors in the order of their numbers have one
mixture only, and black with it. -/
def colors (blend : Blend) (first second : Nat) : List Pixel :=
  let p := color first
  let q := color second
  if second < first ∨ blend ≠ .none then [p, q, mixture p q 2 1, mixture p q 1 2]
  else [p, q, mixture p q 1 1, ⟨0, 0, 0, 255⟩]

/-- The eight alphas of a block that mixes them: two and their mixtures, and with two in order also
nothing and all. -/
def alphas (first second : Nat) : List Nat :=
  let steps := if second < first then 7 else 5
  let mixed := (List.range (steps - 1)).map fun i =>
    ((steps - 1 - i) * first + (i + 1) * second) / steps
  [first, second] ++ mixed ++ if second < first then [] else [0, 255]

def alpha? (blend : Blend) (b : Bytes) (at_ i : Nat) : Option Nat := match blend with
  | .none => some 255
  | .told => (b.low? at_ 8).map fun n => n >>> (4 * i) % 16 * 17
  | .mixed => do
    let places ← b.low? (at_ + 2) 6
    (alphas (← b.byte? at_) (← b.byte? (at_ + 1)))[places >>> (3 * i) % 8]?

def pixel? (blend : Blend) (b : Bytes) (at_ i : Nat) : Option Pixel := do
  let alpha ← alpha? blend b at_ i
  let at_ := at_ + (blend.blockBytes - 8)
  let places ← b.low? (at_ + 4) 4
  let p ← (colors blend (← b.low? at_ 2) (← b.low? (at_ + 2) 2))[places >>> (2 * i) % 4]?
  return { p with alpha := alpha }

/-- Reads a file. The sides must be made of whole blocks. -/
def decode? (b : Bytes) : Option Picture := do
  let flags ← b.low? 8 4
  let height ← b.low? 12 4
  let width ← b.low? 16 4
  let isPacked := (← b.low? 80 4) / 4 % 2 = 1
  if (← b.low? 4 4) ≠ 124 ∨ (← b.low? 76 4) ≠ 32 ∨ flags &&& neededFlags ≠ neededFlags ∨
      flags ||| knownFlags ≠ knownFlags ∨ !isPacked ∨ b.size < 128 then failure
  let (blend, start) ← blend? b
  let across := width / side
  if width % side ≠ 0 ∨ height % side ≠ 0 ∨
      b.size < start + across * (height / side) * blend.blockBytes then failure
  return {
    width := width
    height := height
    pixel := fun x y =>
      let block := y / side * across + x / side
      (pixel? blend b (start + block * blend.blockBytes) (y % side * side + x % side)).getD .clear }

end DiagramDesk.Texture
