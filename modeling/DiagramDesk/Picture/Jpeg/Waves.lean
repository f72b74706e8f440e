import DiagramDesk.Picture.Basic

/-! Blocks of eight by eight samples as sums of waves, and the samples that a sum makes, in whole
numbers throughout: each of two passes turns eight amounts of waves into eight samples. -/
namespace DiagramDesk.Jpeg

/-- The amounts of the waves of a block, row by row, the slowest waves first. -/
abbrev Amounts := Array Int

def side : Nat := 8

/-- The order in which the waves of a block are told: along its diagonals. -/
def waveOrder : List Nat := [
  0, 1, 8, 16, 9, 2, 3, 10, 17, 24, 32, 25, 18, 11, 4, 5, 12, 19, 26, 33, 40, 48, 41, 34, 27, 20,
  13, 6, 7, 14, 21, 28, 35, 42, 49, 56, 57, 50, 43, 36, 29, 22, 15, 23, 30, 37, 44, 51, 58, 59, 52,
  45, 38, 31, 39, 46, 53, 60, 61, 54, 47, 55, 62, 63]

def stillWater : Amounts := Array.replicate 64 0

/-- Eight samples from the amounts of eight waves, scaled up by some bits; what is added makes up
for the rounding. -/
def line (added : Int) (shift : Nat) (a : Nat → Int) : List Int :=
  let p := (a 2 + a 6) * 2217
  let s₂ := p - a 6 * 7567
  let s₃ := p + a 2 * 3135
  let s₀ := (a 0 + a 4) * 4096
  let s₁ := (a 0 - a 4) * 4096
  let even := [s₀ + s₃ + added, s₁ + s₂ + added, s₁ - s₂ + added, s₀ - s₃ + added]
  let p₅ := (a 7 + a 3 + a 5 + a 1) * 4816
  let p₁ := p₅ - (a 7 + a 1) * 3685
  let p₂ := p₅ - (a 5 + a 3) * 10497
  let p₃ := (a 7 + a 3) * -8034
  let p₄ := (a 5 + a 1) * -1597
  let odd := [a 1 * 6149 + p₁ + p₄, a 3 * 12586 + p₂ + p₃, a 5 * 8410 + p₂ + p₄,
    a 7 * 1223 + p₁ + p₃]
  List.zipWith (fun (e o : Int) => (e + o) >>> shift) even odd ++
    (List.zipWith (fun (e o : Int) => (e - o) >>> shift) even odd).reverse

def samples (block : Amounts) : Array Nat :=
  let at_ (b : Array Int) (i : Nat) : Int := b[i]?.getD 0
  if block.toList.tail.all (· == 0) then
    Array.replicate 64 (Pixel.held ((at_ block 0 + 4 + 1024) >>> (3 : Nat)))
  else
    let columns := (List.range side).map fun x =>
      (line 512 10 fun k => at_ block (side * k + x)).toArray
    let columns := columns.toArray
    ((List.range side).flatMap fun y =>
      (line (512 + 65536 + 128 * 131072) 17 fun k =>
        at_ (columns[k]?.getD #[]) y).map Pixel.held).toArray

end DiagramDesk.Jpeg
