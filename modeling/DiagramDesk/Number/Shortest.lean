import DiagramDesk.Number.Binary

/-! The shortest decimal text of a binary number: of the decimals that read back as the number,
those with the fewest digits, and of these the nearest. A tie goes up. -/
namespace DiagramDesk.Binary

structure Decimal where
  digits : Nat
  power : Int
  deriving DecidableEq, Repr

/-- An interval around a number, all three over one denominator, and whether its ends belong to
it. -/
structure Interval where
  low : Nat
  mid : Nat
  high : Nat
  denominator : Nat
  closed : Bool

/-- The numbers that round to `m` times two to the power of `q`: half a step on either side, a
quarter below a power of two. -/
def Format.interval (f : Format) (m : Nat) (q : Int) : Interval :=
  let below := if m = 1 <<< f.fraction ∧ f.lowest < q then 1 else 2
  let scale := if 2 ≤ q then 1 <<< (q - 2).toNat else 1
  { low := (4 * m - below) * scale
    mid := 4 * m * scale
    high := (4 * m + 2) * scale
    denominator := if 2 ≤ q then 1 else 1 <<< (2 - q).toNat
    closed := m % 2 == 0 }

/-- Whether `n` over `d` lies in the interval. -/
def Interval.holds (i : Interval) (n d : Nat) : Bool :=
  if i.closed then i.low * d ≤ n * i.denominator && n * i.denominator ≤ i.high * d
  else i.low * d < n * i.denominator && n * i.denominator < i.high * d

/-- The better of the two neighbours on the grid of a power of ten that lie in the interval. -/
def Interval.onGrid (i : Interval) (p : Int) : Option Nat :=
  let up := if 0 ≤ p then Nat.pow 10 p.toNat else 1
  let down := if 0 ≤ p then 1 else Nat.pow 10 (-p).toNat
  let c := i.mid * down / (i.denominator * up)
  let good (c : Nat) : Bool := c != 0 && i.holds (c * up) down
  let upper := 2 * (c * up * i.denominator) + i.denominator * up ≤ 2 * (i.mid * down)
  if good c && good (c + 1) then some (if upper then c + 1 else c)
  else if good c then some c
  else if good (c + 1) then some (c + 1)
  else none

/-- The first grid with a point in the interval, from coarse to fine. -/
def Interval.coarsest (i : Interval) : Nat → Int → Decimal
  | 0, p => ⟨0, p⟩
  | steps + 1, p => match i.onGrid p with
    | some c => ⟨c, p⟩
    | none => i.coarsest steps (p - 1)

/-- The shortest decimal of a number above zero. -/
def Format.shortest (f : Format) (m : Nat) (q : Int) : Decimal :=
  let e : Int := q + Nat.log2 m
  (f.interval m q).coarsest 60 ((e * 30103) / 100000 + 2)

def Decimal.text (x : Decimal) : String :=
  let ds := Nat.toDigits 10 x.digits
  if 0 ≤ x.power then String.ofList (ds ++ List.replicate x.power.toNat '0')
  else
    let places := (-x.power).toNat
    let padded := List.replicate (places + 1 - ds.length) '0' ++ ds
    let whole := padded.take (padded.length - places)
    String.ofList (whole ++ '.' :: padded.drop (padded.length - places))

/-- A decimal number with no zeros at the end of its digits; the number bounds how many are
dropped. -/
def Decimal.reduce : Nat → Decimal → Decimal
  | 0, x => x
  | steps + 1, x =>
    if x.digits % 10 = 0 ∧ x.digits ≠ 0 then reduce steps ⟨x.digits / 10, x.power + 1⟩ else x

/-- The text of a pattern: no exponent, no point where there is no fraction. -/
def Format.text (f : Format) (bits : Nat) : String :=
  match f.decode bits with
  | .nan => "NaN"
  | .infinite negative => if negative then "-inf" else "inf"
  | .finite negative m q =>
    let number := if m = 0 then "0" else ((f.shortest m q).reduce 20).text
    if negative then "-" ++ number else number

end DiagramDesk.Binary
