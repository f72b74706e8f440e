import DiagramDesk.Number.Binary
import DiagramDesk.Text.Trim

/-! Reading numbers. Whole numbers are ASCII digits behind an optional plus sign. Floating-point
numbers have a sign, digits with a point somewhere, and an exponent, each optional, or are one of
the words for infinity and for no number; the nearest pattern is taken. -/
namespace DiagramDesk

open Text

def digits? (s : List Char) : Option Nat :=
  if s.isEmpty then none
  else s.foldl (fun acc c => acc.bind fun n =>
    if c.isDigit then some (n * 10 + (c.toNat - 48)) else none) (some 0)

def natBelow? (bound : Nat) (s : List Char) : Option Nat :=
  let body := match s with
    | '+' :: rest => rest
    | s => s
  (digits? body).filter (· < bound)

def splitSign : List Char → Bool × List Char
  | '-' :: rest => (true, rest)
  | '+' :: rest => (false, rest)
  | s => (false, s)

namespace Binary

/-- A number as written: digits, how many of them stand behind the point, and the exponent. -/
structure Written where
  digits : List Char
  places : Nat
  exponent : Int
  deriving DecidableEq, Repr

def exponent? (s : List Char) : Option Int :=
  let (negative, body) := splitSign s
  (digits? body).map fun n => if negative then -(n : Int) else n

/-- Reads digits, point and exponent. -/
def written? (s : List Char) : Option Written :=
  let whole := s.takeWhile Char.isDigit
  let rest := s.dropWhile Char.isDigit
  let (places, rest) := match rest with
    | '.' :: r => (r.takeWhile Char.isDigit, r.dropWhile Char.isDigit)
    | r => ([], r)
  if whole.isEmpty && places.isEmpty then none
  else match rest with
    | [] => some ⟨whole ++ places, places.length, 0⟩
    | c :: r =>
      if c = 'e' ∨ c = 'E' then
        (exponent? r).map fun e => ⟨whole ++ places, places.length, e⟩
      else none

/-- The pattern nearest to a number as written. What is far out of any format's range is not
computed. -/
def Format.ofWritten (f : Format) (w : Written) : Nat :=
  let n := (digits? w.digits).getD 0
  let power := w.exponent - w.places
  let size : Int := (Nat.toDigits 10 n).length + power
  if n = 0 ∨ size < -400 then 0
  else if 400 < size then f.infinity
  else if 0 ≤ power then f.roundRatio (n * Nat.pow 10 power.toNat) 1
  else f.roundRatio n (Nat.pow 10 (-power).toNat)

/-- Reads a floating-point number as the nearest pattern. -/
def Format.read? (f : Format) (s : List Char) : Option Nat :=
  let (negative, body) := splitSign s
  let sign := if negative then f.signBit else 0
  match String.ofList (body.map lowerAscii) with
  | "inf" | "infinity" => some (sign + f.infinity)
  | "nan" => some f.nan
  | _ => (written? body).map fun w => sign + f.ofWritten w

end Binary

end DiagramDesk
