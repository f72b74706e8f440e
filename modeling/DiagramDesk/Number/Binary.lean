/-! Binary floating point, exactly: the value of a bit pattern as a whole number times a power of
two, and the pattern nearest to a ratio of whole numbers, a tie going to the even one. All
arithmetic is on whole numbers. -/
namespace DiagramDesk.Binary

structure Format where
  fraction : Nat
  exponent : Nat
  deriving DecidableEq, Repr

def Format.single : Format := ⟨23, 8⟩

def Format.double : Format := ⟨52, 11⟩

/-- What a bit pattern stands for. -/
inductive Value where
  | nan
  | infinite (negative : Bool)
  | finite (negative : Bool) (mantissa : Nat) (power : Int)
  deriving DecidableEq, Repr

namespace Format

def lowest (f : Format) : Int := 2 - (1 <<< (f.exponent - 1) : Nat) - f.fraction

def infinity (f : Format) : Nat := (1 <<< f.exponent - 1) <<< f.fraction

def signBit (f : Format) : Nat := 1 <<< (f.fraction + f.exponent)

def nan (f : Format) : Nat := f.infinity + 1 <<< (f.fraction - 1)

def decode (f : Format) (bits : Nat) : Value :=
  let negative := bits / f.signBit % 2 == 1
  let exponent := bits >>> f.fraction % 1 <<< f.exponent
  let fraction := bits % 1 <<< f.fraction
  if exponent = 1 <<< f.exponent - 1 then
    if fraction = 0 then .infinite negative else .nan
  else if exponent = 0 then .finite negative fraction f.lowest
  else .finite negative (fraction + 1 <<< f.fraction) (f.lowest + (exponent - 1 : Nat))

/-- A quotient rounded to the nearest whole number, a tie to the even one. -/
def roundQuotient (n d : Nat) : Nat :=
  let q := n / d
  let r := n % d
  if 2 * r < d then q else if d < 2 * r then q + 1 else q + q % 2

/-- The power of two that a ratio reaches: it is at least this power and less than the next. -/
def magnitude (n d : Nat) : Int :=
  let e : Int := (Nat.log2 n : Int) - Nat.log2 d
  let reached := if 0 ≤ e then d <<< e.toNat ≤ n else d ≤ n <<< (-e).toNat
  if reached then e else e - 1

/-- The pattern nearest to a ratio that is not negative. -/
def roundRatio (f : Format) (n d : Nat) : Nat :=
  if n = 0 ∨ d = 0 then 0
  else
    let q := max f.lowest (magnitude n d - f.fraction)
    let m := if 0 ≤ q then roundQuotient n (d <<< q.toNat)
      else roundQuotient (n <<< (-q).toNat) d
    min f.infinity ((q - f.lowest).toNat <<< f.fraction + m)

/-- The pattern nearest to a whole number times a power of two. -/
def roundScaled (f : Format) (negative : Bool) (m : Nat) (q : Int) : Nat :=
  (if negative then f.signBit else 0) +
    if 0 ≤ q then f.roundRatio (m <<< q.toNat) 1 else f.roundRatio m (1 <<< (-q).toNat)

def encode (f : Format) : Value → Nat
  | .nan => f.nan
  | .infinite negative => (if negative then f.signBit else 0) + f.infinity
  | .finite negative m q => f.roundScaled negative m q

end Format

def Value.mul : Value → Value → Value
  | nan, _ => nan
  | _, nan => nan
  | infinite a, infinite b => infinite (a != b)
  | infinite a, finite b m _ => if m = 0 then nan else infinite (a != b)
  | finite a m _, infinite b => if m = 0 then nan else infinite (a != b)
  | finite a m p, finite b n q => finite (a != b) (m * n) (p + q)

def signed (negative : Bool) (m : Nat) : Int := if negative then -(m : Int) else m

def Value.add : Value → Value → Value
  | nan, _ => nan
  | _, nan => nan
  | infinite a, infinite b => if a = b then infinite a else nan
  | infinite a, finite .. => infinite a
  | finite .., infinite b => infinite b
  | finite a m p, finite b n q =>
    let low := min p q
    let s := signed a (m <<< (p - low).toNat) + signed b (n <<< (q - low).toNat)
    finite (s < 0 || (s == 0 && a && b)) s.natAbs low

def Value.isPositive : Value → Bool
  | nan => false
  | infinite negative => !negative
  | finite negative m _ => !negative && m != 0

/-- Whether the value is a number other than infinity. -/
def Value.isFinite : Value → Bool
  | finite .. => true
  | _ => false

/-- The least whole number that is not below `m` times two to the power of `q`. -/
def ceiling (negative : Bool) (m : Nat) (q : Int) : Int :=
  if 0 ≤ q then
    let n := m <<< q.toNat
    if negative then -(n : Int) else n
  else
    let d := 1 <<< (-q).toNat
    if negative then -((m / d : Nat) : Int) else ((m + d - 1) / d : Nat)

/-- The least whole number not below the value, held between zero and a limit. No number counts as
zero. -/
def Value.ceilWithin (limit : Nat) : Value → Nat
  | nan => 0
  | infinite negative => if negative then 0 else limit
  | finite negative m q => min limit (ceiling negative m q).toNat

/-- The whole part of the value, held between zero and a limit. No number counts as zero. -/
def Value.wholeWithin (limit : Nat) : Value → Nat
  | nan => 0
  | infinite negative => if negative then 0 else limit
  | finite true _ _ => 0
  | finite false m q => min limit (if 0 ≤ q then m <<< q.toNat else m >>> (-q).toNat)

def Value.isBelow (n : Nat) (d : Nat) : Value → Bool
  | nan => false
  | infinite negative => negative
  | finite true m _ => m != 0 || n != 0
  | finite false m q =>
    if 0 ≤ q then m <<< q.toNat * d < n else m * d < n <<< (-q).toNat

def Value.isAbove (n : Nat) (d : Nat) : Value → Bool
  | nan => false
  | infinite negative => !negative
  | finite true _ _ => false
  | finite false m q =>
    if 0 ≤ q then n < m <<< q.toNat * d else n <<< (-q).toNat < m * d

/-- The value held between zero and one. -/
def Value.heldInUnit (v : Value) : Value :=
  if v.isBelow 0 1 then .finite false 0 0 else if v.isAbove 1 1 then .finite false 1 0 else v

end DiagramDesk.Binary
