/-! Base64 in two alphabets, with and without padding. Reading takes the unpadded form only and
insists on the one spelling that writing produces: the bits of the last symbol beyond the last
byte are zero. -/
namespace DiagramDesk.Base64

/-- The alphabets differ in their last two symbols. -/
inductive Alphabet where
  | standard | urlSafe
  deriving DecidableEq, Repr

def symbol (alphabet : Alphabet) (v : Nat) : Char :=
  if v < 26 then Char.ofNat (65 + v)
  else if v < 52 then Char.ofNat (71 + v)
  else if v < 62 then Char.ofNat (v - 4)
  else match alphabet with
    | .standard => if v == 62 then '+' else '/'
    | .urlSafe => if v == 62 then '-' else '_'

def value? (alphabet : Alphabet) (b : UInt8) : Option Nat :=
  let n := b.toNat
  if 65 ≤ n && n ≤ 90 then some (n - 65)
  else if 97 ≤ n && n ≤ 122 then some (n - 71)
  else if 48 ≤ n && n ≤ 57 then some (n + 4)
  else match alphabet with
    | .standard => if n == 43 then some 62 else if n == 47 then some 63 else none
    | .urlSafe => if n == 45 then some 62 else if n == 95 then some 63 else none

/-- The values that spell a byte string, four for three bytes; a rest of one or two bytes is
filled up with zero bits. -/
def sextets : List UInt8 → List Nat
  | [] => []
  | [a] => [a.toNat / 4, a.toNat % 4 * 16]
  | [a, b] => [a.toNat / 4, a.toNat % 4 * 16 + b.toNat / 16, b.toNat % 16 * 4]
  | a :: b :: c :: rest =>
    a.toNat / 4 :: (a.toNat % 4 * 16 + b.toNat / 16) :: (b.toNat % 16 * 4 + c.toNat / 64) ::
      c.toNat % 64 :: sextets rest

/-- The bytes that values spell, without regard to leftover bits. -/
def octets : List Nat → List UInt8
  | a :: b :: c :: d :: rest =>
    UInt8.ofNat (a * 4 + b / 16) :: UInt8.ofNat (b % 16 * 16 + c / 4) ::
      UInt8.ofNat (c % 4 * 64 + d) :: octets rest
  | [a, b, c] => [UInt8.ofNat (a * 4 + b / 16), UInt8.ofNat (b % 16 * 16 + c / 4)]
  | [a, b] => [UInt8.ofNat (a * 4 + b / 16)]
  | _ => []

/-- Whether the bits beyond the last byte are zero. -/
def zeroRest : List Nat → Bool
  | _ :: _ :: _ :: _ :: rest => zeroRest rest
  | [_, _, c] => c % 4 == 0
  | [_, b] => b % 16 == 0
  | _ => true

def encode (alphabet : Alphabet) (bytes : List UInt8) : List Char :=
  (sextets bytes).map (symbol alphabet)

def encodePadded (alphabet : Alphabet) (bytes : List UInt8) : List Char :=
  encode alphabet bytes ++ List.replicate ((3 - bytes.length % 3) % 3) '='

inductive Fault where
  | invalidByte (offset : Nat) (byte : UInt8)
  | invalidLength (length : Nat)
  | invalidLastSymbol (offset : Nat) (byte : UInt8)
  deriving DecidableEq, Repr

def Fault.message : Fault → String
  | invalidByte offset byte => s!"Invalid symbol {byte.toNat}, offset {offset}."
  | invalidLength length => s!"Invalid input length: {length}"
  | invalidLastSymbol offset byte => s!"Invalid last symbol {byte.toNat}, offset {offset}."

/-- Reads unpadded base64. A last symbol that stands alone is looked at first, then the symbols
in their order, then the length, then the leftover bits. -/
def decode (alphabet : Alphabet) (text : List UInt8) : Except Fault (List UInt8) :=
  let n := text.length
  let last := text.getLast?.getD 0
  if n % 4 = 1 ∧ value? alphabet last = none then .error (.invalidByte (n - 1) last)
  else match text.findIdx? fun b => (value? alphabet b).isNone with
    | some i => .error (.invalidByte i (text[i]?.getD 0))
    | none =>
      let values := text.filterMap (value? alphabet)
      if n % 4 = 1 then .error (.invalidLength n)
      else if zeroRest values then .ok (octets values)
      else .error (.invalidLastSymbol (n - 1) last)

/-- Reads base64 in the standard alphabet, padded or not. -/
def decodePadded (text : List UInt8) : Except Fault (List UInt8) :=
  decode .standard (text.filter (· != 61))

end DiagramDesk.Base64
