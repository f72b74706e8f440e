import DiagramDesk.Text.Trim

/-! Text beyond ASCII in the letters of a domain name. The ASCII characters come first, then a
hyphen; numbers to the base 36 behind it tell, from the lowest code point to the highest, which
character comes next and where it goes. How a number is cut into digits follows the sizes of the
numbers before it. -/
namespace DiagramDesk.Url.Domain

open Text

/-- The value of a digit: the letters, then the decimal digits. -/
def digitValue? (c : Char) : Option Nat :=
  if 'a' ≤ c ∧ c ≤ 'z' then some (c.toNat - 97)
  else if '0' ≤ c ∧ c ≤ '9' then some (c.toNat - 22)
  else none

def digit (n : Nat) : Char := if n < 26 then Char.ofNat (97 + n) else Char.ofNat (22 + n)

/-- Digits below this value end a number, for the digit at some place. -/
def threshold (place bias : Nat) : Nat := max 1 (min 26 (place - bias))

/-- The bias that fits a number which is likely to come next. -/
def settle (n bias : Nat) : Nat :=
  if 455 < n then settle (n / 35) (bias + 36) else bias + 36 * n / (n + 38)
termination_by n

/-- The bias behind a number, given how many characters there are now. -/
def adapt (n count : Nat) (isFirst : Bool) : Nat :=
  let n := if isFirst then n / 700 else n / 2
  settle (n + n / count) 0

/-! ### Reading -/

structure Reading where
  text : List Char
  code : Nat := 128
  bias : Nat := 72
  position : Nat := 0
  start : Nat := 0
  weight : Nat := 1
  place : Nat := 36
  deriving Repr

/-- Reads a digit; the last one of a number puts the next character in its place. -/
def Reading.next? (r : Reading) (d : Nat) : Option Reading :=
  let position := r.position + d * r.weight
  let least := threshold r.place r.bias
  if least ≤ d then
    some { r with
      position := position
      weight := r.weight * (36 - least)
      place := r.place + 36 }
  else
    let count := r.text.length + 1
    let code := r.code + position / count
    let here := position % count
    if code.isValidChar then
      some {
        text := r.text.insertIdx here (Char.ofNat code)
        code := code
        bias := adapt (position - r.start) count (r.start == 0)
        position := here + 1
        start := here + 1 }
    else none

/-- The characters before the last hyphen, and the digits. -/
def splitDigits (s : List Char) : List Char × List Char :=
  let digits := (s.reverse.takeWhile (· != '-')).reverse
  if digits.length = s.length then ([], s) else (s.take (s.length - digits.length - 1), digits)

def decode? (s : List Char) : Option (List Char) := do
  let (plain, digits) := splitDigits s
  let r ← (← digits.mapM digitValue?).foldlM Reading.next? { text := plain }
  if r.place = 36 then return r.text else failure

/-! ### Writing -/

theorem threshold_pos (place bias : Nat) : 1 ≤ threshold place bias := Nat.le_max_left _ _

def digits (bias place n : Nat) : List Char :=
  let least := threshold place bias
  if n < least then [digit n]
  else digit (least + (n - least) % (36 - least)) ::
    digits bias (place + 36) ((n - least) / (36 - least))
termination_by n
decreasing_by
  have := threshold_pos place bias
  exact Nat.lt_of_le_of_lt (Nat.div_le_self _ _) (by omega)

structure Writing where
  written : List Char
  count : Nat
  delta : Nat := 0
  bias : Nat := 72
  isFirst : Bool := true
  deriving Repr

def Writing.pass (code : Nat) (w : Writing) (c : Char) : Writing :=
  if c.toNat < code then { w with delta := w.delta + 1 }
  else if c.toNat = code then {
    written := w.written ++ digits w.bias 36 w.delta
    count := w.count + 1
    bias := adapt w.delta (w.count + 1) w.isFirst
    isFirst := false }
  else w

/-- Writes all characters that have one of some code points, from `low` on. -/
def Writing.all (s : List Char) : Nat → List Nat → Writing → Writing
  | _, [], w => w
  | low, code :: codes, w =>
    let w := s.foldl (Writing.pass code) { w with delta := w.delta + (code - low) * (w.count + 1) }
    Writing.all s (code + 1) codes { w with delta := w.delta + 1 }

def encode (s : List Char) : List Char :=
  let plain := s.filter (·.toNat < 128)
  let codes := ((s.filter (128 ≤ ·.toNat)).map Char.toNat).eraseDups.mergeSort (· ≤ ·)
  let head := if plain.isEmpty then [] else plain ++ ['-']
  (Writing.all s 128 codes { written := head, count := plain.length }).written

end DiagramDesk.Url.Domain
