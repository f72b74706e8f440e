import DiagramDesk.Picture.Basic
import DiagramDesk.Picture.Bytes
import DiagramDesk.Text.Scan

/-! Pictures with a head in plain text: a capital P and a digit, then numbers between blanks. The
pixels are numbers in text or in bytes, counted up to a highest one. The last kind has a head with
a line for each number. -/
namespace DiagramDesk.Portable

open Text

inductive Shades where
  | bits | gray | grayAlpha | color | colorAlpha
  deriving DecidableEq, Repr

def Shades.channels : Shades → Nat
  | bits | gray => 1
  | grayAlpha => 2
  | color => 3
  | colorAlpha => 4

def Shades.pixel (s : Shades) (levels : List Nat) : Pixel := match s, levels with
  | grayAlpha, [l, a] => .gray l a
  | color, [r, g, b] => ⟨r, g, b, 255⟩
  | colorAlpha, [r, g, b, a] => ⟨r, g, b, a⟩
  | _, levels => .gray (levels.head?.getD 0)

structure Head where
  width : Nat
  height : Nat
  shades : Shades
  highest : Nat
  isText : Bool
  deriving DecidableEq, Repr

def isGap (b : UInt8) : Bool := (9 ≤ b && b ≤ 13) || b == 32

/-- The bytes as they count in the head: what stands from a hash to the end of its line does not. -/
def skipLine : List UInt8 → List UInt8
  | [] => []
  | b :: rest => if b = 10 ∨ b = 13 then b :: rest else skipLine rest

theorem skipLine_length (s : List UInt8) : (skipLine s).length ≤ s.length := by
  induction s with
  | nil => exact Nat.le_refl _
  | cons b rest ih => simp only [skipLine]; split <;> simp only [List.length_cons] <;> omega

/-- The next word of the head, and what stands behind the blank that ends it. -/
def word (found : List UInt8) : List UInt8 → List UInt8 × List UInt8
  | [] => (found, [])
  | b :: rest =>
    if b = 35 then word found (skipLine rest)
    else if isGap b then if found.isEmpty then word found rest else (found, rest)
    else word (found ++ [b]) rest
termination_by s => s.length
decreasing_by
  · have := skipLine_length rest
    simp only [List.length_cons]; omega
  all_goals simp only [List.length_cons]; omega

/-- A number in decimal digits below a bound; a plus sign may stand before it. -/
def decimal? (bound : Nat) (s : List UInt8) : Option Nat := do
  let digits := match s with
    | 43 :: rest => rest
    | s => s
  if digits.isEmpty then failure
  let n ← digits.foldlM (fun n b =>
    if 48 ≤ b ∧ b ≤ 57 then some (n * 10 + (b.toNat - 48)) else none) 0
  if n < bound then return n else failure

def number? (s : List UInt8) : Option (Nat × List UInt8) :=
  let (w, rest) := word [] s
  (decimal? 0x100000000 w).map (·, rest)

def isHighest (n : Nat) : Bool := 0 < n && n ≤ 65535

def head? (shades : Shades) (isText : Bool) (s : List UInt8) : Option (Head × List UInt8) := do
  let (width, s) ← number? s
  let (height, s) ← number? s
  let (highest, s) ← if shades = .bits then some (1, s) else number? s
  if isHighest highest then return (⟨width, height, shades, highest, isText⟩, s) else failure

/-! ### Heads of lines -/

/-- The lines of a head up to the one that ends it, and what stands behind. -/
def lines? : List Char → List UInt8 → Option (List (List Char) × List UInt8)
  | _, [] => none
  | line, b :: rest =>
    if b ≠ 10 then lines? (line ++ [Char.ofNat b.toNat]) rest
    else if trim line = "ENDHDR".toList then some ([], rest)
    else (lines? [] rest).map fun (ls, rest) => (line :: ls, rest)

def valuesOf (key : String) (lines : List (List Char)) : List (List Char) :=
  lines.filterMap fun l => match words l with
    | w :: ws => if w = key.toList then some (join [' '] ws) else none
    | [] => none

def valueOf? (key : String) (lines : List (List Char)) : Option Nat := match valuesOf key lines with
  | [v] => decimal? 0x100000000 (v.map fun c => UInt8.ofNat c.toNat)
  | _ => none

/-- The pixels by their name, or by their channels if there is none. -/
def shades? (name : List Char) (depth highest : Nat) : Option Shades :=
  match String.ofList name, depth with
  | "", 1 | "GRAYSCALE", 1 => some .gray
  | "BLACKANDWHITE", 1 => if highest = 1 then some .gray else none
  | "BLACKANDWHITE_ALPHA", 2 => if highest = 1 then some .grayAlpha else none
  | "GRAYSCALE_ALPHA", 2 => some .grayAlpha
  | "", 3 | "RGB", 3 => some .color
  | "", 4 | "RGB_ALPHA", 4 => some .colorAlpha
  | _, _ => none

def keys : List (List Char) := ["WIDTH", "HEIGHT", "DEPTH", "MAXVAL", "TUPLTYPE"].map String.toList

def headOfLines? (s : List UInt8) : Option (Head × List UInt8) := do
  let (lines, rest) ← match s with
    | 10 :: s => lines? [] s
    | _ => none
  let lines := lines.filter fun l => l.head? ≠ some '#'
  if lines.any fun l => !(words l).head?.any keys.contains then failure
  let highest ← valueOf? "MAXVAL" lines
  let shades ← shades? (join [' '] (valuesOf "TUPLTYPE" lines)) (← valueOf? "DEPTH" lines) highest
  let head : Head := ⟨← valueOf? "WIDTH" lines, ← valueOf? "HEIGHT" lines, shades, highest, false⟩
  if isHighest highest then return (head, rest) else failure

/-! ### Pixels -/

def numbers? (bound : Nat) : Nat → List UInt8 → Option (List Nat)
  | 0, _ => some []
  | n + 1, s => do
    let s := s.dropWhile isGap
    let value ← decimal? bound (s.takeWhile (!isGap ·))
    return value :: (← numbers? bound n ((s.dropWhile (!isGap ·)).drop 1))

/-- So many digits of one bit, a one for black; blanks between them do not count. -/
def digits? : Nat → List UInt8 → Option (List Nat)
  | 0, _ => some []
  | _ + 1, [] => none
  | n + 1, b :: rest =>
    if isGap b then digits? (n + 1) rest
    else if b = 48 then (digits? n rest).map (1 :: ·)
    else if b = 49 then (digits? n rest).map (0 :: ·)
    else none

def pairs? : Nat → List UInt8 → Option (List Nat)
  | 0, _ => some []
  | n + 1, a :: b :: rest => (pairs? n rest).map ((a.toNat * 256 + b.toNat) :: ·)
  | _ + 1, _ => none

/-- The bits of so many rows that take whole bytes, a one for black. -/
def bitRows? (width height : Nat) (s : List UInt8) : Option (List Nat) :=
  let rowBytes := (width + 7) / 8
  if s.length < rowBytes * height then none
  else
    let b := s.toArray
    some ((List.range height).flatMap fun y => (List.range width).map fun x =>
      1 - (b[y * rowBytes + x / 8]?.getD 0).toNat >>> (7 - x % 8) % 2)

def Head.numbers? (h : Head) (s : List UInt8) : Option (List Nat) :=
  let count := h.width * h.height * h.shades.channels
  match h.shades, h.isText with
  | .bits, true => digits? count s
  | .bits, false => bitRows? h.width h.height s
  | _, true => Portable.numbers? (if h.highest ≤ 255 then 256 else 65536) count s
  | _, false =>
    if 255 < h.highest then pairs? count s
    else if s.length < count then none
    else some ((s.take count).map (·.toNat))

/-- A number as a byte. Wide numbers are first stretched to two bytes. -/
def Head.level (h : Head) (n : Nat) : Nat :=
  if h.highest ≤ 255 then Pixel.level h.highest n
  else Pixel.level 65535 (min 65535 ((n * 65535 * 2 + h.highest) / (h.highest * 2)))

def Head.pixels (h : Head) (levels : Array Nat) : Array Pixel :=
  let n := h.shades.channels
  ((List.range (h.width * h.height)).map fun i =>
    h.shades.pixel ((levels.extract (i * n) (i * n + n)).toList)).toArray

def decode? (bytes : List UInt8) : Option Picture := do
  let (h, rest) ← match bytes with
    | 80 :: 49 :: s => head? .bits true s
    | 80 :: 50 :: s => head? .gray true s
    | 80 :: 51 :: s => head? .color true s
    | 80 :: 52 :: s => head? .bits false s
    | 80 :: 53 :: s => head? .gray false s
    | 80 :: 54 :: s => head? .color false s
    | 80 :: 55 :: s => headOfLines? s
    | _ => none
  let levels := ((← h.numbers? rest).map h.level).toArray
  return .ofPixels h.width h.height (h.pixels levels)

end DiagramDesk.Portable
