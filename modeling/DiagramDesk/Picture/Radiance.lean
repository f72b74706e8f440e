import DiagramDesk.Number.Single
import DiagramDesk.Picture.Basic
import DiagramDesk.Text.Utf8

/-! Pictures of light, in which the three numbers of a pixel share a power of two. The head is lines
of text up to an empty one, with a line on the size behind it. Pixels come in rows, each of which is
packed in one of two ways. -/
namespace DiagramDesk.Radiance

open Text

def signature : List UInt8 := "#?RADIANCE".toUTF8.toList

/-! ### Lines -/

def line? (bytes : List UInt8) : Option (List Char × List UInt8) :=
  if bytes.isEmpty then none
  else some (utf8Lossy (bytes.takeWhile (· != 10)), (bytes.dropWhile (· != 10)).drop 1)

def isNumber (s : List Char) : Bool := (Binary.Format.single.read? s).isSome

/-- The words before and behind the first equals sign; neither can be empty. -/
def setting? (line : List Char) : Option (List Char × List Char) := match splitOnce ['='] line with
  | some (key, value) => if key.isEmpty || value.isEmpty then none else some (trim key, value)
  | none => none

/-- Whether a line of the head makes sense. Lines that are not known do. -/
def isSound (line : List Char) : Bool :=
  if line.head? == some '#' then true
  else match setting? line with
    | none => true
    | some (key, value) => match String.ofList key with
      | "FORMAT" => trim value == "32-bit_rle_rgbe".toList
      | "EXPOSURE" | "PIXASPECT" => isNumber (trim value)
      | "COLORCORR" => (words value).length == 3 && (words value).all isNumber
      | _ => true

/-- What stands behind the empty line that ends the head. The number bounds how many lines there
are. -/
def afterHead? : Nat → List UInt8 → Option (List UInt8)
  | 0, _ => none
  | fuel + 1, bytes => do
    let (line, rest) ← line? bytes
    if line.isEmpty then return rest
    else if isSound line then afterHead? fuel rest
    else failure

/-- Reads the line on the size: the height, counted downwards, and then the width. -/
def size? (line : List Char) : Option (Nat × Nat) := match words line with
  | [['-', 'Y'], height, ['+', 'X'], width] => do
    return (← natBelow? 0x100000000 width, ← natBelow? 0x100000000 height)
  | _ => none

/-! ### Rows -/

/-- A pixel as it is kept: three numbers, and the power of two for all of them. -/
structure Light where
  red : Nat
  green : Nat
  blue : Nat
  power : Nat
  deriving DecidableEq, Repr, Inhabited

def wholePower : Nat := 136

def level (n power : Nat) : Nat :=
  if power = 0 then 0
  else if wholePower ≤ power then min 255 (n * 255)
  else
    let half := 1 <<< (wholePower - power)
    min 255 ((n * 510 + half) / (2 * half))

def Light.pixel (l : Light) : Pixel :=
  ⟨level l.red l.power, level l.green l.power, level l.blue l.power, 255⟩

def component? (width : Nat) (found : Array Nat) : List UInt8 → Option (Array Nat × List UInt8)
  | [] => if width ≤ found.size then some (found, []) else none
  | n :: rest =>
    if width ≤ found.size then some (found, n :: rest)
    else if n ≤ 128 then
      let count := n.toNat
      if width < found.size + count ∨ rest.length < count then none
      else component? width (found ++ (rest.take count).map (·.toNat)) (rest.drop count)
    else match rest with
      | [] => none
      | value :: rest =>
        let count := n.toNat - 128
        if width < found.size + count then none
        else component? width (found ++ Array.replicate count value.toNat) rest
termination_by bytes => bytes.length
decreasing_by all_goals simp only [List.length_drop, List.length_cons]; omega

/-- Reads a row whose components follow each other. -/
def parts? (width : Nat) (bytes : List UInt8) : Option (Array Light × List UInt8) := do
  let (reds, bytes) ← component? width #[] bytes
  let (greens, bytes) ← component? width #[] bytes
  let (blues, bytes) ← component? width #[] bytes
  let (powers, bytes) ← component? width #[] bytes
  let at_ (numbers : Array Nat) (i : Nat) : Nat := numbers[i]?.getD 0
  return (((List.range width).map fun i =>
    (⟨at_ reds i, at_ greens i, at_ blues i, at_ powers i⟩ : Light)).toArray, bytes)

/-- Reads a row of whole pixels. One with the numbers one, one and one tells how often the pixel
before it is repeated; several of them in a row make one number together, the lowest part first. -/
def pixels? (width scale : Nat) (row : Array Light) :
    List UInt8 → Option (Array Light × List UInt8)
  | r :: g :: b :: e :: rest =>
    if width ≤ row.size then some (row, r :: g :: b :: e :: rest)
    else if r = 1 ∧ g = 1 ∧ b = 1 then
      match row.back? with
      | none => none
      | some last =>
        let count := e.toNat * scale
        if width < row.size + count then none
        else pixels? width (scale * 256) (row ++ Array.replicate count last) rest
    else pixels? width 1 (row.push ⟨r.toNat, g.toNat, b.toNat, e.toNat⟩) rest
  | rest => if width ≤ row.size then some (row, rest) else none
termination_by bytes => bytes.length
decreasing_by all_goals simp only [List.length_cons]; omega

/-- Reads a row. One that starts with two twos and a small number is kept in components. -/
def row? (width : Nat) (bytes : List UInt8) : Option (Array Light × List UInt8) :=
  match bytes with
  | 2 :: 2 :: c :: _ :: rest =>
    if c < 128 then parts? width rest else pixels? width 1 #[] bytes
  | _ => pixels? width 1 #[] bytes

def rows? (width : Nat) : Nat → List UInt8 → Option (Array Light)
  | 0, _ => some #[]
  | n + 1, bytes => do
    let (row, bytes) ← row? width bytes
    return row ++ (← rows? width n bytes)

def decode? (bytes : List UInt8) : Option Picture := do
  let (_, rest) ← line? bytes
  let rest ← afterHead? (bytes.length + 1) rest
  let (line, rest) ← line? rest
  let (width, height) ← size? line
  let rows ← if width = 0 then some #[] else rows? width height rest
  return .ofPixels width height (rows.map Light.pixel)

end DiagramDesk.Radiance
