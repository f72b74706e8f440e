import DiagramDesk.Picture.Png.Basic
import DiagramDesk.Text.Trim

/-! Reading pictures from files in blocks, with all kinds of pixels and both orders of rows. What
stands behind the pixels does not matter, and neither do faults in blocks that one can do without. -/
namespace DiagramDesk.Png

/-! ### Blocks -/

structure Block where
  name : List UInt8
  content : List UInt8
  isSound : Bool
  deriving DecidableEq, Repr

/-- Whether a picture cannot be understood without a block: its name starts with a capital. -/
def Block.isNeeded (b : Block) : Bool := b.name.head?.any fun c => c.toNat / 32 % 2 == 0

def blocks (bytes : List UInt8) : List Block × List UInt8 :=
  let n := numberOf (bytes.take 4)
  if bytes.length < 12 + n then ([], bytes)
  else
    let name := (bytes.drop 4).take 4
    let content := (bytes.drop 8).take n
    let sum := (bytes.drop (8 + n)).take 4
    let (rest, beyond) := blocks (bytes.drop (12 + n))
    (⟨name, content, numberOf sum == (checksum (name ++ content)).toNat⟩ :: rest, beyond)
termination_by bytes.length
decreasing_by simp only [List.length_drop]; omega

/-! ### The head of a file -/

structure Header where
  width : Nat
  height : Nat
  depth : Nat
  kind : Nat
  isInterlaced : Bool
  deriving DecidableEq, Repr

def depths : Nat → List Nat
  | 0 => [1, 2, 4, 8, 16]
  | 3 => [1, 2, 4, 8]
  | 2 | 4 | 6 => [8, 16]
  | _ => []

def header? (content : List UInt8) : Option Header := match content.drop 8 with
  | [depth, kind, 0, 0, order] =>
    let h : Header := ⟨numberOf (content.take 4), numberOf ((content.drop 4).take 4), depth.toNat,
      kind.toNat, order == 1⟩
    if 0 < h.width ∧ 0 < h.height ∧ (depths h.kind).contains h.depth ∧ order ≤ 1 then some h
    else none
  | _ => none

def Header.channels (h : Header) : Nat := match h.kind with
  | 2 => 3
  | 4 => 2
  | 6 => 4
  | _ => 1

structure Head where
  header : Header
  palette : Option (List UInt8) := none
  transparency : Option (List UInt8) := none
  deriving Repr

/-- Whether a block on transparency has enough numbers, and a palette where it speaks of one. -/
def Head.allows (h : Head) (content : List UInt8) : Bool := match h.header.kind with
  | 0 => 2 ≤ content.length
  | 2 => 6 ≤ content.length
  | 3 => h.palette.isSome
  | _ => false

/-- Takes a block between the first one and the pixels. A block that is needed must be sound, known
and the only one of its name. -/
def Head.take? (h : Head) (b : Block) : Option Head :=
  if b.isNeeded then
    if b.name = label "PLTE" ∧ b.isSound ∧ h.palette.isNone then
      some { h with palette := some b.content }
    else none
  else if b.name = label "tRNS" ∧ h.transparency.isNone ∧ h.allows b.content then
    some { h with transparency := some b.content }
  else some h

/-! ### Rows -/

def Header.rowBytes (h : Header) : Nat := (h.width * h.channels * h.depth + 7) / 8

/-- The distance to the byte that belongs to the pixel on the left. -/
def Header.stride (h : Header) : Nat := max 1 (h.channels * h.depth / 8)

def nearest (left up corner : Nat) : Nat :=
  let expected : Int := (left : Int) + up - corner
  let l := (expected - left).natAbs
  let u := (expected - up).natAbs
  let c := (expected - corner).natAbs
  if l ≤ u ∧ l ≤ c then left else if u ≤ c then up else corner

def taken? (filter left up corner : Nat) : Option Nat := match filter with
  | 0 => some 0
  | 1 => some left
  | 2 => some up
  | 3 => some ((left + up) / 2)
  | 4 => some (nearest left up corner)
  | _ => none

/-- A row with what was taken off put back, given the row above. -/
def restore? (stride filter : Nat) (above : Array UInt8) (row : List UInt8) :
    Option (Array UInt8) :=
  row.foldlM (fun out b => do
    let i := out.size
    let at? (a : Array UInt8) (j : Nat) : Nat :=
      if stride ≤ j then (a[j - stride]?.getD 0).toNat else 0
    let t ← taken? filter (at? out i) (above[i]?.getD 0).toNat (at? above i)
    return out.push (UInt8.ofNat (b.toNat + t))) #[]

def rows? (h : Header) : Nat → Array UInt8 → List UInt8 →
    Option (List (Array UInt8) × List UInt8)
  | 0, _, bytes => some ([], bytes)
  | n + 1, above, bytes => match bytes with
    | filter :: rest =>
      if rest.length < h.rowBytes then none
      else do
        let row ← restore? h.stride filter.toNat above (rest.take h.rowBytes)
        let (more, rest) ← rows? h n row (rest.drop h.rowBytes)
        return (row :: more, rest)
    | [] => none

/-- A share of a picture: every so many columns and rows from a corner on. -/
structure Share where
  left : Nat
  top : Nat
  across : Nat
  down : Nat
  deriving DecidableEq, Repr

def Header.shares (h : Header) : List Share :=
  if h.isInterlaced then
    [⟨0, 0, 8, 8⟩, ⟨4, 0, 8, 8⟩, ⟨0, 4, 4, 8⟩, ⟨2, 0, 4, 4⟩, ⟨0, 2, 2, 4⟩, ⟨1, 0, 2, 2⟩,
     ⟨0, 1, 1, 2⟩]
  else [⟨0, 0, 1, 1⟩]

def Share.header (s : Share) (h : Header) : Header :=
  { h with
    width := (h.width - s.left + s.across - 1) / s.across
    height := (h.height - s.top + s.down - 1) / s.down }

def Share.has (s : Share) (x y : Nat) : Bool :=
  s.left ≤ x && s.top ≤ y && (x - s.left) % s.across == 0 && (y - s.top) % s.down == 0

/-- The rows of some shares, one share after the other; those without pixels are left out. -/
def shareRows? (h : Header) : List Share → List UInt8 →
    Option (List (Share × Array (Array UInt8)))
  | [], _ => some []
  | s :: shares, bytes => do
    let own := s.header h
    if own.width = 0 ∨ own.height = 0 then shareRows? h shares bytes
    else
      let (rows, rest) ← rows? own own.height #[] bytes
      return (s, rows.toArray) :: (← shareRows? h shares rest)

/-! ### Pixels -/

def sample (h : Header) (row : Array UInt8) (i : Nat) : Nat :=
  if h.depth = 16 then (row[2 * i]?.getD 0).toNat * 256 + (row[2 * i + 1]?.getD 0).toNat
  else
    let bit := i * h.depth
    (row[bit / 8]?.getD 0).toNat >>> (8 - h.depth - bit % 8) % 1 <<< h.depth

def Header.scaled (h : Header) (n : Nat) : Nat := Pixel.level (1 <<< h.depth - 1) n

/-- Whether the block on transparency names the numbers of a pixel. A number of up to eight bits is
looked for in the lower byte alone. -/
def Head.isClear (h : Head) (samples : List Nat) : Bool := match h.transparency with
  | none => false
  | some content =>
    let named := (List.range samples.length).map fun i => numberOf ((content.drop (2 * i)).take 2)
    if h.header.depth = 16 then content.length == 2 * samples.length && named == samples
    else named.map (· % 256) == samples

/-- The color of the palette with some number; one that is not there is black. -/
def Head.entry (h : Head) (i : Nat) : Pixel :=
  let palette := h.palette.getD []
  let alphas := (h.transparency.getD []).filter fun _ =>
    (h.transparency.getD []).length ≤ palette.length / 3
  match (palette.drop (3 * i)).take 3 with
  | [r, g, b] => ⟨r.toNat, g.toNat, b.toNat, (alphas[i]?.getD 255).toNat⟩
  | _ => ⟨0, 0, 0, 255⟩

def Head.pixel (h : Head) (sample : Nat → Nat) : Pixel :=
  let s i := h.header.scaled (sample i)
  match h.header.kind with
  | 0 => .gray (s 0) (if h.isClear [sample 0] then 0 else 255)
  | 2 => ⟨s 0, s 1, s 2, if h.isClear [sample 0, sample 1, sample 2] then 0 else 255⟩
  | 3 => h.entry (sample 0)
  | 4 => .gray (s 0) (s 1)
  | _ => ⟨s 0, s 1, s 2, s 3⟩

/-- Reads a file. The blocks of pixels follow each other, and another block begins behind them. -/
def decode? (bytes : List UInt8) : Option Picture := do
  let body ← Text.after? signature bytes
  let (all, beyond) := blocks body
  let isPixels (b : Block) : Bool := b.name == label "IDAT"
  match all with
  | [] => failure
  | first :: rest =>
    if first.name ≠ label "IHDR" ∨ !first.isSound then failure
    let header ← header? first.content
    let head ← (rest.takeWhile (!isPixels ·)).foldlM Head.take? ({ header } : Head)
    if header.kind = 3 ∧ head.palette.isNone then failure
    let rest := rest.dropWhile (!isPixels ·)
    let pixels := rest.takeWhile isPixels
    let isFollowed := pixels.length < rest.length ||
      (8 ≤ beyond.length && (beyond.drop 4).take 4 != label "IDAT")
    if pixels.any (!·.isSound) ∨ !isFollowed then failure
    let content ← Zlib.contentAhead? (pixels.flatMap (·.content))
    let parts ← shareRows? header header.shares content
    return {
      width := header.width
      height := header.height
      pixel := fun x y => match parts.find? (·.1.has x y) with
        | none => .clear
        | some (s, rows) =>
          let row := rows[(y - s.top) / s.down]?.getD #[]
          head.pixel fun i => sample header row ((x - s.left) / s.across * header.channels + i) }

end DiagramDesk.Png
