import DiagramDesk.Codec.Lzw
import DiagramDesk.Codec.Zlib
import DiagramDesk.Number.Single
import DiagramDesk.Picture.Basic
import DiagramDesk.Picture.Bytes

/-! Pictures whose head is a list of entries with numbers for names, in either order of bytes. The
pixels are rows of plain numbers in strips of some rows each, which may be packed. -/
namespace DiagramDesk.Tagged

structure File where
  bytes : Bytes
  isLow : Bool

def File.number? (f : File) (i n : Nat) : Option Nat :=
  if f.isLow then f.bytes.low? i n else f.bytes.high? i n

def signatures : List (List UInt8) := [[0x49, 0x49, 42, 0], [0x4D, 0x4D, 0, 42]]

/-! ### Entries -/

inductive Name where
  | width | height | depths | packing | shades | stripPlaces | channels | stripRows | stripSizes
  | planes | prediction | formats
  deriving DecidableEq, Repr

def Name.number : Name → Nat
  | width => 256
  | height => 257
  | depths => 258
  | packing => 259
  | shades => 262
  | stripPlaces => 273
  | channels => 277
  | stripRows => 278
  | stripSizes => 279
  | planes => 284
  | prediction => 317
  | formats => 339

/-- How many bytes a number of some type takes; other types are no numbers. -/
def typeSize? : Nat → Option Nat
  | 1 => some 1
  | 3 => some 2
  | 4 => some 4
  | _ => none

def File.entry? (f : File) (list count : Nat) (name : Name) : Option Nat :=
  ((List.range count).map fun i => list + 2 + 12 * i).reverse.find? fun at_ =>
    f.number? at_ 2 == some name.number

/-- The numbers of the entry at some place: in the entry itself if they fit there. -/
def File.numbers? (f : File) (at_ : Nat) : Option (List Nat) := do
  let size ← typeSize? (← f.number? (at_ + 2) 2)
  let count ← f.number? (at_ + 4) 4
  let start ← if size * count ≤ 4 then some (at_ + 8) else f.number? (at_ + 8) 4
  if f.bytes.size < start + size * count then failure
  (List.range count).mapM fun i => f.number? (start + i * size) size

structure Entries where
  file : File
  list : Nat
  count : Nat

def Entries.all? (es : Entries) (name : Name) (default : List Nat) : Option (List Nat) :=
  match es.file.entry? es.list es.count name with
  | some at_ => es.file.numbers? at_
  | none => some default

def Entries.one? (es : Entries) (name : Name) (default : Option Nat) : Option Nat := do
  match ← es.all? name default.toList with
  | [n] => return n
  | _ => failure

/-- The first list of entries of a file; another place stands behind it. -/
def entries? (f : File) : Option Entries := do
  let list ← f.number? 4 4
  let count ← f.number? list 2
  let _ ← f.number? (list + 2 + 12 * count) 4
  if list = 0 then failure else return ⟨f, list, count⟩

/-! ### Heads -/

inductive Shades where
  | inverse | gray | color | ink
  deriving DecidableEq, Repr

def shades? : Nat → Option Shades
  | 0 => some .inverse
  | 1 => some .gray
  | 2 => some .color
  | 5 => some .ink
  | _ => none

inductive Packing where
  | plain | runs | rows | stream
  deriving DecidableEq, Repr

def packing? : Nat → Option Packing
  | 1 => some .plain
  | 5 => some .rows
  | 8 | 32946 => some .stream
  | 32773 => some .runs
  | _ => none

structure Head where
  width : Nat
  height : Nat
  depth : Nat
  channels : Nat
  shades : Shades
  packing : Packing
  isPredicted : Bool
  stripRows : Nat
  /-- Where each strip starts, and how many bytes it takes. -/
  strips : List (Nat × Nat)
  deriving Repr

def isShown (shades : Shades) (channels depth : Nat) : Bool := match shades with
  | .inverse => channels == 1 && [1, 8, 16].contains depth
  | .gray => (channels == 1 && [1, 8, 16].contains depth) ||
      (channels == 2 && [8, 16].contains depth)
  | .color => (channels == 3 || channels == 4) && [8, 16].contains depth
  | .ink => channels == 4 && depth == 8

def head? (es : Entries) : Option Head := do
  let width ← es.one? .width none
  let height ← es.one? .height none
  let shades ← shades? (← es.one? .shades none)
  let packing ← packing? (← es.one? .packing (some 1))
  let channels ← es.one? .channels (some 1)
  let depths ← es.all? .depths [1]
  let formats ← es.all? .formats [1]
  let prediction ← es.one? .prediction (some 1)
  let planes ← es.one? .planes (some 1)
  let places ← es.all? .stripPlaces []
  let sizes ← es.all? .stripSizes []
  let stripRows ← es.one? .stripRows (some height)
  let depth ← depths.head?
  if width = 0 ∨ height = 0 ∨ depths.any (· != depth) ∨
      (depths.length ≠ channels ∧ depths.length ≠ 1) ∨ !isShown shades channels depth ∨
      formats.isEmpty ∨ formats.any (· != 1) ∨ (prediction ≠ 1 ∧ prediction ≠ 2) ∨
      (planes ≠ 1 ∧ channels ≠ 1) ∨ stripRows = 0 ∨ places.length ≠ sizes.length ∨
      places.length ≠ (height - 1) / stripRows + 1 then failure
  return ⟨width, height, depth, channels, shades, packing, prediction == 2, stripRows,
    places.zip sizes⟩

/-! ### Strips -/

def Head.rowBytes (h : Head) : Nat := (h.width * h.channels * h.depth + 7) / 8

/-- Unpacks runs: a count below 128 stands before single bytes, one above it before a byte that is
repeated. -/
def runs (out : Array UInt8) : List UInt8 → Array UInt8
  | [] => out
  | n :: rest =>
    if n < 128 then runs (out ++ rest.take (n.toNat + 1)) (rest.drop (n.toNat + 1))
    else if n = 128 then runs out rest
    else match rest with
      | [] => out
      | b :: rest => runs (out ++ Array.replicate (257 - n.toNat) b) rest
termination_by bytes => bytes.length
decreasing_by all_goals simp only [List.length_drop, List.length_cons]; omega

def Packing.unpack? (p : Packing) (wanted : Nat) (bytes : List UInt8) : Option (Array UInt8) := do
  let all ← match p with
    | plain => some bytes.toArray
    | runs => some (Tagged.runs #[] bytes)
    | rows => (Lzw.decode? .high 8 wanted bytes).map fun ns => (ns.map UInt8.ofNat).toArray
    | stream => (Zlib.contentAhead? bytes).map List.toArray
  if all.size < wanted then failure else return all.extract 0 wanted

def Head.numbers (f : File) (h : Head) (bytes : Bytes) (start : Nat) : List Nat :=
  let strip : File := { f with bytes := bytes }
  (List.range (h.width * h.channels)).map fun i =>
    if h.depth = 1 then (bytes[start + i / 8]?.getD 0).toNat >>> (7 - i % 8) % 2
    else (strip.number? (start + i * (h.depth / 8)) (h.depth / 8)).getD 0

/-- A row of numbers of which each but the first ones is told by how it differs from the one that
belongs to the pixel before. -/
def Head.summed (h : Head) (row : List Nat) : List Nat :=
  (row.foldl (fun (out : Array Nat) n =>
    let before := if h.channels ≤ out.size then out[out.size - h.channels]?.getD 0 else 0
    out.push ((n + before) % 1 <<< h.depth)) #[]).toList

def Head.all? (f : File) (h : Head) : Option (Array Nat) := do
  let strips ← h.strips.zipIdx.mapM fun ((place, size), i) => do
    let rows := min h.stripRows (h.height - i * h.stripRows)
    if f.bytes.size < place then failure
    let bytes ← h.packing.unpack? (rows * h.rowBytes)
      (f.bytes.extract place (place + size)).toList
    return (List.range rows).flatMap fun y =>
      let row := h.numbers f bytes (y * h.rowBytes)
      if h.isPredicted && h.depth != 1 then h.summed row else row
  return strips.flatten.toArray

/-- A level of color where ink covers some of the ground and black ink some of the rest, worked out
in 32 bits. -/
def uninked (ink black : Nat) : Nat :=
  let covered := Binary.Format.single.decode (Binary.Format.single.roundRatio black 255)
  let rest := Single.ofValue ((covered.mul (.finite true 1 0)).add (.finite false 1 0))
  ((Single.ofNat (255 - ink)).mul rest).value.wholeWithin 255

def Head.pixel (h : Head) (numbers : List Nat) : Pixel :=
  let highest := 1 <<< h.depth - 1
  let numbers := if h.shades = .inverse then numbers.map (highest - ·) else numbers
  match h.shades, numbers.map (Pixel.level highest) with
  | .ink, [c, m, y, k] => ⟨uninked c k, uninked m k, uninked y k, 255⟩
  | _, [l, a] => .gray l a
  | _, [r, g, b] => ⟨r, g, b, 255⟩
  | _, [r, g, b, a] => ⟨r, g, b, a⟩
  | _, levels => .gray (levels.head?.getD 0)

def decode? (b : Bytes) : Option Picture := do
  let f : File := ⟨b, b.holds 0 [0x49]⟩
  let h ← head? (← entries? f)
  let numbers ← h.all? f
  return {
    width := h.width
    height := h.height
    pixel := fun x y =>
      let i := (y * h.width + x) * h.channels
      h.pixel (numbers.extract i (i + h.channels)).toList }

end DiagramDesk.Tagged
