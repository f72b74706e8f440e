import DiagramDesk.Codec.Zlib
import DiagramDesk.Number.Single
import DiagramDesk.Picture.Basic
import DiagramDesk.Picture.Bytes

/-! Pictures of light in channels that have names. The head is a list of settings; behind it stand
the places of blocks of some rows each, and then the blocks, which may be packed. A window tells
which part of the picture there are numbers for. -/
namespace DiagramDesk.Layered

def signature : List UInt8 := [0x76, 0x2F, 0x31, 0x01]

/-! ### Settings -/

structure Setting where
  name : List UInt8
  type : List UInt8
  value : List UInt8
  deriving Repr

def text? (bytes : List UInt8) : Option (List UInt8 × List UInt8) :=
  match bytes.dropWhile (· != 0) with
  | [] => none
  | _ :: rest => some (bytes.takeWhile (· != 0), rest)

def low (bytes : List UInt8) : Nat := bytes.foldr (fun b n => b.toNat + 256 * n) 0

def signedLow (bytes : List UInt8) : Int :=
  let n := low bytes
  if n < 0x80000000 then n else (n : Int) - 0x100000000

def cut? (n : Nat) (bytes : List UInt8) : Option (List UInt8 × List UInt8) :=
  if bytes.length < n then none else some (bytes.take n, bytes.drop n)

/-- Settings up to the zero behind the last one, and what follows. The number bounds how many there
are. -/
def settings? : Nat → List UInt8 → Option (List Setting × List UInt8)
  | 0, _ => none
  | fuel + 1, bytes => do
    let (name, rest) ← text? bytes
    if name.isEmpty then return ([], rest)
    else
      let (type, rest) ← text? rest
      let (size, rest) ← cut? 4 rest
      let (value, rest) ← cut? (low size) rest
      let (settings, rest) ← settings? fuel rest
      return (⟨name, type, value⟩ :: settings, rest)

def value? (settings : List Setting) (name type : String) : Option (List UInt8) :=
  (settings.reverse.find? (·.name == name.toUTF8.toList)).bind fun s =>
    if s.type = type.toUTF8.toList then some s.value else none

/-! ### Heads -/

inductive Kind where
  | whole | half | single
  deriving DecidableEq, Repr

def kind? : Nat → Option Kind
  | 0 => some .whole
  | 1 => some .half
  | 2 => some .single
  | _ => none

def Kind.size : Kind → Nat
  | half => 2
  | whole | single => 4

structure Channel where
  name : List UInt8
  kind : Kind
  deriving Repr

/-- Reads channels; only those count that have a number for every pixel. The number bounds how many
there are. -/
def channels? : Nat → List UInt8 → Option (List Channel)
  | 0, _ => none
  | fuel + 1, bytes => do
    let (name, rest) ← text? bytes
    if name.isEmpty then return []
    else
      let (told, rest) ← cut? 16 rest
      let kind ← kind? (low (told.take 4))
      if low ((told.drop 8).take 4) ≠ 1 ∨ low (told.drop 12) ≠ 1 then failure
      else return ⟨name, kind⟩ :: (← channels? fuel rest)

/-- A part of a plane, by its first column and row and its size. -/
structure Window where
  left : Int
  top : Int
  width : Nat
  height : Nat
  deriving Repr

def window? (value : List UInt8) : Option Window := do
  if value.length ≠ 16 then failure
  let corner (i : Nat) : Int := signedLow ((value.drop (4 * i)).take 4)
  let span (a b : Int) : Nat := (a - b).natAbs + 1
  return ⟨min (corner 0) (corner 2), min (corner 1) (corner 3), span (corner 0) (corner 2),
    span (corner 1) (corner 3)⟩

inductive Packing where
  | plain | runs | row | rows
  deriving DecidableEq, Repr

def packing? : Nat → Option Packing
  | 0 => some .plain
  | 1 => some .runs
  | 2 => some .row
  | 3 => some .rows
  | _ => none

def Packing.rowCount : Packing → Nat
  | plain | runs | row => 1
  | rows => 16

structure Head where
  channels : List Channel
  packing : Packing
  told : Window
  shown : Window
  deriving Repr

/-- Settings that have to be there, with their types, besides those that are looked at. -/
def otherSettings : List (String × String) := [
  ("lineOrder", "lineOrder"), ("pixelAspectRatio", "float"), ("screenWindowCenter", "v2f"),
  ("screenWindowWidth", "float")]

def head? (settings : List Setting) : Option Head := do
  let told ← window? (← value? settings "dataWindow" "box2i")
  let shown ← window? (← value? settings "displayWindow" "box2i")
  let packing ← packing? (low (← value? settings "compression" "compression"))
  let list ← value? settings "channels" "chlist"
  let channels ← channels? (list.length + 1) list
  let names := channels.map (·.name)
  if !(otherSettings.all fun (name, type) => (value? settings name type).isSome) then failure
  if !(["B", "G", "R"].all fun name => names.contains name.toUTF8.toList) then failure
  if !((names.zip names.tail).all fun (a, b) => a ≤ b) then failure
  return ⟨channels, packing, told, shown⟩

/-! ### Blocks -/

/-- Unpacks runs: a byte that repeats, or bytes with their number before them. -/
def unrun? (found : Array UInt8) : List UInt8 → Option (Array UInt8)
  | [] => some found
  | n :: rest =>
    if 128 ≤ n then
      let count := 256 - n.toNat
      if rest.length < count then none
      else unrun? (found ++ rest.take count) (rest.drop count)
    else match rest with
      | [] => none
      | value :: rest => unrun? (found ++ Array.replicate (n.toNat + 1) value) rest
termination_by bytes => bytes.length
decreasing_by all_goals simp only [List.length_drop, List.length_cons]; omega

/-- Bytes from their differences, with the halves of the result told one after the other. -/
def unfold (bytes : List UInt8) : List UInt8 :=
  let summed := (bytes.foldl (fun (last?, (done : Array UInt8)) b =>
    let b := match last? with
      | none => b
      | some last => last + b - 128
    (some b, done.push b)) (none, #[])).2
  let half := (summed.size + 1) / 2
  (List.range summed.size).map fun i =>
    summed[if i % 2 = 0 then i / 2 else half + i / 2]?.getD 0

/-- The bytes of a block that take so much room. One that is as long as that is not packed. -/
def unpack? (packing : Packing) (room : Nat) (bytes : List UInt8) : Option (List UInt8) := do
  if bytes.length = room then return bytes
  else
    let unpacked ← match packing with
      | .plain => none
      | .runs => (unrun? #[] bytes).map fun found => unfold found.toList
      | .row | .rows => (Zlib.decompress? bytes).map unfold
    if unpacked.length = room then return unpacked else failure

def Head.rowSize (h : Head) : Nat :=
  h.channels.foldl (fun n c => n + c.kind.size * h.told.width) 0

def Head.block? (h : Head) (b : Bytes) (i : Nat) : Option (Nat × Array UInt8) := do
  let length ← b.low? (i + 4) 4
  let row := ((signedLow ((b.extract i (i + 4)).toList) - h.told.top) / h.packing.rowCount) *
    h.packing.rowCount
  if row < 0 ∨ (h.told.height : Int) ≤ row ∨ b.size < i + 8 + length then failure
  else
    let rows := min h.packing.rowCount (h.told.height - row.toNat)
    let bytes ← unpack? h.packing (rows * h.rowSize) (b.extract (i + 8) (i + 8 + length)).toList
    return (row.toNat, bytes.toArray)

/-! ### Pixels -/

def Kind.value (k : Kind) (bits : Nat) : Binary.Value := match k with
  | whole => .finite false bits 0
  | half => Binary.Format.decode ⟨10, 5⟩ bits
  | single => Binary.Format.single.decode bits

/-- A share of full light as a byte, rounded; what is no number counts as full. -/
def level (v : Binary.Value) : Nat :=
  if !(v.isBelow 1 1) then 255
  else match ((Single.ofValue v).mul (Single.ofNat 255)).value with
    | .finite false m q =>
      if 0 ≤ q then m <<< q.toNat else (m + 1 <<< ((-q).toNat - 1)) >>> (-q).toNat
    | _ => 0

def Head.level? (h : Head) (rows : Array UInt8) (x y : Nat) (name : String) : Option Nat := do
  let before := h.channels.takeWhile (·.name ≠ name.toUTF8.toList)
  let c ← h.channels[before.length]?
  let start := y * h.rowSize + before.foldl (fun n c => n + c.kind.size * h.told.width) 0
  return level (c.kind.value (← Bytes.low? rows (start + x * c.kind.size) c.kind.size))

/-- Reads a file: one picture in rows, whose names may be long. -/
def decode? (b : Bytes) : Option Picture := do
  let marks ← b.low? 4 4
  if marks % 256 = 0 ∨ 2 < marks % 256 ∨ !([0, 2].contains (marks >>> 9)) then failure
  let (settings, rest) ← settings? b.size (b.beyond 8)
  let h ← head? settings
  let start := b.size - rest.length
  let count := (h.told.height + h.packing.rowCount - 1) / h.packing.rowCount
  if rest.length < 8 * count then failure
  let blocks ← (List.range count).mapM fun k => do h.block? b (← b.low? (start + 8 * k) 8)
  let block? (row : Nat) : Option (Nat × Array UInt8) := blocks.find? fun (top, _) =>
    top ≤ row ∧ row < top + h.packing.rowCount
  let hasAlpha := h.channels.any (·.name = "A".toUTF8.toList)
  let at_ (x y : Nat) : Option Pixel := do
    let column := (x : Int) + h.shown.left - h.told.left
    let row := (y : Int) + h.shown.top - h.told.top
    if column < 0 ∨ row < 0 ∨ (h.told.width : Int) ≤ column then failure
    let (top, rows) ← block? row.toNat
    let told (name : String) : Option Nat := h.level? rows column.toNat (row.toNat - top) name
    return ⟨← told "R", ← told "G", ← told "B", ← if hasAlpha then told "A" else some 255⟩
  return {
    width := h.shown.width
    height := h.shown.height
    pixel := fun x y => (at_ x y).getD (if hasAlpha then .clear else ⟨0, 0, 0, 255⟩) }

end DiagramDesk.Layered
