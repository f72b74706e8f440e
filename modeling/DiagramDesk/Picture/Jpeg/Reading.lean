import DiagramDesk.Picture.Basic
import DiagramDesk.Picture.Bytes
import DiagramDesk.Picture.Jpeg.Frame

/-! Reading pictures that are kept as waves. A file is a row of segments, each behind a mark: tables
of scales and of codes, a frame, and scans. What cannot be read of a scan is left still. -/
namespace DiagramDesk.Jpeg

structure Head where
  scales : List (Nat × Array Nat) := []
  still : List (Nat × WordCode) := []
  moving : List (Nat × WordCode) := []
  interval : Nat := 0
  /-- How colors are told, if a segment says so. -/
  transform : Option Nat := none
  frame : Option Frame := none
  planes : Array (Array Amounts) := #[]
  /-- Whether there was a scan. -/
  isScanned : Bool := false

def latest? (tables : List (Nat × α)) (n : Nat) : Option α := (tables.find? (·.1 == n)).map (·.2)

/-! ### Tables and frames -/

def addScales? (h : Head) : List UInt8 → Option Head
  | [] => some h
  | b :: rest =>
    let size := b.toNat / 16 + 1
    if rest.length < 64 * size ∨ 1 < b.toNat / 16 ∨ 3 < b.toNat % 16 then none
    else
      let told := (List.range 64).map fun i =>
        ((rest.drop (i * size)).take size).foldl (fun n b => n * 256 + b.toNat) 0
      let table := (waveOrder.zip told).foldl (fun (t : Array Nat) (place, n) =>
        t.setIfInBounds place n) (Array.replicate 64 0)
      addScales? { h with scales := (b.toNat % 16, table) :: h.scales } (rest.drop (64 * size))
termination_by bytes => bytes.length
decreasing_by simp only [List.length_drop, List.length_cons]; omega

def addCodes? (h : Head) : List UInt8 → Option Head
  | [] => some h
  | b :: rest =>
    let counts := (rest.take 16).map (·.toNat)
    let total := counts.foldl (· + ·) 0
    if rest.length < 16 + total ∨ 256 < total ∨ 1 < b.toNat / 16 ∨ 3 < b.toNat % 16 then none
    else
      let symbols := ((rest.drop 16).take total).map (·.toNat)
      let entry := (b.toNat % 16, (⟨counts, symbols.toArray⟩ : WordCode))
      let h := if b.toNat / 16 = 0 then { h with still := entry :: h.still }
        else { h with moving := entry :: h.moving }
      addCodes? h (rest.drop (16 + total))
termination_by bytes => bytes.length
decreasing_by simp only [List.length_drop, List.length_cons]; omega

def components? : List UInt8 → Option (List Component)
  | [] => some []
  | name :: factors :: scales :: rest => do
    let c : Component := ⟨name.toNat, factors.toNat / 16, factors.toNat % 16, scales.toNat⟩
    let isFactor (n : Nat) : Bool := [1, 2, 4, 8].contains n
    if isFactor c.across && isFactor c.down && c.scales < 4 then
      return c :: (← components? rest)
    else failure
  | _ => none

/-- Adds a frame. A component that stands alone is not coarser than the picture. -/
def addFrame? (h : Head) (isGradual : Bool) (content : List UInt8) : Option Head :=
  match content with
  | 8 :: h₁ :: h₀ :: w₁ :: w₀ :: n :: rest => do
    let components ← components? rest
    let components := match components with
      | [c] => [{ c with across := 1, down := 1 }]
      | cs => cs
    let f : Frame := ⟨w₁.toNat * 256 + w₀.toNat, h₁.toNat * 256 + h₀.toNat, components.toArray,
      isGradual⟩
    if f.width = 0 ∨ f.height = 0 ∨ components.length ≠ n.toNat ∨
        !([1, 3, 4].contains components.length) ∨ h.frame.isSome then failure
    else return { h with frame := some f, planes := f.still }
  | _ => none

/-! ### Scans -/

/-- The bytes of a scan in parts, and what stands behind them. Marks between parts are counted
modulo eight; any other mark ends the scan. -/
def cutScan (part : Array UInt8) : List UInt8 → List (List UInt8) × List UInt8
  | [] => ([part.toList], [])
  | [b] => ([(part.push b).toList], [])
  | b :: m :: rest =>
    if b ≠ 0xFF then cutScan (part.push b) (m :: rest)
    else if m = 0 then cutScan (part.push b) rest
    else if m = 0xFF then cutScan part (m :: rest)
    else if 0xD0 ≤ m ∧ m ≤ 0xD7 then
      let (parts, rest) := cutScan #[] rest
      (part.toList :: parts, rest)
    else ([part.toList], b :: m :: rest)
termination_by bytes => bytes.length
decreasing_by all_goals simp only [List.length_cons]; omega

def scanned? (f : Frame) : List UInt8 → Option (List (Nat × Nat × Nat))
  | [] => some []
  | name :: codes :: rest => do
    let i ← f.components.toList.findIdx? (·.name == name.toNat)
    return (i, codes.toNat / 16, codes.toNat % 16) :: (← scanned? f rest)
  | _ => none

/-- Reads a scan, given its segment and the bytes behind it, and gives what stands behind. -/
def addScan? (h : Head) (content bytes : List UInt8) : Option (Head × List UInt8) := do
  let f ← h.frame
  let n ← content.head?
  let scanned ← scanned? f ((content.drop 1).take (2 * n.toNat))
  let (start, stop, bit) ← match content.drop (1 + 2 * n.toNat) with
    | [start, stop, bit] => some (start.toNat, stop.toNat, bit.toNat)
    | _ => none
  let r : Round := if f.isGradual then ⟨start, stop, bit % 16, 0 < bit / 16, false⟩
    else ⟨0, 63, 0, false, true⟩
  if scanned.isEmpty ∨ !(scanned.map (·.1)).Nodup ∨ 63 < r.stop ∨ r.stop < r.start ∨ 13 < r.bit then
    failure
  let codes := f.components.mapIdx fun i _ =>
    match scanned.find? (·.1 == i) with
    | some (_, still, moving) => (⟨latest? h.still still, latest? h.moving moving⟩ : Codes)
    | none => ⟨none, none⟩
  let (parts, rest) := cutScan #[] bytes
  let planes := readParts codes r h.interval (parts.map Bits.ofBytesHigh)
    (f.units (scanned.map (·.1))) h.planes
  return ({ h with planes := planes, isScanned := true }, rest)

/-! ### Segments -/

def strangeFrames : List UInt8 := [0xC3, 0xC5, 0xC6, 0xC7, 0xC9, 0xCA, 0xCB, 0xCD, 0xCE, 0xCF]

/-- Adds what a segment tells, other than a scan. -/
def addSegment? (h : Head) (mark : UInt8) (content : List UInt8) : Option Head :=
  match mark with
  | 0xDB => addScales? h content
  | 0xC4 => addCodes? h content
  | 0xC0 | 0xC1 => addFrame? h false content
  | 0xC2 => addFrame? h true content
  | 0xDD => match content with
    | [a, b] => some { h with interval := a.toNat * 256 + b.toNat }
    | _ => none
  | 0xEE =>
    if content.take 5 = "Adobe".toUTF8.toList then
      some { h with transform := (content.drop 11).head?.map (·.toNat) }
    else some h
  | 0xCC | 0xDC => none
  | _ => if strangeFrames.contains mark then none else some h

def mark? : List UInt8 → Option (UInt8 × List UInt8)
  | b :: m :: rest =>
    if b = 0xFF ∧ m ≠ 0 ∧ m ≠ 0xFF then some (m, rest) else mark? (m :: rest)
  | _ => none

theorem mark?_length {bytes rest : List UInt8} {m : UInt8} (h : mark? bytes = some (m, rest)) :
    rest.length < bytes.length := by
  induction bytes with
  | nil => simp [mark?] at h
  | cons b tail ih =>
    cases tail with
    | nil => simp [mark?] at h
    | cons c tail =>
      simp only [mark?] at h
      split at h
      · simp only [Option.some.injEq, Prod.mk.injEq] at h
        simp only [← h.2, List.length_cons]; omega
      · have := ih h
        simp only [List.length_cons] at this ⊢; omega

/-- Reads segments up to the end. Behind a scan the file may break off. -/
def segments? (h : Head) (bytes : List UInt8) : Option Head :=
  match found : mark? bytes with
  | none => if h.isScanned then some h else none
  | some (m, rest) =>
    have := mark?_length found
    if m = 0xD9 then if h.isScanned then some h else none
    else if (0xD0 ≤ m ∧ m ≤ 0xD8) ∨ m = 1 then segments? h rest
    else match rest with
      | a :: b :: body =>
        let length := a.toNat * 256 + b.toNat
        let content := body.take (length - 2)
        if length < 2 ∨ body.length < length - 2 then if h.isScanned then some h else none
        else if m = 0xDA then
          match addScan? h content (body.drop (length - 2)) with
          | none => none
          | some (h, beyond) => if beyond.length < bytes.length then segments? h beyond else none
        else match addSegment? h m content with
          | none => none
          | some h => segments? h (body.drop (length - 2))
      | _ => if h.isScanned then some h else none
termination_by bytes.length
decreasing_by all_goals simp_all only [List.length_drop, List.length_cons] <;> omega

/-! ### Pixels -/

def sampled (scales : Array Nat) (blocks : Array Amounts) : Array (Array Nat) :=
  blocks.map fun b => samples (b.mapIdx fun i n => n * (scales[i]?.getD 0 : Nat))

def ofBrightness (light blue red : Nat) : Pixel :=
  let y : Int := light * 16384 + 8191
  let b : Int := (blue : Int) - 128
  let r : Int := (red : Int) - 128
  let byte (n : Int) : Nat := Pixel.held (n >>> (14 : Nat))
  ⟨byte (y + r * 22970), byte (y - r * 11700 - b * 5638), byte (y + b * 29032), 255⟩

def shareOf (level share : Nat) : Nat :=
  let t := level * share + 128
  (t + t / 256) / 256

def Head.pixel (h : Head) (f : Frame) (levels : List Nat) : Pixel :=
  match levels with
  | [l] => .gray l
  | [a, b, c] =>
    let isPlain := h.transform == some 0 || f.components.toList.map (·.name) == [82, 71, 66]
    if isPlain then ⟨a, b, c, 255⟩ else ofBrightness a b c
  | [a, b, c, k] =>
    if h.transform = some 2 then
      let p := ofBrightness a b c
      ⟨shareOf (255 - p.red) k, shareOf (255 - p.green) k, shareOf (255 - p.blue) k, 255⟩
    else ⟨shareOf a k, shareOf b k, shareOf c k, 255⟩
  | _ => .clear

def decode? (bytes : List UInt8) : Option Picture := do
  let h ← segments? {} (← match bytes with
    | 0xFF :: 0xD8 :: rest => some rest
    | _ => none)
  let f ← h.frame
  let components := f.components.toList
  let scales ← components.mapM fun c => latest? h.scales c.scales
  let planes := (List.zipWith sampled scales h.planes.toList).zip components
  let sample (x y : Nat) (plane : Array (Array Nat)) (c : Component) : Nat :=
    let x := x * c.across / f.mostAcross
    let y := y * c.down / f.mostDown
    (plane[y / side * f.blocksAcross c + x / side]?.getD #[])[y % side * side + x % side]?.getD 0
  return {
    width := f.width
    height := f.height
    pixel := fun x y => h.pixel f (planes.map fun (plane, c) => sample x y plane c) }

end DiagramDesk.Jpeg
