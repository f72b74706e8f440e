import DiagramDesk.Picture.Bytes
import DiagramDesk.Picture.Webp.Guess

/-! Frames as they are told: a head, how each large square is guessed, and the amounts that are added
to the guesses. The guesses are told in one row of decisions, and the amounts in several, by turns
for each row of squares. -/
namespace DiagramDesk.Webp

/-! ### Head -/

/-- What a segment of a picture has of its own: a scale, and a level of smoothing. -/
structure Segment where
  scale : Int
  smoothing : Int
  deriving Repr, Inhabited

structure Segments where
  /-- Whether their numbers are added to those of the picture. -/
  isAdded : Bool := false
  each : List Segment := List.replicate 4 ⟨0, 0⟩
  /-- Chances of the segment of a square, if that is told. -/
  chances : Option (List Nat) := none
  deriving Repr

structure Smoothing where
  isSimple : Bool
  level : Nat
  sharpness : Nat
  /-- What is added to the level for a picture that stands alone, and for small guesses. -/
  added : Int := 0
  addedForSmall : Int := 0
  deriving Repr

structure Scaling where
  base : Int
  firstOfWhole : Int
  firstOfMeans : Int
  othersOfMeans : Int
  firstOfColor : Int
  othersOfColor : Int
  deriving Repr

structure Head where
  segments : Option Segments
  smoothing : Smoothing
  /-- How many rows of decisions tell amounts. -/
  rows : Nat
  scaling : Scaling
  chances : Array Nat
  /-- The chance of a square that tells amounts, if some do not. -/
  told : Option Nat
  deriving Repr

def several (d : Deciding α) : Nat → Deciding (List α)
  | 0 => pure []
  | n + 1 => do
    let a ← d
    return a :: (← several d n)

def readSegments : Deciding Segments := do
  let isMapped ← flag
  let isTold ← flag
  let s : Segments ← if isTold then do
      let isAdded := !(← flag)
      let scales ← several (offset 7) 4
      let levels ← several (offset 6) 4
      pure { isAdded := isAdded, each := List.zipWith Segment.mk scales levels }
    else pure {}
  if isMapped then
    let chances ← several (do if ← flag then number 8 else return 255) 3
    return { s with chances := some chances }
  else return s

def readSmoothing : Deciding Smoothing := do
  let isSimple ← flag
  let level ← number 6
  let sharpness ← number 3
  let s : Smoothing := { isSimple := isSimple, level := level, sharpness := sharpness }
  if !(← flag) then return s
  else if !(← flag) then return s
  else
    let byPicture ← several (offset 6) 4
    let byGuess ← several (offset 6) 4
    return { s with added := byPicture.headD 0, addedForSmall := byGuess.headD 0 }

def readScaling : Deciding Scaling := do
  let base ← number 7
  let a ← offset 4
  let b ← offset 4
  let c ← offset 4
  let d ← offset 4
  let e ← offset 4
  return ⟨base, a, b, c, d, e⟩

def readChances : Deciding (Array Nat) :=
  renewalChances.zip amountChances |>.mapM fun (renewal, chance) => do
    if ← decision renewal then number 8 else return chance

def readHead : Deciding Head := do
  let space ← flag
  let _ ← flag
  if space then failure
  let segments ← if ← flag then some <$> readSegments else pure none
  let smoothing ← readSmoothing
  let rows ← number 2
  let scaling ← readScaling
  let _ ← flag
  let chances ← readChances
  let told ← if ← flag then some <$> number 8 else pure none
  return ⟨segments, smoothing, 1 <<< rows, scaling, chances, told⟩

/-! ### Guesses -/

/-- What is told about a square of sixteen by sixteen pixels: its segment, whether there are no
amounts, the guess at its brightness, or else at each small square, and that at its colors. -/
structure Square where
  segment : Nat
  isBare : Bool
  light : Option Guess
  small : List SmallGuess
  color : Guess
  deriving Repr

def segmentWays (chances : List Nat) : Ways Nat :=
  let chance (i : Nat) : Nat := chances[i]?.getD 255
  .fork (chance 0) (.fork (chance 1) (.goal 0) (.goal 1)) (.fork (chance 2) (.goal 2) (.goal 3))

def lightWays : Ways (Option Guess) :=
  .fork 145 (.goal none)
    (.fork 156 (.fork 163 (.goal (some .mean)) (.goal (some .above)))
      (.fork 128 (.goal (some .left)) (.goal (some .slope))))

def colorWays : Ways Guess :=
  .fork 142 (.goal .mean) (.fork 114 (.goal .above) (.fork 183 (.goal .left) (.goal .slope)))

/-- The ways to the guess at a small square, by the guesses above it and on its left. -/
def smallWays (above left : SmallGuess) : Ways SmallGuess :=
  let chance (i : Nat) : Nat :=
    blockGuessChances[(above.index * 10 + left.index) * 9 + i]?.getD 0
  .fork (chance 0) (.goal .mean) (.fork (chance 1) (.goal .slope)
    (.fork (chance 2) (.goal (.along .down))
      (.fork (chance 3)
        (.fork (chance 4) (.goal (.along .right))
          (.fork (chance 5) (.goal (.along .downRight)) (.goal (.along .steepRight))))
        (.fork (chance 6) (.goal (.along .downLeft))
          (.fork (chance 7) (.goal (.along .steepLeft))
            (.fork (chance 8) (.goal (.along .flatDown)) (.goal (.along .flatUp))))))))

def readSmallRow : List SmallGuess → SmallGuess → Deciding (List SmallGuess)
  | [], _ => pure []
  | above :: row, left => do
    let g ← (smallWays above left).go
    return g :: (← readSmallRow row g)

def readSmallRows (above : List SmallGuess) : List SmallGuess → Deciding (List (List SmallGuess))
  | [] => pure []
  | left :: column => do
    let row ← readSmallRow above left
    return row :: (← readSmallRows row column)

/-- Reads a square, given the guesses at the small squares above and on the left; the guesses at its
lowest row and its last column come with it. -/
def readSquare (h : Head) (above left : List SmallGuess) :
    Deciding (Square × List SmallGuess × List SmallGuess) := do
  let segment ← match h.segments.bind (·.chances) with
    | some chances => (segmentWays chances).go
    | none => pure 0
  let isBare ← match h.told with
    | some chance => decision chance
    | none => pure false
  match ← lightWays.go with
  | some g =>
    let color ← colorWays.go
    let side := List.replicate 4 (SmallGuess.ofLarge g)
    return (⟨segment, isBare, some g, [], color⟩, side, side)
  | none =>
    let rows ← readSmallRows above left
    let color ← colorWays.go
    return (⟨segment, isBare, none, rows.flatten, color⟩, rows.getLastD [],
      rows.map fun row => row.getLastD .mean)

def readSquareRow (h : Head) : List (List SmallGuess) → List SmallGuess →
    Deciding (List Square × List (List SmallGuess))
  | [], _ => pure ([], [])
  | above :: row, left => do
    let (s, below, right) ← readSquare h above left
    let (squares, lower) ← readSquareRow h row right
    return (s :: squares, below :: lower)

def readSquareRows (h : Head) : Nat → List (List SmallGuess) → Deciding (List (List Square))
  | 0, _ => pure []
  | n + 1, above => do
    let (row, below) ← readSquareRow h above (List.replicate 4 .mean)
    return row :: (← readSquareRows h n below)

/-! ### Amounts -/

structure Added where
  light : List Amounts
  blue : List Amounts
  red : List Amounts
  /-- Whether there is any amount. -/
  isTold : Bool
  deriving Repr

/-- Which blocks along an edge of a square tell anything, one for each kind of block. -/
structure Edge where
  light : List Bool := [false, false, false, false]
  blue : List Bool := [false, false]
  red : List Bool := [false, false]
  means : Bool := false
  deriving Repr

structure SquareScales where
  whole : Scales
  means : Scales
  color : Scales
  deriving Repr

def scaleAt (table : Array Nat) (place : Int) : Nat := table[min 127 place.toNat]?.getD 0

def Head.scales (h : Head) (segment : Nat) : SquareScales :=
  let s := h.scaling
  let base : Int := match h.segments with
    | none => s.base
    | some segments =>
      let own := ((segments.each[segment]?).getD ⟨0, 0⟩).scale
      if segments.isAdded then s.base + own else own
  { whole := ⟨scaleAt stillScales (base + s.firstOfWhole), scaleAt movingScales base⟩
    means := ⟨2 * scaleAt stillScales (base + s.firstOfMeans),
      max 8 (scaleAt movingScales (base + s.othersOfMeans) * 155 / 100)⟩
    color := ⟨min 132 (scaleAt stillScales (base + s.firstOfColor)),
      scaleAt movingScales (base + s.othersOfColor)⟩ }

def readBlockRow (chances : Array Nat) (k : Kind) (s : Scales) :
    List Bool → Bool → Deciding (List (Amounts × Bool))
  | [], _ => pure []
  | above :: row, left => do
    let (block, isTold) ← readAmounts chances k s (above.toNat + left.toNat)
    return (block, isTold) :: (← readBlockRow chances k s row isTold)

def readBlockRows (chances : Array Nat) (k : Kind) (s : Scales) (above : List Bool) :
    List Bool → Deciding (List (List (Amounts × Bool)))
  | [] => pure []
  | left :: column => do
    let row ← readBlockRow chances k s above left
    return row :: (← readBlockRows chances k s (row.map (·.2)) column)

/-- What the lowest row of some blocks tells, and their last column. -/
def lowest (rows : List (List (Amounts × Bool))) : List Bool := (rows.getLastD []).map (·.2)
def rightmost (rows : List (List (Amounts × Bool))) : List Bool :=
  rows.map fun row => (row.getLastD (still, false)).2

def readAdded (h : Head) (s : Square) (above left : Edge) : Deciding (Added × Edge × Edge) := do
  if s.isBare then
    let quiet (e : Edge) : Edge := { means := s.light.isNone && e.means }
    return (⟨List.replicate 16 still, List.replicate 4 still, List.replicate 4 still, false⟩,
      quiet above, quiet left)
  else
    let scales := h.scales s.segment
    let situation := above.means.toNat + left.means.toNat
    let meant ← if s.light.isNone then pure none
      else some <$> readAmounts h.chances .means scales.means situation
    let k : Kind := if meant.isSome then .moving else .whole
    let light ← readBlockRows h.chances k scales.whole above.light left.light
    let blue ← readBlockRows h.chances .color scales.color above.blue left.blue
    let red ← readBlockRows h.chances .color scales.color above.red left.red
    let blocks (rows : List (List (Amounts × Bool))) : List Amounts := rows.flatten.map (·.1)
    let all := match meant with
      | none => blocks light
      | some (block, _) =>
        List.zipWith (fun (b : Amounts) m => b.setIfInBounds 0 m) (blocks light) (means block).toList
    let isTold := (light ++ blue ++ red).flatten.any (·.2) || all.any fun b => amount b 0 ≠ 0
    let ofMeans (e : Edge) : Bool := (meant.map (·.2)).getD e.means
    return (⟨all, blocks blue, blocks red, isTold⟩,
      ⟨lowest light, lowest blue, lowest red, ofMeans above⟩,
      ⟨rightmost light, rightmost blue, rightmost red, ofMeans left⟩)

def readAddedRow (h : Head) : List Square → List Edge → Edge → Deciding (List Added × List Edge)
  | s :: squares, above :: row, left => do
    let (a, below, right) ← readAdded h s above left
    let (more, lower) ← readAddedRow h squares row right
    return (a :: more, below :: lower)
  | _, _, _ => pure ([], [])

/-- Reads the amounts of rows of squares from rows of decisions by turns. -/
def readAddedRows? (h : Head) : List (List Square) → List Edge → List Decisions →
    Option (List (List Added))
  | [], _, _ => some []
  | _, _, [] => none
  | squares :: rows, above, d :: others => do
    let ((row, below), d) ← readAddedRow h squares above {} |>.run d
    return row :: (← readAddedRows? h rows below (others ++ [d]))

/-! ### Frames -/

structure Frame where
  width : Nat
  height : Nat
  head : Head
  squares : List (List (Square × Added))

/-- Cuts off so many rows of decisions, of which the last one takes what is left. Their lengths stand
before them. -/
def cutRows? (count : Nat) (bytes : List UInt8) : Option (List (List UInt8)) :=
  let lengths := bytes.take (3 * (count - 1))
  if lengths.length < 3 * (count - 1) then none
  else go lengths (bytes.drop (3 * (count - 1)))
where
  /-- Cuts off rows of some lengths. -/
  go : List UInt8 → List UInt8 → Option (List (List UInt8))
    | a :: b :: c :: lengths, bytes => do
      let n := a.toNat + 256 * (b.toNat + 256 * c.toNat)
      if bytes.length < n then failure
      else return bytes.take n :: (← go lengths (bytes.drop n))
    | _, bytes => some [bytes]

def Frame.read? (bytes : List UInt8) : Option Frame := do
  let b : Bytes := bytes.toArray
  let tag ← b.low? 0 3
  let width ← b.low? 6 2
  let height ← b.low? 8 2
  let width := width % 0x4000
  let height := height % 0x4000
  let content := bytes.drop 10
  let length := tag / 32
  if tag % 2 = 1 ∨ !(b.holds 3 [0x9D, 0x01, 0x2A]) ∨ content.length < length then failure
  else
    let (head, d) ← readHead.run { rest := content.take length }
    let rows ← cutRows? head.rows (content.drop length)
    let across := (width + 15) / 16
    let (squares, _) ← (readSquareRows head ((height + 15) / 16)
      (List.replicate across (List.replicate 4 .mean))).run d
    let added ← readAddedRows? head squares (List.replicate across {})
      (rows.map fun row => { rest := row })
    return ⟨width, height, head, List.zipWith List.zip squares added⟩

end DiagramDesk.Webp
