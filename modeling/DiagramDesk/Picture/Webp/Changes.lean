import DiagramDesk.Picture.Webp.Spelling

/-! Changes that pixels went through before they were spelled, and how each is undone: pixels may be
told by what differs from an expectation, red and blue by what differs from a share of the other
colors, and colors by their place in a list. -/
namespace DiagramDesk.Webp

inductive Change where
  /-- What a pixel was expected to be was taken off. The green of a smaller picture, whose pixels
  stand for squares, is the rule of expectation. -/
  | expected (side : Nat) (rules : Array Pixel)
  /-- Shares of green and red were taken off. A smaller picture tells the shares. -/
  | shared (side : Nat) (shares : Array Pixel)
  /-- Green was taken off red and blue. -/
  | greened
  /-- Colors were replaced by their places in a list, and small places packed into one green. -/
  | listed (colors : Array Pixel)
  deriving Repr

def combined (f : Nat → Nat → Nat) (p q : Pixel) : Pixel :=
  ⟨f p.red q.red, f p.green q.green, f p.blue q.blue, f p.alpha q.alpha⟩

/-- The sum of two pixels; what a byte cannot hold is left out. -/
def plus (p q : Pixel) : Pixel := combined (fun a b => (a + b) % 256) p q

/-! ### Expectations -/

def between (p q : Pixel) : Pixel := combined (fun a b => (a + b) / 2) p q

def apart (p q : Pixel) : Nat :=
  let d (a b : Nat) : Nat := a - b + (b - a)
  d p.red q.red + d p.green q.green + d p.blue q.blue + d p.alpha q.alpha

/-- What a rule makes one expect of a pixel, by its neighbours. A rule that is not known expects
nothing. -/
def expectation (rule : Nat) (left up upRight corner : Pixel) : Pixel :=
  match rule with
  | 0 => ⟨0, 0, 0, 255⟩
  | 1 => left
  | 2 => up
  | 3 => upRight
  | 4 => corner
  | 5 => between (between left upRight) up
  | 6 => between left corner
  | 7 => between left up
  | 8 => between corner up
  | 9 => between up upRight
  | 10 => between (between left corner) (between up upRight)
  | 11 => if apart up corner < apart left corner then left else up
  | 12 => combined (fun s c => Pixel.held ((s : Int) - c)) (combined (· + ·) left up) corner
  | 13 => combined (fun a b => Pixel.held (a + Int.tdiv ((a : Int) - b) 2)) (between left up) corner
  | _ => .clear

/-- Adds to each pixel what it was expected to be. The first pixel is expected to be black, the rest
of its row to go on from the left, and the first of any other row from above. -/
def addExpected (width side : Nat) (rules pixels : Array Pixel) : Array Pixel :=
  pixels.foldl (fun (done : Array Pixel) p =>
    let back (k : Nat) : Pixel := done[done.size - k]?.getD .clear
    let x := done.size % width
    let y := done.size / width
    let expected :=
      if y = 0 then if x = 0 then ⟨0, 0, 0, 255⟩ else back 1
      else if x = 0 then back width
      else
        let rule := (rules[(y >>> side) * parts width side + (x >>> side)]?.getD .clear).green
        expectation rule (back 1) (back width) (back (width - 1)) (back (width + 1))
    done.push (plus p expected)) #[]

/-! ### Colors -/

def signed (n : Nat) : Int := if n < 128 then n else (n : Int) - 256

def share (amount level : Nat) : Int := (signed amount * signed level) >>> (5 : Nat)

def addShares (width side : Nat) (shares pixels : Array Pixel) : Array Pixel :=
  pixels.mapIdx fun i p =>
    let s := shares[((i / width) >>> side) * parts width side + ((i % width) >>> side)]?.getD .clear
    let wrap (n : Int) : Nat := (n % 256).toNat
    let red := wrap (p.red + share s.blue p.green)
    { p with red := red, blue := wrap (p.blue + share s.green p.green + share s.red red) }

def addGreen (pixels : Array Pixel) : Array Pixel :=
  pixels.map fun p => plus p ⟨p.green, 0, p.green, 0⟩

/-- How many places are packed into one, as a power of two, when a list has so many colors. -/
def packing (count : Nat) : Nat :=
  if count ≤ 2 then 3 else if count ≤ 4 then 2 else if count ≤ 16 then 1 else 0

/-- The pixels whose colors stand at some places of a list; a place beyond its end is clear. -/
def fromList (width height : Nat) (colors pixels : Array Pixel) : Array Pixel :=
  let n := packing colors.size
  let across := parts width n
  let bits := 8 >>> n
  ((List.range height).flatMap fun y => (List.range width).map fun x =>
    let packed := (pixels[y * across + (x >>> n)]?.getD .clear).green
    let place := (packed >>> (x % (1 <<< n) * bits)) % (1 <<< bits)
    colors[place]?.getD .clear).toArray

def summed (colors : Array Pixel) : Array Pixel :=
  (colors.foldl (fun (last, (done : Array Pixel)) p =>
    let p := plus last p
    (p, done.push p)) (.clear, #[])).2

/-! ### Changes -/

def Change.undo (height : Nat) (pixels : Array Pixel) : Nat × Change → Array Pixel
  | (width, .expected side rules) => addExpected width side rules pixels
  | (width, .shared side shares) => addShares width side shares pixels
  | (_, .greened) => addGreen pixels
  | (width, .listed colors) => fromList width height colors pixels

def readChange? (width height number : Nat) (bits : List Bool) :
    Option (Change × Nat × List Bool) := do
  match number with
  | 2 => return (.greened, width, bits)
  | 3 =>
    let (n, bits) ← Bits.read? 8 bits
    let (colors, bits) ← readPlain? (n + 1) 1 bits
    return (.listed (summed colors), parts width (packing (n + 1)), bits)
  | _ =>
    let (n, bits) ← Bits.read? 3 bits
    let side := n + 2
    let (told, bits) ← readPlain? (parts width side) (parts height side) bits
    return (if number = 0 then .expected side told else .shared side told, width, bits)

/-- Reads changes, each of which happens once at most, and how wide the picture is after them. Their
numbers are handed along. The last change comes first. -/
def readChanges? (height : Nat) : Nat → List Nat → List (Nat × Change) → Nat → List Bool →
    Option (List (Nat × Change) × Nat × List Bool)
  | 0, _, _, _, _ => none
  | fuel + 1, known, changes, width, bits => do
    let (more, bits) ← Bits.read? 1 bits
    if more = 0 then return (changes, width, bits)
    else
      let (number, bits) ← Bits.read? 2 bits
      if known.contains number then failure
      else
        let (change, narrowed, bits) ← readChange? width height number bits
        readChanges? height fuel (number :: known) ((width, change) :: changes) narrowed bits

def readChanged? (width height : Nat) (bits : List Bool) : Option (Array Pixel) := do
  let (changes, narrowed, bits) ← readChanges? height 5 [] [] width bits
  let (pixels, _) ← readParted? narrowed height bits
  return changes.foldl (Change.undo height) pixels

def readLossless? (width height : Nat) (bytes : List UInt8) : Option (Array Pixel) := do
  let (mark, bits) ← Bits.read? 8 (Bits.ofBytes bytes)
  let (w, bits) ← Bits.read? 14 bits
  let (h, bits) ← Bits.read? 14 bits
  let (_, bits) ← Bits.read? 1 bits
  let (version, bits) ← Bits.read? 3 bits
  if mark ≠ 0x2F ∨ version ≠ 0 ∨ w + 1 ≠ width ∨ h + 1 ≠ height then failure
  else readChanged? width height bits

end DiagramDesk.Webp
