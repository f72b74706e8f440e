import DiagramDesk.Text.Character
import DiagramDesk.Text.Composed
import DiagramDesk.Url.Domain.MappingTable

/-! What characters become in a domain name. Many become others, such as small letters, some fall
away and some may not stand there at all. -/
namespace DiagramDesk.Url.Domain

open Text

/-- A range of code points that move by a number: all of them, or every second one. -/
structure Shift where
  first : Nat
  last : Nat
  stride : Nat
  distance : Int
  deriving DecidableEq, Repr

def shiftOfWord (word : List Char) : Shift :=
  let isDigit (c : Char) := (hexDigit? c).isSome
  let first := word.takeWhile isDigit
  let rest := (word.drop first.length).drop 1
  let last := rest.takeWhile isDigit
  let rest := rest.drop last.length
  let (stride, move) := match rest with
    | '/' :: move => (2, move)
    | move => (1, move)
  let n : Int := hexNumber (move.drop 1)
  ⟨hexNumber first, hexNumber last, stride, if move.head? = some '-' then -n else n⟩

/-- Whether a code point is one of those that move. -/
def Shift.moves (s : Shift) (n : Nat) : Bool :=
  s.first ≤ n && n ≤ s.last && (n - s.first) % s.stride == 0

def shifts : List Shift := (words shiftTable.toList).map shiftOfWord

/-- A run of code points and what each of them becomes. -/
structure Spelled where
  first : Nat
  texts : Array (List Char)
  deriving Repr

def spelledOfWord (word : List Char) : Option Spelled :=
  (splitOnce [':'] word).map fun (first, rest) => ⟨hexNumber first,
    ((splitAll (· == ',') rest).map fun item =>
      (splitAll (· == '.') item).map fun code => Char.ofNat (hexNumber code)).toArray⟩

def spelled : List Spelled := (words spelledTable.toList).filterMap spelledOfWord

def droppedRanges : List (Nat × Nat) := codeRanges droppedTable

/-- What may stand in a domain name, as it is or as something else. -/
def admittedRanges : List (Nat × Nat) := codeRanges admittedTable

def replacement? (c : Char) : Option (List Char) :=
  let n := c.toNat
  if n < 128 then if c.isUpper then some [lowerAscii c] else none
  else match shifts.find? (·.moves n) with
    | some s => some [Char.ofNat ((n : Int) + s.distance).toNat]
    | none => match spelled.find? fun r => r.first ≤ n && n < r.first + r.texts.size with
      | some r => r.texts[n - r.first]?
      | none => if inRanges droppedRanges n then some [] else none

def stays (c : Char) : Bool :=
  (c.toNat < 128 || inRanges admittedRanges c.toNat) && replacement? c == none

/-- What a character becomes, if it may stand in a domain name. -/
def mapped? (c : Char) : Option (List Char) :=
  match replacement? c with
  | some text => some text
  | none => if stays c then some [c] else none

def mapText? (s : List Char) : Option (List Char) :=
  (s.mapM mapped?).map fun texts => Composed.compose texts.flatten

end DiagramDesk.Url.Domain
