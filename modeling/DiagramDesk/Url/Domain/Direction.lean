import DiagramDesk.Text.Character
import DiagramDesk.Text.Hexadecimal
import DiagramDesk.Url.Domain.ScriptTable

/-! The direction in which a domain name is written. In a name with a letter that is written from
right to left, every label keeps to one direction: it starts with a letter, ends in a letter or a
number, and holds no letter of the other direction. -/
namespace DiagramDesk.Url.Domain

open Text

inductive Direction where
  | leftToRight | rightToLeft | number | arabicNumber | neutral | nonspacing
  deriving DecidableEq, Repr

/-- Marks that take no room of their own. -/
def nonspacingRanges : List (Nat × Nat) := codeRanges nonspacingTable

def rightToLeftRanges : List (Nat × Nat) := codeRanges rightToLeftTable

def neutralRanges : List (Nat × Nat) := codeRanges neutralTable

/-- Digits that are written from left to right wherever they stand. -/
def numberRanges : List (Nat × Nat) := [(0x6F0, 0x6F9), (0x102E1, 0x102FB)]

/-- Digits of right-to-left scripts. -/
def arabicNumberRanges : List (Nat × Nat) :=
  [(0x660, 0x669), (0x66B, 0x66C), (0x10D30, 0x10D39), (0x10E60, 0x10E7E)]

/-- Marks without room that count as letters all the same. -/
def letterMarks : List Nat := [0xCBF, 0xCC6, 0x11A07, 0x11A08, 0x11C3F]

def direction (c : Char) : Direction :=
  let n := c.toNat
  if n < 128 then if c.isAlpha then .leftToRight else if c.isDigit then .number else .neutral
  else if inRanges nonspacingRanges n && !letterMarks.contains n then .nonspacing
  else if inRanges rightToLeftRanges n then .rightToLeft
  else if inRanges arabicNumberRanges n then .arabicNumber
  else if inRanges numberRanges n then .number
  else if inRanges neutralRanges n then .neutral
  else .leftToRight

/-- Whether a label makes its whole name one with two directions. -/
def turns (label : List Char) : Bool :=
  label.any fun c => direction c == .rightToLeft || direction c == .arabicNumber

def keepsDirection (label : List Char) : Bool :=
  let ds := label.map direction
  let last := (ds.reverse.dropWhile (· == .nonspacing)).head?
  match ds.head? with
  | none => true
  | some .leftToRight =>
    !ds.contains .rightToLeft && !ds.contains .arabicNumber &&
      (last == some .leftToRight || last == some .number)
  | some .rightToLeft =>
    !ds.contains .leftToRight && !(ds.contains .number && ds.contains .arabicNumber) &&
      (last == some .rightToLeft || last == some .number || last == some .arabicNumber)
  | _ => false

end DiagramDesk.Url.Domain
