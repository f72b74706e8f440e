import DiagramDesk.Text.Composed
import DiagramDesk.Url.Domain.Direction

/-! Where the two invisible joiners may stand in a label: behind a mark that silences a vowel, and
the one that parts letters also between two letters that would join. Marks do not count there. -/
namespace DiagramDesk.Url.Domain

open Text

def spacingRanges : List (Nat × Nat) := codeRanges spacingTable

def joinBothRanges : List (Nat × Nat) := codeRanges joinBothTable

def joinBeforeRanges : List (Nat × Nat) := codeRanges joinBeforeTable

def joinBehindRanges : List (Nat × Nat) := codeRanges joinBehindTable

def isMark (c : Char) : Bool :=
  0x300 ≤ c.toNat && (inRanges nonspacingRanges c.toNat || inRanges spacingRanges c.toNat)

/-- Whether letters join through a character as if it were not there. -/
def isTransparent (c : Char) : Bool :=
  c.toNat == 0x1E94B || (0x300 ≤ c.toNat && inRanges nonspacingRanges c.toNat)

def joinsBehind (c : Char) : Bool :=
  inRanges joinBothRanges c.toNat || inRanges joinBehindRanges c.toNat

def joinsBefore (c : Char) : Bool :=
  inRanges joinBothRanges c.toNat || inRanges joinBeforeRanges c.toNat

/-- The rank of the marks that silence a vowel. -/
def silencing : Nat := 9

/-- Whether every joiner stands where it may, given the characters before in reverse order. -/
def placesJoiners (before : List Char) : List Char → Bool
  | [] => true
  | c :: rest =>
    let isSilenced := before.head?.any fun b => Composed.rank b == silencing
    let parts := ((before.dropWhile isTransparent).head?.any joinsBehind) &&
      ((rest.dropWhile isTransparent).head?.any joinsBefore)
    let isRight :=
      if c.toNat == 0x200C then isSilenced || parts
      else if c.toNat == 0x200D then isSilenced
      else true
    isRight && placesJoiners (c :: before) rest

end DiagramDesk.Url.Domain
