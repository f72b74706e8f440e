import DiagramDesk.Text.Alphabetic
import DiagramDesk.Text.MarkNumber

/-! Classes of characters: blanks, alphanumerics, the word characters and digits of patterns, and
the case rules of patterns written in ASCII. Alphanumerics go by version 17 of the standard,
patterns by version 16. -/
namespace DiagramDesk.Text

def inRanges (ranges : List (Nat × Nat)) (n : Nat) : Bool :=
  ranges.any fun r => r.1 ≤ n && n ≤ r.2

/-- The property White_Space. -/
def isBlank (c : Char) : Bool :=
  let n := c.toNat
  (9 ≤ n && n ≤ 13) || n == 0x20 || n == 0x85 || n == 0xA0 || n == 0x1680 ||
    (0x2000 ≤ n && n ≤ 0x200A) || n == 0x2028 || n == 0x2029 || n == 0x202F || n == 0x205F ||
    n == 0x3000

/-- A letter, or a mark or number that counts as one. -/
def isAlphabetic (c : Char) : Bool :=
  if c.toNat < 128 then c.isAlpha else inRanges alphabeticRanges c.toNat

def isDecimal (c : Char) : Bool :=
  if c.toNat < 128 then c.isDigit else inRanges decimalRanges c.toNat

def isAlphanumeric (c : Char) : Bool :=
  isAlphabetic c || isDecimal c || (128 ≤ c.toNat && inRanges otherNumberRanges c.toNat)

/-- Punctuation that joins words, such as the low line. -/
def isConnector (c : Char) : Bool :=
  let n := c.toNat
  c == '_' || n == 0x203F || n == 0x2040 || n == 0x2054 || n == 0xFE33 || n == 0xFE34 ||
    (0xFE4D ≤ n && n ≤ 0xFE4F) || n == 0xFF3F

/-- Code points of letters, marks and decimal digits that are new in version 17 of the standard, as
sorted ranges with both ends included. -/
def newcomerRanges : List (Nat × Nat) := [
    (0x88f, 0x88f), (0xc5c, 0xc5c), (0xcdc, 0xcdc), (0x1acf, 0x1add), (0x1ae0, 0x1aeb),
    (0xa7ce, 0xa7cf), (0xa7d2, 0xa7d2), (0xa7d4, 0xa7d4), (0xa7f1, 0xa7f1), (0x10940, 0x10959),
    (0x10ec5, 0x10ec7), (0x10efa, 0x10efb), (0x11b60, 0x11b67), (0x11db0, 0x11ddb),
    (0x11de0, 0x11de9), (0x16ea0, 0x16eb8), (0x16ebb, 0x16ed3), (0x16ff2, 0x16ff6),
    (0x187f8, 0x187ff), (0x18d09, 0x18d1e), (0x18d80, 0x18df2), (0x1e6c0, 0x1e6de),
    (0x1e6e0, 0x1e6f5), (0x1e6fe, 0x1e6ff), (0x2b73a, 0x2b73f), (0x2cea2, 0x2cead),
    (0x323b0, 0x33479)]

/-- Whether a character is too new for patterns. -/
def isNewcomer (c : Char) : Bool := 128 ≤ c.toNat && inRanges newcomerRanges c.toNat

/-- A character inside a word: letters, marks, decimal digits, connectors and the two joiners. -/
def isWord (c : Char) : Bool :=
  let n := c.toNat
  (isAlphabetic c || isDecimal c || isConnector c || n == 0x200C || n == 0x200D ||
    (128 ≤ n && inRanges markRanges n)) && !isNewcomer c

/-- A decimal digit in a pattern. -/
def isPatternDigit (c : Char) : Bool := isDecimal c && !isNewcomer c

/-- Upper-case ASCII letters become lower case, nothing else changes. -/
def lowerAscii (c : Char) : Char :=
  if 'A' ≤ c && c ≤ 'Z' then Char.ofNat (c.toNat + 32) else c

/-- Simple case folding as far as a pattern of ASCII letters can see it: beyond ASCII, only the
long s and the Kelvin sign fold to an ASCII letter. -/
def foldCase (c : Char) : Char :=
  if c.toNat == 0x17F then 's' else if c.toNat == 0x212A then 'k' else lowerAscii c

/-- Full lower-casing as far as a search for ASCII text can see it: beyond ASCII, only the Kelvin
sign and the dotted capital I yield an ASCII letter, the latter followed by a combining dot. -/
def lowerFull (c : Char) : List Char :=
  if c.toNat == 0x130 then ['i', Char.ofNat 0x307]
  else if c.toNat == 0x212A then ['k']
  else [lowerAscii c]

/-- Lower-cased text, as far as a search for ASCII text can see it. -/
def lower (s : List Char) : List Char := s.flatMap lowerFull

/-- The width of a character in UTF-8. -/
def byteWidth (s : List Char) : Nat := s.foldr (fun c n => c.utf8Size + n) 0

end DiagramDesk.Text
