import DiagramDesk.Text.Trim

/-! Hexadecimal digits, and tables of code points that are written with them: a word is one code
point or a range such as `c0-d6`, both ends included. -/
namespace DiagramDesk.Text

/-- The value of a hexadecimal digit in either case. -/
def hexDigit? (c : Char) : Option Nat :=
  if '0' ≤ c ∧ c ≤ '9' then some (c.toNat - 48)
  else if 'A' ≤ c ∧ c ≤ 'F' then some (c.toNat - 55)
  else if 'a' ≤ c ∧ c ≤ 'f' then some (c.toNat - 87)
  else none

/-- The number that some hexadecimal digits write; other characters count as zeros. -/
def hexNumber (s : List Char) : Nat := s.foldl (fun n c => n * 16 + (hexDigit? c).getD 0) 0

def codeRange (word : List Char) : Nat × Nat :=
  match splitOnce ['-'] word with
  | some (first, last) => (hexNumber first, hexNumber last)
  | none => (hexNumber word, hexNumber word)

def codeRanges (table : String) : List (Nat × Nat) := (words table.toList).map codeRange

end DiagramDesk.Text
