import DiagramDesk.Url.Domain.Joining
import DiagramDesk.Url.Domain.Mapping
import DiagramDesk.Url.Domain.Punycode

/-! Domain names. A name is a row of labels between dots; a label beyond ASCII is written in ASCII
letters behind a mark. A label that has the mark must be one that could have been written so. -/
namespace DiagramDesk.Url.Domain

open Text

def mark : List Char := ['x', 'n', '-', '-']

/-- The longest label behind the mark that is read. -/
def longestRead : Nat := 2000

/-- The longest label beyond ASCII that is written. -/
def longestWritten : Nat := 1000

/-- A label as it is written and as it is shown. -/
structure Label where
  written : List Char
  shown : List Char
  deriving DecidableEq, Repr

def isAscii (s : List Char) : Bool := s.all (·.toNat < 128)

/-- Whether marks and joiners stand where they may in a label beyond ASCII. -/
def isWellFormed (s : List Char) : Bool := !s.head?.any isMark && placesJoiners [] s

def readMarked? (body : List Char) : Option Label := do
  if longestRead < body.length ∨ body.getLast? = some '-' ∨ !isAscii body then failure
  let shown ← decode? body
  if !isAscii shown && shown.all stays && Composed.isComposed shown && isWellFormed shown then
    return ⟨mark ++ body, shown⟩
  else failure

/-- Reads a label whose characters are replaced already. -/
def Label.read? (s : List Char) : Option Label :=
  match after? mark s with
  | some body => readMarked? body
  | none =>
    if isAscii s then some ⟨s, s⟩
    else if s.length ≤ longestWritten ∧ isWellFormed s then some ⟨mark ++ encode s, s⟩
    else none

/-- A name in ASCII letters, if it is one of a domain. -/
def ofText? (name : List Char) : Option (List Char) := do
  let labels ← (splitAll (· == '.') (← mapText? name)).mapM Label.read?
  let shown := labels.map (·.shown)
  if shown.any turns && !shown.all keepsDirection then failure
  return join ['.'] (labels.map (·.written))

end DiagramDesk.Url.Domain
