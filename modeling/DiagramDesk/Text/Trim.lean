import DiagramDesk.Text.Character

/-! Blank text and trimming, and how one text sits inside another. -/
namespace DiagramDesk.Text

/-- Whether all characters are blank; the empty text is. -/
def blank (s : List Char) : Bool := s.all isBlank

/-- The list without its longest suffix of elements that satisfy `p`. -/
def dropEndWhile (p : α → Bool) : List α → List α
  | [] => []
  | a :: l => match dropEndWhile p l with
    | [] => if p a then [] else [a]
    | r => a :: r

def trimStart (s : List Char) : List Char := s.dropWhile isBlank

def trimEnd (s : List Char) : List Char := dropEndWhile isBlank s

def trim (s : List Char) : List Char := trimEnd (trimStart s)

def after? [DecidableEq α] : List α → List α → Option (List α)
  | [], s => some s
  | _ :: _, [] => none
  | h :: hs, c :: cs => if h = c then after? hs cs else none

def startsWith (s head : List Char) : Bool := head.isPrefixOf s

def endsWith (s tail : List Char) : Bool := tail.isSuffixOf s

/-- Whether `part` occurs in `s`; the empty text occurs everywhere. -/
def contains (s part : List Char) : Bool :=
  match s with
  | [] => part.isEmpty
  | c :: r => part.isPrefixOf (c :: r) || contains r part

/-- The text before the first occurrence of `part` and the text after it. -/
def splitOnce (part : List Char) : List Char → Option (List Char × List Char)
  | [] => if part.isEmpty then some ([], []) else none
  | c :: r => match after? part (c :: r) with
    | some rest => some ([], rest)
    | none => (splitOnce part r).map fun (before, rest) => (c :: before, rest)

/-- Maximal runs of characters that do not satisfy `sep`, the empty ones included: always one
more than there are separators. -/
def splitAll (sep : Char → Bool) : List Char → List (List Char)
  | [] => [[]]
  | c :: r => if sep c then [] :: splitAll sep r else
    match splitAll sep r with
    | [] => [[c]]
    | w :: ws => (c :: w) :: ws

def words (s : List Char) : List (List Char) :=
  (splitAll isBlank s).filter fun w => !w.isEmpty

def join (sep : List Char) : List (List Char) → List Char
  | [] => []
  | [l] => l
  | l :: ls => l ++ sep ++ join sep ls

end DiagramDesk.Text
