import DiagramDesk.Text.Trim

/-! Finding patterns in a text. A pattern tells, at one place, whether it matches there and how
many characters it takes; matches are found from left to right and do not overlap. -/
namespace DiagramDesk.Text

/-- A piece of a text: a character outside any match, or a match. -/
inductive Span (β : Type) where
  | char (c : Char)
  | found (b : β)
  deriving Repr

/-- A pattern: what it finds at the head of a text, and its length. -/
abbrev Pattern (β : Type) := List Char → Option (β × Nat)

/-- The pieces of a text. A match takes at least one character. -/
def spans (p : Pattern β) : List Char → List (Span β)
  | [] => []
  | c :: s => match p (c :: s) with
    | some (b, n) => .found b :: spans p (s.drop (n - 1))
    | none => .char c :: spans p s
termination_by s => s.length
decreasing_by all_goals simp only [List.length_drop, List.length_cons]; omega

def Span.text (replace : β → List Char) : Span β → List Char
  | char c => [c]
  | found b => replace b

def replaceAll (p : Pattern β) (replace : β → List Char) (s : List Char) : List Char :=
  (spans p s).flatMap (Span.text replace)

def replaceSpans (replace : σ → β → List Char × σ) : σ → List (Span β) → List Char × σ
  | st, [] => ([], st)
  | st, .char c :: rest =>
    let (text, st) := replaceSpans replace st rest
    (c :: text, st)
  | st, .found b :: rest =>
    let (head, st) := replace st b
    let (text, st) := replaceSpans replace st rest
    (head ++ text, st)

/-- The text up to and including the first occurrence of `part`, and the text after it. -/
def upTo (part : List Char) (s : List Char) : Option (List Char × List Char) :=
  (splitOnce part s).map fun (before, rest) => (before ++ part, rest)

end DiagramDesk.Text
