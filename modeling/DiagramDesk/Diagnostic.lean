import DiagramDesk.Text.Document

/-! Marks in the text of an editor. A mark covers what its line shows; where the line shows
nothing it covers one character, so that there is something to see. -/
namespace DiagramDesk

open Text

/-- A marked range of characters, with the line it stands on, counted from one. -/
structure Diagnostic where
  start : Nat
  stop : Nat
  line : Nat
  message : String
  deriving DecidableEq, Repr

namespace Diagnostic

/-- The characters that a line shows, by the index of the line; at least one. -/
def lineRange (source : List Char) (i : Nat) : Nat × Nat :=
  let ls := documentLines source
  let start := (ls.take i).foldr (fun l n => l.length + n) 0
  (start, start + max 1 (visible (ls[i]?.getD [])).length)

/-- The mark for a failure in a line of a text. Without a line it is the first; a line that the
text does not have gives one character at the start. -/
def ofFailure (source : String) (line : Option Nat) (message : String) : Diagnostic :=
  let text := source.toList
  match line with
  | none =>
    let (a, b) := lineRange text 0
    ⟨a, b, 1, message⟩
  | some n =>
    if 1 ≤ n ∧ n ≤ lineCount text then
      let (a, b) := lineRange text (n - 1)
      ⟨a, b, n, message⟩
    else ⟨0, 1, 1, message⟩

end Diagnostic

end DiagramDesk
