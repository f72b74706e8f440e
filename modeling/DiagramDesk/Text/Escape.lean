import DiagramDesk.Text.Trim

/-! Text inside markup. The characters that markup reserves are replaced by their names, one
character after the other. Every name begins with the first of them, which is therefore replaced
before any name is in the text. -/
namespace DiagramDesk.Text

/-- The reserved characters and their names, in the order in which they are replaced. -/
def reserved : List (Char × List Char) :=
  [('&', "&amp;".toList), ('<', "&lt;".toList), ('>', "&gt;".toList), ('"', "&quot;".toList)]

/-- Puts a name in the place of every occurrence of a character. -/
def replaceChar (c : Char) (name : List Char) (s : List Char) : List Char :=
  s.flatMap fun d => if d = c then name else [d]

/-- Carries out replacements, one on the result of the other. -/
def replaceInTurn (rules : List (Char × List Char)) (s : List Char) : List Char :=
  rules.foldl (fun s r => replaceChar r.1 r.2 s) s

def escapeMarkup (s : String) : String := String.ofList (replaceInTurn reserved s.toList)

end DiagramDesk.Text
