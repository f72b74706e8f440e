import DiagramDesk.Text.Character

/-! Lines as an editor counts them. Besides line feeds and carriage returns, some other characters
end a line; the line keeps its ending, and behind the last ending there is one more line, which
may be empty. -/
namespace DiagramDesk.Text

def isLineBreak (c : Char) : Bool :=
  let n := c.toNat
  (0x0A ≤ n && n ≤ 0x0D) || n == 0x85 || n == 0x2028 || n == 0x2029

/-- The lines of a document with their endings; there is at least one. -/
def documentLines : List Char → List (List Char)
  | [] => [[]]
  | '\r' :: '\n' :: r => ['\r', '\n'] :: documentLines r
  | c :: r =>
    if isLineBreak c then [c] :: documentLines r
    else match documentLines r with
      | [] => [[c]]
      | l :: ls => (c :: l) :: ls

def lineCount (s : List Char) : Nat := (documentLines s).length

/-- What a line shows: everything up to a line feed or a carriage return. -/
def visible (line : List Char) : List Char := line.takeWhile fun c => c != '\n' && c != '\r'

end DiagramDesk.Text
