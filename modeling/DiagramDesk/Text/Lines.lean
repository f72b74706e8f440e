import DiagramDesk.Text.Trim

/-! Lines of a source text. A line ends at a line feed, and a carriage return right before that
feed belongs to the ending; a carriage return anywhere else is an ordinary character. The text
after the last feed is a line only if it is not empty. -/
namespace DiagramDesk.Text

/-- The lines of a text, without their endings. -/
def lines : List Char → List (List Char)
  | [] => []
  | '\n' :: r => [] :: lines r
  | '\r' :: '\n' :: r => [] :: lines r
  | c :: r => match lines r with
    | [] => [[c]]
    | l :: ls => (c :: l) :: ls

/-- Every line followed by a line feed. -/
def unlines (ls : List (List Char)) : List Char := ls.flatMap (· ++ ['\n'])

end DiagramDesk.Text
