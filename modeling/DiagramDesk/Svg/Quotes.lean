import DiagramDesk.Text.Trim

/-! Double quotes inside the values of font family attributes, which some engines leave there and
which no reader of markup accepts. Inside a value a double quote is the closing one only if the
value can end there; any other becomes a single quote. -/
namespace DiagramDesk.Svg

open Text

/-- What stands before each value. -/
def fontFamilyMark : List Char := "font-family=\"".toList

/-- Whether a double quote before this text closes a value: at the end, before a slash, a space, a
closing bracket or a character outside ASCII. -/
def closesBefore : List Char → Bool
  | [] => true
  | c :: _ => c == '>' || c == ' ' || c == '/' || 128 ≤ c.toNat

def mendQuotes (inside : Bool) : List Char → List Char
  | [] => []
  | c :: s =>
    if inside then
      if c = '"' then
        if closesBefore s then '"' :: mendQuotes false s else Char.ofNat 39 :: mendQuotes true s
      else c :: mendQuotes true s
    else if startsWith (c :: s) fontFamilyMark then
      fontFamilyMark ++ mendQuotes true (s.drop (fontFamilyMark.length - 1))
    else c :: mendQuotes false s
termination_by s => s.length
decreasing_by all_goals simp only [List.length_drop, List.length_cons]; omega

def mendFontFamilies (svg : String) : String := String.ofList (mendQuotes false svg.toList)

end DiagramDesk.Svg
