import DiagramDesk.Color.Names
import DiagramDesk.Number.Single
import DiagramDesk.Text.Hexadecimal

/-! Colors as they are written in style sheets: hexadecimal digits, names, and the notation with
one component after the other. A component is a number, a percentage, or the word for none. -/
namespace DiagramDesk

open Text

structure Color where
  red : Nat
  green : Nat
  blue : Nat
  alpha : Nat := 255
  deriving DecidableEq, Repr

namespace Color

/-- The opaque color with a number: red, green and blue, one byte each. -/
def ofNumber (n : Nat) : Color := ⟨n / 65536 % 256, n / 256 % 256, n % 256, 255⟩

/-! ### Hexadecimal digits -/

/-- A color of three or four digits, which stand for themselves twice, or of six or eight. -/
def ofDigits? : List Nat → Option Color
  | [r, g, b] => some ⟨r * 17, g * 17, b * 17, 255⟩
  | [r, g, b, a] => some ⟨r * 17, g * 17, b * 17, a * 17⟩
  | [r, r', g, g', b, b'] => some ⟨r * 16 + r', g * 16 + g', b * 16 + b', 255⟩
  | [r, r', g, g', b, b', a, a'] =>
    some ⟨r * 16 + r', g * 16 + g', b * 16 + b', a * 16 + a'⟩
  | _ => none

def ofHex? (s : List Char) : Option Color := (s.mapM hexDigit?).bind ofDigits?

/-! ### Names -/

/-- A color by its name, which is also the word for no color at all. -/
def ofName? (s : List Char) : Option Color :=
  let name := String.ofList (s.map lowerAscii)
  if name = "transparent" then some ⟨0, 0, 0, 0⟩
  else (namedColors.find? fun p => p.1 = name).map fun p => ofNumber p.2

/-! ### Components -/

inductive Component where
  | number (value : Binary.Value)
  | percent (value : Binary.Value)
  | none
  deriving DecidableEq, Repr

/-- A value as a byte, where `full` stands for all of it: its share in 64 bits, held between zero
and one, then rounded to 32 bits, times 255, and with a half added, each in 32 bits; the whole part
of that is the byte. -/
def byteOf (full : Nat) (v : Binary.Value) : Nat :=
  let part := Binary.Format.double.decode (Binary.Format.double.roundRatio 1 full)
  let share := Binary.Format.double.decode (Binary.Format.double.encode (v.mul part))
  let scaled := (Single.ofValue share.heldInUnit).mul (Single.ofNat 255)
  (Single.ofValue (scaled.value.add (.finite false 1 (-1)))).value.wholeWithin 255

/-- A component as a byte, where `full` is the number that stands for all of it. -/
def Component.byte (full : Nat) : Component → Nat
  | number v => byteOf full v
  | percent v => byteOf 100 v
  | none => 0

/-- The number at the head of a text, without a mark for percent, and what follows. -/
def numeral? (s : List Char) : Option (Binary.Value × List Char) :=
  let (sign, s) := match s with
    | '+' :: r => (['+'], r)
    | '-' :: r => (['-'], r)
    | r => ([], r)
  let whole := s.takeWhile Char.isDigit
  let s := s.dropWhile Char.isDigit
  let (places, s) := match s with
    | '.' :: r => if (r.takeWhile Char.isDigit).isEmpty then ([], s)
        else ('.' :: r.takeWhile Char.isDigit, r.dropWhile Char.isDigit)
    | r => ([], r)
  let (power, s) := match s with
    | c :: r =>
      let (sign, r) := match r with
        | '+' :: r => (['+'], r)
        | '-' :: r => (['-'], r)
        | r => ([], r)
      if (c = 'e' ∨ c = 'E') ∧ !(r.takeWhile Char.isDigit).isEmpty then
        (c :: sign ++ r.takeWhile Char.isDigit, r.dropWhile Char.isDigit)
      else ([], s)
    | [] => ([], [])
  (Binary.Format.double.read? (sign ++ whole ++ places ++ power)).map fun bits =>
    (Binary.Format.double.decode bits, s)

def isNameChar (c : Char) : Bool := c.isAlphanum || c == '-' || c == '_'

/-- Whether a row of word characters is a word: it begins with no digit, and a dash in front is
followed by something other than a dash or a digit. -/
def isName : List Char → Bool
  | [] => false
  | ['-'] => false
  | '-' :: c :: _ => c != '-' && !c.isDigit
  | c :: _ => !c.isDigit

def name? (s : List Char) : Option (List Char × List Char) :=
  let name := s.takeWhile isNameChar
  if isName name then some (name, s.dropWhile isNameChar) else none

/-- A text without the blanks and comments in front; the flag tells whether it starts inside a
comment. -/
def skipGap : Bool → List Char → List Char
  | true, '*' :: '/' :: rest => skipGap false rest
  | true, _ :: rest => skipGap true rest
  | false, '/' :: '*' :: rest => skipGap true rest
  | false, c :: rest =>
    if [' ', '\t', '\r', '\n'].contains c then skipGap false rest else c :: rest
  | _, [] => []

def component? (s : List Char) : Option (Component × List Char) :=
  let s := skipGap false s
  match numeral? s with
  | some (v, '%' :: rest) => some (.percent v, rest)
  | some (v, rest) => if (name? rest).isSome then none else some (.number v, rest)
  | none => match name? s with
    | some (name, rest) =>
      if String.ofList (name.map lowerAscii) = "none" then some (.none, rest) else none
    | none => none

/-- What follows a mark, which a gap may precede. -/
def afterMark? (mark : Char) (s : List Char) : Option (List Char) :=
  match skipGap false s with
  | c :: rest => if c = mark then some rest else none
  | [] => none

/-- A color in components: separated by commas throughout, or by nothing at all with a slash before
the last one, which may be left out. -/
def ofComponents? (s : List Char) : Option Color := do
  let (r, s) ← component? s
  let commas := (afterMark? ',' s).isSome
  let gap (s : List Char) : Option (List Char) := if commas then afterMark? ',' s else some s
  let (g, s) ← component? (← gap s)
  let (b, s) ← component? (← gap s)
  let (a, s) ← match afterMark? (if commas then ',' else '/') s with
    | some s => (component? s).map fun (a, s) => (a.byte 1, s)
    | none => some (255, s)
  match ← afterMark? ')' s with
  | [] => return ⟨r.byte 255, g.byte 255, b.byte 255, a⟩
  | _ => none

/-- A color as it is written in a style sheet, blanks around it aside. -/
def ofCss? (text : String) : Option Color :=
  match trim text.toList with
  | '#' :: digits => ofHex? digits
  | s => match name? s with
    | some (name, []) => ofName? name
    | some (name, '(' :: rest) =>
      if ["rgb", "rgba"].contains (String.ofList (name.map lowerAscii)) then ofComponents? rest
      else none
    | _ => none

end Color

end DiagramDesk
