import DiagramDesk.Text.Hexadecimal
import DiagramDesk.Text.Utf8

/-! Percent escapes: a byte as a percent sign and two hexadecimal digits. Each part of a URL has
its own set of characters that must be escaped; what lies outside ASCII always is. Reading leaves
a percent sign alone that no two digits follow. -/
namespace DiagramDesk.Url

open Text

/-- The parts of a URL that differ in what they escape. -/
inductive Part where
  | opaquePath | fragment | query | specialQuery | path | userinfo
  deriving DecidableEq, Repr

/-- Control characters and whatever lies outside ASCII. -/
def isControl (c : Char) : Bool := c.toNat < 0x20 || 0x7F ≤ c.toNat

def Part.escapes (part : Part) (c : Char) : Bool :=
  isControl c || match part with
    | opaquePath => false
    | fragment => [' ', '"', '<', '>', '\x60'].contains c
    | query => [' ', '"', '#', '<', '>'].contains c
    | specialQuery => [' ', '"', '#', '<', '>', '\''].contains c
    | path => [' ', '"', '<', '>', '\x60', '#', '?', '{', '}'].contains c
    | userinfo => [' ', '"', '<', '>', '\x60', '#', '?', '{', '}', '/', ':', ';', '=', '@', '[',
        '\\', ']', '^', '|'].contains c

/-- An upper-case hexadecimal digit. -/
def hexDigit (n : Nat) : Char := if n < 10 then Char.ofNat (48 + n) else Char.ofNat (55 + n)

def escapeByte (b : UInt8) : List Char :=
  ['%', hexDigit (b.toNat / 16), hexDigit (b.toNat % 16)]

def Part.escape (part : Part) (s : List Char) : List Char :=
  s.flatMap fun c => if part.escapes c then (utf8 [c]).flatMap escapeByte else [c]

/-- The bytes of a text with its escapes resolved. -/
def unescape : List Char → List UInt8
  | '%' :: h :: l :: rest =>
    match hexDigit? h, hexDigit? l with
    | some h', some l' => UInt8.ofNat (h' * 16 + l') :: unescape rest
    | _, _ => utf8 ['%'] ++ unescape (h :: l :: rest)
  | c :: rest => utf8 [c] ++ unescape rest
  | [] => []

end DiagramDesk.Url
