import DiagramDesk.Url.Percent
import DiagramDesk.Text.Trim

/-! Queries as lists of named values. In the written form a space is a plus sign, letters, digits
and four marks stand for themselves, and every other byte is escaped. -/
namespace DiagramDesk.Url

open Text

abbrev Pair := List Char × List Char

def formByte (b : UInt8) : List Char :=
  let c := Char.ofNat b.toNat
  if b < 128 && (c.isAlphanum || c == '*' || c == '-' || c == '.' || c == '_') then [c]
  else if c == ' ' then ['+']
  else escapeByte b

def formEscape (s : List Char) : List Char := (utf8 s).flatMap formByte

/-- Reads a component of a pair; bytes that are not text become replacement characters. -/
def formUnescape (s : List Char) : List Char :=
  utf8Lossy (unescape (s.map fun c => if c = '+' then ' ' else c))

def Pair.text (p : Pair) : List Char := formEscape p.1 ++ '=' :: formEscape p.2

/-- Reads a pair; without an equals sign the value is empty. -/
def Pair.read (s : List Char) : Pair :=
  (formUnescape (s.takeWhile (· != '=')), formUnescape ((s.dropWhile (· != '=')).drop 1))

def formText (pairs : List Pair) : List Char := join ['&'] (pairs.map Pair.text)

/-- The pairs of a query; empty parts are skipped. -/
def formPairs (query : List Char) : List Pair :=
  ((splitAll (· == '&') query).filter fun p => !p.isEmpty).map Pair.read

end DiagramDesk.Url
