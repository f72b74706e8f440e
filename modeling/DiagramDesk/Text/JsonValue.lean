/-! Values in the notation that programs exchange data in, laid out for people to read: one entry
per line, two blanks per level. -/
namespace DiagramDesk

inductive JsonValue where
  | null
  | bool (b : Bool)
  | number (n : Nat)
  | text (s : String)
  | list (items : List JsonValue)
  | object (entries : List (String × JsonValue))

namespace JsonValue

def hexDigits (width n : Nat) : String :=
  let digits := Nat.toDigits 16 n
  "".pushn '0' (width - digits.length) ++ String.ofList digits

/-- A character inside quotes: quotes, backslashes and control characters are spelled out. -/
def quotedChar (c : Char) : String :=
  if c = '"' then "\\\""
  else if c = '\\' then "\\\\"
  else if c.toNat = 8 then "\\b"
  else if c.toNat = 9 then "\\t"
  else if c.toNat = 10 then "\\n"
  else if c.toNat = 12 then "\\f"
  else if c.toNat = 13 then "\\r"
  else if c.toNat < 32 then "\\u" ++ hexDigits 4 c.toNat
  else String.singleton c

def quoted (s : String) : String := "\"" ++ String.join (s.toList.map quotedChar) ++ "\""

def margin (level : Nat) : String := "\n" ++ "".pushn ' ' (2 * level)

def bracketed (opening closing : String) (level : Nat) (lines : List String) : String :=
  if lines.isEmpty then opening ++ closing
  else opening ++ ",".intercalate (lines.map (margin (level + 1) ++ ·)) ++ margin level ++ closing

mutual

def pretty (level : Nat) : JsonValue → String
  | null => "null"
  | bool b => if b then "true" else "false"
  | number n => toString n
  | text s => quoted s
  | list items => bracketed "[" "]" level (prettyItems (level + 1) items)
  | object entries => bracketed "\x7b" "\x7d" level (prettyEntries (level + 1) entries)

def prettyItems (level : Nat) : List JsonValue → List String
  | [] => []
  | v :: vs => pretty level v :: prettyItems level vs

def prettyEntries (level : Nat) : List (String × JsonValue) → List String
  | [] => []
  | (k, v) :: es => (quoted k ++ ": " ++ pretty level v) :: prettyEntries level es

end

def ofOption (f : α → JsonValue) : Option α → JsonValue
  | some a => f a
  | none => null

end JsonValue

end DiagramDesk
