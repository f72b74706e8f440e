import DiagramDesk.Text.Trim
import DiagramDesk.Url.Domain
import DiagramDesk.Url.Percent

/-! Hosts: domain names, numeric addresses of four bytes and of eight pieces, and names
under a scheme whose rules are not known, which are taken as they are. -/
namespace DiagramDesk.Url

open Text

inductive Fault where
  | emptyHost | domainName | domainCharacter | port | address4 | address6
  | noBase | opaqueBase
  deriving DecidableEq, Repr

def Fault.message : Fault → String
  | emptyHost => "empty host"
  | domainName => "invalid international domain name"
  | domainCharacter => "invalid domain character"
  | port => "invalid port number"
  | address4 => "invalid IPv4 address"
  | address6 => "invalid IPv6 address"
  | noBase => "relative URL without a base"
  | opaqueBase => "relative URL with a cannot-be-a-base base"

inductive Host where
  | domain (name : List Char)
  | address4 (value : Nat)
  | address6 (pieces : List Nat)
  deriving DecidableEq, Repr

/-! ### Addresses of four bytes -/

/-- What a part of a numeric address says: nothing, a number too large, or a number. -/
inductive Numeral where
  | invalid | tooLarge | value (n : Nat)
  deriving DecidableEq, Repr

def digitsValue? (base : Nat) (s : List Char) : Option Nat :=
  s.foldl (fun acc c => acc.bind fun n => match hexDigit? c with
    | some d => if d < base then some (n * base + d) else none
    | none => none) (some 0)

/-- Reads a part: hexadecimal behind `0x`, octal behind a zero, else decimal. -/
def numeral (s : List Char) : Numeral :=
  let (base, digits) : Nat × List Char := match s with
    | '0' :: 'x' :: r => (16, r)
    | '0' :: 'X' :: r => (16, r)
    | '0' :: c :: r => (8, c :: r)
    | s => (10, s)
  if s.isEmpty then .invalid
  else match digitsValue? base digits with
    | none => .invalid
    | some n => if n < 0x100000000 then .value n else .tooLarge

def dotParts (name : List Char) : List (List Char) :=
  let parts := splitAll (· == '.') name
  if parts.getLast? = some [] then parts.dropLast else parts

/-- Whether the last part of a name is a number, so that the whole must be an address. -/
def endsInNumber (name : List Char) : Bool :=
  match (dotParts name).getLast? with
  | none => false
  | some last => (!last.isEmpty && last.all Char.isDigit) || numeral last ≠ .invalid

/-- An address from up to four numbers: the last fills all bytes that are left. -/
def address4? (numbers : List Nat) : Option Nat :=
  match numbers.getLast? with
  | none => none
  | some last =>
    let heads := numbers.dropLast
    if numbers.length ≤ 4 ∧ last < 1 <<< (8 * (4 - heads.length)) ∧ heads.all (· ≤ 255) then
      some (heads.zipIdx.foldr (fun (n, i) rest => n <<< (8 * (3 - i)) + rest) last)
    else none

def readAddress4 (name : List Char) : Except Fault Nat :=
  let numbers := (dotParts name).mapM fun p => match numeral p with
    | .value n => some n
    | _ => none
  match numbers.bind address4? with
  | some n => .ok n
  | none => .error .address4

def decimalText (n : Nat) : List Char := Nat.toDigits 10 n

def address4Text (n : Nat) : List Char :=
  join ['.'] ([n >>> 24 % 256, n >>> 16 % 256, n >>> 8 % 256, n % 256].map decimalText)

/-! ### Addresses of eight pieces -/

def piece? (s : List Char) : Option Nat :=
  if 1 ≤ s.length ∧ s.length ≤ 4 then digitsValue? 16 s else none

def byte? (s : List Char) : Option Nat :=
  let plain := s.length == 1 || (2 ≤ s.length && s.length ≤ 3 && s.head? != some '0')
  if s.all Char.isDigit && plain then
    (digitsValue? 10 s).filter (· ≤ 255)
  else none

/-- Reads the pieces of one side; the last may be an address of four bytes, if `tail` allows. -/
def pieces? (tail : Bool) : List (List Char) → Option (List Nat)
  | [] => some []
  | [s] =>
    if tail && s.contains '.' then
      match (splitAll (· == '.') s).mapM byte? with
      | some [a, b, c, d] => some [a * 256 + b, c * 256 + d]
      | _ => none
    else (piece? s).map ([·])
  | s :: rest => do return (← piece? s) :: (← pieces? tail rest)

def side? (tail : Bool) (s : List Char) : Option (List Nat) :=
  if s.isEmpty then some [] else pieces? tail (splitAll (· == ':') s)

/-- Reads an address of eight pieces; a double colon stands for one or more zero pieces. -/
def readAddress6 (s : List Char) : Except Fault (List Nat) :=
  let pieces := match splitOnce [':', ':'] s with
    | none => (side? true s).filter (·.length = 8)
    | some (left, right) => do
      let l ← side? false left
      let r ← side? true right
      if l.length + r.length ≤ 7 then
        some (l ++ List.replicate (8 - l.length - r.length) 0 ++ r)
      else none
  match pieces with
  | some ps => .ok ps
  | none => .error .address6

def zeroRun (ps : List Nat) : Nat := (ps.takeWhile (· == 0)).length

/-- Where the first longest run of zeros starts, and its length. -/
def longestZeros (ps : List Nat) : Nat × Nat :=
  (List.range ps.length).foldl (fun best i =>
    let n := zeroRun (ps.drop i)
    if best.2 < n then (i, n) else best) (0, 0)

def pieceText (n : Nat) : List Char := Nat.toDigits 16 n

/-- The pieces between colons; the first longest run of two or more zeros is a double colon. -/
def address6Text (ps : List Nat) : List Char :=
  let (start, n) := longestZeros ps
  if n < 2 then join [':'] (ps.map pieceText)
  else join [':'] ((ps.take start).map pieceText) ++ [':', ':'] ++
    join [':'] ((ps.drop (start + n)).map pieceText)

/-! ### Names -/

def forbiddenInDomain (c : Char) : Bool :=
  c.toNat ≤ 0x20 || c.toNat == 0x7F ||
    ['%', '#', '/', ':', '<', '>', '?', '@', '[', '\\', ']', '^', '|'].contains c

/-- Characters that no name under an unknown scheme may hold. -/
def forbiddenInName (c : Char) : Bool :=
  [Char.ofNat 0, '\t', '\n', '\r', ' ', '#', '/', ':', '<', '>', '?', '@', '[', '\\', ']', '^',
    '|'].contains c

def readBracketed (s : List Char) : Except Fault Host :=
  if endsWith s [']'] then (readAddress6 ((s.drop 1).dropLast)).map .address6
  else .error .address6

/-- Reads a host under a scheme with known rules: escapes are resolved, and the name must be one
of a domain. -/
def Host.read (s : List Char) : Except Fault Host :=
  if s.head? = some '[' then readBracketed s
  else
    match (ofUtf8? (unescape s)).bind fun name => Domain.ofText? name.toList with
    | none => .error .domainName
    | some name =>
      if name.any forbiddenInDomain then .error .domainName
      else if name.isEmpty then .error .emptyHost
      else if endsInNumber name then (readAddress4 name).map .address4
      else .ok (.domain name)

/-- Reads a host under a scheme whose rules are not known. -/
def Host.readOpaque (s : List Char) : Except Fault Host :=
  if s.head? = some '[' then readBracketed s
  else if s.any forbiddenInName then .error .domainCharacter
  else .ok (.domain (Part.opaquePath.escape s))

def Host.text : Host → List Char
  | domain name => name
  | address4 n => address4Text n
  | address6 ps => '[' :: address6Text ps ++ [']']

end DiagramDesk.Url
