import DiagramDesk.Text.Composed.Table
import DiagramDesk.Text.Hexadecimal

/-! The composed form of a text: marks stand in the order of their ranks, and a character that a
mark joins becomes one character with it wherever there is one. -/
namespace DiagramDesk.Text.Composed

/-! ### The tables -/

/-- A mark, a character that it joins, and what the two become. -/
structure Pair where
  base : Nat
  mark : Nat
  whole : Nat
  deriving DecidableEq, Repr

/-- The pairs of a word: a mark, then what it joins. -/
def pairsOfWord (word : List Char) : List Pair :=
  match splitOnce [':'] word with
  | none => []
  | some (mark, rest) => (splitAll (· == ',') rest).filterMap fun item =>
    (splitOnce ['='] item).map fun (base, whole) =>
      ⟨hexNumber base, hexNumber mark, hexNumber whole⟩

def pairs : List Pair := (words pairTable.toList).flatMap pairsOfWord

def ranksOfWord (word : List Char) : List ((Nat × Nat) × Nat) :=
  match splitOnce [':'] word with
  | none => []
  | some (rank, rest) =>
    let n := rank.foldl (fun n c => n * 10 + (c.toNat - 48)) 0
    (splitAll (· == ',') rest).map fun item => (codeRange item, n)

def ranks : List ((Nat × Nat) × Nat) := (words rankTable.toList).flatMap ranksOfWord

/-- The rank of a character, zero for all but some marks. -/
def rank (c : Char) : Nat :=
  if c.toNat < 0x300 then 0
  else ((ranks.find? fun r => r.1.1 ≤ c.toNat && c.toNat ≤ r.1.2).map (·.2)).getD 0

/-! ### Syllables that are composed by arithmetic -/

/-- The syllable made of an initial and a vowel, or of a syllable of two and a final. -/
def syllable? (a b : Nat) : Option Nat :=
  if 0x1100 ≤ a ∧ a ≤ 0x1112 ∧ 0x1161 ≤ b ∧ b ≤ 0x1175 then
    some (0xAC00 + ((a - 0x1100) * 21 + (b - 0x1161)) * 28)
  else if 0xAC00 ≤ a ∧ a ≤ 0xD7A3 ∧ (a - 0xAC00) % 28 = 0 ∧ 0x11A8 ≤ b ∧ b ≤ 0x11C2 then
    some (a + (b - 0x11A7))
  else none

def syllableParts? (n : Nat) : Option (Nat × Nat) :=
  if 0xAC00 ≤ n ∧ n ≤ 0xD7A3 then
    let i := n - 0xAC00
    if i % 28 = 0 then some (0x1100 + i / 28 / 21, 0x1161 + i / 28 % 21)
    else some (n - i % 28, 0x11A7 + i % 28)
  else none

/-! ### The composed form -/

def join? (a b : Char) : Option Char :=
  let whole : Option Nat := match syllable? a.toNat b.toNat with
    | some n => some n
    | none => (pairs.find? fun p => p.base == a.toNat && p.mark == b.toNat).map (·.whole)
  whole.map Char.ofNat

def parts (c : Char) : List Char :=
  let two : Option (Nat × Nat) := match syllableParts? c.toNat with
    | some two => some two
    | none => (pairs.find? fun p => p.whole == c.toNat).map fun p => (p.base, p.mark)
  match two with
  | some (a, b) => [Char.ofNat a, Char.ofNat b]
  | none => [c]

def takeApart (s : List Char) : List Char := Nat.repeat (fun s => s.flatMap parts) 3 s

/-- Puts a character before an ordered text: it moves behind the marks of a lower rank. -/
def settle (c : Char) (s : List Char) : List Char :=
  if rank c = 0 then c :: s
  else
    let isLower (d : Char) := 0 < rank d && rank d < rank c
    s.takeWhile isLower ++ c :: s.dropWhile isLower

/-- A text with each run of marks in the order of their ranks. -/
def ordered (s : List Char) : List Char := s.foldr settle []

/-- What composing knows between two characters: all that is done, the character that may be
joined, and the marks since then that did not join it. -/
structure Pass where
  finished : List Char := []
  base : Option Char := none
  marks : List Char := []
  deriving Repr

def Pass.text (p : Pass) : List Char := p.finished ++ p.base.toList ++ p.marks

/-- Takes a character: it joins the base unless a mark of its rank or a higher one is between. -/
def Pass.take (p : Pass) (c : Char) : Pass :=
  let isFree := p.marks.all fun m => rank m < rank c
  match (p.base.filter fun _ => isFree).bind (join? · c) with
  | some whole => { p with base := some whole }
  | none =>
    if rank c = 0 then { finished := p.text, base := some c, marks := [] }
    else { p with marks := p.marks ++ [c] }

def compose (s : List Char) : List Char := ((ordered (takeApart s)).foldl Pass.take {}).text

def isComposed (s : List Char) : Bool := compose s == s

end DiagramDesk.Text.Composed
