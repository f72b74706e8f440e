/-! Canonical prefix codes. A code is given by the length of the word of each symbol, zero for a
symbol without one; words of one length follow each other in the order of their symbols, shorter
words before longer ones. Read as a binary tree, the leaves from left to right are the symbols in
that order. -/
namespace DiagramDesk

/-- A prefix code: a word is a path from the root to a leaf. A gap is a path no word takes. -/
inductive PrefixCode where
  | gap
  | leaf (symbol : Nat)
  | node (zero one : PrefixCode)
  deriving Repr

namespace PrefixCode

def maxLength : Nat := 15

def read? : PrefixCode → List Bool → Option (Nat × List Bool)
  | gap, _ => none
  | leaf s, bits => some (s, bits)
  | node _ _, [] => none
  | node zero one, b :: bits => if b then one.read? bits else zero.read? bits

def word? : PrefixCode → Nat → Option (List Bool)
  | gap, _ => none
  | leaf s, t => if s = t then some [] else none
  | node zero one, t => match zero.word? t with
    | some w => some (false :: w)
    | none => (one.word? t).map (true :: ·)

/-- The symbols that have a word, as pairs of length and symbol in canonical order. -/
def sorted (lengths : List Nat) : List (Nat × Nat) :=
  ((List.range maxLength).map (· + 1)).flatMap fun n =>
    lengths.zipIdx.filterMap fun (l, s) => if l = n then some (l, s) else none

/-- Hangs symbols into the tree from left to right, each at the depth of its length. The first
number bounds what is left of the height. -/
def grow : Nat → Nat → List (Nat × Nat) → PrefixCode × List (Nat × Nat)
  | _, _, [] => (gap, [])
  | 0, _, (_, s) :: rest => (leaf s, rest)
  | height + 1, depth, (l, s) :: rest =>
    if l ≤ depth then (leaf s, rest)
    else
      let (zero, rest) := grow height (depth + 1) ((l, s) :: rest)
      let (one, rest) := grow height (depth + 1) rest
      (node zero one, rest)

/-- The share of all words of the greatest length that the words of a code take up, counted so
that a full tree gives two to the power of that length. -/
def weight (lengths : List Nat) : Nat :=
  lengths.foldr (fun l n => (if l = 0 then 0 else 1 <<< (maxLength - l)) + n) 0

/-- Whether every path from the root ends in exactly one word. -/
def full (lengths : List Nat) : Bool := weight lengths == 1 <<< maxLength

def ofLengths (lengths : List Nat) : PrefixCode := (grow maxLength 0 (sorted lengths)).1

/-- Whether there is no word at all, or a single word of one bit. -/
def lone (lengths : List Nat) : Bool :=
  lengths.all (· ≤ 1) && (lengths.filter (· ≠ 0)).length ≤ 1

/-- The code with these word lengths, if the tree is full or next to empty. -/
def ofLengths? (lengths : List Nat) : Option PrefixCode :=
  if full lengths || lone lengths then some (ofLengths lengths) else none

end PrefixCode

end DiagramDesk
