import Std.Data.TreeMap
import DiagramDesk.Proofs.Codec.Zlib

/-! The compressor of the program. Copies are looked for lazily: one that was found waits for the
next byte, in case a longer one starts there. What is found makes one block, in the fixed code if
the content is short, else in codes of its own. The result is read back before it is used, and
where it is not the content, or not shorter, the bytes are stored as they are. -/
namespace DiagramDesk

namespace Piece

/-! ### Finding pieces -/

def minLength : Nat := 3
def maxLength : Nat := 258

/-- How far back a copy may start. -/
def maxDistance : Nat := 32768 - maxLength

def key (a b c : UInt8) : Nat := ((a.toNat <<< 10) ^^^ (b.toNat <<< 5) ^^^ c.toNat) % 32768

/-- How many bytes two byte strings have in common at their heads, up to a limit. -/
def agreement : Nat → List UInt8 → List UInt8 → Nat
  | limit + 1, a :: as, b :: bs => if a = b then agreement limit as bs + 1 else 0
  | _, _, _ => 0

/-- A position in some bytes: the bytes from there on, and the nearest earlier position with the
same number for its bytes; zero stands for none. -/
structure Spot where
  rest : List UInt8
  earlier : Nat

def spotsFrom : Nat → Std.TreeMap Nat Nat → List UInt8 → List Spot
  | _, _, [] => []
  | i, latest, a :: rest => match rest with
    | b :: c :: _ =>
      ⟨a :: rest, latest.getD (key a b c) 0⟩ :: spotsFrom (i + 1) (latest.insert (key a b c) i) rest
    | _ => ⟨a :: rest, 0⟩ :: spotsFrom (i + 1) latest rest

/-- Bytes that are cut into pieces, by their positions. -/
structure Window where
  spots : Array Spot

namespace Window

def rest (w : Window) (i : Nat) : List UInt8 := (w.spots[i]?.map (·.rest)).getD []

/-- The length and the distance of the longest copy for position `i`, among so many earlier
positions from `j` back, unless `found` is as long. -/
def longest (w : Window) (i limit : Nat) : Nat → Nat → Nat × Nat → Nat × Nat
  | 0, _, found => found
  | tries + 1, j, found =>
    let j := (w.spots[j]?.map (·.earlier)).getD 0
    if j = 0 ∨ maxDistance < i - j ∨ limit ≤ found.1 then found
    else
      let n := agreement limit (w.rest i) (w.rest j)
      longest w i limit tries j (if found.1 < n then (n, i - j) else found)

/-- How many earlier positions are tried for a copy. -/
def patience : Nat := 128

/-- From this length on, a copy does not wait for a longer one. -/
def longEnough : Nat := 128

/-- From this distance on, the shortest copies are not worth it. -/
def tooFar : Nat := 8192

/-- The copy to be used at position `i`: longer than `waiting`, or else none. -/
def copyAt (w : Window) (i waiting : Nat) : Option (Nat × Nat) :=
  let limit := min maxLength (w.spots.size - i)
  let (n, d) := w.longest i limit patience i (max (minLength - 1) waiting, 0)
  if d = 0 ∨ (n = minLength ∧ tooFar ≤ d) then none else some (n, d)

/-- The pieces from position `i` on, in so many turns. A copy may be waiting that starts one byte
before. -/
def pieces (w : Window) : Nat → Nat → Option (Nat × Nat) → List Piece
  | 0, _, _ => []
  | turns + 1, i, waiting => match w.rest i with
    | [] => []
    | byte :: _ => match w.copyAt i ((waiting.map (·.1)).getD 0), waiting with
      | some (n, d), waiting =>
        (if waiting.isSome then ((w.rest (i - 1)).take 1).map literal else []) ++
          if longEnough ≤ n then copy n d :: pieces w turns (i + n) none
          else pieces w turns (i + 1) (some (n, d))
      | none, some (n, d) => copy n d :: pieces w turns (i + n - 1) none
      | none, none => literal byte :: pieces w turns (i + 1) none

def cut (bytes : List UInt8) : List Piece :=
  pieces ⟨(spotsFrom 0 {} bytes).toArray⟩ (bytes.length + 1) 0 none

end Window

end Piece

namespace PrefixCode

/-! ### Codes for a content -/

def tally (n : Nat) (symbols : List Nat) : List Nat := (List.range n).map fun s => symbols.count s

/-- Puts something behind everything that weighs no more. -/
def place (x : Nat × α) : List (Nat × α) → List (Nat × α)
  | [] => [x]
  | y :: ys => if x.1 < y.1 then x :: y :: ys else y :: place x ys

def depths : Nat → List (Nat × List Nat) → List Nat
  | turns + 1, a :: b :: rest =>
    depths turns (place (a.1 + b.1, (a.2 ++ b.2).map (· + 1)) rest)
  | _, trees => trees.flatMap (·.2)

/-- Makes the word before the longest ones that can be split longer by one bit, in numbers of words
by their length, the longest first; a word of the same length comes in beside it. -/
def split : List Nat → List Nat
  | longer :: n :: rest =>
    if n = 0 then longer :: split (n :: rest) else (longer + 2) :: (n - 1) :: rest
  | ns => ns

/-- One of the longest words goes where another word is split. -/
def shorten : List Nat → List Nat
  | [] => []
  | n :: rest => split ((n - 1) :: rest)

/-- The share of all words of the greatest length, by numbers of words, the longest first. -/
def taken (numbers : List Nat) : Nat :=
  numbers.zipIdx.foldl (fun total (n, k) => total + n <<< k) 0

/-- Word lengths up to a limit for leaves of these depths, the longest first. -/
def fit (limit : Nat) (depths : List Nat) : List Nat :=
  let held := depths.map fun d => max 1 (min limit d)
  let numbers := (List.range limit).map fun k => held.count (limit - k)
  let numbers := Nat.repeat shorten (taken numbers - 1 <<< limit) numbers
  numbers.zipIdx.flatMap fun (n, k) => List.replicate n (limit - k)

/-- Word lengths up to a limit for symbols that occur so often: the more often, the shorter. -/
def lengthsFor (limit : Nat) (counts : List Nat) : List Nat :=
  let leaves := (counts.zipIdx.filter (·.1 ≠ 0)).foldl (fun sorted x => place x sorted) []
  let lengths := fit limit (depths leaves.length (leaves.map fun x => (x.1, [0])))
  let given := (leaves.map (·.2)).zip lengths
  (List.range counts.length).map fun s => (given.lookup s).getD 0

def words (lengths : List Nat) : Array (List Bool) :=
  let code := ofLengths lengths
  ((List.range lengths.length).map fun s => (code.word? s).getD []).toArray

end PrefixCode

namespace Deflate

/-! ### Blocks -/

/-- The place of the last band that starts at or below a number. -/
def bandIndex : List Band → Nat → Nat
  | [], _ => 0
  | [_], _ => 0
  | _ :: b :: bands, n => if b.base ≤ n then bandIndex (b :: bands) n + 1 else 0

/-- The bits of a number of some bands behind its symbol. -/
def offsetBits (bands : List Band) (n : Nat) : List Bool :=
  let band := bands[bandIndex bands n]?.getD ⟨0, 0⟩
  Bits.ofNat band.width (n - band.base)

def symbolOf : Piece → Nat
  | .literal b => b.toNat
  | .copy length _ => endOfBlock + 1 + bandIndex lengthBands length

def distanceSymbol? : Piece → Option Nat
  | .literal _ => none
  | .copy _ distance => some (bandIndex distanceBands distance)

def pieceBits (symbols distances : Array (List Bool)) (p : Piece) : List Bool :=
  symbols[symbolOf p]?.getD [] ++ match p with
    | .literal _ => []
    | .copy length distance =>
      offsetBits lengthBands length ++ distances[bandIndex distanceBands distance]?.getD [] ++
        offsetBits distanceBands distance

def contentBits (symbolLengths distanceLengths : List Nat) (pieces : List Piece) : List Bool :=
  let symbols := PrefixCode.words symbolLengths
  let distances := PrefixCode.words distanceLengths
  pieces.flatMap (pieceBits symbols distances) ++ symbols[endOfBlock]?.getD []

def fixedBlock (pieces : List Piece) : List Bool :=
  [true, true, false] ++ contentBits fixedSymbolLengths fixedDistanceLengths pieces

/-- A symbol of the code for lengths, with the number behind it and the width of that. -/
structure LengthMark where
  symbol : Nat
  width : Nat := 0
  number : Nat := 0

def zeroMarks (n : Nat) : List LengthMark :=
  let rest := n % 138
  List.replicate (n / 138) ⟨18, 7, 127⟩ ++
    if rest < 3 then List.replicate rest ⟨0, 0, 0⟩
    else if rest < 11 then [⟨17, 3, rest - 3⟩] else [⟨18, 7, rest - 11⟩]

def againMarks (length n : Nat) : List LengthMark :=
  let rest := n % 6
  List.replicate (n / 6) ⟨16, 2, 3⟩ ++
    if rest < 3 then List.replicate rest ⟨length, 0, 0⟩ else [⟨16, 2, rest - 3⟩]

def lengthMarks (lengths : List Nat) : List LengthMark :=
  (lengths.splitBy (· == ·)).flatMap fun run => match run with
    | [] => []
    | 0 :: more => zeroMarks (more.length + 1)
    | length :: more => ⟨length, 0, 0⟩ :: againMarks length more.length

/-- How many numbers there are up to the last one that is not zero. -/
def usedLength (ns : List Nat) : Nat := (ns.reverse.dropWhile (· == 0)).length

def ownBlock (pieces : List Piece) : List Bool :=
  let symbolLengths := PrefixCode.lengthsFor PrefixCode.maxLength
    (PrefixCode.tally 286 (endOfBlock :: pieces.map symbolOf))
  let distanceLengths := PrefixCode.lengthsFor PrefixCode.maxLength
    (PrefixCode.tally 30 (pieces.filterMap distanceSymbol?))
  let symbols := max 257 (usedLength symbolLengths)
  let distances := max 1 (usedLength distanceLengths)
  let marks := lengthMarks (symbolLengths.take symbols ++ distanceLengths.take distances)
  let markLengths := PrefixCode.lengthsFor 7 (PrefixCode.tally 19 (marks.map (·.symbol)))
  let ordered := lengthOrder.map fun s => markLengths[s]?.getD 0
  let given := max 4 (usedLength ordered)
  let markWords := PrefixCode.words markLengths
  [true, false, true] ++ Bits.ofNat 5 (symbols - 257) ++ Bits.ofNat 5 (distances - 1) ++
    Bits.ofNat 4 (given - 4) ++ (ordered.take given).flatMap (Bits.ofNat 3) ++
    marks.flatMap (fun m => markWords[m.symbol]?.getD [] ++ Bits.ofNat m.width m.number) ++
    contentBits symbolLengths distanceLengths pieces

end Deflate

namespace Zlib

/-- A content shorter than this goes into the fixed code. -/
def shortContent : Nat := 48

/-- A content up to this length is never stored for being short. -/
def neverStored : Nat := 32

/-- Bytes in one block, if that is shorter than they are. -/
def packedBlock? (bytes : List UInt8) : Option (List UInt8) :=
  let pieces := Piece.Window.cut bytes
  let bits := if bytes.length < shortContent then Deflate.fixedBlock pieces
    else Deflate.ownBlock pieces
  if bytes.length ≤ neverStored ∨ bits.length / 8 + 1 < bytes.length then some (Bits.toBytes bits)
  else none

/-- Bytes in a stream of one block, if they are read back from it. -/
def packed? (bytes : List UInt8) : Option (List UInt8) :=
  ((packedBlock? bytes).map (header ++ · ++ checksum bytes)).filter fun stream =>
    decompress? stream = some bytes

def packer : Compressor where
  compress bytes := (packed? bytes).getD (stored bytes)
  header_prefix bytes := by
    cases h : packed? bytes with
    | none => exact ⟨_, (List.append_assoc ..).symm⟩
    | some stream =>
      obtain ⟨⟨block, -, rfl⟩, -⟩ : (∃ block, packedBlock? bytes = some block ∧
          header ++ block ++ checksum bytes = stream) ∧ _ := by
        simpa [packed?, Option.filter_eq_some_iff] using h
      exact ⟨_, (List.append_assoc ..).symm⟩
  decompress?_compress bytes := by
    cases h : packed? bytes with
    | none => exact decompress?_stored bytes
    | some stream =>
      obtain ⟨-, hread⟩ : _ ∧ decompress? stream = some bytes := by
        simpa [packed?, Option.filter_eq_some_iff] using h
      exact hread

theorem packer_compress {bytes block : List UInt8} (hblock : packedBlock? bytes = some block)
    (hread : decompress? (header ++ block ++ checksum bytes) = some bytes) :
    packer.compress bytes = header ++ block ++ checksum bytes := by
  have hpacked : packed? bytes = some (header ++ block ++ checksum bytes) := by
    rw [packed?, hblock, Option.map_some, Option.filter_some, if_pos (decide_eq_true hread)]
  exact congrArg (·.getD (stored bytes)) hpacked

end Zlib

end DiagramDesk
