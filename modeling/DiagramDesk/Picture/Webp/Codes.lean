import DiagramDesk.Codec.Deflate

/-! Prefix codes in front of the pixels they spell. A code of one or two symbols names them; any
other gives the lengths of its words, in words of a code for lengths. A symbol that stands alone
takes no bits. -/
namespace DiagramDesk.Webp

/-- The code with these word lengths: a lone symbol, or a full tree. -/
def code? (lengths : List Nat) : Option PrefixCode :=
  match lengths.zipIdx.filter (·.1 ≠ 0) with
  | [(_, symbol)] => some (.leaf symbol)
  | _ => if PrefixCode.full lengths then some (.ofLengths lengths) else none

def readNamed? (symbols : Nat) (bits : List Bool) : Option (PrefixCode × List Bool) := do
  let (more, bits) ← Bits.read? 1 bits
  let (wide, bits) ← Bits.read? 1 bits
  let (first, bits) ← Bits.read? (if wide = 1 then 8 else 1) bits
  if symbols ≤ first then failure
  else if more = 0 then return (.leaf first, bits)
  else
    let (second, bits) ← Bits.read? 8 bits
    if symbols ≤ second then failure
    else return (.node (.leaf first) (.leaf second), bits)

/-- The order in which the lengths of the code for lengths are given. -/
def lengthOrder : List Nat :=
  [17, 18, 0, 1, 2, 3, 4, 5, 16, 6, 7, 8, 9, 10, 11, 12, 13, 14, 15]

/-- Reads at most so many words, each of which gives a length or several equal ones, behind the
lengths that are known. The last length that is not zero is handed along. -/
def readLengths? (code : PrefixCode) (symbols : Nat) :
    Nat → Nat → Array Nat → List Bool → Option (Array Nat × List Bool)
  | 0, _, lengths, bits => some (lengths, bits)
  | left + 1, last, lengths, bits =>
    if symbols ≤ lengths.size then some (lengths, bits)
    else do
      let (word, bits) ← code.read? bits
      if word < 16 then
        readLengths? code symbols left (if word = 0 then last else word) (lengths.push word) bits
      else
        let (length, least, width) := match word with
          | 16 => (last, 3, 2)
          | 17 => (0, 3, 3)
          | _ => (0, 11, 7)
        let (more, bits) ← Bits.read? width bits
        if symbols < lengths.size + least + more then failure
        else
          let lengths := lengths ++ Array.replicate (least + more) length
          readLengths? code symbols left last lengths bits

def readWordCount? (symbols : Nat) (bits : List Bool) : Option (Nat × List Bool) := do
  let (told, bits) ← Bits.read? 1 bits
  if told = 0 then return (symbols, bits)
  else
    let (n, bits) ← Bits.read? 3 bits
    let (count, bits) ← Bits.read? (2 + 2 * n) bits
    if symbols < count + 2 then failure else return (count + 2, bits)

def readCode? (symbols : Nat) (bits : List Bool) : Option (PrefixCode × List Bool) := do
  let (named, bits) ← Bits.read? 1 bits
  if named = 1 then readNamed? symbols bits
  else
    let (n, bits) ← Bits.read? 4 bits
    let (given, bits) ← Deflate.readTriples? (n + 4) bits
    let places := lengthOrder.zip given
    let code ← code? ((List.range 19).map fun s => ((places.find? (·.1 = s)).map (·.2)).getD 0)
    let (count, bits) ← readWordCount? symbols bits
    let (lengths, bits) ← readLengths? code symbols count 8 #[] bits
    return (← code? lengths.toList, bits)

end DiagramDesk.Webp
