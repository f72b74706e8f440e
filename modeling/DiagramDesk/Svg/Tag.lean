import DiagramDesk.Text.Scan

/-! The parts of markup: names, tags with their attributes, remarks and instructions. Each reader
takes the text behind the characters that announce a part, and gives the part with what follows. -/
namespace DiagramDesk.Svg

open Text

def isGap (c : Char) : Bool := c == ' ' || c == '\t' || c == '\n' || c == '\r'

def nameStarts : List (Nat × Nat) :=
  [(0x3A, 0x3A), (0x41, 0x5A), (0x5F, 0x5F), (0x61, 0x7A), (0xC0, 0xD6), (0xD8, 0xF6),
   (0xF8, 0x2FF), (0x370, 0x37D), (0x37F, 0x1FFF), (0x200C, 0x200D), (0x2070, 0x218F),
   (0x2C00, 0x2FEF), (0x3001, 0xD7FF), (0xF900, 0xFDCF), (0xFDF0, 0xFFFD), (0x10000, 0xEFFFF)]

def nameParts : List (Nat × Nat) :=
  [(0x2D, 0x2E), (0x30, 0x39), (0xB7, 0xB7), (0x300, 0x36F), (0x203F, 0x2040)]

def isIn (ranges : List (Nat × Nat)) (c : Char) : Bool :=
  ranges.any fun r => r.1 ≤ c.toNat && c.toNat ≤ r.2

def isNameStart (c : Char) : Bool := isIn nameStarts c

def isNamePart (c : Char) : Bool := isIn nameStarts c || isIn nameParts c

/-- Whether a character can stand in markup at all. -/
def isAllowed (c : Char) : Bool :=
  isGap c || (0x20 ≤ c.toNat && c.toNat != 0xFFFE && c.toNat != 0xFFFF)

def gap? (s : List Char) : Option (List Char) := match s with
  | c :: rest => if isGap c then some (rest.dropWhile isGap) else none
  | [] => none

def name? (s : List Char) : Option (List Char × List Char) := match s with
  | c :: _ => if isNameStart c then some (s.span isNamePart) else none
  | [] => none

/-- A name of an element or an attribute: the prefix before the colon, which may be missing, and
what is behind it. -/
structure Label where
  head : List Char
  base : List Char
  deriving DecidableEq, Repr

/-- The label that a row of name characters makes: it has one colon at most, and its parts start
like names. -/
def Label.ofName? (name : List Char) : Option Label :=
  let label : Label := match splitOnce [':'] name with
    | some (head, base) => ⟨head, base⟩
    | none => ⟨[], name⟩
  if !label.base.contains ':' && (label.head.head?.map isNameStart).getD true &&
      (label.base.head?.map isNameStart).getD false then some label
  else none

def label? (s : List Char) : Option (Label × List Char) :=
  let (name, rest) := s.span isNamePart
  (Label.ofName? name).map (·, rest)

def quoted? (s : List Char) : Option (List Char × List Char) := match s with
  | q :: rest => if q == '"' || q.toNat == 39 then splitOnce [q] rest else none
  | [] => none

structure Attribute where
  label : Label
  value : List Char
  deriving DecidableEq, Repr

def attribute? (s : List Char) : Option (Attribute × List Char) := do
  let (label, s) ← label? s
  match s.dropWhile isGap with
  | '=' :: s =>
    let (value, rest) ← quoted? (s.dropWhile isGap)
    if value.all fun c => c != '<' && isAllowed c then return (⟨label, value⟩, rest) else failure
  | _ => failure

/-- The end of a tag: the attributes, each behind a gap, whether the tag closes itself, and what
follows. -/
def attributes? (s : List Char) : Option (List Attribute × Bool × List Char) :=
  match s.dropWhile isGap with
  | '>' :: rest => some ([], false, rest)
  | '/' :: '>' :: rest => some ([], true, rest)
  | t =>
    if t.length < s.length then do
      let (a, rest) ← attribute? t
      if rest.length < s.length then
        let (as, closed, rest) ← attributes? rest
        return (a :: as, closed, rest)
      else none
    else none
termination_by s.length
decreasing_by assumption

inductive Piece where
  | opening (label : Label) (attributes : List Attribute) (closed : Bool)
  | closing (label : Label)
  | text (content : List Char)
  | aside
  deriving Repr

def opening? (s : List Char) : Option (Piece × List Char) := do
  let (label, s) ← label? s
  let (attributes, closed, rest) ← attributes? s
  return (.opening label attributes closed, rest)

def closing? (s : List Char) : Option (Piece × List Char) := do
  let (label, s) ← label? s
  match s.dropWhile isGap with
  | '>' :: rest => return (.closing label, rest)
  | _ => failure

/-- What follows a remark, read from behind its opening mark. Two dashes in a row can only be those
of its end. -/
def afterRemark? (s : List Char) : Option (List Char) := do
  let (content, rest) ← splitOnce "--".toList s
  match rest with
  | '>' :: rest => if content.all isAllowed then return rest else failure
  | _ => failure

/-- What follows an instruction, read from behind its opening mark: it starts with a name. A
declaration of the markup itself is none. -/
def afterInstruction? (s : List Char) : Option (List Char) := do
  if startsWith s "xml ".toList then failure
  let (_, s) ← name? s
  let (content, rest) ← splitOnce "?>".toList s
  if content.all isAllowed then return rest else failure

/-- What follows the remark or instruction at the head of a text, if there is one; nothing follows
one that is broken. -/
def afterAside? (s : List Char) : Option (Option (List Char)) :=
  match after? "<!--".toList s with
  | some rest => some (afterRemark? rest)
  | none => (after? "<?".toList s).map afterInstruction?

/-- What follows remarks, instructions and gaps. -/
def afterAsides? (s : List Char) : Option (List Char) :=
  match afterAside? (s.dropWhile isGap) with
  | none => some (s.dropWhile isGap)
  | some none => none
  | some (some rest) => if rest.length < s.length then afterAsides? rest else none
termination_by s.length

end DiagramDesk.Svg
