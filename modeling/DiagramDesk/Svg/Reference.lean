import DiagramDesk.Svg.Prolog

/-! References inside texts: to characters, by number or by one of five names, and to entities. An
entity may refer to others, down to a certain depth and up to a certain number of times. -/
namespace DiagramDesk.Svg

open Text

inductive Chunk where
  | char (c : Char)
  | given (c : Char)
  | entity (name : List Char)
  deriving DecidableEq, Repr

def namedReferences : List (String × Char) :=
  [("amp", '&'), ("lt", '<'), ("gt", '>'), ("quot", '"'), ("apos", Char.ofNat 39)]

def digitValue? (base : Nat) (c : Char) : Option Nat :=
  let v := if c.isDigit then c.toNat - 48
    else if c.isLower then c.toNat - 87
    else if c.isUpper then c.toNat - 55
    else base
  if v < base then some v else none

/-- The character with a number written in some base, at the head of a text. A number of 32 bits
that no character has stands for the replacement character. -/
def numbered? (base : Nat) (s : List Char) : Option (Char × List Char) := do
  let (digits, rest) := s.span fun c => (digitValue? base c).isSome
  if digits.isEmpty then failure
  let n ← digits.foldlM (fun n c => (digitValue? base c).map (n * base + ·)) 0
  let c := if n.isValidChar then Char.ofNat n else '\uFFFD'
  if n < 0x100000000 ∧ isAllowed c then return (c, rest) else failure

def referenceBody? : List Char → Option (Chunk × List Char)
  | '#' :: 'x' :: s => (numbered? 16 s).map fun (c, rest) => (.given c, rest)
  | '#' :: s => (numbered? 10 s).map fun (c, rest) => (.given c, rest)
  | s => (name? s).map fun (name, rest) =>
    match namedReferences.find? fun r => r.1 == String.ofList name with
    | some r => (.given r.2, rest)
    | none => (.entity name, rest)

def reference? (s : List Char) : Option (Chunk × List Char) :=
  match referenceBody? s with
  | some (chunk, ';' :: rest) => some (chunk, rest)
  | _ => none

def chunks? : List Char → Option (List Chunk)
  | [] => some []
  | c :: s =>
    if c = '&' then
      match reference? s with
      | some (chunk, rest) =>
        if rest.length ≤ s.length then (chunks? rest).map (chunk :: ·) else none
      | none => none
    else (chunks? s).map (.char c :: ·)
termination_by s => s.length
decreasing_by all_goals simp only [List.length_cons]; omega

def deepest : Nat := 10

/-- How often entities may refer to others, on behalf of one reference. -/
def mostReferences : Nat := 255

/-- The count of references once another one is followed, where `inside` tells whether that is
done on behalf of another one. -/
def countReference? (inside : Bool) (count : Nat) : Option Nat :=
  if inside then if count < mostReferences then some (count + 1) else none else some 0

/-- A way to follow a reference: given the count so far and the text of an entity, what is made of
that text, and the count. -/
abbrev Following (α : Type) := Nat → List Char → Option (α × Nat)

def follow (entities : List Entity) (f : Following α) (inside : Bool) (count : Nat)
    (name : List Char) : Option (α × Nat) := do
  let e ← entities.find? fun e => e.name = name
  f (← countReference? inside count) e.text

/-- A gap in the value of an attribute is a space. -/
def spaced (c : Char) : Char := if isGap c then ' ' else c

/-- The value of an attribute with its references followed. A line ending is one space. Inside an
entity no opening bracket can be referred to; outside, a gap that is referred to stays as it is. -/
def valueOf (entities : List Entity) (f : Following (List Char)) (inside : Bool) :
    Nat → List Chunk → Option (List Char × Nat)
  | count, [] => some ([], count)
  | count, .char c :: rest => do
    let (s, count) ← valueOf entities f inside count rest
    return (if c = '\r' ∧ rest.head? = some (.char '\n') then s else spaced c :: s, count)
  | count, .given c :: rest => do
    if inside ∧ c = '<' then failure
    let (s, count) ← valueOf entities f inside count rest
    return ((if inside then spaced c else c) :: s, count)
  | count, .entity name :: rest => do
    let (head, count) ← follow entities f inside count name
    let (s, count) ← valueOf entities f inside count rest
    return (head ++ s, count)

def value? (entities : List Entity) : (left : Nat) → Following (List Char)
  | 0, count, s => do valueOf entities (fun _ _ => none) true count (← chunks? s)
  | left + 1, count, s => do
    valueOf entities (value? entities left) (left + 1 < deepest) count (← chunks? s)

end DiagramDesk.Svg
