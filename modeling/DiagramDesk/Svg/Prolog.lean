import DiagramDesk.Svg.Tag

/-! What stands in front of the root element: a declaration of the markup, remarks and instructions,
and a document type, which may name texts that can be referred to further on. -/
namespace DiagramDesk.Svg

open Text

structure Entity where
  name : List Char
  text : List Char
  deriving DecidableEq, Repr

/-- What follows the gap that must stand between two parts of a declaration. -/
def declarationGap? (s : List Char) : Option (List Char) :=
  if startsWith s "?>".toList then some s else gap? s

/-- What follows a declaration of the markup, read from behind its opening mark and name: a
version, and perhaps the encoding and whether the document stands alone. -/
def afterDeclaration? (s : List Char) : Option (List Char) := do
  let s ← declarationGap? s
  if !startsWith s "version".toList then failure
  let s ← declarationGap? (← (attribute? s).map (·.2))
  let s ← if startsWith s "encoding".toList then
      declarationGap? (← (attribute? s).map (·.2))
    else some s
  let s ← if startsWith s "standalone".toList then (attribute? s).map (·.2) else some s
  after? "?>".toList (s.dropWhile isGap)

/-- What follows a reference to another document, if the text starts with one: one literal or two,
as the word in front tells. -/
def afterExternal? (s : List Char) : Option (Option (List Char)) :=
  match after? "SYSTEM".toList s, after? "PUBLIC".toList s with
  | some s, _ => some (literal? s)
  | none, some s => some ((literal? s).bind literal?)
  | none, none => none
where
  /-- What follows a literal behind a gap. -/
  literal? (s : List Char) : Option (List Char) :=
    ((gap? s).bind quoted?).map (·.2)

/-- The text of an entity, if it is given here and not in another document. A document that is no
markup is announced by a word of its own; an entity for use inside document types has none. -/
def entityText? (inner : Bool) (s : List Char) : Option (Option (List Char) × List Char) :=
  match quoted? s with
  | some (text, rest) => some (some text, rest)
  | none => do
    let rest := (← (← afterExternal? s)).dropWhile isGap
    match after? "NDATA".toList rest with
    | some rest => if inner then failure else return (none, (← name? (← gap? rest)).2)
    | none => return (none, rest)

def entity? (s : List Char) : Option (List Entity × List Char) := do
  let s ← gap? s
  let (inner, s) ← match s with
    | '%' :: s => (gap? s).map (true, ·)
    | s => some (false, s)
  let (name, s) ← name? s
  let (text, s) ← entityText? inner (← gap? s)
  match s.dropWhile isGap with
  | '>' :: rest => return ((text.map fun text => (⟨name, text⟩ : Entity)).toList, rest)
  | _ => failure

/-- What stands at some place in a document type: the entities it makes known, with what follows;
nothing where the document type ends. -/
def typeEntry? (s : List Char) : Option (List Entity × List Char) :=
  match after? "<!ENTITY".toList s, afterAside? s with
  | some rest, _ => entity? rest
  | none, some rest => rest.map ([], ·)
  | none, none =>
    if ["<!ELEMENT", "<!ATTLIST", "<!NOTATION"].any fun mark => startsWith s mark.toList then
      (splitOnce ['>'] s).map fun (_, rest) => ([], rest)
    else none

/-- The entities of a document type, read from behind the bracket that opens it, and what
follows. -/
def typeEntries? (s : List Char) : Option (List Entity × List Char) :=
  match s.dropWhile isGap with
  | ']' :: rest => match rest.dropWhile isGap with
    | '>' :: rest => some ([], rest)
    | _ => none
  | t => match typeEntry? t with
    | some (entities, rest) =>
      if rest.length < s.length then
        (typeEntries? rest).map fun (more, rest) => (entities ++ more, rest)
      else none
    | none => none
termination_by s.length

/-- The entities of a document type, read from behind the word that announces it, and what
follows. -/
def documentType? (s : List Char) : Option (List Entity × List Char) := do
  let (_, s) ← name? (← gap? s)
  let s := s.dropWhile isGap
  let s ← (afterExternal? s).getD (some s)
  match s.dropWhile isGap with
  | '>' :: rest => return ([], rest)
  | '[' :: rest => typeEntries? rest
  | _ => failure

/-- The entities that a document makes known, and the document from its root element on. -/
def prolog? (s : List Char) : Option (List Entity × List Char) := do
  let s := (after? ['\uFEFF'] s).getD s
  let s ← if startsWith s "<?xml ".toList then afterDeclaration? (s.drop 5) else some s
  let s ← afterAsides? s
  match after? "<!DOCTYPE".toList s with
  | some s =>
    let (entities, s) ← documentType? s
    return (entities, ← afterAsides? s)
  | none => return ([], s)

end DiagramDesk.Svg
