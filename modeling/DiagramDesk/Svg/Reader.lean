import DiagramDesk.Svg.Reference

/-! Reading markup strictly: tags must match, attributes must be quoted and distinct, references
must be known, prefixes must be declared, and there is exactly one root element. What is read is
the list of elements in the order of their opening tags, each with those that enclose it. -/
namespace DiagramDesk.Svg

open Text

/-! ### Pieces -/

/-- The text at the head of a text, up to the next tag. -/
def run? (s : List Char) : Option (Piece × List Char) :=
  let (content, rest) := s.span (· != '<')
  if content.all isAllowed && !contains content "]]>".toList then some (.text content, rest)
  else none

def piece? (s : List Char) : Option (Piece × List Char) :=
  match afterAside? s, after? "<![CDATA[".toList s with
  | some rest, _ => rest.map (.aside, ·)
  | none, some s => do
    let (content, rest) ← splitOnce "]]>".toList s
    if content.all isAllowed then return (.aside, rest) else failure
  | none, none => match s with
    | '<' :: '/' :: s => closing? s
    | '<' :: s => opening? s
    | s => run? s

/-- How many elements are open behind a piece. -/
def depthAfter (depth : Nat) : Piece → Nat
  | .opening _ _ false => depth + 1
  | .closing _ => depth - 1
  | _ => depth

/-- The pieces inside some open elements, up to the tag that closes the outermost of them, and
what follows. -/
def inner? (depth : Nat) (s : List Char) : Option (List Piece × List Char) :=
  match piece? s with
  | none => none
  | some (p, rest) =>
    if depthAfter depth p = 0 then some ([p], rest)
    else if rest.length < s.length then
      (inner? (depthAfter depth p) rest).map fun (ps, rest) => (p :: ps, rest)
    else none
termination_by s.length

/-- Whether a piece opens an element, even if it closes it at once. -/
def Piece.opens : Piece → Bool
  | .opening _ _ _ => true
  | _ => false

/-- The pieces of the text of an entity, inside some elements that it opened; `begun` tells whether
it opened any so far. A tag that closes none of them ends the text, and closes an element around
the reference; without any other element before it that is refused. -/
def fragment? (depth : Nat) (begun : Bool) (s : List Char) : Option (List Piece) :=
  if s.isEmpty then some []
  else match piece? s with
    | none => none
    | some (.closing label, rest) =>
      if depth = 0 then if begun then some [.closing label] else none
      else if rest.length < s.length then
        (fragment? (depth - 1) begun rest).map (.closing label :: ·)
      else none
    | some (p, rest) =>
      if rest.length < s.length then
        (fragment? (depthAfter depth p) (begun || p.opens) rest).map (p :: ·)
      else none
termination_by s.length

/-! ### Tags -/

/-- A tag, with the values of its attributes. -/
inductive Tag where
  | opening (label : Label) (attributes : List Attribute) (closed : Bool)
  | closing (label : Label)
  deriving Repr

/-- The tags that a text stands for, which are those of the entities it refers to. -/
def tagsOfText (entities : List Entity) (f : Following (List Tag)) (inside : Bool) :
    Nat → List Chunk → Option (List Tag × Nat)
  | count, [] => some ([], count)
  | count, .entity name :: rest => do
    let (head, count) ← follow entities f inside count name
    let (more, count) ← tagsOfText entities f inside count rest
    return (head ++ more, count)
  | count, _ :: rest => tagsOfText entities f inside count rest

def values (entities : List Entity) (left : Nat) :
    Nat → List Attribute → Option (List Attribute × Nat)
  | count, [] => some ([], count)
  | count, a :: rest => do
    let (value, count) ← value? entities left count a.value
    let (more, count) ← values entities left count rest
    return (⟨a.label, value⟩ :: more, count)

/-- The tags that pieces stand for. -/
def tagsOf (entities : List Entity) (left : Nat) (f : Following (List Tag)) :
    Nat → List Piece → Option (List Tag × Nat)
  | count, [] => some ([], count)
  | count, .opening label attributes closed :: rest => do
    let (attributes, count) ← values entities left count attributes
    let (more, count) ← tagsOf entities left f count rest
    return (.opening label attributes closed :: more, count)
  | count, .closing label :: rest => do
    let (more, count) ← tagsOf entities left f count rest
    return (.closing label :: more, count)
  | count, .text content :: rest => do
    let (tags, count) ← tagsOfText entities f (left < deepest) count (← chunks? content)
    let (more, count) ← tagsOf entities left f count rest
    return (tags ++ more, count)
  | count, .aside :: rest => tagsOf entities left f count rest

/-- The tags in the text of an entity, where `left` tells how much deeper references may lead. -/
def entityTags (entities : List Entity) : (left : Nat) → Following (List Tag)
  | 0, count, s => do tagsOf entities 0 (fun _ _ => none) count (← fragment? 0 false s)
  | left + 1, count, s => do
    tagsOf entities (left + 1) (entityTags entities left) count (← fragment? 0 false s)

/-- The tags of a document, from those of its root element on. -/
def documentTags? (entities : List Entity) (s : List Char) : Option (List Tag) := do
  let (root, rest) ← opening? (← after? ['<'] s)
  let (pieces, rest) ← if depthAfter 0 root = 0 then some ([], rest) else inner? 1 rest
  if (← afterAsides? rest).isEmpty then
    let (tags, _) ← tagsOf entities deepest (entityTags entities (deepest - 1)) 0 (root :: pieces)
    return tags
  else failure

/-! ### Elements -/

/-- What prefixes stand for, where the empty one stands for no prefix. -/
abbrev Scope := List (List Char × List Char)

/-- The prefix for attributes that declare other prefixes. -/
def declaring : List Char := "xmlns".toList

def builtIn : List Char := "xml".toList

/-- What the built-in prefix stands for, and nothing else may. -/
def builtInLanguage : List Char := "http://www.w3.org/XML/1998/namespace".toList

/-- What nothing may be declared to stand for. -/
def declaringLanguage : List Char := "http://www.w3.org/2000/xmlns/".toList

/-- Whether an attribute declares what names without a prefix stand for. -/
def Attribute.isDefault (a : Attribute) : Bool :=
  a.label.head != declaring && a.label.base == declaring

def Attribute.isDeclaration (a : Attribute) : Bool := a.label.head == declaring

/-- Whether a declaration keeps to the rules on what is built in. -/
def Attribute.isLawful (a : Attribute) : Bool :=
  a.value != declaringLanguage &&
    (a.value == builtInLanguage) == (a.isDeclaration && a.label.base == builtIn)

def Scope.inside (scope : Scope) (attributes : List Attribute) : Scope :=
  attributes.filterMap (fun a =>
    if a.isDefault then some ([], a.value)
    else if a.isDeclaration && a.label.base != builtIn then some (a.label.base, a.value)
    else none) ++ scope

/-- What a prefix stands for. The empty one can stand for nothing. -/
def Scope.language? (scope : Scope) (head : List Char) : Option (List Char) :=
  match scope.find? fun e => e.1 = head with
  | some e => some e.2
  | none => if head.isEmpty then some [] else none

/-- The full name of an attribute: its language, and its name there. One without a prefix belongs
to no language. -/
def Scope.fullName? (scope : Scope) (a : Attribute) : Option (Option (List Char) × List Char) :=
  if a.label.head.isEmpty then some (none, a.label.base)
  else if a.label.head = builtIn then some (some builtInLanguage, a.label.base)
  else (scope.language? a.label.head).map fun language => (some language, a.label.base)

/-- Whether the attributes of a tag can stand together: declarations keep to the rules and declare
no prefix twice other than the built-in one, and the full names of the others are known and
distinct. -/
def Scope.admits (scope : Scope) (attributes : List Attribute) : Bool :=
  let declared := attributes.filter fun a => a.isDeclaration && a.label.base != builtIn
  let plain := attributes.filter fun a => !a.isDeclaration && !a.isDefault
  attributes.all (fun a => a.isLawful || !(a.isDeclaration || a.isDefault)) &&
    (declared.map (·.label.base)).Nodup &&
    match plain.mapM scope.fullName? with
    | some names => names.Nodup
    | none => false

structure Element where
  language : List Char
  name : List Char
  attributes : List Attribute
  around : List (List Char)
  deriving Repr

def Element.value? (e : Element) (name : String) : Option (List Char) :=
  (e.attributes.find? fun a => a.label = ⟨[], name.toList⟩).map (·.value)

/-- How far markup has been read: the open tags with their scopes, and the elements so far, the
last one first. -/
structure Reading where
  opened : List (Label × Scope) := []
  elements : List Element := []

def Reading.take (r : Reading) : Tag → Option Reading
  | .closing label => match r.opened with
    | top :: rest => if top.1 = label then some { r with opened := rest } else none
    | [] => none
  | .opening label attributes closed => do
    let scope := Scope.inside ((r.opened.head?.map (·.2)).getD []) attributes
    let language ← scope.language? label.head
    if label.head != declaring && scope.admits attributes then
      let e : Element := ⟨language, label.base, attributes, r.opened.map (·.1.base)⟩
      return {
        opened := if closed then r.opened else (label, scope) :: r.opened
        elements := e :: r.elements }
    else failure

def elements? (s : List Char) : Option (List Element) := do
  let (entities, s) ← prolog? s
  let r ← (← documentTags? entities s).foldlM Reading.take {}
  if r.opened.isEmpty then return r.elements.reverse else failure

end DiagramDesk.Svg
