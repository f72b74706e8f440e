import DiagramDesk.Text.Scan

/-! Places in markup, found in its text: elements by their name, style blocks, and references to
remote files inside them. -/
namespace DiagramDesk.Svg

open Text

/-- Whether a tag of this name opens at the head of a text; the name ends at a word boundary. -/
def opensTag (name s : List Char) : Bool :=
  startsWith s ('<' :: name) && match s.drop (name.length + 1) with
    | [] => true
    | c :: _ => !isWord c

/-- A tag at the head of a text, up to its first closing bracket, and what follows. -/
def tag? (name s : List Char) : Option (List Char × List Char) :=
  if opensTag name s then upTo ['>'] s else none

structure StyleBlock where
  opening : List Char
  body : List Char
  deriving DecidableEq, Repr

def styleEnd : List Char := "</style>".toList

def styleBlock : Pattern StyleBlock := fun s => do
  let (opening, rest) ← tag? "style".toList s
  let (body, _) ← splitOnce styleEnd rest
  return (⟨opening, body⟩, opening.length + body.length + styleEnd.length)

def isQuote (c : Char) : Bool := c == '"' || c.toNat == 39

def dropQuote : List Char → List Char
  | [] => []
  | c :: s => if isQuote c then s else c :: s

/-- Characters of a remote address inside a reference. -/
def isAddressChar (c : Char) : Bool := !(isQuote c || c == ')' || isBlank c)

def remoteScheme? (s : List Char) : Option (List Char × List Char) :=
  ["https://", "http://"].findSome? fun scheme =>
    (after? scheme.toList s).map fun rest => (scheme.toList, rest)

/-- Finds a reference to a remote file and gives its address; quotes and blanks around the address
are part of the reference. -/
def remoteReference : Pattern (List Char) := fun s => do
  let rest ← after? "url(".toList s
  let (scheme, rest) ← remoteScheme? (dropQuote (rest.dropWhile isBlank))
  let address := rest.takeWhile isAddressChar
  if address.isEmpty then none
  else
    match (dropQuote (rest.dropWhile isAddressChar)).dropWhile isBlank with
    | ')' :: behind => some (scheme ++ address, s.length - behind.length)
    | _ => none

/-- Finds a picture element: a tag that closes itself, or else a tag and everything up to its
closing tag. -/
def imageElement : Pattern Unit := fun s => do
  let (opening, rest) ← tag? "image".toList s
  if endsWith opening ['/', '>'] then return ((), opening.length)
  else
    let (inner, _) ← upTo "</image>".toList rest
    return ((), opening.length + inner.length)

def rewriteStyles (f : σ → List Char → List Char × σ) (st : σ) (s : List Char) : List Char × σ :=
  replaceSpans (fun st (b : StyleBlock) =>
    let (body, st) := f st b.body
    (b.opening ++ body ++ styleEnd, st)) st (spans styleBlock s)

def mapStyles (f : List Char → List Char) (s : List Char) : List Char :=
  replaceAll styleBlock (fun b => b.opening ++ f b.body ++ styleEnd) s

/-- Markup without picture elements, and without references to remote files in its styles. -/
def sanitizeText (s : List Char) : List Char :=
  mapStyles (replaceAll remoteReference fun _ => []) (replaceAll imageElement (fun _ => []) s)

/-- Markup that asks for nothing from outside when it is drawn. -/
def sanitize (svg : String) : String := String.ofList (sanitizeText svg.toList)

/-! ### The root element -/

def rootStart : List Char := "<svg".toList

/-- Puts a fragment behind the opening tag of the root element; a root that closes itself is
opened for it. -/
def insertAfterRootText (s fragment : List Char) : List Char :=
  match splitOnce rootStart s with
  | none => s
  | some (before, rest) =>
    match splitOnce ['>'] rest with
    | none => s
    | some (attributes, behind) =>
      if endsWith (rootStart ++ attributes) ['/'] then
        before ++ rootStart ++ attributes.dropLast ++ '>' :: fragment ++ "</svg>".toList ++ behind
      else before ++ rootStart ++ attributes ++ '>' :: fragment ++ behind

/-- Puts a fragment behind the opening tag of the root element. -/
def insertAfterRoot (svg fragment : String) : String :=
  String.ofList (insertAfterRootText svg.toList fragment.toList)

/-- The attribute that says which language the elements belong to. -/
def namespaceAttribute : List Char := " xmlns=\"http://www.w3.org/2000/svg\"".toList

/-- Gives the root element a namespace, unless it has one. -/
def ensureNamespaceText (s : List Char) : List Char :=
  match splitOnce rootStart s with
  | none => s
  | some (before, rest) =>
    if contains (rest.takeWhile (· != '>')) "xmlns=".toList then s
    else before ++ rootStart ++ namespaceAttribute ++ rest

/-- Markup whose root element has a namespace. -/
def ensureNamespace (svg : String) : String := String.ofList (ensureNamespaceText svg.toList)

end DiagramDesk.Svg
