import DiagramDesk.Share.Token
import DiagramDesk.Url.Parse
import DiagramDesk.Samples

/-! Links that carry a diagram, and where the text of a session comes from when it starts. A share
link has the token in its fragment; a query link has plain base64 in a query parameter, which wins
over the fragment when a link is opened. -/
namespace DiagramDesk.Link

open Text

/-- The page that links lead to unless another one is configured. -/
def defaultBase : String := "https://caoergou.github.io/mermaid-pic/"

def codeName : List Char := "code".toList

/-- The page for embedding, beside the editor page. -/
def embedPage : List Char := "embed.html".toList

def base (configured : Option String) : Except Url.Fault Url :=
  Url.parse (configured.getD defaultBase).toList

def fragmentOf (z : Zlib.Compressor) (source : String) : List Char := (Token.encode z source).toList

/-- Without source parameters; the other pairs of the query are kept. -/
def dropCode (u : Url) : Url :=
  let kept := u.pairs.filter fun p => p.1 ≠ codeName
  if kept.isEmpty then u.dropQuery else u.withPairs kept

def shareUrl (z : Zlib.Compressor) (base : Url) (source : String) : Url :=
  (dropCode base).withFragment (fragmentOf z source)

def queryUrl (base : Url) (source : String) : Url :=
  base.dropFragment.withPairs [(codeName, (Token.encodePlain source).toList)]

def embedUrl (z : Zlib.Compressor) (base : Url) (source : String) : Except Url.Fault Url :=
  (base.sibling embedPage).map (·.withFragment (fragmentOf z source))

def embedSnippet (url : Url) : String :=
  "<iframe src=\"" ++ toString url ++ "\" width=\"100%\" height=\"600\" frameborder=\"0\" " ++
    "style=\"border: none;\" title=\"Mermaid Diagram\"></iframe>"

/-- What to tell an assistant so that it can make links, with a link to a source at the end. -/
def assistantPrompt (base : Url) (source : String) : String :=
  "\n".intercalate [
    "You can use Mermaid Editor to render diagrams.",
    "When the user needs a diagram, generate Mermaid code and construct a shareable link:",
    "  " ++ toString base.dropQuery.dropFragment ++ "?code=\x7bbase64(mermaid_code)\x7d",
    "",
    "Example (JavaScript): btoa(unescape(encodeURIComponent(code)))",
    "Example (Python): base64.b64encode(code.encode()).decode()",
    "",
    "Supported diagram types:",
    "  graph, flowchart, sequenceDiagram, classDiagram,",
    "  stateDiagram-v2, erDiagram, gantt, pie, mindmap",
    "",
    "Current diagram link: " ++ toString (queryUrl base source)]

/-! ### Opening -/

inductive Origin where
  | query | fragment | persisted | default
  deriving DecidableEq, Repr

structure Initial where
  text : String
  origin : Origin
  deriving DecidableEq, Repr

def candidate (token : List Char) : Option String :=
  match Token.decode (String.ofList token) with
  | .ok text => if text.isEmpty then none else some text
  | .error _ => none

/-- The source in the first source parameter of a link; later ones are not looked at. -/
def querySource (u : Url) : Option String :=
  (u.pairs.find? fun p => p.1 = codeName).bind fun p => candidate p.2

def fragmentSource (u : Url) : Option String := u.fragment.bind candidate

/-- The text to start with: from the query, else from the fragment, else the text kept from an
earlier session, else the default. -/
def Initial.resolve (url : Option Url) (persisted : Option String) : Initial :=
  match url.bind querySource with
  | some text => ⟨text, .query⟩
  | none =>
    match url.bind fragmentSource with
    | some text => ⟨text, .fragment⟩
    | none =>
      match persisted.filter fun text => !text.isEmpty with
      | some text => ⟨text, .persisted⟩
      | none => ⟨defaultSource, .default⟩

def opens (u : Url) : Bool := ["http", "https", "file"].contains (String.ofList u.scheme)

/-- The source in a pasted link, or in a bare token with or without number signs in front. -/
def sourceOf (input : String) : Except Token.Fault String :=
  let s := trim input.toList
  match (Url.parse s).toOption.filter opens with
  | some u =>
    match querySource u with
    | some text => .ok text
    | none => Token.decode (String.ofList (u.fragment.getD []))
  | none => Token.decode (String.ofList (s.dropWhile (· == '#')))

end DiagramDesk.Link
