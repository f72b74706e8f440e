import DiagramDesk.Url.Form
import DiagramDesk.Url.Host

/-! URLs as records of their parts, each in its written form, and the text they make. -/
namespace DiagramDesk

open Text

namespace Url

/-- How a URL goes on behind its host: a text of unknown shape, or segments, each of which stands
behind a slash. -/
inductive Path where
  | unstructured (text : List Char)
  | segments (names : List (List Char))
  deriving DecidableEq, Repr

def Path.text : Path → List Char
  | unstructured s => s
  | segments names => names.flatMap ('/' :: ·)

structure Authority where
  username : List Char := []
  password : List Char := []
  host : Option Host
  port : Option Nat := none
  deriving DecidableEq, Repr

def Authority.text (a : Authority) : List Char :=
  let password := if a.password.isEmpty then [] else ':' :: a.password
  let user := a.username ++ password
  ['/', '/'] ++ (if user.isEmpty then [] else user ++ ['@']) ++
    (a.host.map Host.text).getD [] ++ (a.port.map fun p => ':' :: decimalText p).getD []

end Url

/-- A URL in parts. The scheme is in lower case; every other part is escaped. -/
structure Url where
  scheme : List Char
  authority : Option Url.Authority
  path : Url.Path
  query : Option (List Char) := none
  fragment : Option (List Char) := none
  deriving DecidableEq, Repr

namespace Url

/-- A URL up to its path. Without an authority a path may not start with two slashes, so a dot
segment goes in front. -/
def stem (u : Url) : List Char :=
  let path := u.path.text
  u.scheme ++ ':' :: match u.authority with
    | some a => a.text ++ path
    | none => if startsWith path ['/', '/'] then ['/', '.'] ++ path else path

def text (u : Url) : List Char :=
  u.stem ++ (u.query.map ('?' :: ·)).getD [] ++ (u.fragment.map ('#' :: ·)).getD []

instance : ToString Url := ⟨fun u => String.ofList u.text⟩

/-- Whether the path is of unknown shape, so that nothing can be found relative to it. -/
def isOpaque (u : Url) : Bool := match u.path with
  | .unstructured _ => true
  | .segments _ => false

/-- Drops spaces at the end of a path of unknown shape when nothing follows it any more. -/
def settle (u : Url) : Url :=
  match u.path, u.query, u.fragment with
  | .unstructured s, none, none => { u with path := .unstructured (dropEndWhile (· == ' ') s) }
  | _, _, _ => u

def dropFragment (u : Url) : Url := { u with fragment := none }.settle

def dropQuery (u : Url) : Url := { u with query := none }.settle

def withFragment (u : Url) (s : List Char) : Url :=
  { u with fragment := some (Part.fragment.escape s) }

def withPairs (u : Url) (pairs : List Pair) : Url := { u with query := some (formText pairs) }

def pairs (u : Url) : List Pair := formPairs (u.query.getD [])

end Url

end DiagramDesk
