import DiagramDesk.Text.Trim

/-! Paths as they are typed. A slash separates names; empty names and single dots stand for nothing,
two dots for the directory above. A slash in front is the name of the topmost directory. -/
namespace DiagramDesk.Path

open Text

def top : List Char := ['/']

def names (path : String) : List (List Char) :=
  let below := (splitAll (· == '/') path.toList).filter fun n => !n.isEmpty && n != ['.']
  if startsWith path.toList top then top :: below else below

def above : List Char := ['.', '.']

/-- Whether two paths are the same but for the writing: a single dot counts in front only. -/
def same (a b : String) : Bool := names a == names b && startsInDot a == startsInDot b
where
  startsInDot (path : String) : Bool := (splitAll (· == '/') path.toList).head? == some ['.']

def endsInSlash (path : String) : Bool := endsWith path.toList top

/-- Whether a path ends in a dot that stands for nothing, slashes aside. -/
def endsInDot (path : String) : Bool :=
  ((splitAll (· == '/') path.toList).filter fun n => !n.isEmpty).getLast? = some ['.']

/-- Whether a path can only be that of a directory. -/
def isDirectoryLike (path : String) : Bool := endsInSlash path || endsInDot path

/-- The name of what a path leads to, unless the path leads upwards or nowhere. -/
def fileName? (path : String) : Option String :=
  ((names path).getLast?.filter fun n => n ≠ above ∧ n ≠ top).map String.ofList

/-- A name in two: what is before its last dot, and what is behind it. A dot in front of
everything else does not count. -/
def splitExtension (name : List Char) : Option (List Char × List Char) :=
  let extension := (name.reverse.takeWhile (· != '.')).reverse
  let stem := name.take (name.length - extension.length - 1)
  if stem.isEmpty then none else some (stem, extension)

/-- The extension of the name that a path leads to, if it has one; it may be empty. -/
def extension? (path : String) : Option String :=
  (fileName? path).bind fun name =>
    (splitExtension name.toList).map fun (_, extension) => String.ofList extension

/-- A path whose last name has no extension, with one added. What stands behind that name is
dropped. -/
def addExtension (path extension : String) : String :=
  match fileName? path with
  | none => path
  | some _ =>
    let kept := dropTrailing path.toList.reverse
    String.ofList (kept.reverse ++ '.' :: extension.toList)
where
  /-- A reversed path without slashes and lone dots in front. -/
  dropTrailing : List Char → List Char
    | '/' :: rest => dropTrailing rest
    | '.' :: '/' :: rest => dropTrailing rest
    | s => s

/-- The path of the directory that holds what a path leads to; none if that is where one stands,
or nowhere. -/
def parent? (path : String) : Option String :=
  match (names path).dropLast with
  | [] => none
  | _ :: _ =>
    let shown := addExtension.dropTrailing path.toList.reverse
    let rest := addExtension.dropTrailing (shown.dropWhile (· != '/'))
    some (if rest.isEmpty then "/" else String.ofList rest.reverse)

def join (base name : String) : String :=
  if base.isEmpty || base.toList.getLast? = some '/' then base ++ name else base ++ "/" ++ name

end DiagramDesk.Path
