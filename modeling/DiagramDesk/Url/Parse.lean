import DiagramDesk.Url.Basic

/-! Reading URLs. Control characters and spaces around a text are dropped, and tabs and line
breaks anywhere, except that in a path of files one of them cuts a drive off. A fragment starts at
the first number sign, a query at the first question mark before it; what is left is a scheme, and
behind it an authority and a path. Schemes with known rules always have an authority and take a
backslash for a slash. -/
namespace DiagramDesk.Url

open Text

/-- What is known about a scheme: nothing, that it names local files, or its port. -/
inductive SchemeKind where
  | unknown
  | file
  | network (port : Nat)
  deriving DecidableEq, Repr

def SchemeKind.of (scheme : List Char) : SchemeKind :=
  match String.ofList scheme with
  | "file" => .file
  | "http" | "ws" => .network 80
  | "https" | "wss" => .network 443
  | "ftp" => .network 21
  | _ => .unknown

def SchemeKind.isKnown (k : SchemeKind) : Bool := k ≠ .unknown

def SchemeKind.isSlash (k : SchemeKind) (c : Char) : Bool := c == '/' || (k.isKnown && c == '\\')

/-- Text without control characters and spaces around it. -/
def unpadded (s : List Char) : List Char :=
  dropEndWhile (·.toNat ≤ 0x20) (s.dropWhile (·.toNat ≤ 0x20))

def isDropped (c : Char) : Bool := c == '\t' || c == '\n' || c == '\r'

def bare (s : List Char) : List Char := s.filter fun c => !isDropped c

/-- The text before the first character `mark` and, if there is one, the text behind it. -/
def cut (mark : Char) (s : List Char) : List Char × Option (List Char) :=
  (s.takeWhile (· != mark), match s.dropWhile (· != mark) with
    | [] => none
    | _ :: rest => some rest)

def isSchemeChar (c : Char) : Bool := c.isAlphanum || c == '+' || c == '-' || c == '.'

def readScheme? (s : List Char) : Option (List Char × List Char) :=
  match cut ':' s with
  | (_, none) => none
  | (front, some rest) =>
    let name := bare front
    if (name.head?.map Char.isAlpha).getD false && name.all isSchemeChar then
      some (name.map lowerAscii, rest)
    else none

/-- What follows a slash at the head of a text. -/
def SchemeKind.afterSlash? (k : SchemeKind) (s : List Char) : Option (List Char) :=
  match s.dropWhile isDropped with
  | c :: rest => if k.isSlash c then some rest else none
  | [] => none

/-! ### Paths -/

/-- A letter followed by a colon: such a segment names a drive. -/
def isDrive : List Char → Bool
  | [c, ':'] => c.isAlpha
  | _ => false

/-- A drive as it may be written, also with a bar. -/
def isDriveForm : List Char → Bool
  | [c, m] => c.isAlpha && (m == ':' || m == '|')
  | _ => false

/-- The drive at the head of a segment, if a dropped character stands between it and the rest. -/
def cutDrive? (s : List Char) : Option (List Char × List Char) :=
  match s.dropWhile isDropped with
  | c :: s => match s.dropWhile isDropped with
    | ':' :: d :: rest =>
      if c.isAlpha && isDropped d && !(bare rest).isEmpty then some ([c, ':'], bare rest) else none
    | _ => none
  | [] => none

def isDot (s : List Char) : Bool :=
  [".", "%2e"].contains (String.ofList (s.map lowerAscii))

def isDoubleDot (s : List Char) : Bool :=
  ["..", ".%2e", "%2e.", "%2e%2e"].contains (String.ofList (s.map lowerAscii))

/-- Whether no way leads up from a segment: it begins with a drive, and a backslash follows if
anything does. -/
def isTop : List Char → Bool
  | c :: m :: rest => isDriveForm [c, m] && (rest.isEmpty || rest.head? == some '\\')
  | _ => false

/-- The segments without the last one, unless no way leads up from it. -/
def above (done : List (List Char)) : List (List Char) :=
  match done.getLast? with
  | some s => if isTop s then done else done.dropLast
  | none => []

/-- Resolves dot segments and escapes the others; `done` is what stands before. In a path of files
a drive in front is written with a colon, and the flag tells whether there is one. -/
def resolveSegments (k : SchemeKind) (driven : Bool) :
    List (List Char) → List (List Char) → Bool × List (List Char)
  | done, [] => (driven, done)
  | done, s :: rest =>
    let name := Part.path.escape (bare s)
    if isDoubleDot name then
      if rest.isEmpty then (driven, above done ++ [[]])
      else resolveSegments k driven (above done) rest
    else if isDot name then
      if rest.isEmpty then (driven, done ++ [[]]) else resolveSegments k driven done rest
    else if k = .file ∧ done = [] then
      if isDriveForm name then resolveSegments k true [name.take 1 ++ [':']] rest
      else match cutDrive? s with
        | some (drive, more) => resolveSegments k driven [drive, Part.path.escape more] rest
        | none => resolveSegments k driven [name] rest
    else resolveSegments k driven (done ++ [name]) rest

/-- A path of files has no empty segments in front. -/
def settleSegments (k : SchemeKind) (names : List (List Char)) : List (List Char) :=
  if k = .file then
    match names.dropWhile List.isEmpty with
    | [] => [[]]
    | rest => rest
  else names

def readSegments (k : SchemeKind) (s : List Char) : Bool × Path :=
  let (driven, names) := resolveSegments k false [] (splitAll k.isSlash s)
  (driven, .segments (settleSegments k names))

def readPath (k : SchemeKind) (s : List Char) : Bool × Path :=
  match k.afterSlash? s with
  | some rest => readSegments k rest
  | none => if (bare s).isEmpty && !k.isKnown then (false, .segments []) else readSegments k s

/-! ### Authorities -/

/-- The text before the last `@`, if there is one, and the text behind it. -/
def cutUser (s : List Char) : Option (List Char) × List Char :=
  if s.contains '@' then
    let host := (s.reverse.takeWhile (· != '@')).reverse
    (some (s.take (s.length - host.length - 1)), host)
  else (none, s)

/-- The host text up to a colon outside brackets, and what follows it. -/
def cutHost (inside : Bool) : List Char → List Char × List Char
  | [] => ([], [])
  | c :: rest =>
    if c = ':' ∧ inside = false then ([], c :: rest)
    else
      let inside := if c = '[' then true else if c = ']' then false else inside
      let (host, more) := cutHost inside rest
      (c :: host, more)

/-- Reads a port: digits up to the end, below 65536. The usual port of the scheme counts as
none. -/
def readPort (k : SchemeKind) (s : List Char) : Except Fault (Option Nat) :=
  if s.isEmpty then .ok none
  else match (if s.all Char.isDigit then digitsValue? 10 s else none) with
    | some n =>
      if 65536 ≤ n then .error .port
      else .ok (if k = .network n then none else some n)
    | none => .error .port

/-- Reads who asks: a name and, behind the first colon, a password. -/
def readUser (s : List Char) : List Char × List Char :=
  let (name, password) := cut ':' s
  (Part.userinfo.escape name, Part.userinfo.escape (password.getD []))

/-- Reads an authority under a scheme that is not for files, and gives what is left of it: a port
ends at a backslash also where that is no slash. Behind an empty name of who asks, the host may be
empty only if the whole text `ends` there. -/
def readAuthority (k : SchemeKind) (ends : Bool) (s : List Char) :
    Except Fault (Authority × List Char) := do
  let (user, place) := cutUser s
  if user = some [] ∧ place.isEmpty ∧ !ends then .error .emptyHost
  let (username, password) := readUser (user.getD [])
  let (hostText, rest) := cutHost false place
  if hostText.isEmpty ∧ (k.isKnown ∨ !rest.isEmpty) then .error .emptyHost
  let host ← if k.isKnown then Host.read hostText else Host.readOpaque hostText
  let port ← readPort k ((rest.drop 1).takeWhile (· != '\\'))
  let host := if hostText.isEmpty then none else some host
  if host.isNone ∧ !(username.isEmpty && password.isEmpty) then .error .emptyHost
  return ({ username, password, host, port }, rest.dropWhile (· != '\\'))

/-- Reads the host of a file; the local host is none. -/
def readFileHost (s : List Char) : Except Fault (Option Host) := do
  if s.isEmpty then return none
  let host ← Host.read s
  return if host = .domain "localhost".toList then none else some host

/-! ### Whole URLs -/

/-- Reads what follows the scheme of a file: behind two slashes a host, unless it names a drive,
then a path. A path with a drive has no host. -/
def readFile (s : List Char) : Except Fault (Option Authority × Path) :=
  let k := SchemeKind.file
  let hostless (s : List Char) : Option Authority × Path :=
    (some { host := none }, (readSegments k s).2)
  match k.afterSlash? s with
  | none => return hostless s
  | some rest => match k.afterSlash? rest with
    | none => return hostless rest
    | some rest => do
      let place := rest.takeWhile fun c => !k.isSlash c
      if isDriveForm (bare place) then return hostless rest
      match ← readFileHost (bare place) with
      | none => return hostless (rest.drop place.length)
      | some host =>
        let (driven, path) := readPath k (rest.drop place.length)
        return (some { host := if driven then none else some host }, path)

/-- Reads what follows a scheme, up to the end of the text if it is `last` in it. -/
def readRest (k : SchemeKind) (last : Bool) (s : List Char) :
    Except Fault (Option Authority × Path) :=
  let withAuthority (s : List Char) : Except Fault (Option Authority × Path) := do
    let place := s.takeWhile fun c => !k.isSlash c
    let more := s.drop place.length
    let (authority, left) ← readAuthority k (last && more.isEmpty) (bare place)
    return (some authority, (readPath k (left ++ more)).2)
  match k with
  | .file => readFile s
  | .network _ => withAuthority (s.dropWhile fun c => k.isSlash c || isDropped c)
  | .unknown =>
    match k.afterSlash? s with
    | none => .ok (none, .unstructured (Part.opaquePath.escape (bare s)))
    | some rest => match k.afterSlash? rest with
      | none => .ok (none, (readSegments k rest).2)
      | some rest => withAuthority rest

def parse (s : List Char) : Except Fault Url :=
  let (main, fragment) := cut '#' (unpadded s)
  let (front, query) := cut '?' main
  match readScheme? front with
  | none => .error .noBase
  | some (scheme, rest) => do
    let k := SchemeKind.of scheme
    let (authority, path) ← readRest k (query.isNone && fragment.isNone) rest
    let part := if k.isKnown then Part.specialQuery else Part.query
    return { scheme, authority, path, query := query.map fun q => part.escape (bare q),
             fragment := fragment.map fun f => Part.fragment.escape (bare f) }

/-- The segments with the last one replaced. In a path of files a drive is not replaced: a drive
alone stays in front, any other drive is written together with the name. -/
def replaceLast (k : SchemeKind) (names : List (List Char)) (name : List Char) :
    List (List Char) :=
  match names.getLast? with
  | none => [name]
  | some s =>
    if k = .file ∧ isDrive s then
      if names.length = 1 then names ++ [name] else names.dropLast ++ [s ++ name]
    else names.dropLast ++ [name]

/-- The URL of a page beside this one: the last segment of the path is replaced, and query and
fragment are dropped. -/
def sibling (u : Url) (name : List Char) : Except Fault Url :=
  match u.path with
  | .unstructured _ => .error .opaqueBase
  | .segments names =>
    .ok { u with path := .segments (replaceLast (.of u.scheme) names name), query := none,
                 fragment := none }

end DiagramDesk.Url
