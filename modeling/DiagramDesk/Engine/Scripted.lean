import DiagramDesk.Engine.Basic
import DiagramDesk.Text.Scan

/-! An engine that follows a script: rules for what it refuses, and a template for what it draws.
It stands in for a real engine where only what is around the drawing matters. -/
namespace DiagramDesk

open Text

/-- A rule of a script: what a text looks like to be refused, and the refusal. A text is refused
if any of the three descriptions that are given fits. -/
structure ScriptRule where
  contains : Option String := none
  endsWith : Option String := none
  startsOtherThan : Option String := none
  error : EngineError
  deriving DecidableEq, Repr

/-- Whether a rule refuses a text. Blanks at the end or at the start do not count. -/
def ScriptRule.hits (r : ScriptRule) (source : List Char) : Bool :=
  (r.contains.map fun s => Text.contains source s.toList).getD false ||
    (r.endsWith.map fun s => Text.endsWith (trimEnd source) s.toList).getD false ||
    (r.startsOtherThan.map fun s => !startsWith (trimStart source) s.toList).getD false

structure Script where
  rules : List ScriptRule := []
  /-- Whether a text that no rule refuses must also have a proper header. -/
  checked : Bool := false
  renderError : Option EngineError := none
  template : String :=
    "<svg id=\"\x7bid\x7d\" data-look=\"\x7blook\x7d\" font-family=\"\x7bfont\x7d\" " ++
      "data-size=\"\x7bsize\x7d\" data-theme=\"\x7btheme\x7d\" data-seed=\"\x7bseed\x7d\">" ++
      "<desc>\x7blines\x7d</desc></svg>"
  deriving DecidableEq, Repr

namespace Script

def validate (s : Script) (source : String) : Except EngineError Unit :=
  match s.rules.find? fun r => r.hits source.toList with
  | some r => .error r.error
  | none => if s.checked then checkSource source else .ok ()

/-- A text with every occurrence of a part replaced. -/
def substitute (part value text : List Char) : List Char :=
  replaceAll (fun s => if startsWith s part then some ((), part.length) else none)
    (fun _ => value) text

def draw (s : Script) (id source : String) (c : EngineConfig) : String :=
  let places := [("id", id), ("look", c.look.name), ("font", c.fontFamily),
    ("size", toString c.pixels), ("theme", c.theme.name), ("seed", toString c.seed),
    ("lines", toString (lines source.toList).length)]
  String.ofList (places.foldl (fun text (name, value) =>
    substitute ('\x7b' :: name.toList ++ ['\x7d']) value.toList text) s.template.toList)

def engine (s : Script) : Engine where
  validate := s.validate
  render id source config := match s.renderError with
    | some e => .error e
    | none => .ok (s.draw id source config)

end Script

end DiagramDesk
