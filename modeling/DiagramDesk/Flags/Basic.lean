import DiagramDesk.Number.Single
import DiagramDesk.Settings
import DiagramDesk.Text.Lines

/-! Flags: what can be given on a command line and kept as a default. A flag may be absent, and
where flags from two sources meet, the later source wins. -/
namespace DiagramDesk

open Text

structure Flags where
  perf : Bool := false
  randomSeed : Bool := false
  theme : Option Theme := none
  look : Option Look := none
  handFont : Option HandFont := none
  fontSize : Option FontSize := none
  seed : Option Nat := none
  scale : Option Single := none
  background : Option Backdrop := none
  lang : Option Language := none
  baseUrl : Option String := none
  debugLog : Option String := none
  deriving DecidableEq, Repr

namespace Flags

/-- Both sets of flags; where both give a value, the second one counts. -/
def merge (f g : Flags) : Flags where
  perf := f.perf || g.perf
  randomSeed := f.randomSeed || g.randomSeed
  theme := g.theme <|> f.theme
  look := g.look <|> f.look
  handFont := g.handFont <|> f.handFont
  fontSize := g.fontSize <|> f.fontSize
  seed := g.seed <|> f.seed
  scale := g.scale <|> f.scale
  background := g.background <|> f.background
  lang := g.lang <|> f.lang
  baseUrl := g.baseUrl <|> f.baseUrl
  debugLog := g.debugLog <|> f.debugLog

/-- The seed mode that flags ask for: random wherever it is asked for, and fixed if there is only a
seed. -/
def seedMode? (f : Flags) : Option SeedMode :=
  if f.randomSeed then some .random else f.seed.map fun _ => .fixed

def applyTo (f : Flags) (s : Settings) : Settings where
  theme := f.theme.getD s.theme
  handDrawn := (f.look.map (· == .handDrawn)).getD s.handDrawn
  handFont := f.handFont.getD s.handFont
  fontSize := f.fontSize.getD s.fontSize
  seedMode := f.seedMode?.getD s.seedMode
  seed := f.seed.getD s.seed
  background := f.background.getD s.background
  lang := f.lang.getD s.lang

/-! ### Reading -/

/-- The flags that take no value. -/
inductive Switch where
  | perf | randomSeed | handDrawn | classic
  deriving DecidableEq, Repr

namespace Switch

def all : List Switch := [perf, randomSeed, handDrawn, classic]

def word : Switch → String
  | perf => "--perf"
  | randomSeed => "--random-seed"
  | handDrawn => "--hand-drawn"
  | classic => "--classic"

end Switch

/-- The flags that take a value. -/
inductive Choice where
  | theme | handFont | fontSize | seed | scale | background | lang | baseUrl | debugLog
  deriving DecidableEq, Repr

namespace Choice

def all : List Choice :=
  [theme, handFont, fontSize, seed, scale, background, lang, baseUrl, debugLog]

def word : Choice → String
  | theme => "--theme"
  | handFont => "--hand-font"
  | fontSize => "--font-size"
  | seed => "--seed"
  | scale => "--scale"
  | background => "--background"
  | lang => "--lang"
  | baseUrl => "--base-url"
  | debugLog => "--render-debug-log"

end Choice

def turnOn (f : Flags) : Switch → Flags
  | .perf => { f with perf := true }
  | .randomSeed => { f with randomSeed := true }
  | .handDrawn => { f with look := some .handDrawn }
  | .classic => { f with look := some .classic }

def seedBound : Nat := 0x100000000

/-- Reads a scale: a positive number that is not too large to be told from infinity. -/
def scale? (s : String) : Option Single :=
  (Single.read? s).filter fun x => x.value.isFinite && x.value.isPositive

/-- The flags with a choice made. A value that makes no sense changes nothing. -/
def choose (f : Flags) (choice : Choice) (value : String) : Flags := match choice with
  | .theme => { f with theme := Theme.ofName? value <|> f.theme }
  | .handFont => { f with handFont := HandFont.ofName? value <|> f.handFont }
  | .fontSize => { f with fontSize := FontSize.ofName? value <|> f.fontSize }
  | .seed => { f with seed := natBelow? seedBound value.toList <|> f.seed }
  | .scale => { f with scale := scale? value <|> f.scale }
  | .background => { f with background := Backdrop.ofName? value <|> f.background }
  | .lang => { f with lang := Language.ofCode? value <|> f.lang }
  | .baseUrl => { f with baseUrl := some value }
  | .debugLog => { f with debugLog := some value }

inductive Token where
  | switch (s : Switch)
  /-- A choice whose value is the next token. -/
  | opens (c : Choice)
  /-- A choice with its value behind an equals sign. -/
  | holds (c : Choice) (value : String)
  | other
  deriving DecidableEq, Repr

def heldBy (t : String) (c : Choice) : Option Token :=
  (after? (c.word.toList ++ ['=']) t.toList).map fun v => .holds c (String.ofList v)

def Token.of (t : String) : Token :=
  match Switch.all.find? fun s => s.word = t with
  | some s => .switch s
  | none => match Choice.all.find? fun c => c.word = t with
    | some c => .opens c
    | none => (Choice.all.findSome? (heldBy t)).getD .other

/-- Reads tokens into flags. Whatever is no flag is passed over, and so is a choice at the end
whose value is missing. -/
def scan (f : Flags) : List String → Flags
  | [] => f
  | [t] => match Token.of t with
    | .switch s => f.turnOn s
    | .holds c v => f.choose c v
    | _ => f
  | t :: v :: rest => match Token.of t with
    | .switch s => (f.turnOn s).scan (v :: rest)
    | .opens c => (f.choose c v).scan rest
    | .holds c w => (f.choose c w).scan (v :: rest)
    | .other => f.scan (v :: rest)

def ofTokens (tokens : List String) : Flags := ({} : Flags).scan tokens

/-- The tokens of a text: the words of all lines that are not remarks. -/
def tokensOf (text : String) : List String :=
  ((lines text.toList).map trim).flatMap fun line =>
    if startsWith line ['#'] then [] else (words line).map String.ofList

def ofText (text : String) : Flags := ofTokens (tokensOf text)

/-! ### Writing -/

def lookWord : Look → String
  | .handDrawn => Switch.handDrawn.word
  | .classic => Switch.classic.word

def choiceLine (choice : Choice) (value : String) : String := choice.word ++ " " ++ value

def lines (f : Flags) : List String :=
  (f.theme.map fun t => choiceLine .theme t.name).toList ++
  (f.look.map lookWord).toList ++
  (f.handFont.map fun x => choiceLine .handFont x.name).toList ++
  (f.fontSize.map fun x => choiceLine .fontSize x.name).toList ++
  (f.seed.map fun n => choiceLine .seed (toString n)).toList ++
  (if f.randomSeed then [Switch.randomSeed.word] else []) ++
  (f.scale.map fun x => choiceLine .scale x.text).toList ++
  (f.background.map fun b => choiceLine .background b.name).toList ++
  (f.lang.map fun l => choiceLine .lang l.code).toList ++
  (f.baseUrl.map (choiceLine .baseUrl)).toList ++
  (if f.perf then [Switch.perf.word] else []) ++
  (f.debugLog.map (choiceLine .debugLog)).toList

def remark : String := "# mermaidpad defaults (saved with --save)"

def text (f : Flags) : String := "\n".intercalate (remark :: f.lines) ++ "\n"

end Flags

end DiagramDesk
