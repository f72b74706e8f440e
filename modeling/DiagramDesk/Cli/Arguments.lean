import DiagramDesk.Export.Exporter
import DiagramDesk.Flags.Basic

/-! The command line: which commands there are, what each of them takes, and how a row of words is
read. Options can stand anywhere behind the command they belong to; the flags that can be kept as
defaults also stand in front of it. -/
namespace DiagramDesk.Cli

open Text

/-- An option: its long name, its letter if it has one, and the name of its value if it takes
one. -/
structure Opt where
  name : String
  letter : Option Char := none
  value : Option String := none
  /-- Which values make sense. -/
  accepts : String → Bool := fun _ => true
  /-- An option that cannot be given together with this one. -/
  rival : Option String := none
  help : String

/-- Whether a name is one of those of some choices, letter by letter. -/
def isNameIn (choices : List α) (name : α → String) (s : String) : Bool :=
  choices.any fun a => name a == s

def isPath (s : String) : Bool := !s.isEmpty

/-- Reads a seed; a minus sign is allowed in front of zero. -/
def seed? (s : String) : Option Nat := match s.toList with
  | '-' :: digits => (digits? digits).filter (· = 0)
  | digits => natBelow? Flags.seedBound digits

def languages : List Language := [.en, .zh]

/-- The flags that can be kept as defaults, and what to do with them. -/
def flagOpts : List Opt := [
  { name := "theme", value := some "THEME", accepts := isNameIn Theme.all Theme.name
    help := "Diagram theme" },
  { name := "hand-drawn", rival := some "classic", help := "Sketchy hand-drawn look (default)" },
  { name := "classic", help := "Plain look" },
  { name := "hand-font", value := some "HAND_FONT", accepts := isNameIn HandFont.all HandFont.name
    help := "Font preset for the hand-drawn look" },
  { name := "font-size", value := some "FONT_SIZE", accepts := isNameIn FontSize.all FontSize.name
    help := "Font size for the hand-drawn look" },
  { name := "seed", value := some "N", accepts := fun s => (seed? s).isSome
    help := "Fixed sketch seed" },
  { name := "random-seed", help := "Draw a new sketch seed for every render" },
  { name := "scale", value := some "FACTOR", accepts := fun s => (Flags.scale? s).isSome
    help := "PNG export scale" },
  { name := "background", value := some "BACKGROUND"
    accepts := isNameIn Backdrop.all Backdrop.name
    help := "Preview background; also decides the export background" },
  { name := "lang", value := some "LANG", accepts := isNameIn languages Language.code
    help := "Interface language" },
  { name := "base-url", value := some "URL", help := "Page the share links point at" },
  { name := "perf", help := "Enable performance logging" },
  { name := "render-debug-log", value := some "PATH", accepts := isPath
    help := "Write detailed render/export debug events to a file" },
  { name := "save", help := "Save the flags on this command line as defaults" },
  { name := "clear", help := "Clear saved defaults" }]

structure Operand where
  name : String
  required : Bool := true
  accepts : String → Bool := fun _ => true

/-- A command: its name, its options, and its operand. -/
structure Verb where
  name : String
  help : String
  opts : List Opt
  operand : Operand

def fileOperand : Operand := { name := "FILE", accepts := isPath }

def linkOperand : Operand := { name := "LINK" }

def outputOpt (help : String) : Opt :=
  { name := "output", letter := some 'o', value := some "PATH", accepts := isPath, help }

def formatOpt (help : String) : Opt :=
  { name := "format", value := some "FORMAT"
    accepts := isNameIn ExportFormat.all ExportFormat.name, help }

def verbs : List Verb := [
  { name := "format", help := "Reindent a diagram source file", operand := fileOperand
    opts := [
      { name := "write", letter := some 'w'
        help := "Rewrite the file instead of printing the result" },
      { name := "check", rival := some "write"
        help := "Exit with an error if the file is not formatted" }] },
  { name := "check", help := "Validate a diagram and report errors with their line"
    operand := fileOperand
    opts := [{ name := "json", help := "Print a JSON report on stdout instead" }] },
  { name := "render", help := "Render a diagram to SVG or PNG", operand := fileOperand
    opts := [
      outputOpt "Output file; the clipboard when omitted",
      formatOpt "Output format; guessed from the output extension when omitted",
      { name := "fill", value := some "COLOR"
        help := "PNG background as a CSS color or `transparent`" }] },
  { name := "watch", operand := fileOperand
    help := "Edit interactively: re-render on file changes and typed commands"
    opts := [
      outputOpt "Re-export here after every successful render",
      formatOpt "",
      { name := "no-watch", help := "Do not watch the file for external changes" }] },
  { name := "share", help := "Print a share link for a diagram", operand := fileOperand
    opts := [
      { name := "embed", rival := some "ai-prompt", help := "Print iframe embed code instead" },
      { name := "ai-prompt", help := "Print instructions for AI assistants instead" },
      { name := "copy", help := "Also copy the result to the clipboard" }] },
  { name := "open", help := "Recover the diagram source from a share link or token"
    operand := linkOperand
    opts := [outputOpt "Write the source here instead of printing it"] },
  { name := "embed", help := "Render a share link as a standalone HTML page"
    operand := linkOperand, opts := [outputOpt ""] },
  { name := "examples", help := "List the built-in examples, or print one"
    operand := { name := "NAME", required := false }, opts := [] }]

/-! ### Reading words -/

/-- What was given at one level of a command line: options with their values, the last one first,
and operands. -/
structure Given where
  opts : List (String × String) := []
  operands : List String := []
  deriving DecidableEq, Repr

namespace Given

def has (g : Given) (name : String) : Bool := g.opts.any fun o => o.1 = name

def value? (g : Given) (name : String) : Option String :=
  (g.opts.find? fun o => o.1 = name).map (·.2)

end Given

/-- Why a command line is not carried out: it is wrong, or it asks for something about the program
itself. -/
inductive Halt where
  | wrong (message : String)
  | help (verb : Option String)
  | version
  deriving DecidableEq, Repr

structure Level where
  opts : List Opt
  operand : Option Operand
  /-- The verb, at the level behind one. -/
  verb : Option String
  deriving Inhabited

namespace Level

def long? (l : Level) (name : String) : Option Opt := l.opts.find? fun o => o.name == name

def short? (l : Level) (c : Char) : Option Opt := l.opts.find? fun o => o.letter == some c

def note (g : Given) (o : Opt) (value : String) : Except Halt Given :=
  if g.has o.name then
    .error (.wrong ("the argument '--" ++ o.name ++ "' cannot be used multiple times"))
  else if o.accepts value then .ok { g with opts := (o.name, value) :: g.opts }
  else .error (.wrong ("invalid value '" ++ value ++ "' for '--" ++ o.name ++ "'"))

def operandOf (l : Level) (g : Given) (word : String) : Except Halt Given :=
  match l.operand with
  | some o =>
    if !g.operands.isEmpty then .error (.wrong ("unexpected argument '" ++ word ++ "' found"))
    else if o.accepts word then .ok { g with operands := [word] }
    else .error (.wrong ("a value is required for '<" ++ o.name ++ ">' but none was supplied"))
  | none => .error (.wrong ("unexpected argument '" ++ word ++ "' found"))

inductive Found where
  | halt (h : Halt)
  /-- An option with its value, and the letters behind it that are still to be read. -/
  | given (o : Opt) (value : String) (letters : List Char)
  /-- An option whose value is the next word. -/
  | opens (o : Opt)

def long (l : Level) (body : List Char) : Found :=
  let name := String.ofList (body.takeWhile (· != '='))
  let value := match body.dropWhile (· != '=') with
    | _ :: v => some (String.ofList v)
    | [] => none
  match l.long? name, value with
  | some o, some v =>
    if o.value.isSome then .given o v []
    else .halt (.wrong ("unexpected value '" ++ v ++ "' for '--" ++ name ++ "' found"))
  | some o, none => if o.value.isSome then .opens o else .given o "" []
  | none, none =>
    if name = "help" then .halt (.help l.verb)
    else if name = "version" && l.verb.isNone then .halt .version
    else .halt (.wrong ("unexpected argument '--" ++ name ++ "' found"))
  | none, some _ => .halt (.wrong ("unexpected argument '--" ++ name ++ "' found"))

def short (l : Level) (c : Char) (letters : List Char) : Found :=
  match l.short? c with
  | some o =>
    if o.value.isSome then
      match letters with
      | [] => .opens o
      | '=' :: v => .given o (String.ofList v) []
      | v => .given o (String.ofList v) []
    else .given o "" letters
  | none =>
    if c = 'h' then .halt (.help l.verb)
    else if c = 'V' && l.verb.isNone then .halt .version
    else .halt (.wrong ("unexpected argument '-" ++ String.singleton c ++ "' found"))

/-- Reads a row of letters; an option whose value is the next word can only be the last one. -/
def letters (l : Level) (g : Given) : List Char → Except Halt (Given × Option Opt)
  | [] => .ok (g, none)
  | c :: rest => match l.short c rest with
    | .halt h => .error h
    | .opens o => .ok (g, some o)
    | .given o value more => do
      let g ← note g o value
      if more.isEmpty then return (g, none) else letters l g rest

def dashed (l : Level) (g : Given) (word : List Char) : Except Halt (Given × Option Opt) :=
  match word with
  | '-' :: '-' :: body => match l.long body with
    | .halt h => .error h
    | .opens o => .ok (g, some o)
    | .given o value _ => (note g o value).map (·, none)
  | _ :: rest => l.letters g rest
  | [] => .ok (g, none)

def isDashed (word : String) : Bool := match word.toList with
  | '-' :: _ :: _ => true
  | _ => false

def lacking (o : Opt) : Halt :=
  .wrong ("a value is required for '--" ++ o.name ++ "' but none was supplied")

/-- Reads words up to one that is not an option, or all of them where operands are known. What is
left over starts with the word at which reading stopped. -/
def read (l : Level) (g : Given) : List String → Except Halt (Given × List String)
  | [] => .ok (g, [])
  | word :: rest =>
    if word = "--" then do
      let g ← rest.foldlM l.operandOf g
      return (g, [])
    else if isDashed word then
      match l.dashed g word.toList with
      | .error h => .error h
      | .ok (g, none) => l.read g rest
      | .ok (_, some o) => match rest with
        | [] => .error (lacking o)
        | value :: rest =>
          if isDashed value then .error (lacking o)
          else do l.read (← note g o value) rest
    else if l.operand.isNone then .ok (g, word :: rest)
    else do l.read (← l.operandOf g word) rest

/-- Checks what can only be told at the end: rivals, and an operand that is missing. -/
def finish (l : Level) (g : Given) : Except Halt Given :=
  match l.opts.find? fun o => g.has o.name && (o.rival.map g.has).getD false with
  | some o =>
    .error (.wrong ("the argument '--" ++ o.name ++ "' cannot be used with '--" ++
      o.rival.getD "" ++ "'"))
  | none => match l.operand with
    | some o =>
      if o.required && g.operands.isEmpty then
        .error (.wrong ("the following required arguments were not provided: <" ++ o.name ++ ">"))
      else .ok g
    | none => .ok g

end Level

/-! ### What was asked for -/

inductive Command where
  | format (file : String) (write check : Bool)
  | check (file : String) (json : Bool)
  | render (file : String) (output : Option String) (format : Option ExportFormat)
      (fill : Option String)
  | watch (file : String) (output : Option String) (format : Option ExportFormat) (watched : Bool)
  | share (file : String) (embed prompt copy : Bool)
  | «open» (link : String) (output : Option String)
  | embed (link : String) (output : Option String)
  | examples (name : Option String)
  deriving DecidableEq, Repr

structure Invocation where
  command : Command
  flags : Flags
  save : Bool
  clear : Bool
  deriving DecidableEq, Repr

/-- The flags among what was given. The plain look wins over the other one. -/
def flagsOf (g : Given) : Flags where
  perf := g.has "perf"
  randomSeed := g.has "random-seed"
  theme := (g.value? "theme").bind Theme.ofName?
  look := if g.has "classic" then some .classic
    else if g.has "hand-drawn" then some .handDrawn
    else none
  handFont := (g.value? "hand-font").bind HandFont.ofName?
  fontSize := (g.value? "font-size").bind FontSize.ofName?
  seed := (g.value? "seed").bind seed?
  scale := (g.value? "scale").bind Flags.scale?
  background := (g.value? "background").bind Backdrop.ofName?
  lang := (g.value? "lang").bind Language.ofCode?
  baseUrl := g.value? "base-url"
  debugLog := g.value? "render-debug-log"

def commandOf (verb : String) (g : Given) : Command :=
  let operand := g.operands.headD ""
  let output := g.value? "output"
  let format := (g.value? "format").bind fun n => ExportFormat.all.find? fun f => f.name = n
  match verb with
  | "format" => .format operand (g.has "write") (g.has "check")
  | "check" => .check operand (g.has "json")
  | "render" => .render operand output format (g.value? "fill")
  | "watch" => .watch operand output format (!g.has "no-watch")
  | "share" => .share operand (g.has "embed") (g.has "ai-prompt") (g.has "copy")
  | "open" => .open operand output
  | "embed" => .embed operand output
  | _ => .examples g.operands.head?

/-- Reads what stands behind a verb, given what stands in front of it. Of a flag that is given on
both sides, the one behind counts. -/
def readVerb (before : Given) (v : Verb) (words : List String) : Except Halt Invocation := do
  let level : Level := ⟨v.opts ++ flagOpts, some v.operand, some v.name⟩
  let (g, _) ← level.read {} words
  let g ← level.finish g
  let both : Given := { g with opts := g.opts ++ before.opts }
  return {
    command := commandOf v.name g
    flags := flagsOf both
    save := both.has "save"
    clear := both.has "clear" }

/-- What is asked for by the words behind a request for help: help on the program, or on one verb
or on help itself. None of these has verbs of its own. -/
def helpFor : List String → Halt
  | [] => .help none
  | name :: rest =>
    if name = "help" ∨ verbs.any (·.name = name) then
      match rest with
      | [] => .help (some name)
      | other :: _ => .wrong ("unrecognized subcommand '" ++ other ++ "'")
    else .wrong ("unrecognized subcommand '" ++ name ++ "'")

def read (words : List String) : Except Halt Invocation := do
  let top : Level := ⟨flagOpts, none, none⟩
  let (before, rest) ← top.read {} words
  match rest with
  | [] => .error (.wrong "a command is required")
  | word :: rest =>
    if word = "help" then
      .error (helpFor rest)
    else
      match verbs.find? (·.name = word) with
      | some v => do
        let i ← readVerb before v rest
        let _ ← top.finish before
        return i
      | none => .error (.wrong ("unrecognized subcommand '" ++ word ++ "'"))

/-! ### About the program -/

def programName : String := "mermaidpad"

def versionText : String := programName ++ " 0.4.2\n"

def Opt.usage (o : Opt) : String :=
  (match o.letter with
    | some c => "-" ++ String.singleton c ++ ", "
    | none => "    ") ++ "--" ++ o.name ++
  (match o.value with
    | some v => " <" ++ v ++ ">"
    | none => "")

def columns (rows : List (String × String)) : String :=
  let width := (rows.map fun r => r.1.length).foldl max 0
  String.join (rows.map fun (left, right) =>
    let row := "  " ++ left ++ "".pushn ' ' (width - left.length) ++ "  " ++ right
    row.trimAsciiEnd.toString ++ "\n")

def optionRows (opts : List Opt) : List (String × String) :=
  opts.map (fun o => (o.usage, o.help)) ++ [("-h, --help", "Print help")]

def helpOn (verb : Option String) : String :=
  match verb.bind fun name => verbs.find? (·.name = name) with
  | some v =>
    let operand := if v.operand.required then "<" ++ v.operand.name ++ ">"
      else "[" ++ v.operand.name ++ "]"
    v.help ++ "\n\nUsage: " ++ programName ++ " " ++ v.name ++ " [OPTIONS] " ++ operand ++
      "\n\nArguments:\n" ++ columns [(operand, "")] ++
      "\nOptions:\n" ++ columns (optionRows (v.opts ++ flagOpts))
  | none =>
    "Live editor and exporter for Mermaid diagrams\n\nUsage: " ++ programName ++
      " [OPTIONS] <COMMAND>\n\nCommands:\n" ++
      columns (verbs.map (fun v => (v.name, v.help)) ++
        [("help", "Print this message or the help of the given subcommand(s)")]) ++
      "\nOptions:\n" ++ columns (optionRows flagOpts ++ [("-V, --version", "Print version")])

end DiagramDesk.Cli
