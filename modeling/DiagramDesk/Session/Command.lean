import DiagramDesk.Export.Exporter
import DiagramDesk.Pipeline

/-! What can happen in a session, the commands that are typed to make it happen, and the list of
these commands that a session gives when it is asked for help. -/
namespace DiagramDesk

open Text

inductive Message where
  /-- The text was changed by others. -/
  | sourceChanged (text : String)
  | renderNow
  | renderFinished (result : RenderResult)
  /-- The clock went on to some time. -/
  | tick (now : Nat)
  | format
  | toggleHandDrawn
  | setTheme (theme : Theme)
  | setHandFont (font : HandFont)
  | setFontSize (size : FontSize)
  | setSeedMode (mode : SeedMode)
  | setBackground (background : Backdrop)
  | reshuffleSeed
  | setLang (lang : Language)
  | zoomIn
  | zoomOut
  | zoomReset
  | pan (delta : Vec Float)
  /-- An export to a file, or to the clipboard if there is no path. -/
  | export (format : ExportFormat) (path : Option String)
  | copyShareLink
  | copyEmbed
  | copyPrompt
  | jumpToError
  | dismissError
  | notify (notice : Notice)
  | showHelp
  | quit

namespace Message

def panStep : Float := 40.0

def pixels? (s : List Char) : Option Float :=
  (Binary.Format.double.read? s).map fun bits => Float.ofBits bits.toUInt64

def ofWords? (name : String) (arguments : List (List Char)) : Option Message :=
  let argument := arguments.head?.map String.ofList
  match name with
  | "r" | "render" => some .renderNow
  | "f" | "fmt" | "format" => some .format
  | "hand" | "look" => some .toggleHandDrawn
  | "theme" => (argument.bind Theme.ofName?).map .setTheme
  | "font" => (argument.bind HandFont.ofName?).map .setHandFont
  | "size" => (argument.bind FontSize.ofName?).map .setFontSize
  | "seed" => match argument with
    | none => some .reshuffleSeed
    | some mode => (SeedMode.ofName? mode).map .setSeedMode
  | "bg" | "background" => (argument.bind Backdrop.ofName?).map .setBackground
  | "lang" => (argument.bind Language.ofCode?).map .setLang
  | "+" | "zoom-in" => some .zoomIn
  | "-" | "zoom-out" => some .zoomOut
  | "0" | "reset" => some .zoomReset
  | "pan" => match arguments with
    | x :: y :: _ => do return .pan ⟨← pixels? x, ← pixels? y⟩
    | _ => none
  | "left" => some (.pan ⟨-panStep, 0.0⟩)
  | "right" => some (.pan ⟨panStep, 0.0⟩)
  | "up" => some (.pan ⟨0.0, -panStep⟩)
  | "down" => some (.pan ⟨0.0, panStep⟩)
  | "svg" => some (.export .svg argument)
  | "png" => some (.export .png argument)
  | "link" | "share" => some .copyShareLink
  | "embed" => some .copyEmbed
  | "prompt" | "ai" => some .copyPrompt
  | "jump" => some .jumpToError
  | "dismiss" => some .dismissError
  | "?" | "h" | "help" => some .showHelp
  | "q" | "quit" | "exit" => some .quit
  | _ => none

/-- Reads a line that was typed. The name of a command can be in any letter case. -/
def ofLine? (line : String) : Option Message :=
  match words line.toList with
  | [] => none
  | name :: arguments => ofWords? (String.ofList (name.map lowerAscii)) arguments

def unknown (line : String) : Message :=
  .notify (.warning ("unknown command: " ++ String.ofList (trim line.toList) ++ " (type `help`)"))

def ofLines (typed : List String) : List Message :=
  (typed.filter fun line => !blank line.toList).map fun line =>
    (ofLine? line).getD (unknown line)

end Message

def helpText : String := "\n".intercalate [
  "commands:",
  "  r, render                 render now",
  "  f, format                 reindent and save the source",
  "  hand                      toggle hand-drawn / classic look",
  "  theme NAME                default | neutral | dark | forest | base",
  "  font NAME                 virgil | caveat | kalam",
  "  size NAME                 small | medium | large",
  "  seed [fixed|random]       reshuffle the sketch seed, or set the seed mode",
  "  bg NAME                   white | black | checker | grid",
  "  lang CODE                 en | zh",
  "  + / - / 0                 zoom in, zoom out, reset view",
  "  pan DX DY | left|right|up|down",
  "  svg [PATH], png [PATH]    export to the clipboard or to PATH",
  "  link | embed | prompt     copy a share link, embed code or AI prompt",
  "  jump | dismiss            go to the error line, hide the error panel",
  "  q, quit"]

end DiagramDesk
