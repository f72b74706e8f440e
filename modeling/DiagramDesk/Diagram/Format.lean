import DiagramDesk.Diagram.Layout

/-! Formatting of a source text. Only blanks at the ends of lines and blank lines change: the
lines ahead of the header keep their indentation, the diagram is indented by the layout of its
kind, and the result has no trailing blanks, no two blank lines in a row, none at either end, and
one line feed at its end. A text of blanks alone is left as it is. -/
namespace DiagramDesk

open Text

/-- Drops empty lines that follow an empty line, or the start if `afterEmpty` says so. -/
def collapseEmpty (afterEmpty : Bool) : List (List Char) → List (List Char)
  | [] => []
  | l :: ls =>
    if l.isEmpty then
      if afterEmpty then collapseEmpty true ls else l :: collapseEmpty true ls
    else l :: collapseEmpty false ls

/-- Lines without trailing blanks, with single empty lines only inside. -/
def tidyLines (ls : List (List Char)) : List (List Char) :=
  dropEndWhile List.isEmpty (collapseEmpty true (ls.map trimEnd))

/-- The lines of a formatted source. Where there is no header, the first line that is not blank
takes its place. -/
def formatLines (ls : List (List Char)) : List (List Char) :=
  let start := ls.findIdx fun l => !blank l
  let header := (headerIndex ls).getD start
  tidyLines ((ls.take header).drop start ++
    (DiagramKind.ofLines ls).layout.reindent (ls.drop header))

def formatText (source : List Char) : List Char :=
  if blank source then source else unlines (formatLines (lines source))

def formatSource (source : String) : String := String.ofList (formatText source.toList)

end DiagramDesk
