import DiagramDesk.Fonts.Cache
import DiagramDesk.Svg.Markup

/-! Fonts inside a document, so that it can be shown anywhere. -/
namespace DiagramDesk

open Text

namespace FontCache

/-- The style rule that brings a hand font with it, if its file can be had. -/
def face (c : FontCache) (font : HandFont) : Option String × FontCache :=
  match font.source? with
  | none => (none, c)
  | some url =>
    let (file, c) := c.get url
    (file.map fun file =>
      "@font-face \x7b font-family: '" ++ font.family ++ "'; src: url('" ++ file.dataUri ++
        "') format('" ++ file.cssFormat ++ "'); font-display: swap; \x7d", c)

/-- What takes the place of a remote reference: the file itself, or nothing. -/
def replacement (c : FontCache) (address : List Char) : List Char × FontCache :=
  let (file, c) := c.get (String.ofList address)
  ((file.map fun file => ("url('" ++ file.dataUri ++ "')").toList).getD [], c)

/-- A style sheet with its remote references replaced, in their order. -/
def inlineBody (c : FontCache) (body : List Char) : List Char × FontCache :=
  replaceSpans replacement c (spans Svg.remoteReference body)

/-- A document with the remote references of its styles replaced and, if one is given, with the
rule of a hand font in front. -/
def inline (c : FontCache) (svg : String) (font : Option HandFont) : String × FontCache :=
  let (text, c) := Svg.rewriteStyles inlineBody c svg.toList
  let (rule, c) := match font with
    | some font => c.face font
    | none => (none, c)
  match rule with
  | some rule =>
    (Svg.insertAfterRoot (String.ofList text) ("<style>" ++ rule ++ "</style>"), c)
  | none => (String.ofList text, c)

end FontCache

end DiagramDesk
