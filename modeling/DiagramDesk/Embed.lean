import DiagramDesk.Pipeline
import DiagramDesk.Share.Link

/-! A page that shows a shared diagram and nothing else. -/
namespace DiagramDesk

/-- What the page shows: a diagram, or why there is none. -/
inductive EmbedView where
  | rendered (scene : Scene)
  | failed (message : String)
  deriving DecidableEq, Repr

namespace EmbedView

/-- Opens a link or a bare token and draws what it carries, once. -/
def opened (token : String) (engine : Engine) (settings : Settings) : EmbedView :=
  let phrases := settings.lang.phrases
  match Link.sourceOf token with
  | .error e => failed (phrases.failedWith e.message)
  | .ok source =>
    let (job, _) := ({ lang := settings.lang } : Pipeline).start source settings.style
    match (job.run engine).outcome with
    | .success scene => rendered scene
    | .empty => failed phrases.noDiagram
    | .failure f => failed f.message

def body (v : EmbedView) (lang : Language) : String := match v with
  | rendered scene => "<div id=\"diagram\">" ++ scene.markup ++ "</div>"
  | failed message =>
    "<div id=\"error\"><strong>" ++ lang.phrases.syntaxError ++ "</strong><pre>" ++
      Text.escapeMarkup message ++ "</pre></div>"

def styles : String :=
  "body\x7bmargin:0;display:flex;justify-content:center;align-items:center;" ++
  "min-height:100vh;background:#fff\x7d#diagram svg\x7bmax-width:100%;height:auto\x7d" ++
  "#error\x7bcolor:#b91c1c;font-family:system-ui,sans-serif;padding:1rem\x7d"

def head (lang : Language) : String :=
  "<!DOCTYPE html>\n<html lang=\"" ++ lang.code ++
  "\">\n<head>\n<meta charset=\"utf-8\">\n<title>Mermaid Diagram</title>\n<style>" ++ styles ++
  "</style>\n</head>\n<body>\n"

def foot : String := "\n</body>\n</html>\n"

def html (v : EmbedView) (lang : Language) : String := head lang ++ v.body lang ++ foot

end EmbedView

end DiagramDesk
