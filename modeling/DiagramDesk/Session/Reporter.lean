import DiagramDesk.Session.Model

/-! Telling the user, line by line, what has changed since the last time. -/
namespace DiagramDesk

/-- What was told last. -/
structure Reporter where
  status : String := ""
  notice : Option Notice := none
  error : Option ErrorPanel := none
  lookWarning : Bool := false
  deriving DecidableEq, Repr

namespace Reporter

def panelLines (t : Phrases) (p : ErrorPanel) : List String :=
  ("  " ++ p.message) :: (p.hint.map fun hint => "  " ++ t.errorTip ++ ": " ++ hint).toList

def ofSession (s : Session) : Reporter where
  status := s.statusLine
  notice := s.notice.current
  error := s.preview.error?
  lookWarning := s.preview.lookWarning

def news (t : Phrases) (before now : Reporter) : List String :=
  (if now.status = before.status then [] else [now.status]) ++
  (if now.error = before.error then [] else (now.error.map (panelLines t)).getD []) ++
  (if now.lookWarning && !before.lookWarning then ["  " ++ t.lookUnsupported] else []) ++
  (if now.notice = before.notice then [] else (now.notice.map fun n => "> " ++ n.text).toList)

def report (r : Reporter) (s : Session) : String × Reporter :=
  let now := ofSession s
  (String.join ((news s.phrases r now).map (· ++ "\n")), now)

end Reporter

end DiagramDesk
