/-! Notices: short messages that stay on screen for a while. Times are in milliseconds and stop
at the largest that the clock can show. -/
namespace DiagramDesk

def lastMoment : Nat := 0xFFFFFFFFFFFFFFFF

def later (now delay : Nat) : Nat := min (now + delay) lastMoment

inductive NoticeLevel where
  | info | warning | error
  deriving DecidableEq, Repr

/-- A message to the user. -/
structure Notice where
  level : NoticeLevel
  text : String
  deriving DecidableEq, Repr

namespace Notice

def info (text : String) : Notice := ⟨.info, text⟩
def warning (text : String) : Notice := ⟨.warning, text⟩
def error (text : String) : Notice := ⟨.error, text⟩

def isError (n : Notice) : Bool := n.level = .error

def duration : Nat := 2200

end Notice

/-- The notice on screen and the time at which it goes. -/
structure NoticeSlot where
  shown : Option (Notice × Nat) := none
  deriving DecidableEq, Repr

namespace NoticeSlot

def put (_ : NoticeSlot) (notice : Notice) (now : Nat) : NoticeSlot :=
  ⟨some (notice, later now Notice.duration)⟩

def current (s : NoticeSlot) : Option Notice := s.shown.map (·.1)

def isDue (s : NoticeSlot) (now : Nat) : Bool := match s.shown with
  | some (_, due) => due ≤ now
  | none => false

def tick (s : NoticeSlot) (now : Nat) : NoticeSlot := if s.isDue now then ⟨none⟩ else s

end NoticeSlot

end DiagramDesk
