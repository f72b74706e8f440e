import DiagramDesk.Session.Debouncer
import DiagramDesk.Session.Studio

/-! The loop of a live session. In each turn the clock goes on, typed commands and changes of the
file are taken in, a rendering starts if one was asked for and a quiet moment has come, finished
renderings are put on screen, the text is saved if that was asked for, and the user is told what
is new. -/
namespace DiagramDesk

/-- What a session carries from one turn to the next. -/
structure LiveSession where
  studio : Studio
  debouncer : Debouncer := { delay := Debouncer.renderDelay }
  reporter : Reporter := {}
  watcher : Option Watcher := none

/-- What comes in during a turn: the time, the messages, and the results that have arrived, by
their numbers; unless these are given, they are the ones of the renderings started in this turn. -/
structure TurnInput where
  now : Nat
  messages : List Message := []
  arrived : Option (List Nat) := none

/-- What became of the files since the last turn, and the events that tell of it. -/
structure FileNews where
  files : FileTree
  events : List FileEvent

/-- What was done in a turn. -/
structure TurnRecord where
  renderRequested : Bool
  fired : Bool
  saved : Bool
  started : Nat
  said : String
  report : String
  deriving Repr

namespace LiveSession

/-- The session with the files as they have become; a watcher hears what happened to them. -/
def refresh (news : FileNews) (l : LiveSession) : LiveSession :=
  { l with
    studio := { l.studio with host := { l.studio.host with files := news.files } }
    watcher := l.watcher.map (news.events.foldl Watcher.hear) }

def pollFile (engine : Engine) (now : Nat) (l : LiveSession) : LiveSession :=
  match l.watcher with
  | none => l
  | some w =>
    let content := (l.studio.host.files.readText l.studio.session.filePath).toOption
    let (text, w) := w.poll now content
    { l with
      watcher := some w
      studio := match text with
        | some text => l.studio.takeIn engine text
        | none => l.studio }

def queueRender (now : Nat) (l : LiveSession) : LiveSession :=
  if l.studio.session.renderRequested then
    { l with
      studio := { l.studio with session := { l.studio.session with renderRequested := false } }
      debouncer := l.debouncer.queue now }
  else l

def fireRender (engine : Engine) (now : Nat) (l : LiveSession) : LiveSession :=
  let (fired, debouncer) := l.debouncer.fire now
  { l with
    debouncer
    studio := if fired then l.studio.dispatch engine .renderNow else l.studio }

/-- Delivers results by their numbers. -/
def deliver (engine : Engine) (numbers : List Nat) (l : LiveSession) : LiveSession :=
  let arrived := numbers.filterMap (l.studio.results[·]?)
  { l with studio := l.studio.dispatchAll engine (arrived.map .renderFinished) }

def saveIfAsked (l : LiveSession) : LiveSession :=
  if l.studio.session.saveRequested then
    let studio := { l.studio with session := { l.studio.session with saveRequested := false } }
    let (studio, watcher) := studio.saveWatched l.watcher
    { l with studio, watcher }
  else l

def tell (l : LiveSession) : String × LiveSession :=
  let (report, reporter) := l.reporter.report l.studio.session
  (report, { l with reporter })

def turn (engine : Engine) (l : LiveSession) (i : TurnInput) : TurnRecord × LiveSession :=
  let known := l.studio.results.length
  let clocked := { l with
    studio := { l.studio with said := "", session := l.studio.session.update (.tick i.now) } }
  let dispatched := { clocked with studio := clocked.studio.dispatchAll engine i.messages }
  let polled := dispatched.pollFile engine i.now
  let queued := polled.queueRender i.now
  let fired := queued.fireRender engine i.now
  let started := fired.studio.results.length - known
  let delivered := fired.deliver engine (i.arrived.getD (List.range' known started))
  let saved := delivered.saveIfAsked
  let (report, told) := saved.tell
  ({ renderRequested := polled.studio.session.renderRequested
     fired := queued.debouncer.isReady i.now
     saved := delivered.studio.session.saveRequested
     started
     said := told.studio.said
     report }, told)

/-- Whether nothing can happen any more, given that no more lines will be typed. -/
def isOver (l : LiveSession) (closed : Bool) : Bool :=
  l.studio.session.quit || (closed && l.watcher.isNone)

/-- The first turn's rendering does not wait for a quiet moment. -/
def begin (engine : Engine) (l : LiveSession) : LiveSession :=
  { l with
    studio := { l.studio with
      session := { l.studio.session with renderRequested := false } }.dispatch engine .renderNow }

end LiveSession

end DiagramDesk
