import DiagramDesk.Diagnostic
import DiagramDesk.Diagram.Format
import DiagramDesk.Language

/-! The editor: a text with a cursor, marks, and subscribers who get every new text. -/
namespace DiagramDesk

open Text

/-- A place in a text: a line, counted from zero, and a number of bytes into it. -/
structure Cursor where
  line : Nat := 0
  col : Nat := 0
  deriving DecidableEq, Repr

/-- One who gets every new text, until it leaves; the texts it has not taken yet. -/
structure Subscriber where
  waiting : List String := []
  present : Bool := true
  deriving DecidableEq, Repr

/-- Hands a new text to a subscriber who is still there. -/
def Subscriber.receive (s : Subscriber) (text : String) : Subscriber :=
  if s.present then { s with waiting := s.waiting ++ [text] } else s

/-- An editor. -/
structure Editor where
  text : String
  cursor : Cursor := {}
  dirty : Bool := false
  diagnostics : List Diagnostic := []
  focused : Bool := false
  topLine : Nat := 0
  subscribers : List Subscriber := []
  deriving DecidableEq, Repr

namespace Editor

def ofText (text : String) : Editor := { text }

def lineCount (e : Editor) : Nat := Text.lineCount e.text.toList

/-- The bytes of a line without line feeds and carriage returns at its end. -/
def lineBytes (e : Editor) (i : Nat) : Nat :=
  byteWidth (dropEndWhile (fun c => c == '\n' || c == '\r')
    ((documentLines e.text.toList)[i]?.getD []))

/-- Puts the cursor on a line, or on the last one. -/
def moveToLine (e : Editor) (line : Nat) (col : Nat → Nat) : Editor :=
  let line := min line (e.lineCount - 1)
  { e with cursor := ⟨line, col (e.lineBytes line)⟩ }

/-- Puts the cursor on a line and so many bytes into it, or as near as can be. -/
def moveTo (e : Editor) (line col : Nat) : Editor := e.moveToLine line (min col)

def changed (e : Editor) : Editor :=
  { e with dirty := true, subscribers := e.subscribers.map (Subscriber.receive · e.text) }

/-- Replaces the text; the cursor stays as near as can be. -/
def setText (e : Editor) (text : String) : Editor :=
  ({ e with text }.moveTo e.cursor.line e.cursor.col).changed

def isUnformatted (e : Editor) : Bool := formatSource e.text != e.text

/-- Formats the text and puts the cursor at the end of its line; nothing happens to a text that is
formatted already. -/
def format (e : Editor) : Editor :=
  if e.isUnformatted then
    ({ e with text := formatSource e.text }.moveToLine e.cursor.line id).changed
  else e

def setDiagnostics (e : Editor) (ds : List Diagnostic) : Editor := { e with diagnostics := ds }

/-- Shows a line, counted from one, and puts the cursor at its start. -/
def scrollToLine (e : Editor) (line : Nat) : Editor :=
  let e := e.moveTo (line - 1) 0
  { e with topLine := e.cursor.line }

def focus (e : Editor) : Editor := { e with focused := true }

def markClean (e : Editor) : Editor := { e with dirty := false }

def subscribe (e : Editor) : Editor := { e with subscribers := e.subscribers ++ [{}] }

def unsubscribe (e : Editor) (i : Nat) : Editor :=
  { e with subscribers := e.subscribers.modify i fun s => { s with present := false } }

def waiting? (e : Editor) (i : Nat) : Option (List String) :=
  (e.subscribers[i]?.filter (·.present)).map (·.waiting)

def take (e : Editor) (i : Nat) : Editor :=
  { e with subscribers := e.subscribers.modify i fun s => { s with waiting := [] } }

def status (e : Editor) (lang : Language) : String :=
  let n := e.text.length
  lang.phrases.size (if n = 0 then 0 else e.lineCount) n

def summary (e : Editor) : String :=
  "EditorBuffer \x7b rope: Rope(" ++ toString e.lineCount ++ " lines), cursor: Cursor \x7b line: " ++
    toString e.cursor.line ++ ", col: " ++ toString e.cursor.col ++ " \x7d, dirty: " ++
    toString e.dirty ++ ", diagnostics: " ++ toString e.diagnostics.length ++ ", .. \x7d"

end Editor

end DiagramDesk
