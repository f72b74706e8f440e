import DiagramDesk.Proofs.Editor.Cursor
import DiagramDesk.Proofs.Text.Boundary

/-!
Places that outlive their text. When its text is replaced an editor keeps two numbers: the first
line in view and the column of its cursor. Only scrolling looks at the first one again, so a
shorter text need not have that line. The second one is held against the length of its new line
in bytes alone, so it may fall inside a character.
-/
namespace DiagramDesk

open Text

namespace Editor

/-! ### The first line in view -/

/-- The line that scrolling shows, counted from zero: the one that was asked for, or the last one
if the text has fewer. -/
def shown (e : Editor) : Act → List Nat
  | .scroll line => [min (line - 1) (e.lineCount - 1)]
  | _ => []

theorem topLine_scrollToLine (e : Editor) (line : Nat) :
    (e.scrollToLine line).topLine = min (line - 1) (e.lineCount - 1) := by
  simp [scrollToLine, moveTo, moveToLine]

/-- The first line in view is the one that was shown last. -/
theorem topLine_act (e : Editor) (r : Option Nat) (a : Act) (h : e.topLine = r.getD 0) :
    (e.act a).topLine = ((e.shown a).getLast?.or r).getD 0 := by
  cases a with
  | scroll line => simp [act, shown, topLine_scrollToLine]
  | format =>
    rw [act, format]
    split <;> exact h
  | _ => exact h

theorem topLine_run (text : String) (acts : List Act) :
    ((ofText text).run acts).topLine = (notedBy shown (ofText text) acts).getLast?.getD 0 := by
  simpa using run_noted (R := fun e r => e.topLine = r.getD 0) topLine_act acts
    (e := ofText text) (r := none) rfl

/-- From a text on, whatever is done, the first line in view exists exactly if the text still has
the line that was shown last; as long as none was shown it does. Showing a line makes it exist
again, and only a change of the text can take it away. -/
theorem topLine_lt_iff (text : String) (acts : List Act) :
    let e := (ofText text).run acts
    (e.topLine < e.lineCount ↔
      ∀ i ∈ (notedBy shown (ofText text) acts).getLast?, i < e.lineCount) ∧
    (∀ line, (e.scrollToLine line).topLine < (e.scrollToLine line).lineCount) ∧
    ∀ a : Act, a.changes e = false → e.topLine < e.lineCount →
      (e.act a).topLine < (e.act a).lineCount := by
  intro e
  have hpos := e.lineCount_pos
  have hscroll (line : Nat) : (e.scrollToLine line).topLine < (e.scrollToLine line).lineCount := by
    have htop := e.topLine_scrollToLine line
    have hcount : (e.scrollToLine line).lineCount = e.lineCount := rfl
    omega
  refine ⟨?_, hscroll, fun a ha htop => ?_⟩
  · rw [topLine_run]
    cases (notedBy shown (ofText text) acts).getLast? with
    | none => simpa using hpos
    | some i => simp
  · have hcount : (e.act a).lineCount = e.lineCount := by
      rw [lineCount, lineCount, text_act_of_not_changes ha]
    cases a with
    | scroll line => exact hscroll line
    | setText => cases ha
    | format =>
      rw [act, format, if_neg (by simpa [Act.changes] using ha)]
      exact htop
    | _ => exact htop

theorem second_line_in_view :
    let acts : List Act := [.scroll 2, .setText "x\ny"]
    let e := (ofText "a\nb\nc").run acts
    (∀ i ∈ (notedBy shown (ofText "a\nb\nc") acts).getLast?, i < e.lineCount) ∧
      Act.focus.changes e = false ∧ e.topLine = 1 ∧ e.topLine < e.lineCount ∧
      (e.act .focus).topLine < (e.act .focus).lineCount := by
  intro acts e
  have hshown : ∀ i ∈ (notedBy shown (ofText "a\nb\nc") acts).getLast?, i < e.lineCount := by
    decide +kernel
  have hview := topLine_lt_iff "a\nb\nc" acts
  have hlt : e.topLine < e.lineCount := hview.1.mpr hshown
  exact ⟨hshown, rfl, by decide +kernel, hlt, hview.2.2 .focus rfl hlt⟩

/-- A text that was replaced by a shorter one with its last line in view. -/
def shortened : Editor := (ofText "a\nb\nc").run [.scroll 3, .setText "only"]

/-- A flowchart that was formatted with the last of the blank lines behind it in view. -/
def tidied : Editor := (ofText "graph TD\nA\n\n\n").run [.scroll 5, .format]

theorem view_past_end :
    shortened.topLine = 2 ∧ shortened.lineCount = 1 ∧ tidied.topLine = 4 ∧ tidied.lineCount = 3 := by
  refine ⟨?_, ?_, ?_, ?_⟩ <;> decide +kernel

/-! ### The column -/

/-- The column is between two characters of the cursor's line, or at one of its ends. -/
def ColumnBetween (e : Editor) : Prop :=
  ∃ line, e.cursorLine? = some line ∧ Between line e.cursor.col

/-- Whether something puts the cursor somewhere: scrolling does, and each change of the text. -/
def Act.places (e : Editor) : Act → Bool
  | .scroll _ => true
  | a => a.changes e

/-- An act that places the cursor, with the editor that it is done with. -/
def placing (e : Editor) (a : Act) : List (Editor × Act) := if a.places e then [(e, a)] else []

/-- A new text in which a character of the cursor's line lies across the column that the cursor
had. -/
def Act.Cuts (e : Editor) : Act → Prop
  | .setText text => ∃ line, (e.setText text).cursorLine? = some line ∧ Inside line e.cursor.col
  | _ => False

theorem columnBetween_congr {e e' : Editor} (ht : e'.text = e.text) (hc : e'.cursor = e.cursor) :
    e'.ColumnBetween ↔ e.ColumnBetween := by
  rw [ColumnBetween, ColumnBetween, cursorLine?, cursorLine?, ht, hc]

/-- A new text keeps the column good unless a character lies across it. -/
theorem columnBetween_setText (e : Editor) (text : String) :
    (e.setText text).ColumnBetween ↔ ¬ (Act.setText text).Cuts e := by
  obtain ⟨-, body, ending, hline, hending, -, hcol⟩ :=
    exists_line_moveToLine { e with text } e.cursor.line (min e.cursor.col)
  have hline' : (e.setText text).cursorLine? = some (body ++ ending) := hline
  have hcol' : (e.setText text).cursor.col = min e.cursor.col (utf8 body).length := hcol
  have hsize : ∀ c ∈ ending, c.utf8Size = 1 := by
    intro c hc
    obtain rfl | rfl := hending c hc <;> rfl
  simp only [ColumnBetween, Act.Cuts, hline', hcol', Option.some.injEq, exists_eq_left',
    between_min_iff hsize]

theorem columnBetween_scrollToLine (e : Editor) (line : Nat) :
    (e.scrollToLine line).ColumnBetween := by
  obtain ⟨-, body, ending, hline, -, -, hcol⟩ := e.exists_line_moveToLine (line - 1) (min 0)
  rw [Nat.zero_min] at hcol
  exact ⟨body ++ ending, hline, [], body ++ ending, rfl, hcol.symm⟩

theorem columnBetween_format (e : Editor) (h : e.isUnformatted = true) :
    e.format.ColumnBetween := by
  obtain ⟨-, body, ending, hline, -, -, hcol⟩ :=
    exists_line_moveToLine { e with text := formatSource e.text } e.cursor.line id
  rw [format, if_pos h]
  exact ⟨body ++ ending, hline, body, ending, rfl, hcol.symm⟩

/-- What places the cursor puts it between characters, a cut apart. -/
theorem columnBetween_act_iff (e : Editor) {a : Act} (h : a.places e = true) :
    (e.act a).ColumnBetween ↔ ¬ a.Cuts e := by
  cases a with
  | setText text => exact columnBetween_setText e text
  | scroll line => exact iff_of_true (columnBetween_scrollToLine e line) (by simp [Act.Cuts])
  | format => exact iff_of_true (columnBetween_format e h) (by simp [Act.Cuts])
  | _ => cases h

theorem columnBetween_act_of_not_places (e : Editor) {a : Act} (h : a.places e = false) :
    (e.act a).ColumnBetween ↔ e.ColumnBetween := by
  cases a with
  | setText | scroll => cases h
  | format => rw [act, format, if_neg (by simpa [Act.places, Act.changes] using h)]
  | _ => exact columnBetween_congr rfl rfl

/-- The column is as the last act that placed the cursor left it. -/
theorem columnBetween_step (e : Editor) (r : Option (Editor × Act)) (a : Act)
    (h : e.ColumnBetween ↔ ∀ p ∈ r, ¬ p.2.Cuts p.1) :
    (e.act a).ColumnBetween ↔ ∀ p ∈ (e.placing a).getLast?.or r, ¬ p.2.Cuts p.1 := by
  cases hp : a.places e with
  | true => simpa [placing, hp] using columnBetween_act_iff e hp
  | false => simpa [placing, hp] using (columnBetween_act_of_not_places e hp).trans h

/-- Only formatting takes the cursor away from the start of its line. -/
theorem col_run_of_no_format {acts : List Act} (h : .format ∉ acts) {e : Editor}
    (hcol : e.cursor.col = 0) : (e.run acts).cursor.col = 0 := by
  induction acts generalizing e with
  | nil => exact hcol
  | cons a acts ih =>
    rw [List.mem_cons, not_or] at h
    refine ih h.2 ?_
    cases a with
    | setText text => simp [act, setText, changed, moveTo, moveToLine, hcol]
    | scroll line => simp [act, cursor_scrollToLine]
    | format => exact absurd rfl h.1
    | _ => exact hcol

/-- From a text on, whatever is done, the column is between characters of its line exactly if the
act that placed the cursor last was no new text with a character across the column; and as long as
nothing is formatted it is at the start of the line. -/
theorem columnBetween_run_iff (text : String) (acts : List Act) :
    let e := (ofText text).run acts
    (e.ColumnBetween ↔
      ∀ p ∈ (notedBy placing (ofText text) acts).getLast?, ¬ p.2.Cuts p.1) ∧
    (.format ∉ acts → e.cursor.col = 0) := by
  intro e
  refine ⟨?_, fun h => col_run_of_no_format h rfl⟩
  have hstart : (ofText text).ColumnBetween := by
    obtain ⟨l, ls, hs, -⟩ := exists_documentLines_eq_cons text.toList
    exact ⟨l, by rw [cursorLine?, ofText, hs]; rfl, [], l, rfl, rfl⟩
  simpa using run_noted
    (R := fun e (r : Option (Editor × Act)) => e.ColumnBetween ↔ ∀ p ∈ r, ¬ p.2.Cuts p.1)
    columnBetween_step acts (e := ofText text) (r := none) (iff_of_true hstart (by simp))

/-- A flowchart that was formatted with the cursor on its header, and then got a longer one. -/
theorem longer_header_keeps_column :
    let acts : List Act := [.format, .setText "graph TD\u00e9"]
    (∀ p ∈ (notedBy placing (ofText "graph TD\nA") acts).getLast?, ¬ p.2.Cuts p.1) ∧
      ((ofText "graph TD\nA").run acts).cursor = ⟨0, 8⟩ ∧
      ((ofText "graph TD\nA").run acts).ColumnBetween ∧
      .format ∉ acts.tail ∧ ((ofText "graph TD\nA").run acts.tail).cursor.col = 0 := by
  intro acts
  have hlast : (notedBy placing (ofText "graph TD\nA") acts).getLast? =
      some ((ofText "graph TD\nA").format, .setText "graph TD\u00e9") := by decide +kernel
  have hline : ((ofText "graph TD\nA").format.setText "graph TD\u00e9").cursorLine? =
      some "graph TD\u00e9".toList := by decide +kernel
  have hcol : (ofText "graph TD\nA").format.cursor.col = 8 := by decide +kernel
  have hcuts : ∀ p ∈ (notedBy placing (ofText "graph TD\nA") acts).getLast?, ¬ p.2.Cuts p.1 := by
    intro p hp
    rw [hlast, Option.mem_some_iff] at hp
    subst hp
    rintro ⟨line, hline', hinside⟩
    rw [hline, Option.some.injEq] at hline'
    subst hline'
    have hbetween : Between "graph TD\u00e9".toList 8 :=
      ⟨"graph TD".toList, ['\u00e9'], by decide, by decide +kernel⟩
    exact (hcol ▸ hinside).not_between hbetween
  have htail : .format ∉ acts.tail := by decide
  exact ⟨hcuts, by decide +kernel, (columnBetween_run_iff _ acts).1.mpr hcuts, htail,
    (columnBetween_run_iff _ acts.tail).2 htail⟩

/-- The accent is two bytes long, and the column, which was the end of the header, is between
them. -/
theorem accent_across_column :
    let e := (ofText "graph TD\nA").run [.format, .setText "graph T\u00e9"]
    e.cursor = ⟨0, 8⟩ ∧ e.cursorLine? = some "graph T\u00e9".toList ∧ ¬ e.ColumnBetween := by
  intro e
  have hcursor : e.cursor = ⟨0, 8⟩ := by decide +kernel
  have hline : e.cursorLine? = some "graph T\u00e9".toList := by decide +kernel
  refine ⟨hcursor, hline, ?_⟩
  rintro ⟨line, hline', hbetween⟩
  rw [hline, Option.some.injEq] at hline'
  subst hline'
  rw [hcursor] at hbetween
  have hinside : Inside "graph T\u00e9".toList 8 :=
    ⟨"graph T".toList, '\u00e9', [], by decide, by decide +kernel, by decide +kernel⟩
  exact hinside.not_between hbetween

end Editor

end DiagramDesk
