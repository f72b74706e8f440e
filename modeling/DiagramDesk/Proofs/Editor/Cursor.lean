import DiagramDesk.Proofs.Diagram.Places
import DiagramDesk.Proofs.Editor

/-!
The cursor and formatting. The cursor goes to the line with the number it had, so it stays with
its line only if no line ahead was dropped. With each dropped line the line that the cursor was on
moves up and the cursor does not.
-/
namespace DiagramDesk

open Text

namespace Editor

def cursorLine? (e : Editor) : Option (List Char) := (documentLines e.text.toList)[e.cursor.line]?

def linesAhead (e : Editor) : List (List Char) := (documentLines e.text.toList).take e.cursor.line

/-- Two cursors on the same line: on lines that hold the same, behind as many lines that are not
blank. -/
structure SameLine (e e' : Editor) : Prop where
  content : e'.cursorLine?.map trim = e.cursorLine?.map trim
  rank : (contentLines e'.linesAhead).length = (contentLines e.linesAhead).length

theorem toList_text_format (e : Editor) : e.format.text.toList = formatText e.text.toList := by
  rw [text_format, formatSource, String.toList_ofList]

/-- The cursor keeps the number of its line, or goes to the last line. -/
theorem line_cursor_format {e : Editor} (h : e.cursor.line < e.lineCount) :
    e.format.cursor.line = min e.cursor.line (e.format.lineCount - 1) := by
  cases hf : e.isUnformatted with
  | true => simp [format, hf, changed, moveToLine, lineCount]
  | false =>
    rw [format, if_neg (by simp [hf])]
    omega

section Format

variable {e : Editor} {line : List Char} {j : Nat}

/-- The cursor stays with its line exactly if the line keeps its number. -/
theorem sameLine_format (h : FoundAt e.text.toList line e.cursor.line j) :
    SameLine e e.format ↔ j = e.cursor.line := by
  obtain ⟨hlt, hat⟩ := List.getElem?_eq_some_iff.mp h.line_eq
  obtain ⟨l, hl, htrim, hb⟩ := h.exists_line
  have hcursor := line_cursor_format hlt
  have hbehind := h.behind
  rw [lineCount, Text.lineCount, toList_text_format] at hcursor
  constructor
  · rintro ⟨hcontent, hrank⟩
    have hline : e.cursorLine? = some line := h.line_eq
    rw [hline, Option.map_some, Option.map_eq_some_iff] at hcontent
    obtain ⟨r, hr, hrtrim⟩ := hcontent
    rw [cursorLine?, toList_text_format] at hr
    rw [linesAhead, linesAhead, toList_text_format] at hrank
    have hrb : blank r = false := (blank_congr hrtrim).trans h.not_blank
    have hj := rank_injective _ _ j r l hr hrb hl hb (hrank.trans h.rank_eq.symm)
    omega
  · intro hj
    have hc : e.format.cursor.line = j := by omega
    constructor
    · rw [cursorLine?, toList_text_format, hc, hl, cursorLine?, h.line_eq, Option.map_some, htrim]
      rfl
    · rw [linesAhead, linesAhead, toList_text_format, hc]
      exact h.rank_eq

/-- Formatting keeps the lines of the document that are not blank. A line that the cursor is on is
found again where the cursor is or further up. It is where the cursor is exactly if what is ahead
of the cursor is as before, up to blanks around lines; without stray breaks that is to say that no
blank line ahead is the first one or follows another one. -/
theorem sameLine_format_iff (hline : e.cursorLine? = some line) (hb : blank line = false) :
    contentLines (documentLines e.format.text.toList) =
      contentLines (documentLines e.text.toList) ∧
    (∃ j ≤ e.format.cursor.line, ∃ l, (documentLines e.format.text.toList)[j]? = some l ∧
      trim l = trim line ∧
      rank (documentLines e.format.text.toList) j = (contentLines e.linesAhead).length) ∧
    (SameLine e e.format ↔ e.format.linesAhead.map trim = e.linesAhead.map trim) ∧
    (strayBreaks e.text.toList = 0 → (SameLine e e.format ↔ Spaced e.linesAhead)) := by
  obtain ⟨j, h⟩ := exists_foundAt hline hb
  obtain ⟨hlt, -⟩ := List.getElem?_eq_some_iff.mp hline
  have hcursor := line_cursor_format hlt
  have hbehind := h.behind
  have hle := h.le
  rw [lineCount, Text.lineCount, toList_text_format] at hcursor
  refine ⟨?_, ⟨j, by omega, ?_⟩, ?_, fun hs => ?_⟩
  · rw [toList_text_format]
    exact (documentLines_formatText e.text.toList).1
  · obtain ⟨l, hl, htrim⟩ := h.content
    rw [toList_text_format]
    exact ⟨l, hl, htrim, h.rank_eq⟩
  · rw [sameLine_format h, h.eq_iff, linesAhead, linesAhead, toList_text_format]
    constructor
    · intro hsame
      have hj := h.eq_iff.mpr hsame
      rwa [show e.format.cursor.line = e.cursor.line by omega]
    · intro hsame
      have hlength := congrArg List.length hsame
      simp only [List.length_map, List.length_take] at hlength
      rwa [show e.format.cursor.line = e.cursor.line by omega] at hsame
  · rw [sameLine_format h, h.eq_iff_spaced hs, linesAhead]

/-- A flowchart with one blank line behind its header. -/
def spacedFlowchart : Editor := (ofText "graph TD\n\nA\nB").scrollToLine 4

theorem spacedFlowchart_cursor_stays :
    spacedFlowchart.cursorLine? = some ['B'] ∧ blank ['B'] = false ∧
      strayBreaks spacedFlowchart.text.toList = 0 ∧ Spaced spacedFlowchart.linesAhead ∧
      SameLine spacedFlowchart spacedFlowchart.format := by
  have hline : spacedFlowchart.cursorLine? = some ['B'] := by decide +kernel
  have hstray : strayBreaks spacedFlowchart.text.toList = 0 := by decide +kernel
  have hahead : spacedFlowchart.linesAhead = ["graph TD\n".toList, ['\n'], ['A', '\n']] := by
    decide +kernel
  have hspaced : Spaced spacedFlowchart.linesAhead := by
    rw [hahead]
    exact ⟨by decide, by decide⟩
  have hkeeps := sameLine_format_iff hline (by decide)
  exact ⟨hline, by decide, hstray, hspaced, (hkeeps.2.2.2 hstray).mpr hspaced⟩

/-- A flowchart with two blank lines behind its header. -/
def gappedFlowchart : Editor := (ofText "graph TD\n\n\nA").scrollToLine 4

/-- The node was on the fourth line and is now on the third; the cursor is behind it. -/
theorem gappedFlowchart_cursor_left :
    gappedFlowchart.cursorLine? = some ['A'] ∧ blank ['A'] = false ∧
      gappedFlowchart.format.text = "graph TD\n\n    A\n" ∧
      gappedFlowchart.format.cursorLine? = some [] ∧
      ¬ SameLine gappedFlowchart gappedFlowchart.format := by
  have hbefore : gappedFlowchart.cursorLine? = some ['A'] := by decide +kernel
  have hafter : gappedFlowchart.format.cursorLine? = some [] := by decide +kernel
  refine ⟨hbefore, by decide, by decide +kernel, hafter, fun h => ?_⟩
  have hcontent := h.content
  rw [hbefore, hafter] at hcontent
  revert hcontent
  decide

end Format

end Editor

end DiagramDesk
