import DiagramDesk.Proofs.Diagram.Layout
import DiagramDesk.Proofs.Text.Lines

/-!
Formatting. A formatted source has the content of the source, so the same header
is found in it again and the same layout applies; formatting it once more changes
nothing.
-/
namespace DiagramDesk

open Text Layout

/-! ### Around the header -/

/-- Where the indented diagram begins: at the header, else at the first line that is not blank. -/
def diagramStart (ls : List (List Char)) : Nat :=
  (headerIndex ls).getD (ls.findIdx fun l => !blank l)

/-- The lines ahead of the diagram, from the first that is not blank. -/
def preamble (ls : List (List Char)) : List (List Char) :=
  (ls.take (diagramStart ls)).drop (ls.findIdx fun l => !blank l)

theorem formatLines_eq (ls : List (List Char)) :
    formatLines ls =
      tidyLines (preamble ls ++
        (DiagramKind.ofLines ls).layout.reindent (ls.drop (diagramStart ls))) := rfl

/-- Only a source of blank lines has no first line of a diagram. -/
theorem diagramStart_spec (ls : List (List Char)) (h : ∃ l ∈ ls, blank l = false) :
    ∃ l, ls[diagramStart ls]? = some l ∧ blank l = false := by
  rw [diagramStart]
  cases hi : headerIndex ls with
  | some i =>
    obtain ⟨l, hl, hlike⟩ := headerLike_headerIndex ls i hi
    exact ⟨l, hl, not_blank_of_headerLike l hlike⟩
  | none =>
    have hlt : ls.findIdx (fun l => !blank l) < ls.length := by
      rw [List.findIdx_lt_length]
      obtain ⟨l, hl, hb⟩ := h
      exact ⟨l, hl, by rw [hb]; rfl⟩
    refine ⟨_, List.getElem?_eq_getElem hlt, ?_⟩
    have hfound : (!blank ls[ls.findIdx fun l => !blank l]) = true :=
      List.findIdx_getElem (w := hlt)
    simpa using hfound

/-- The rank of the diagram depends on the content only. -/
theorem rank_diagramStart (ls : List (List Char)) :
    rank ls (diagramStart ls) = (headerIndex (contentLines ls)).getD 0 := by
  rw [diagramStart, headerIndex_contentLines]
  cases headerIndex ls with
  | none => exact rank_findIdx ls
  | some i => rfl

theorem contentLines_preamble (ls : List (List Char)) :
    contentLines (preamble ls) = contentLines (ls.take (diagramStart ls)) := by
  have hzero : rank (ls.take (diagramStart ls)) (ls.findIdx fun l => !blank l) = 0 := by
    rw [rank, List.length_eq_zero_iff, contentLines_eq_nil_iff, List.take_take, Nat.min_comm,
      ← List.take_take]
    intro l hl
    exact blank_of_mem_take_findIdx ls l (List.mem_of_mem_take hl)
  rw [preamble, contentLines_drop, hzero, List.drop_zero]

/-! ### One pass -/

section Pass

variable (ls : List (List Char)) (l : List Char) (hl : ls[diagramStart ls]? = some l)

include hl

theorem reindent_drop (layout : Layout) :
    layout.reindent (ls.drop (diagramStart ls)) =
      trim l :: layout.indentBody (ls.drop (diagramStart ls + 1)) := by
  rw [drop_of_getElem? ls _ l hl, reindent]

theorem formatLines_split (hb : blank l = false) :
    formatLines ls = tidyHead (preamble ls) ++ trim l ::
      tidyTail ((DiagramKind.ofLines ls).layout.indentBody (ls.drop (diagramStart ls + 1))) := by
  rw [formatLines_eq, reindent_drop ls l hl, tidyLines_append_cons _ _ _ (by rw [blank_trim, hb]),
    trimEnd_trim]

theorem contentLines_formatLines (hb : blank l = false) :
    contentLines (formatLines ls) = contentLines ls := by
  have hparts := contentLines_append (ls.take (diagramStart ls)) (ls.drop (diagramStart ls))
  rw [List.take_append_drop, drop_of_getElem? ls _ l hl, contentLines_cons l _ hb] at hparts
  rw [formatLines_eq, reindent_drop ls l hl, contentLines_tidyLines, contentLines_append,
    contentLines_cons (trim l) _ (by rw [blank_trim, hb]), trim_trim,
    contentLines_congr (map_trim_indentBody _ _), contentLines_preamble, hparts]

/-- The diagram of a formatted source begins behind its tidy preamble. -/
theorem diagramStart_formatLines (hb : blank l = false) :
    diagramStart (formatLines ls) = (tidyHead (preamble ls)).length := by
  have hcontent := contentLines_formatLines ls l hl hb
  have hsplit := formatLines_split ls l hl hb
  have hsome : ∃ r ∈ formatLines ls, blank r = false := by
    refine ⟨trim l, ?_, by rw [blank_trim, hb]⟩
    rw [hsplit]
    simp
  obtain ⟨r, hr, hrb⟩ := diagramStart_spec (formatLines ls) hsome
  have hline : (formatLines ls)[(tidyHead (preamble ls)).length]? = some (trim l) := by
    rw [hsplit]
    simp
  apply rank_injective (formatLines ls) _ _ r (trim l) hr hrb hline (by rw [blank_trim, hb])
  rw [rank_diagramStart, hcontent, ← rank_diagramStart]
  conv => rhs; rw [rank, hsplit, List.take_left, contentLines_tidyHead, contentLines_preamble]
  rfl

theorem preamble_formatLines (hb : blank l = false) :
    preamble (formatLines ls) = tidyHead (preamble ls) := by
  have hfirst : (formatLines ls).findIdx (fun l => !blank l) = 0 := by
    cases hf : formatLines ls with
    | nil => rfl
    | cons r rs =>
      have hr : blank r = false := tidyLines_head _ r (by rw [← formatLines_eq, hf]; rfl)
      rw [List.findIdx_cons, hr]
      rfl
  rw [preamble, hfirst, List.drop_zero, diagramStart_formatLines ls l hl hb,
    formatLines_split ls l hl hb, List.take_left]

theorem formatLines_formatLines (hb : blank l = false) :
    formatLines (formatLines ls) = formatLines ls := by
  have hsplit := formatLines_split ls l hl hb
  have hstart := diagramStart_formatLines ls l hl hb
  have hkind : DiagramKind.ofLines (formatLines ls) = DiagramKind.ofLines ls := by
    rw [← ofLines_contentLines, contentLines_formatLines ls l hl hb, ofLines_contentLines]
  have hline : (formatLines ls)[diagramStart (formatLines ls)]? = some (trim l) := by
    rw [hstart, hsplit]
    simp
  have hbody : (formatLines ls).drop (diagramStart (formatLines ls) + 1) =
      tidyTail ((DiagramKind.ofLines ls).layout.indentBody (ls.drop (diagramStart ls + 1))) := by
    rw [hstart, ← List.drop_drop, hsplit, List.drop_left, List.drop_one, List.tail_cons]
  rw [formatLines_split _ (trim l) hline (by rw [blank_trim, hb]), preamble_formatLines ls l hl hb,
    hkind, hbody, tidyHead_tidyHead, trim_trim, tidyTail_indentBody, ← hsplit]

end Pass

/-! ### Texts -/

theorem endTrimmed_formatLines (ls : List (List Char)) : EndTrimmed (formatLines ls) :=
  endTrimmed_tidyLines _

/-- Formatting brings in blanks only. -/
theorem not_mem_formatLines (ls : List (List Char)) (c : Char) (hc : c ≠ ' ')
    (h : ∀ l ∈ ls, c ∉ l) : ∀ l ∈ formatLines ls, c ∉ l := by
  intro l hl
  obtain ⟨r, hr, rfl⟩ := mem_of_mem_tidyLines _ l hl
  refine mt (mem_of_mem_trimEnd r c) ?_
  rcases List.mem_append.mp hr with hfront | hdiagram
  · exact h r (List.mem_of_mem_take (List.mem_of_mem_drop hfront))
  · refine reindent_not_mem _ c hc (ls.drop (diagramStart ls)) ?_ r hdiagram
    exact fun l hl => h l (List.mem_of_mem_drop hl)

/-- A formatted text has the formatted lines as its lines. -/
theorem lines_unlines_formatLines (s : List Char) :
    lines (unlines (formatLines (lines s))) = formatLines (lines s) := by
  apply lines_unlines
  · exact not_mem_formatLines _ '\n' (by decide) (feed_not_mem_lines s)
  · intro l hl hne hreturn
    have hlast := getLast_not_blank l (endTrimmed_formatLines _ l hl) hne
    rw [hreturn] at hlast
    exact absurd hlast (by decide)

theorem formatText_of_blank (s : List Char) (h : blank s = true) : formatText s = s := by
  rw [formatText, if_pos h]

theorem formatText_eq (s : List Char) (h : blank s = false) :
    formatText s = unlines (formatLines (lines s)) := by
  rw [formatText, if_neg]
  rw [h]
  decide

/-- A text that is not blank has a line on which its diagram begins. -/
theorem diagramStart_lines (s : List Char) (h : blank s = false) :
    ∃ l, (lines s)[diagramStart (lines s)]? = some l ∧ blank l = false := by
  apply diagramStart_spec
  by_contra hall
  push Not at hall
  have hb : blank s = true := by
    rw [blank_iff_lines]
    intro l hl
    simpa using hall l hl
  rw [h] at hb
  exact Bool.noConfusion hb

theorem lines_formatText (s : List Char) (h : blank s = false) :
    lines (formatText s) = formatLines (lines s) := by
  rw [formatText_eq s h, lines_unlines_formatLines]

theorem contentLines_formatText (s : List Char) (h : blank s = false) :
    contentLines (lines (formatText s)) = contentLines (lines s) := by
  obtain ⟨l, hl, hb⟩ := diagramStart_lines s h
  rw [lines_formatText s h, contentLines_formatLines _ l hl hb]

theorem blank_formatText (s : List Char) : blank (formatText s) = blank s := by
  cases h : blank s with
  | true => rw [formatText_of_blank s h, h]
  | false =>
    rw [Bool.eq_false_iff]
    intro hb
    have hcontent := contentLines_formatText s h
    rw [(contentLines_eq_nil_iff _).mpr ((blank_iff_lines _).mp hb)] at hcontent
    have hs := (blank_iff_lines s).mpr ((contentLines_eq_nil_iff _).mp hcontent.symm)
    rw [h] at hs
    exact Bool.noConfusion hs

/-- Formatting a formatted source changes nothing. -/
theorem formatSource_formatSource (source : String) :
    formatSource (formatSource source) = formatSource source := by
  rw [formatSource, formatSource, String.toList_ofList]
  congr 1
  cases h : blank source.toList with
  | true => rw [formatText_of_blank _ h, formatText_of_blank _ h]
  | false =>
    have hagain : blank (formatText source.toList) = false := by rw [blank_formatText, h]
    obtain ⟨l, hl, hb⟩ := diagramStart_lines source.toList h
    rw [formatText_eq _ hagain, lines_formatText _ h, formatLines_formatLines _ l hl hb,
      formatText_eq _ h]

/-- A text in normal form: every line ends in one line feed alone and has no blanks at its end, the
first line is not blank, of two neighbours one is not blank, and a character that is not blank
stands ahead of the line feed at the end. -/
structure NormalForm (text : List Char) : Prop where
  feeds : unlines (lines text) = text
  trimmed : ∀ l ∈ lines text, trimEnd l = l
  first : ∀ l ∈ (lines text).head?, blank l = false
  spaced : (lines text).IsChain fun l r => ¬(blank l = true ∧ blank r = true)
  ending : ∃ front c, text = front ++ [c, '\n'] ∧ isBlank c = false

theorem formatLines_ending (ls : List (List Char)) (h : formatLines ls ≠ []) :
    ∃ front c, unlines (formatLines ls) = front ++ [c, '\n'] ∧ isBlank c = false := by
  have hlast : blank ((formatLines ls).getLast h) = false := tidyLines_getLast _ h
  have hne := ne_nil_of_not_blank _ hlast
  have ht := endTrimmed_formatLines ls _ (List.getLast_mem h)
  refine ⟨unlines (formatLines ls).dropLast ++ ((formatLines ls).getLast h).dropLast,
    ((formatLines ls).getLast h).getLast hne, ?_, getLast_not_blank _ ht hne⟩
  conv => lhs; rw [← List.dropLast_append_getLast h, unlines_append, unlines_cons, unlines_nil]
  conv => lhs; rw [← List.dropLast_append_getLast hne]
  simp

theorem normalForm_formatText (s : List Char) (h : blank s = false) :
    NormalForm (formatText s) := by
  have hlines := lines_formatText s h
  have htext := formatText_eq s h
  have hsome : formatLines (lines s) ≠ [] := by
    intro hnil
    have hb := blank_formatText s
    rw [htext, hnil, h] at hb
    exact Bool.noConfusion hb
  constructor
  case feeds => rw [hlines, htext]
  case trimmed =>
    rw [hlines]
    exact endTrimmed_formatLines (lines s)
  case first =>
    rw [hlines]
    exact tidyLines_head _
  case spaced =>
    rw [hlines]
    exact tidyLines_chain _
  case ending =>
    rw [htext]
    exact formatLines_ending (lines s) hsome

/-- A text of blanks alone is left as it is. Any other text keeps its content, and comes out in
normal form. -/
theorem formatSource_content_normalForm (source : String) :
    (blank source.toList = true → formatSource source = source) ∧
    (blank source.toList = false →
      contentLines (lines (formatSource source).toList) = contentLines (lines source.toList) ∧
      NormalForm (formatSource source).toList) := by
  constructor
  · intro h
    rw [formatSource, formatText_of_blank _ h, String.ofList_toList]
  · intro h
    rw [formatSource, String.toList_ofList]
    exact ⟨contentLines_formatText _ h, normalForm_formatText _ h⟩

/-- A flowchart with a comment, blank lines, a block and mixed line endings. -/
def looseFlowchart : String := "\n  %% a \r\n\n\ngraph TD\nsubgraph b\t\n\n\nc\nend\n"

theorem looseFlowchart_content_normalForm :
    (contentLines (lines (formatSource looseFlowchart).toList) =
        ["%% a", "graph TD", "subgraph b", "c", "end"].map String.toList ∧
      NormalForm (formatSource looseFlowchart).toList) ∧
    formatSource " \r\n" = " \r\n" := by
  refine ⟨?_, (formatSource_content_normalForm " \r\n").1 (by decide)⟩
  obtain ⟨hcontent, hform⟩ := (formatSource_content_normalForm looseFlowchart).2 (by decide)
  refine ⟨?_, hform⟩
  rw [hcontent]
  decide

end DiagramDesk
