import DiagramDesk.Proofs.Diagram.Format

/-!
The formatter as a normal form. Layouts that walk look at the trimmed lines of a diagram only, with
every run of blank lines made one, and what they make of these lines can be trimmed back. So behind
the same preamble two sources are formatted alike exactly if these lines agree.
-/
namespace DiagramDesk

open Text Layout

/-- Trimmed lines, with each run of blank lines made one and none left at the end. -/
def squeezedLines (ls : List (List Char)) : List (List Char) :=
  dropEndWhile List.isEmpty (collapseEmpty false (ls.map trim))

theorem squeezedLines_eq (ls : List (List Char)) : squeezedLines ls = tidyTail (ls.map trim) := by
  have hends : (ls.map trim).map trimEnd = ls.map trim := by
    rw [List.map_map]
    exact List.map_congr_left fun l _ => trimEnd_trim l
  rw [tidyTail, hends, squeezedLines]

theorem squeezedLines_cons (l : List Char) (ls : List (List Char)) (h : blank l = false) :
    squeezedLines (l :: ls) = trim l :: squeezedLines ls := by
  have he : (trim l).isEmpty = false := by
    rw [isEmpty_eq_blank _ (trimEnd_trim l), blank_trim, h]
  rw [squeezedLines, List.map_cons, collapseEmpty_cons false _ _ he,
    dropEndWhile_cons_of_not _ _ he, ← squeezedLines]

/-- Squeezed lines are trimmed already. -/
theorem map_trim_squeezedLines (ls : List (List Char)) :
    (squeezedLines ls).map trim = squeezedLines ls := by
  conv => rhs; rw [← List.map_id (squeezedLines ls)]
  refine List.map_congr_left fun l hl => ?_
  obtain ⟨r, -, rfl⟩ := List.mem_map.mp
    ((collapseEmpty_sublist _ _).subset (mem_of_mem_dropEndWhile _ l hl))
  exact trim_trim r

/-! ### Layouts -/

namespace Layout

section Walk

variable {σ : Type} (place : σ → List Char → Nat × σ)

/-- A walk looks at trimmed lines. -/
theorem walk_map_trim (s : σ) (ls : List (List Char)) :
    walk place s (ls.map trim) = walk place s ls := by
  induction ls generalizing s with
  | nil => rfl
  | cons l ls ih =>
    have ht : blank (trim l) = blank l := blank_trim l
    rw [List.map_cons]
    cases hb : blank l with
    | true => rw [walk_cons_blank place s _ _ (ht.trans hb), walk_cons_blank place s l ls hb, ih]
    | false =>
      rw [walk_cons place s _ _ (ht.trans hb), walk_cons place s l ls hb, trim_trim, ih]

end Walk

variable {layout : Layout} (h : layout ≠ .preserve)

include h

theorem tidyTail_indentBody_eq (ls : List (List Char)) :
    tidyTail (layout.indentBody ls) = layout.indentBody (squeezedLines ls) := by
  obtain ⟨σ, place, s, hwalk⟩ := indentBody_walks h
  rw [hwalk, squeezedLines_eq, walk_tidyTail, walk_map_trim]

theorem map_trim_reindent (ls : List (List Char)) :
    (layout.reindent ls).map trim = ls.map trim := by
  obtain ⟨σ, place, s, hwalk⟩ := indentBody_walks h
  cases ls with
  | nil => rfl
  | cons header body =>
    rw [reindent, hwalk, List.map_cons, List.map_cons, map_trim_walk, trim_trim]

end Layout

/-- Only mind maps keep their indentation. -/
theorem layout_ne_preserve {kind : DiagramKind} (h : kind ≠ .mindmap) :
    kind.layout ≠ .preserve := by
  cases kind with
  | mindmap => exact absurd rfl h
  | _ => decide

/-! ### Sources with a header -/

section Header

variable {ls : List (List Char)} {i : Nat} (hi : headerIndex ls = some i)

include hi

theorem diagramStart_eq : diagramStart ls = i := by
  rw [diagramStart, hi, Option.getD_some]

/-- The preamble is told by the lines ahead of the header alone. -/
theorem preamble_eq : preamble ls = (ls.take i).dropWhile blank := by
  have hstart : ls.findIdx (fun l => !blank l) =
      if (ls.take i).findIdx (fun l => !blank l) < (ls.take i).length then
        (ls.take i).findIdx fun l => !blank l
      else (ls.drop i).findIdx (fun l => !blank l) + (ls.take i).length := by
    rw [← List.findIdx_append, List.take_append_drop]
  rw [preamble, diagramStart_eq hi, hstart, List.dropWhile_eq_drop_findIdx_not]
  split
  · rfl
  · -- All lines ahead of the header are blank, so either way none is left.
    rename_i hall
    rw [List.drop_eq_nil_of_le (Nat.le_add_left _ _), List.drop_eq_nil_of_le (Nat.le_of_not_lt hall)]

theorem exists_drop_header :
    ∃ header, ls[i]? = some header ∧ blank header = false ∧
      squeezedLines (ls.drop i) = trim header :: squeezedLines (ls.drop (i + 1)) := by
  obtain ⟨header, hheader, hlike⟩ := headerLike_headerIndex ls i hi
  have hb := not_blank_of_headerLike header hlike
  refine ⟨header, hheader, hb, ?_⟩
  rw [drop_of_getElem? ls i header hheader, squeezedLines_cons header _ hb]

/-- The kind is told by the first of the squeezed lines. -/
theorem ofLines_eq :
    DiagramKind.ofLines ls = .ofHeader ((squeezedLines (ls.drop i)).headD []) := by
  obtain ⟨header, hheader, -, hsqueezed⟩ := exists_drop_header hi
  rw [DiagramKind.ofLines, hi, hsqueezed, List.headD_cons, ofHeader_trim]
  simp only [hheader, Option.getD_some]

/-- A formatted source that is not a mind map is made of its preamble and of the squeezed lines
behind. -/
theorem formatLines_eq_append (hkind : DiagramKind.ofLines ls ≠ .mindmap) :
    formatLines ls = tidyHead ((ls.take i).dropWhile blank) ++
      (DiagramKind.ofLines ls).layout.reindent (squeezedLines (ls.drop i)) := by
  obtain ⟨header, hheader, hb, hsqueezed⟩ := exists_drop_header hi
  rw [formatLines_split ls header (by rw [diagramStart_eq hi, hheader]) hb, diagramStart_eq hi,
    preamble_eq hi, tidyTail_indentBody_eq (layout_ne_preserve hkind), hsqueezed, reindent,
    trim_trim]

end Header

theorem not_blank_of_header {source : List Char} {i : Nat}
    (hi : headerIndex (lines source) = some i) : blank source = false := by
  obtain ⟨header, hheader, hb, -⟩ := exists_drop_header hi
  rw [Bool.eq_false_iff, ne_eq, blank_iff_lines]
  intro hall
  rw [hall header (List.mem_of_getElem? hheader)] at hb
  exact Bool.noConfusion hb

/-- Two sources with a header that are no mind maps, and whose lines ahead of the header are the
same, are formatted alike exactly if the lines from the header on agree but for blanks around them,
the lengths of runs of blank lines, and blank lines at the end. -/
theorem formatSource_eq_iff (s t : String) (i j : Nat)
    (hs : headerIndex (lines s.toList) = some i) (ht : headerIndex (lines t.toList) = some j)
    (hskind : DiagramKind.detect s ≠ .mindmap) (htkind : DiagramKind.detect t ≠ .mindmap)
    (hahead : (lines s.toList).take i = (lines t.toList).take j) :
    formatSource s = formatSource t ↔
      squeezedLines ((lines s.toList).drop i) = squeezedLines ((lines t.toList).drop j) := by
  rw [DiagramKind.detect] at hskind htkind
  have hslines := formatLines_eq_append hs hskind
  have htlines := formatLines_eq_append ht htkind
  constructor
  · intro heq
    have hformat : formatLines (lines s.toList) = formatLines (lines t.toList) := by
      have htext := congrArg (fun u : String => lines u.toList) heq
      simpa only [formatSource, String.toList_ofList, lines_formatText _ (not_blank_of_header hs),
        lines_formatText _ (not_blank_of_header ht)] using htext
    rw [hslines, htlines, hahead, List.append_cancel_left_eq] at hformat
    have htrim := congrArg (List.map trim) hformat
    rwa [map_trim_reindent (layout_ne_preserve hskind),
      map_trim_reindent (layout_ne_preserve htkind), map_trim_squeezedLines,
      map_trim_squeezedLines] at htrim
  · intro hsqueezed
    have hkind : DiagramKind.ofLines (lines s.toList) = DiagramKind.ofLines (lines t.toList) := by
      rw [ofLines_eq hs, ofLines_eq ht, hsqueezed]
    rw [formatSource, formatSource, formatText_eq _ (not_blank_of_header hs),
      formatText_eq _ (not_blank_of_header ht), hslines, htlines, hahead, hkind, hsqueezed]

/-- The same flowchart twice, behind the same comment: with the indentation, the line endings and
the blank lines of two authors. -/
theorem looseFlowcharts_alike :
    let s := "%% a\n\n  graph TD \nsubgraph b\n\n\n\tc\nend"
    let t := "%% a\r\n\ngraph TD\r\n\tsubgraph b\r\n \r\nc  \r\n end\r\n\r\n"
    headerIndex (lines s.toList) = some 2 ∧ headerIndex (lines t.toList) = some 2 ∧
      DiagramKind.detect s ≠ .mindmap ∧ DiagramKind.detect t ≠ .mindmap ∧
      (lines s.toList).take 2 = (lines t.toList).take 2 ∧ formatSource s = formatSource t := by
  intro s t
  have hs : headerIndex (lines s.toList) = some 2 := by decide
  have ht : headerIndex (lines t.toList) = some 2 := by decide
  have hskind : DiagramKind.detect s ≠ .mindmap := by decide
  have htkind : DiagramKind.detect t ≠ .mindmap := by decide
  have hahead : (lines s.toList).take 2 = (lines t.toList).take 2 := by decide
  exact ⟨hs, ht, hskind, htkind, hahead,
    (formatSource_eq_iff s t 2 2 hs ht hskind htkind hahead).mpr (by decide)⟩

end DiagramDesk
