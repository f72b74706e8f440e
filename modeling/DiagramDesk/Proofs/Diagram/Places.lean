import DiagramDesk.Proofs.Diagram.Format
import DiagramDesk.Proofs.Text.Pieces

/-!
Where lines of a document are once it is formatted. Up to blanks around lines, formatting drops
blank lines and puts an empty one at the end. So a line that is not blank is found again, no
further down than it was, and it is where it was exactly if no line ahead of it was dropped.
-/
namespace DiagramDesk

open Text Layout

/-! ### Pieces of formatted lines -/

theorem pieces_trim_sublist (l : List Char) : (pieces (trim l)).Sublist (pieces l) := by
  obtain ⟨m, n, h⟩ := exists_pieces_eq l
  rw [h, List.append_assoc]
  exact (List.sublist_append_left _ _).trans (List.sublist_append_right _ _)

theorem pieces_trimEnd_sublist (l : List Char) : (pieces (trimEnd l)).Sublist (pieces l) := by
  have hl : trimEnd l ++ l.rtakeWhile isBlank = l := by
    rw [trimEnd, dropEndWhile_eq_rdropWhile]
    exact List.rdropWhile_append_rtakeWhile
  have hright : blank (l.rtakeWhile isBlank) = true :=
    (blank_iff _).mpr fun _ hc => List.mem_rtakeWhile_imp hc
  obtain ⟨n, h⟩ := exists_pieces_append_right (trimEnd l) hright
  rw [hl] at h
  rw [h]
  exact List.sublist_append_left _ _

theorem pieces_indented (level : Nat) (l : List Char) : pieces (indented level l) = pieces l := by
  rw [indented]
  induction unit * level with
  | zero => rfl
  | succ n ih =>
    rw [List.replicate_succ, List.cons_append, pieces_cons_blank _ (by decide), ih,
      if_neg (by decide)]

theorem pieces_map_trimEnd_sublist (ls : List (List Char)) :
    ((ls.map trimEnd).flatMap pieces).Sublist (ls.flatMap pieces) := by
  rw [List.flatMap_map]
  exact List.Sublist.flatMap_right ls fun l _ => pieces_trimEnd_sublist l

theorem pieces_walk_sublist {σ : Type} (place : σ → List Char → Nat × σ) (s : σ)
    (ls : List (List Char)) : ((walk place s ls).flatMap pieces).Sublist (ls.flatMap pieces) := by
  induction ls generalizing s with
  | nil => exact List.Sublist.refl []
  | cons l ls ih =>
    have hl := pieces_trim_sublist l
    cases hb : blank l with
    | true =>
      rw [walk_cons_blank place s l ls hb, List.flatMap_cons, List.flatMap_cons]
      rw [(trim_eq_nil_iff l).mpr hb] at hl
      exact hl.append (ih s)
    | false =>
      rw [walk_cons place s l ls hb, List.flatMap_cons, List.flatMap_cons, pieces_indented]
      exact hl.append (ih _)

theorem pieces_reindent_sublist (layout : Layout) (ls : List (List Char)) :
    ((layout.reindent ls).flatMap pieces).Sublist (ls.flatMap pieces) := by
  cases ls with
  | nil => exact List.Sublist.refl []
  | cons header body =>
    rw [reindent, List.flatMap_cons, List.flatMap_cons]
    refine (pieces_trim_sublist header).append ?_
    rcases indentBody_cases layout with h | ⟨σ, place, s, h⟩
    · rw [h]
      exact pieces_map_trimEnd_sublist body
    · rw [h]
      exact pieces_walk_sublist place s body

theorem pieces_formatLines_sublist (ls : List (List Char)) :
    ((formatLines ls).flatMap pieces).Sublist (ls.flatMap pieces) := by
  have htidy (rs : List (List Char)) : ((tidyLines rs).flatMap pieces).Sublist
      (rs.flatMap pieces) := by
    have hkept : (tidyLines rs).Sublist (rs.map trimEnd) :=
      (dropEndWhile_isPrefix _).sublist.trans (collapseEmpty_sublist true _)
    exact (hkept.flatMap pieces).trans (pieces_map_trimEnd_sublist rs)
  have hpreamble : (preamble ls).Sublist (ls.take (diagramStart ls)) := List.drop_sublist _ _
  rw [formatLines_eq]
  refine (htidy _).trans ?_
  conv => rhs; rw [← List.take_append_drop (diagramStart ls) ls]
  rw [List.flatMap_append, List.flatMap_append]
  exact (hpreamble.flatMap pieces).append (pieces_reindent_sublist _ _)

/-- Of the pieces of lines, those that are not empty depend on the content only. -/
theorem filter_flatMap_pieces (ls : List (List Char)) :
    (ls.flatMap pieces).filter (fun l => !l.isEmpty) =
      (contentLines ls).flatMap fun l => (pieces l).filter fun l => !l.isEmpty := by
  have hpieces (l : List Char) : (pieces l).filter (fun l => !l.isEmpty) =
      (pieces (trim l)).filter fun l => !l.isEmpty := by
    obtain ⟨m, n, h⟩ := exists_pieces_eq l
    simp [h]
  induction ls with
  | nil => rfl
  | cons l ls ih =>
    rw [List.flatMap_cons, List.filter_append, ih, hpieces]
    cases hb : blank l with
    | true => rw [contentLines_cons_blank l ls hb, (trim_eq_nil_iff l).mpr hb]; rfl
    | false => rw [contentLines_cons l ls hb, List.flatMap_cons]

/-! ### Lines of a formatted document -/

/-- Up to blanks around lines, formatting a document drops blank lines and puts some at the end; the
lines that are not blank stay. -/
theorem documentLines_formatText (s : List Char) :
    contentLines (documentLines (formatText s)) = contentLines (documentLines s) ∧
    ∃ n, ((documentLines (formatText s)).map trim).Sublist
      ((documentLines s).map trim ++ List.replicate n []) := by
  cases h : blank s with
  | true =>
    rw [formatText_of_blank s h]
    exact ⟨rfl, 0, by simp⟩
  | false =>
    obtain ⟨m, hm⟩ := exists_map_trim_documentLines (formatText s)
    obtain ⟨n, hn⟩ := exists_map_trim_documentLines s
    constructor
    · rw [contentLines_eq_filter, contentLines_eq_filter, hm, hn, List.filter_append,
        List.filter_append, filter_flatMap_pieces, filter_flatMap_pieces,
        contentLines_formatText s h]
      simp
    · refine ⟨m, ?_⟩
      rw [hm, hn, lines_formatText s h]
      refine List.Sublist.append ?_ (List.Sublist.refl _)
      exact (pieces_formatLines_sublist _).trans (List.sublist_append_left _ _)

/-! ### A line and its place -/

/-- A sublist that keeps what a filter keeps has each such element, behind part of what was ahead of
it. -/
theorem exists_split_of_sublist {α : Type} {p : α → Bool} {ls front back : List α} {a : α}
    (ha : p a = true) (h : ls.Sublist (front ++ a :: back))
    (hp : ls.filter p = (front ++ a :: back).filter p) :
    ∃ kept rest, ls = kept ++ a :: rest ∧ kept.Sublist front ∧
      kept.filter p = front.filter p := by
  obtain ⟨kept, others, rfl, hkept, hothers⟩ := List.sublist_append_iff.mp h
  have hfront := (hkept.filter p).length_le
  have hback := (hothers.filter p).length_le
  have hlength := congrArg List.length hp
  rw [List.filter_append, List.filter_append, List.length_append, List.length_append] at hlength
  rw [List.filter_append, List.filter_append] at hp
  obtain ⟨hsame, hrest⟩ := List.append_inj hp (by omega)
  obtain hmissed | ⟨rest, rfl, -⟩ := List.sublist_cons_iff.mp hothers
  · have hfew := (hmissed.filter p).length_le
    rw [hrest, List.filter_cons_of_pos ha, List.length_cons] at hfew
    omega
  · exact ⟨kept, rest, rfl, hkept, hsame⟩

theorem not_blank_of_line {s line : List Char} (h : line ∈ documentLines s)
    (hb : blank line = false) : blank s = false := by
  rw [Bool.eq_false_iff, ne_eq, blank_iff] at hb ⊢
  refine fun hs => hb fun c hc => hs c ?_
  rw [← flatten_documentLines s]
  exact List.mem_flatten.mpr ⟨line, h, hc⟩

/-- The last line of a formatted document is empty, so a line that is not blank has one behind it. -/
theorem succ_lt_length {s l : List Char} {j : Nat} (h : blank s = false)
    (hl : (documentLines (formatText s))[j]? = some l) (hb : blank l = false) :
    j + 1 < (documentLines (formatText s)).length := by
  obtain ⟨front, c, htext, -⟩ := (normalForm_formatText s h).ending
  have hended : Ended (formatText s) := .inr ⟨front ++ [c], by simp [htext]⟩
  obtain ⟨ls, -, -, -, happend⟩ := hended.documentLines_append
  have hlast : documentLines (formatText s) = ls ++ [[]] := by simpa [documentLines] using happend []
  obtain ⟨hlt, -⟩ := List.getElem?_eq_some_iff.mp hl
  rw [hlast] at hl
  rw [hlast, List.length_append, List.length_singleton] at hlt ⊢
  by_contra hge
  rw [show j = ls.length by omega, List.getElem?_concat_length, Option.some.injEq] at hl
  rw [← hl, blank_nil] at hb
  cases hb

/-- Where line `i` of a document is found when the document is formatted: at the line of the same
rank, which holds the same, with nothing ahead of it that was not ahead before. -/
structure FoundAt (s line : List Char) (i j : Nat) : Prop where
  line_eq : (documentLines s)[i]? = some line
  not_blank : blank line = false
  content : ∃ l, (documentLines (formatText s))[j]? = some l ∧ trim l = trim line
  rank_eq : rank (documentLines (formatText s)) j = rank (documentLines s) i
  behind : j + 1 < (documentLines (formatText s)).length
  ahead : (((documentLines (formatText s)).take j).map trim).Sublist
    (((documentLines s).take i).map trim)

/-- A line that is not blank is found again. -/
theorem exists_foundAt {s line : List Char} {i : Nat} (hline : (documentLines s)[i]? = some line)
    (hb : blank line = false) : ∃ j, FoundAt s line i j := by
  obtain ⟨hcontent, n, hsub⟩ := documentLines_formatText s
  have hsplit : (documentLines s).map trim ++ List.replicate n [] =
      ((documentLines s).take i).map trim ++ trim line ::
        (((documentLines s).drop (i + 1)).map trim ++ List.replicate n []) := by
    conv => lhs; rw [← List.take_append_drop i (documentLines s), drop_of_getElem? _ i line hline]
    simp
  have hfilter : ((documentLines (formatText s)).map trim).filter (fun l => !l.isEmpty) =
      ((documentLines s).map trim ++ List.replicate n []).filter fun l => !l.isEmpty := by
    rw [List.filter_append, ← contentLines_eq_filter, hcontent, contentLines_eq_filter]
    simp
  rw [hsplit] at hsub hfilter
  obtain ⟨kept, rest, hkept, hahead, hsame⟩ :=
    exists_split_of_sublist (by simp [isEmpty_trim, hb]) hsub hfilter
  have hat : ((documentLines (formatText s)).map trim)[kept.length]? = some (trim line) := by
    simp [hkept]
  have htake : ((documentLines (formatText s)).take kept.length).map trim = kept := by
    rw [List.map_take, hkept, List.take_left]
  rw [List.getElem?_map, Option.map_eq_some_iff] at hat
  obtain ⟨line', hline', htrim⟩ := hat
  have hblank := not_blank_of_line (List.mem_of_getElem? hline) hb
  refine ⟨kept.length, hline, hb, ⟨line', hline', htrim⟩, ?_,
    succ_lt_length hblank hline' ((blank_congr htrim).trans hb), by rwa [htake]⟩
  rw [rank, rank, contentLines_eq_filter, contentLines_eq_filter, htake, hsame]

namespace FoundAt

variable {s line : List Char} {i j : Nat} (h : FoundAt s line i j)

include h

theorem exists_line : ∃ l, (documentLines (formatText s))[j]? = some l ∧ trim l = trim line ∧
    blank l = false := by
  obtain ⟨l, hl, htrim⟩ := h.content
  exact ⟨l, hl, htrim, (blank_congr htrim).trans h.not_blank⟩

theorem le : j ≤ i := by
  have hlength := h.ahead.length_le
  have hj := h.behind
  simp only [List.length_map, List.length_take] at hlength
  omega

/-- The line is where it was exactly if the lines ahead of it hold what they held. -/
theorem eq_iff : j = i ↔
    ((documentLines (formatText s)).take i).map trim = ((documentLines s).take i).map trim := by
  constructor
  · rintro rfl
    obtain ⟨hlt, -⟩ := List.getElem?_eq_some_iff.mp h.line_eq
    have hj := h.behind
    refine h.ahead.eq_of_length ?_
    rw [List.length_map, List.length_map, List.length_take_of_le (by omega),
      List.length_take_of_le (by omega)]
  · intro hsame
    by_contra hne
    -- Were the line further up, there would be one more ahead.
    obtain ⟨l, hl, -, hb⟩ := h.exists_line
    have hlt := Nat.lt_of_le_of_ne h.le hne
    have hadd := rank_add (documentLines (formatText s)) (j + 1) (i - (j + 1))
    rw [Nat.add_sub_cancel' hlt, rank_succ _ j l hl hb, h.rank_eq, rank, rank,
      contentLines_congr hsame] at hadd
    omega

end FoundAt

/-! ### Lines with single blank ones between them -/

/-- Lines of which the first is not blank, and of two neighbours one is not. -/
structure Spaced (ls : List (List Char)) : Prop where
  first : ∀ l ∈ ls.head?, blank l = false
  chain : ls.IsChain fun l r => ¬(blank l = true ∧ blank r = true)

theorem Spaced.take {ls : List (List Char)} (h : Spaced ls) (i : Nat) : Spaced (ls.take i) where
  first l hl := by
    cases i with
    | zero => simp at hl
    | succ i => exact h.first l (by simpa [List.head?_take] using hl)
  chain := h.chain.take i

theorem spaced_map_trim (ls : List (List Char)) : Spaced (ls.map trim) ↔ Spaced ls := by
  constructor <;> rintro ⟨hfirst, hchain⟩ <;>
    exact ⟨by simpa [blank_trim] using hfirst, by simpa [List.isChain_map, blank_trim] using hchain⟩

theorem tidyHead_eq_map {ls : List (List Char)} (h : Spaced ls) : tidyHead ls = ls.map trimEnd := by
  rw [tidyHead, collapseEmpty_eq_self]
  · simpa only [List.isChain_map, isEmpty_trimEnd] using h.chain
  · intro _ l hl
    rw [List.head?_map, Option.mem_def, Option.map_eq_some_iff] at hl
    obtain ⟨r, hr, rfl⟩ := hl
    rw [isEmpty_trimEnd, h.first r hr]

/-- Lines that are well spaced up to one that is not blank begin with one that is not. -/
theorem findIdx_eq_zero {ls : List (List Char)} {i : Nat} {l : List Char} (hl : ls[i]? = some l)
    (hb : blank l = false) (h : Spaced (ls.take i)) : ls.findIdx (fun l => !blank l) = 0 := by
  cases ls with
  | nil => rfl
  | cons r rs =>
    have hr : blank r = false := by
      cases i with
      | zero =>
        obtain rfl : r = l := by simpa using hl
        exact hb
      | succ i => exact h.first r (by simp)
    simp [List.findIdx_cons, hr]

/-- Before they are tidied, formatted lines hold what the lines of the source hold. -/
theorem map_trim_preamble_append {ls : List (List Char)} {l : List Char}
    (hl : ls[diagramStart ls]? = some l) (hfirst : ls.findIdx (fun l => !blank l) = 0) :
    (preamble ls ++ (DiagramKind.ofLines ls).layout.reindent (ls.drop (diagramStart ls))).map trim =
      ls.map trim := by
  rw [preamble, hfirst, List.drop_zero, reindent_drop ls l hl, List.map_append, List.map_cons,
    trim_trim, map_trim_indentBody, ← List.map_cons, ← drop_of_getElem? ls _ l hl,
    ← List.map_append, List.take_append_drop]

/-- Well spaced lines ahead of a line stay where they are, up to the blanks around them. -/
theorem take_formatLines {ls : List (List Char)} {i : Nat} {l : List Char} (hl : ls[i]? = some l)
    (hb : blank l = false) (h : Spaced (ls.take i)) :
    ((formatLines ls).take i).map trim = (ls.take i).map trim ∧ i < (formatLines ls).length := by
  obtain ⟨start, hstart, -⟩ := diagramStart_spec ls ⟨l, List.mem_of_getElem? hl, hb⟩
  have htrim := map_trim_preamble_append hstart (findIdx_eq_zero hl hb h)
  rw [formatLines_eq]
  generalize preamble ls ++ (DiagramKind.ofLines ls).layout.reindent
    (ls.drop (diagramStart ls)) = placed at htrim ⊢
  have hat : (placed.map trim)[i]? = some (trim l) := by
    rw [htrim, List.getElem?_map, hl, Option.map_some]
  rw [List.getElem?_map, Option.map_eq_some_iff] at hat
  obtain ⟨x, hx, hxl⟩ := hat
  have hxb : blank x = false := (blank_congr hxl).trans hb
  have hahead : (placed.take i).map trim = (ls.take i).map trim := by
    rw [List.map_take, htrim, List.map_take]
  have hspaced : Spaced (placed.take i) := by
    rwa [← spaced_map_trim, hahead, spaced_map_trim]
  obtain ⟨hlt, -⟩ := List.getElem?_eq_some_iff.mp hx
  have hlength : ((placed.take i).map trimEnd).length = i := by
    rw [List.length_map, List.length_take_of_le hlt.le]
  rw [← List.take_append_drop i placed, drop_of_getElem? placed i x hx,
    tidyLines_append_cons _ _ _ hxb, tidyHead_eq_map hspaced]
  refine ⟨?_, by simp; omega⟩
  rw [List.take_left' hlength, map_trim_map_trimEnd, hahead]

/-- Without stray breaks, formatting keeps a line where it is exactly if the lines ahead of it are
well spaced. -/
theorem FoundAt.eq_iff_spaced {s line : List Char} {i j : Nat} (h : FoundAt s line i j)
    (hs : strayBreaks s = 0) : j = i ↔ Spaced ((documentLines s).take i) := by
  have hblank := not_blank_of_line (List.mem_of_getElem? h.line_eq) h.not_blank
  have hlines := lines_formatText s hblank
  have hclear := no_break_of_mem_lines hs
  have hclear' : ∀ l ∈ lines (formatText s), ∀ c ∈ l, isLineBreak c = false := by
    intro l hl c hc
    by_contra hbreak
    rw [Bool.not_eq_false] at hbreak
    rw [hlines] at hl
    refine not_mem_formatLines (lines s) c ?_ ?_ l hl hc
    · rintro rfl
      exact absurd hbreak (by decide)
    · intro r hr hcr
      rw [hclear r hr c hcr] at hbreak
      cases hbreak
  rw [h.eq_iff]
  constructor
  · intro hsame
    obtain rfl := h.eq_iff.mpr hsame
    obtain ⟨l, hl, -, hb⟩ := h.exists_line
    obtain ⟨-, -, -, htake⟩ := exists_line_of_no_break hclear' hl hb
    have hform := normalForm_formatText s hblank
    have hspaced : Spaced (lines (formatText s)) := ⟨hform.first, hform.spaced⟩
    rw [← spaced_map_trim, ← hsame, htake, spaced_map_trim]
    exact hspaced.take j
  · intro hspaced
    obtain ⟨l, hl, htrim, htake⟩ := exists_line_of_no_break hclear h.line_eq h.not_blank
    have hb : blank l = false := (blank_congr htrim).trans h.not_blank
    rw [← spaced_map_trim, htake, spaced_map_trim] at hspaced
    obtain ⟨hkept, hlt⟩ := take_formatLines hl hb hspaced
    obtain ⟨n, hn⟩ := exists_map_trim_of_no_break hclear'
    rw [htake, ← hkept, List.map_take, hn, hlines,
      List.take_append_of_le_length (by simpa using hlt.le), List.map_take]

end DiagramDesk
