import DiagramDesk.Proofs.Diagram.Canonical

/-!
Front matter. Behind its closing fence the header is the first line that can be one. With a header,
formatting leaves the lines from fence to fence as they are, up to the blanks behind them and blank
lines in a row; without one these lines are indented as if they were a diagram.
-/
namespace DiagramDesk

open Text Layout

/-- Front matter with the blank lines ahead of it: an opening fence, the lines of a block, and the
first fence behind it. -/
structure FrontMatter where
  blanks : List (List Char)
  opening : List Char
  block : List (List Char)
  closing : List Char
  blank_of_mem : ∀ l ∈ blanks, blank l = true
  isFence_opening : isFence opening = true
  not_isFence : ∀ l ∈ block, isFence l = false
  isFence_closing : isFence closing = true

theorem headerLike_of_isFence (l : List Char) (h : isFence l = true) : headerLike l = true := by
  rw [isFence, beq_iff_eq] at h
  rw [headerLike, h]
  rfl

/-- Without a header the whole source is a diagram under its first line that is not blank. -/
theorem formatLines_of_no_header {ls : List (List Char)} (h : headerIndex ls = none) :
    formatLines ls =
      tidyLines (DiagramKind.generic.layout.reindent
        (ls.drop (ls.findIdx fun l => !blank l))) := by
  have hstart : diagramStart ls = ls.findIdx fun l => !blank l := by
    rw [diagramStart, h, Option.getD_none]
  have hpreamble : preamble ls = [] := by
    rw [preamble, hstart]
    exact List.drop_eq_nil_of_le (List.length_take_le _ _)
  have hkind : DiagramKind.ofLines ls = .generic := by rw [DiagramKind.ofLines, h]
  rw [formatLines_eq, hpreamble, hstart, hkind, List.nil_append]

namespace FrontMatter

variable (m : FrontMatter)

def inner : List (List Char) := m.block ++ [m.closing]

def fenced : List (List Char) := m.opening :: m.inner

/-- The lines from fence to fence, and the blank lines ahead of them. -/
def whole : List (List Char) := m.blanks ++ m.fenced

theorem not_blank_opening : blank m.opening = false :=
  not_blank_of_isFence _ m.isFence_opening

theorem not_blank_closing : blank m.closing = false :=
  not_blank_of_isFence _ m.isFence_closing

theorem whole_append (rest : List (List Char)) :
    m.whole ++ rest = m.blanks ++ m.opening :: (m.block ++ m.closing :: rest) := by
  simp [whole, fenced, inner]

theorem length_whole : m.whole.length = m.blanks.length + 1 + m.block.length + 1 := by
  simp only [whole, fenced, inner, List.length_append, List.length_cons, List.length_nil]
  omega

/-! ### Where the header is -/

section Search

variable (rest : List (List Char))

theorem findIdx?_opening :
    (m.whole ++ rest).findIdx? (fun l => !blank l) = some m.blanks.length := by
  rw [whole_append]
  refine findIdx?_append_cons _ _ _ (fun l hl => ?_) ?_
  · simp [m.blank_of_mem l hl]
  · simp [m.not_blank_opening]

theorem frontMatterEnd_whole :
    frontMatterEnd (m.whole ++ rest) = some (m.blanks.length + 1 + m.block.length) := by
  have hclose : (m.block ++ m.closing :: rest).findIdx? isFence = some m.block.length :=
    findIdx?_append_cons _ _ _ m.not_isFence m.isFence_closing
  rw [whole_append, frontMatterEnd_append_cons _ _ _ m.blank_of_mem m.not_blank_opening,
    if_pos m.isFence_opening, hclose, Option.map_some]

/-- The header is looked for behind the closing fence. -/
theorem headerIndex_whole :
    headerIndex (m.whole ++ rest) = (rest.findIdx? headerLike).map (m.whole.length + ·) := by
  have hlength := m.length_whole
  rw [headerIndex, frontMatterEnd_whole]
  simp only [← hlength, List.drop_left]

end Search

/-! ### What formatting does to it -/

/-- The lines stand where the lines of a diagram stand: the opening fence at the margin, every
other line that is not blank one level in. -/
def AtFirstLevel : Prop :=
  trimEnd m.opening = trim m.opening ∧
    ∀ l ∈ m.inner, blank l = false → trimEnd l = indented 1 (trim l)

/-- With a header behind it, front matter is kept. -/
theorem formatLines_whole_of_header {rest : List (List Char)} {k : Nat}
    (h : rest.findIdx? headerLike = some k) :
    tidyHead m.fenced <+: formatLines (m.whole ++ rest) := by
  have hheader : headerIndex (m.whole ++ rest) = some (m.whole.length + k) := by
    rw [headerIndex_whole, h, Option.map_some]
  have hpreamble : preamble (m.whole ++ rest) =
      m.opening :: m.block ++ [m.closing] ++ rest.take k := by
    rw [preamble_eq hheader, List.take_length_add_append, whole, fenced, inner, List.append_assoc,
      List.dropWhile_append_of_pos m.blank_of_mem, List.cons_append, List.dropWhile_cons_of_neg]
    · simp
    · simp [m.not_blank_opening]
  rw [formatLines_eq, hpreamble, List.append_assoc,
    tidyLines_concat_append _ _ _ m.not_blank_closing]
  exact List.prefix_append _ _

theorem indentFlat_cons (l : List Char) (ls : List (List Char)) (h : blank l = false) :
    indentFlat (l :: ls) = indented 1 (trim l) :: indentFlat ls := by
  rw [indentFlat_eq_walk, walk_cons _ _ _ _ h, ← indentFlat_eq_walk]

theorem indentFlat_append (ls rs : List (List Char)) :
    indentFlat (ls ++ rs) = indentFlat ls ++ indentFlat rs := List.map_append

theorem indentFlat_block (rest : List (List Char)) :
    indentFlat (m.block ++ m.closing :: rest) =
      indentFlat m.block ++ indented 1 (trim m.closing) :: indentFlat rest := by
  rw [indentFlat_append, indentFlat_cons _ _ m.not_blank_closing]

/-- Without a header, front matter is indented. -/
theorem formatLines_whole_of_no_header {rest : List (List Char)}
    (h : rest.findIdx? headerLike = none) :
    formatLines (m.whole ++ rest) =
      tidyHead (trim m.opening :: indentFlat m.inner) ++ tidyTail (indentFlat rest) := by
  have hheader : headerIndex (m.whole ++ rest) = none := by
    rw [headerIndex_whole, h, Option.map_none]
  have hfirst := (List.findIdx?_eq_some_iff_findIdx_eq.mp (m.findIdx?_opening rest)).2
  have hclosing : blank (indented 1 (trim m.closing)) = false := by
    rw [blank_indented_trim, m.not_blank_closing]
  have hreindent : DiagramKind.generic.layout.reindent
      (m.opening :: (m.block ++ m.closing :: rest)) =
        (trim m.opening :: indentFlat m.block) ++ [indented 1 (trim m.closing)] ++
          indentFlat rest := by
    change trim m.opening :: indentFlat (m.block ++ m.closing :: rest) = _
    rw [indentFlat_block, List.append_assoc, List.singleton_append, List.cons_append]
  rw [formatLines_of_no_header hheader, hfirst, whole_append, List.drop_left, hreindent,
    tidyLines_concat_append _ _ _ hclosing, inner, indentFlat_block]
  rfl

theorem filter_indentFlat (ls : List (List Char)) :
    (indentFlat ls).filter (fun l => !l.isEmpty) =
      (ls.filter fun l => !blank l).map fun l => indented 1 (trim l) := by
  induction ls with
  | nil => rfl
  | cons l ls ih =>
    cases hb : blank l with
    | true =>
      have hl : indentFlat (l :: ls) = [] :: indentFlat ls := by
        rw [indentFlat_eq_walk, walk_cons_blank _ _ _ _ hb, ← indentFlat_eq_walk]
      rw [hl, List.filter_cons_of_neg (by simp), List.filter_cons_of_neg (by simp [hb]), ih]
    | false =>
      have hl := isEmpty_indented_trim 1 l hb
      rw [indentFlat_cons l ls hb, List.filter_cons_of_pos (by simp [hl]),
        List.filter_cons_of_pos (by simp [hb]), List.map_cons, ih]

theorem endTrimmed_indentFlat (ls : List (List Char)) : EndTrimmed (indentFlat ls) := by
  rw [indentFlat_eq_walk]
  exact endTrimmed_walk _ _ ls

theorem filter_map_trimEnd (ls : List (List Char)) :
    (ls.map trimEnd).filter (fun l => !l.isEmpty) =
      (ls.filter fun l => !blank l).map trimEnd := by
  rw [List.filter_map]
  simp only [Function.comp_def, isEmpty_trimEnd]

/-- A list that ends in an element of a kind that the rest lacks is found ahead of the rest. -/
theorem sublist_of_sublist_append {α : Type} {p : α → Bool} {front ahead rest : List α} {a : α}
    (h : (front ++ [a]).Sublist (ahead ++ rest)) (ha : p a = true)
    (hrest : ∀ b ∈ rest, p b = false) : (front ++ [a]).Sublist ahead := by
  obtain ⟨found, left, hsplit, hfound, hleft⟩ := List.sublist_append_iff.mp h
  cases hlast : left.getLast? with
  | none =>
    rw [List.getLast?_eq_none_iff] at hlast
    rwa [hsplit, hlast, List.append_nil]
  | some b =>
    have hb : b = a := by
      have hends := congrArg List.getLast? hsplit
      rw [List.getLast?_append, List.getLast?_append, hlast] at hends
      simpa using hends.symm
    have hmem := hleft.subset (List.mem_of_getLast? hlast)
    rw [hb] at hmem
    rw [hrest a hmem] at ha
    exact Bool.noConfusion ha

theorem filter_tidyHead_fenced :
    (tidyHead m.fenced).filter (fun l => !l.isEmpty) =
      trimEnd m.opening :: (m.inner.filter fun l => !blank l).map trimEnd := by
  rw [filter_tidyHead, filter_map_trimEnd, fenced, List.filter_cons_of_pos, List.map_cons]
  simp [m.not_blank_opening]

theorem filter_formatLines_whole {rest : List (List Char)}
    (h : rest.findIdx? headerLike = none) :
    (formatLines (m.whole ++ rest)).filter (fun l => !l.isEmpty) =
      trim m.opening :: ((m.inner.filter fun l => !blank l).map fun l => indented 1 (trim l)) ++
        (rest.filter fun l => !blank l).map fun l => indented 1 (trim l) := by
  have hopening : blank (trim m.opening) = false := by rw [blank_trim, m.not_blank_opening]
  have hahead : (tidyHead (trim m.opening :: indentFlat m.inner)).filter (fun l => !l.isEmpty) =
      trim m.opening :: (m.inner.filter fun l => !blank l).map fun l => indented 1 (trim l) := by
    rw [filter_tidyHead, List.map_cons, trimEnd_trim, (endTrimmed_indentFlat _).map_trimEnd,
      List.filter_cons_of_pos, filter_indentFlat]
    simp [isEmpty_eq_blank _ (trimEnd_trim m.opening), hopening]
  have hbehind : (tidyTail (indentFlat rest)).filter (fun l => !l.isEmpty) =
      (rest.filter fun l => !blank l).map fun l => indented 1 (trim l) := by
    rw [filter_tidyTail, (endTrimmed_indentFlat _).map_trimEnd, filter_indentFlat]
  rw [formatLines_whole_of_no_header m h, List.filter_append, hahead, hbehind]

/-- Indented front matter holds the lines of the front matter only if it stands there already. -/
theorem atFirstLevel_of_sublist {rest : List (List Char)} (h : rest.findIdx? headerLike = none)
    (hkept : (tidyHead m.fenced).Sublist (formatLines (m.whole ++ rest))) : m.AtFirstLevel := by
  have hsolid := hkept.filter fun l => !l.isEmpty
  rw [filter_tidyHead_fenced, filter_formatLines_whole m h] at hsolid
  have hinner : m.inner.filter (fun l => !blank l) =
      (m.block.filter fun l => !blank l) ++ [m.closing] := by
    rw [inner, List.filter_append, List.filter_singleton]
    simp [m.not_blank_closing]
  -- What stands behind the closing fence is no fence, so the lines match one by one.
  have hahead : (trimEnd m.opening :: (m.inner.filter fun l => !blank l).map trimEnd).Sublist
      (trim m.opening :: (m.inner.filter fun l => !blank l).map fun l => indented 1 (trim l)) := by
    rw [hinner, List.map_append, List.map_singleton, ← List.cons_append] at hsolid ⊢
    refine sublist_of_sublist_append (p := isFence) hsolid ?_ fun l hl => ?_
    · rw [← isFence_trim, trim_trimEnd, isFence_trim, m.isFence_closing]
    · obtain ⟨raw, hraw, rfl⟩ := List.mem_map.mp hl
      have hplain := List.findIdx?_eq_none_iff.mp h raw (List.mem_of_mem_filter hraw)
      rw [← isFence_trim, trim_indented, trim_trim, isFence_trim, Bool.eq_false_iff]
      exact fun hfence => by simp [headerLike_of_isFence raw hfence] at hplain
  have heach := hahead.eq_of_length (by simp)
  rw [List.cons.injEq, List.map_inj_left] at heach
  exact ⟨heach.1, fun l hl hb => heach.2 l (List.mem_filter.mpr ⟨hl, by simp [hb]⟩)⟩

/-- Front matter that stands at the first level is kept in any case. -/
theorem tidyHead_fenced (h : m.AtFirstLevel) :
    tidyHead m.fenced = tidyHead (trim m.opening :: indentFlat m.inner) := by
  have hinner : m.inner.map trimEnd = indentFlat m.inner := by
    refine List.map_congr_left fun l hl => ?_
    cases hb : blank l with
    | true => simp [(trimEnd_eq_nil_iff l).mpr hb, (trim_eq_nil_iff l).mpr hb]
    | false =>
      have hne : trim l ≠ [] := fun he => by simp [(trim_eq_nil_iff l).mp he] at hb
      simp [h.2 l hl hb, hne]
  rw [tidyHead, tidyHead, fenced, List.map_cons, List.map_cons, hinner, h.1, trimEnd_trim,
    (endTrimmed_indentFlat _).map_trimEnd]

end FrontMatter

/-- Front matter comes out of formatting as it was, up to blanks behind its lines and blank lines in
a row, exactly if a header stands behind it or its lines stand at the first level already; then it
is at the head of what comes out. -/
theorem frontMatter_kept_iff (source : String) (m : FrontMatter) (rest : List (List Char))
    (h : lines source.toList = m.whole ++ rest) :
    ((tidyHead m.fenced).Sublist (lines (formatSource source).toList) ↔
      headerIndex (lines source.toList) ≠ none ∨ m.AtFirstLevel) ∧
    ((tidyHead m.fenced).Sublist (lines (formatSource source).toList) →
      tidyHead m.fenced <+: lines (formatSource source).toList) := by
  have hsource : blank source.toList = false := by
    rw [Bool.eq_false_iff, ne_eq, blank_iff_lines, h]
    intro hblank
    have hopening := hblank m.opening (by simp [FrontMatter.whole, FrontMatter.fenced])
    rw [m.not_blank_opening] at hopening
    exact Bool.noConfusion hopening
  have hlines : lines (formatSource source).toList = formatLines (m.whole ++ rest) := by
    rw [formatSource, String.toList_ofList, lines_formatText _ hsource, h]
  have hkept : headerIndex (lines source.toList) ≠ none ∨ m.AtFirstLevel →
      tidyHead m.fenced <+: lines (formatSource source).toList := by
    rw [hlines, h, m.headerIndex_whole]
    cases hrest : rest.findIdx? headerLike with
    | some k => exact fun _ => m.formatLines_whole_of_header hrest
    | none =>
      rintro (hheader | hfirst)
      · exact absurd rfl hheader
      · rw [m.formatLines_whole_of_no_header hrest, m.tidyHead_fenced hfirst]
        exact List.prefix_append _ _
  have hlost : (tidyHead m.fenced).Sublist (lines (formatSource source).toList) →
      headerIndex (lines source.toList) ≠ none ∨ m.AtFirstLevel := by
    rw [hlines, h, m.headerIndex_whole]
    cases hrest : rest.findIdx? headerLike with
    | some k => exact fun _ => .inl (by simp)
    | none => exact fun hsub => .inr (m.atFirstLevel_of_sublist hrest hsub)
  exact ⟨⟨hlost, fun hheld => (hkept hheld).sublist⟩, fun hsub => hkept (hlost hsub)⟩

/-- A setting of a diagram inside another. -/
def forestSettings : FrontMatter where
  blanks := []
  opening := "---".toList
  block := ["config:".toList, "  theme: forest".toList]
  closing := "---".toList
  blank_of_mem := by decide
  isFence_opening := by decide
  not_isFence := by decide
  isFence_closing := by decide

/-- Ahead of a diagram the inner setting stays inside. -/
theorem forestSettings_kept :
    let source := "---\nconfig:\n  theme: forest\n---\n%% pets\npie\n\"cats\": 2"
    lines source.toList = forestSettings.whole ++ ["%% pets", "pie", "\"cats\": 2"].map String.toList ∧
      tidyHead forestSettings.fenced <+: lines (formatSource source).toList := by
  intro source
  have hlines : lines source.toList =
      forestSettings.whole ++ ["%% pets", "pie", "\"cats\": 2"].map String.toList := by decide
  obtain ⟨hkept, hhead⟩ := frontMatter_kept_iff source forestSettings _ hlines
  exact ⟨hlines, hhead (hkept.mpr (.inl (by decide)))⟩

/-- Without a diagram both settings come to stand side by side. -/
theorem forestSettings_flattened :
    let source := "---\nconfig:\n  theme: forest\n---"
    lines source.toList = forestSettings.whole ∧
      formatSource source = "---\n    config:\n    theme: forest\n    ---\n" ∧
      ¬(tidyHead forestSettings.fenced).Sublist (lines (formatSource source).toList) := by
  intro source
  have hformat : formatSource source = "---\n    config:\n    theme: forest\n    ---\n" := by decide
  refine ⟨by decide, hformat, ?_⟩
  rw [hformat]
  decide

end DiagramDesk
