import Mathlib.Data.List.Chain
import DiagramDesk.Diagram.Format
import DiagramDesk.Proofs.Diagram.Content

/-!
Tidy lines. Tidying drops blanks at the ends of lines and empty lines, so the
content stays. Around a line that is not blank it splits in two parts, the lines
ahead and the lines behind, and tidying either part twice is tidying it once.
-/
namespace DiagramDesk

open Text

/-! ### Lines without blanks at their ends -/

/-- Every line is without blanks at its end. -/
def EndTrimmed (ls : List (List Char)) : Prop := ∀ l ∈ ls, trimEnd l = l

theorem endTrimmed_map_trimEnd (ls : List (List Char)) : EndTrimmed (ls.map trimEnd) := by
  intro l hl
  obtain ⟨r, -, rfl⟩ := List.mem_map.mp hl
  rw [trimEnd_trimEnd]

theorem EndTrimmed.map_trimEnd {ls : List (List Char)} (h : EndTrimmed ls) :
    ls.map trimEnd = ls := by
  conv => rhs; rw [← List.map_id ls]
  exact List.map_congr_left h

theorem EndTrimmed.subset {ls rs : List (List Char)} (h : EndTrimmed ls) (hs : rs ⊆ ls) :
    EndTrimmed rs := fun l hl => h l (hs hl)

/-- A line without blanks at its end is blank only if it is empty. -/
theorem isEmpty_eq_blank (l : List Char) (h : trimEnd l = l) : l.isEmpty = blank l := by
  rw [Bool.eq_iff_iff, List.isEmpty_iff, ← trimEnd_eq_nil_iff, h]

theorem blank_trimEnd (l : List Char) : blank (trimEnd l) = blank l :=
  blank_congr (trim_trimEnd l)

theorem isEmpty_trimEnd (l : List Char) : (trimEnd l).isEmpty = blank l := by
  rw [isEmpty_eq_blank _ (trimEnd_trimEnd l), blank_trimEnd]

/-! ### Empty lines in a row -/

@[simp] theorem collapseEmpty_nil (b : Bool) : collapseEmpty b [] = [] := rfl

theorem collapseEmpty_cons (b : Bool) (l : List Char) (ls : List (List Char))
    (h : l.isEmpty = false) : collapseEmpty b (l :: ls) = l :: collapseEmpty false ls := by
  rw [collapseEmpty, if_neg (by simp [h])]

theorem collapseEmpty_true_cons_empty (l : List Char) (ls : List (List Char))
    (h : l.isEmpty = true) : collapseEmpty true (l :: ls) = collapseEmpty true ls := by
  rw [collapseEmpty, if_pos h, if_pos rfl]

theorem collapseEmpty_false_cons_empty (l : List Char) (ls : List (List Char))
    (h : l.isEmpty = true) : collapseEmpty false (l :: ls) = l :: collapseEmpty true ls := by
  rw [collapseEmpty, if_pos h, if_neg (by decide)]

theorem collapseEmpty_sublist (b : Bool) (ls : List (List Char)) :
    (collapseEmpty b ls).Sublist ls := by
  induction ls generalizing b with
  | nil => exact List.Sublist.refl []
  | cons l ls ih =>
    cases hl : l.isEmpty with
    | false =>
      rw [collapseEmpty_cons b l ls hl]
      exact (ih false).cons_cons l
    | true =>
      cases b with
      | true =>
        rw [collapseEmpty_true_cons_empty l ls hl]
        exact (ih true).cons l
      | false =>
        rw [collapseEmpty_false_cons_empty l ls hl]
        exact (ih true).cons_cons l

theorem collapseEmpty_collapseEmpty (b : Bool) (ls : List (List Char)) :
    collapseEmpty b (collapseEmpty b ls) = collapseEmpty b ls := by
  induction ls generalizing b with
  | nil => rfl
  | cons l ls ih =>
    cases hl : l.isEmpty with
    | false => rw [collapseEmpty_cons b l ls hl, collapseEmpty_cons b l _ hl, ih]
    | true =>
      cases b with
      | true => rw [collapseEmpty_true_cons_empty l ls hl, ih]
      | false =>
        rw [collapseEmpty_false_cons_empty l ls hl, collapseEmpty_false_cons_empty l _ hl, ih]

/-- What stands behind a line that is not empty does not depend on what stands ahead. -/
theorem collapseEmpty_append_cons (b : Bool) (ls : List (List Char)) (l : List Char)
    (rs : List (List Char)) (h : l.isEmpty = false) :
    collapseEmpty b (ls ++ l :: rs) = collapseEmpty b ls ++ l :: collapseEmpty false rs := by
  induction ls generalizing b with
  | nil => exact collapseEmpty_cons b l rs h
  | cons r ls ih =>
    rw [List.cons_append]
    cases hr : r.isEmpty with
    | false => rw [collapseEmpty_cons b r _ hr, collapseEmpty_cons b r _ hr, ih, List.cons_append]
    | true =>
      cases b with
      | true => rw [collapseEmpty_true_cons_empty r _ hr, collapseEmpty_true_cons_empty r _ hr, ih]
      | false =>
        rw [collapseEmpty_false_cons_empty r _ hr, collapseEmpty_false_cons_empty r _ hr, ih,
          List.cons_append]

theorem collapseEmpty_true_eq_nil (ls : List (List Char)) (h : collapseEmpty true ls = []) :
    ∀ l ∈ ls, l.isEmpty = true := by
  induction ls with
  | nil => simp
  | cons l ls ih =>
    cases hl : l.isEmpty with
    | false => simp [collapseEmpty_cons true l ls hl] at h
    | true =>
      rw [collapseEmpty_true_cons_empty l ls hl] at h
      exact List.forall_mem_cons.mpr ⟨hl, ih h⟩

theorem collapseEmpty_dropEndWhile_ne_nil (ls : List (List Char))
    (h : dropEndWhile List.isEmpty ls ≠ []) :
    collapseEmpty true (dropEndWhile List.isEmpty ls) ≠ [] := by
  intro he
  have hlast := collapseEmpty_true_eq_nil _ he _ (List.getLast_mem h)
  rw [dropEndWhile_getLast ls h] at hlast
  exact Bool.noConfusion hlast

/-- Empty lines at the end are gone, whether empty lines in a row are dropped before or after. -/
theorem collapseEmpty_dropEndWhile (b : Bool) (ls : List (List Char)) :
    collapseEmpty b (dropEndWhile List.isEmpty ls) =
      dropEndWhile List.isEmpty (collapseEmpty b ls) := by
  induction ls generalizing b with
  | nil => rfl
  | cons l ls ih =>
    cases hl : l.isEmpty with
    | false =>
      rw [dropEndWhile_cons_of_not l ls hl, collapseEmpty_cons b l _ hl,
        collapseEmpty_cons b l _ hl, dropEndWhile_cons_of_not l _ hl, ih]
    | true =>
      -- An empty line stays exactly if some line behind it is not empty.
      have hrest := ih true
      cases hd : dropEndWhile List.isEmpty ls with
      | nil =>
        rw [hd, collapseEmpty_nil] at hrest
        have hnil : dropEndWhile List.isEmpty (l :: ls) = [] := by simp [dropEndWhile, hd, hl]
        rw [hnil]
        cases b with
        | true => rw [collapseEmpty_true_cons_empty l ls hl, ← hrest, collapseEmpty_nil]
        | false =>
          rw [collapseEmpty_false_cons_empty l ls hl]
          simp [dropEndWhile, ← hrest, hl]
      | cons r rs =>
        have hcons : dropEndWhile List.isEmpty (l :: ls) = l :: r :: rs := by
          simp [dropEndWhile, hd]
        have hne : collapseEmpty true (r :: rs) ≠ [] := by
          rw [← hd]
          exact collapseEmpty_dropEndWhile_ne_nil ls (by simp [hd])
        rw [hd] at hrest
        rw [hcons]
        cases b with
        | true =>
          rw [collapseEmpty_true_cons_empty l _ hl, collapseEmpty_true_cons_empty l ls hl, hrest]
        | false =>
          rw [collapseEmpty_false_cons_empty l _ hl, collapseEmpty_false_cons_empty l ls hl,
            dropEndWhile, ← hrest]
          split
          · contradiction
          · rfl

/-- Lines that are not empty are never dropped. -/
theorem filter_collapseEmpty (b : Bool) (ls : List (List Char)) :
    (collapseEmpty b ls).filter (fun l => !l.isEmpty) = ls.filter fun l => !l.isEmpty := by
  induction ls generalizing b with
  | nil => rfl
  | cons l ls ih =>
    cases hl : l.isEmpty with
    | false =>
      rw [collapseEmpty_cons b l ls hl, List.filter_cons_of_pos (by simp [hl]),
        List.filter_cons_of_pos (by simp [hl]), ih]
    | true =>
      rw [List.filter_cons_of_neg (by simp [hl])]
      cases b with
      | true => rw [collapseEmpty_true_cons_empty l ls hl, ih]
      | false =>
        rw [collapseEmpty_false_cons_empty l ls hl, List.filter_cons_of_neg (by simp [hl]), ih]

theorem filter_dropEndWhile (ls : List (List Char)) :
    (dropEndWhile List.isEmpty ls).filter (fun l => !l.isEmpty) =
      ls.filter fun l => !l.isEmpty := by
  induction ls with
  | nil => rfl
  | cons l ls ih =>
    rw [dropEndWhile]
    split
    · rename_i hd
      rw [hd, List.filter_nil] at ih
      rw [List.filter_cons, ← ih]
      cases hl : l.isEmpty <;> simp [hl]
    · rw [List.filter_cons, List.filter_cons, ih]

theorem contentLines_filter (ls : List (List Char)) :
    contentLines (ls.filter fun l => !l.isEmpty) = contentLines ls := by
  have hsolid : (fun l : List Char => !blank l && !l.isEmpty) = fun l => !blank l := by
    funext l
    cases l <;> simp
  rw [contentLines, List.filter_filter, hsolid, contentLines]

theorem contentLines_collapseEmpty (b : Bool) (ls : List (List Char)) :
    contentLines (collapseEmpty b ls) = contentLines ls := by
  rw [← contentLines_filter, filter_collapseEmpty, contentLines_filter]

theorem contentLines_dropEndWhile (ls : List (List Char)) :
    contentLines (dropEndWhile List.isEmpty ls) = contentLines ls := by
  rw [← contentLines_filter, filter_dropEndWhile, contentLines_filter]

/-- Of two neighbours among collapsed lines one is not empty, and the first is not empty if an
empty line stands ahead of them. -/
theorem collapseEmpty_chain (b : Bool) (ls : List (List Char)) :
    (collapseEmpty b ls).IsChain (fun l r => ¬(l.isEmpty = true ∧ r.isEmpty = true)) ∧
      (b = true → ∀ l ∈ (collapseEmpty b ls).head?, l.isEmpty = false) := by
  induction ls generalizing b with
  | nil => simp
  | cons l ls ih =>
    cases hl : l.isEmpty with
    | false =>
      rw [collapseEmpty_cons b l ls hl]
      refine ⟨List.isChain_cons.mpr ⟨?_, (ih false).1⟩, ?_⟩
      · rintro r - ⟨he, -⟩
        rw [hl] at he
        exact Bool.noConfusion he
      · rintro - r hr
        rw [List.head?_cons, Option.mem_some_iff] at hr
        rw [← hr, hl]
    | true =>
      cases b with
      | true =>
        rw [collapseEmpty_true_cons_empty l ls hl]
        exact ih true
      | false =>
        rw [collapseEmpty_false_cons_empty l ls hl]
        obtain ⟨hchain, hhead⟩ := ih true
        refine ⟨List.isChain_cons.mpr ⟨?_, hchain⟩, by simp⟩
        rintro r hr ⟨-, he⟩
        rw [hhead rfl r hr] at he
        exact Bool.noConfusion he

/-- Where no two empty lines are neighbours and none is at the start, none is dropped. -/
theorem collapseEmpty_eq_self {b : Bool} {ls : List (List Char)}
    (h : ls.IsChain fun l r => ¬(l.isEmpty = true ∧ r.isEmpty = true))
    (hhead : b = true → ∀ l ∈ ls.head?, l.isEmpty = false) : collapseEmpty b ls = ls := by
  induction ls generalizing b with
  | nil => rfl
  | cons l ls ih =>
    obtain ⟨hnext, hchain⟩ := List.isChain_cons.mp h
    cases hl : l.isEmpty with
    | false => rw [collapseEmpty_cons b l ls hl, ih hchain (by simp)]
    | true =>
      have hrest : ∀ r ∈ ls.head?, r.isEmpty = false := fun r hr => by simpa [hl] using hnext r hr
      cases b with
      | true => simpa [hl] using hhead rfl l rfl
      | false => rw [collapseEmpty_false_cons_empty l ls hl, ih hchain fun _ => hrest]

/-! ### The lines ahead of a line and behind it -/

def tidyHead (ls : List (List Char)) : List (List Char) := collapseEmpty true (ls.map trimEnd)

def tidyTail (ls : List (List Char)) : List (List Char) :=
  dropEndWhile List.isEmpty (collapseEmpty false (ls.map trimEnd))

theorem tidyLines_append_cons (ls : List (List Char)) (l : List Char) (rs : List (List Char))
    (h : blank l = false) :
    tidyLines (ls ++ l :: rs) = tidyHead ls ++ trimEnd l :: tidyTail rs := by
  have he : (trimEnd l).isEmpty = false := by rw [isEmpty_trimEnd, h]
  rw [tidyLines, List.map_append, List.map_cons, collapseEmpty_append_cons true _ _ _ he,
    dropEndWhile_append_cons _ _ _ he, tidyHead, tidyTail]

/-- Tidy lines ahead of a line of the source that is not blank depend on the lines up to it only. -/
theorem tidyLines_concat_append (ls : List (List Char)) (l : List Char) (rs : List (List Char))
    (h : blank l = false) :
    tidyLines (ls ++ [l] ++ rs) = tidyHead (ls ++ [l]) ++ tidyTail rs := by
  have he : (trimEnd l).isEmpty = false := by rw [isEmpty_trimEnd, h]
  have hhead : tidyHead (ls ++ [l]) = tidyHead ls ++ [trimEnd l] := by
    rw [tidyHead, List.map_append, List.map_singleton, collapseEmpty_append_cons true _ _ _ he,
      collapseEmpty_nil, tidyHead]
  rw [hhead, List.append_assoc, List.singleton_append, tidyLines_append_cons ls l rs h,
    List.append_assoc, List.singleton_append]

theorem endTrimmed_collapseEmpty (b : Bool) (ls : List (List Char)) (h : EndTrimmed ls) :
    EndTrimmed (collapseEmpty b ls) := h.subset (collapseEmpty_sublist b ls).subset

theorem endTrimmed_tidyHead (ls : List (List Char)) : EndTrimmed (tidyHead ls) :=
  endTrimmed_collapseEmpty true _ (endTrimmed_map_trimEnd ls)

theorem endTrimmed_tidyTail (ls : List (List Char)) : EndTrimmed (tidyTail ls) :=
  (endTrimmed_collapseEmpty false _ (endTrimmed_map_trimEnd ls)).subset
    (dropEndWhile_isPrefix _).subset

theorem tidyHead_tidyHead (ls : List (List Char)) : tidyHead (tidyHead ls) = tidyHead ls := by
  conv => lhs; rw [tidyHead, (endTrimmed_tidyHead ls).map_trimEnd]
  rw [tidyHead, collapseEmpty_collapseEmpty]

theorem tidyTail_tidyTail (ls : List (List Char)) : tidyTail (tidyTail ls) = tidyTail ls := by
  conv => lhs; rw [tidyTail, (endTrimmed_tidyTail ls).map_trimEnd]
  rw [tidyTail, collapseEmpty_dropEndWhile, collapseEmpty_collapseEmpty, dropEndWhile_idem]

theorem filter_tidyHead (ls : List (List Char)) :
    (tidyHead ls).filter (fun l => !l.isEmpty) = (ls.map trimEnd).filter fun l => !l.isEmpty := by
  rw [tidyHead, filter_collapseEmpty]

theorem filter_tidyTail (ls : List (List Char)) :
    (tidyTail ls).filter (fun l => !l.isEmpty) = (ls.map trimEnd).filter fun l => !l.isEmpty := by
  rw [tidyTail, filter_dropEndWhile, filter_collapseEmpty]

theorem contentLines_tidyHead (ls : List (List Char)) :
    contentLines (tidyHead ls) = contentLines ls := by
  rw [tidyHead, contentLines_collapseEmpty, contentLines_congr (map_trim_map_trimEnd ls)]

theorem contentLines_tidyLines (ls : List (List Char)) :
    contentLines (tidyLines ls) = contentLines ls := by
  rw [tidyLines, contentLines_dropEndWhile, contentLines_collapseEmpty,
    contentLines_congr (map_trim_map_trimEnd ls)]

theorem endTrimmed_tidyLines (ls : List (List Char)) : EndTrimmed (tidyLines ls) :=
  (endTrimmed_collapseEmpty true _ (endTrimmed_map_trimEnd ls)).subset
    (dropEndWhile_isPrefix _).subset

theorem mem_of_mem_tidyLines (ls : List (List Char)) (l : List Char) (h : l ∈ tidyLines ls) :
    ∃ r ∈ ls, trimEnd r = l := by
  have hc : l ∈ collapseEmpty true (ls.map trimEnd) := mem_of_mem_dropEndWhile _ l h
  exact List.mem_map.mp ((collapseEmpty_sublist true _).subset hc)

/-- The first of tidy lines is not blank. -/
theorem tidyLines_head (ls : List (List Char)) : ∀ l ∈ (tidyLines ls).head?, blank l = false := by
  intro l hl
  have hmem : l ∈ tidyLines ls := List.mem_of_mem_head? hl
  rw [← isEmpty_eq_blank l (endTrimmed_tidyLines ls l hmem)]
  obtain ⟨rest, hrest⟩ := dropEndWhile_isPrefix (p := List.isEmpty)
    (collapseEmpty true (ls.map trimEnd))
  apply (collapseEmpty_chain true (ls.map trimEnd)).2 rfl l
  rw [← hrest, List.head?_append_of_ne_nil]
  · exact hl
  · exact List.ne_nil_of_mem hmem

/-- No two blank lines are neighbours among tidy lines. -/
theorem tidyLines_chain (ls : List (List Char)) :
    (tidyLines ls).IsChain fun l r => ¬(blank l = true ∧ blank r = true) := by
  have hpart : tidyLines ls <+: collapseEmpty true (ls.map trimEnd) := dropEndWhile_isPrefix _
  have hchain := List.IsChain.prefix (collapseEmpty_chain true (ls.map trimEnd)).1 hpart
  apply hchain.imp_of_mem_imp
  intro l r hl hr hne hb
  rw [← isEmpty_eq_blank l (endTrimmed_tidyLines ls l hl),
    ← isEmpty_eq_blank r (endTrimmed_tidyLines ls r hr)] at hb
  exact hne hb

/-- The last of tidy lines is not blank. -/
theorem tidyLines_getLast (ls : List (List Char)) (h : tidyLines ls ≠ []) :
    blank ((tidyLines ls).getLast h) = false := by
  rw [← isEmpty_eq_blank _ (endTrimmed_tidyLines ls _ (List.getLast_mem h))]
  exact dropEndWhile_getLast _ h

end DiagramDesk
