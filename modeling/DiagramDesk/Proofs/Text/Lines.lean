import DiagramDesk.Text.Lines
import DiagramDesk.Proofs.Text.Trim

/-!
Lines and the text they make. Lines without line feeds and without carriage
returns at their ends come back from the text that is made of them; with carriage
returns they come back up to blanks.
-/
namespace DiagramDesk.Text

@[simp] theorem unlines_nil : unlines [] = [] := rfl

theorem unlines_cons (l : List Char) (ls : List (List Char)) :
    unlines (l :: ls) = l ++ '\n' :: unlines ls := by
  simp [unlines]

theorem unlines_append (ls rs : List (List Char)) :
    unlines (ls ++ rs) = unlines ls ++ unlines rs := by
  simp [unlines]

/-- A character that belongs to no line ending goes to the first line. -/
theorem lines_cons (c : Char) (s : List Char) (h : c ≠ '\n')
    (hr : ∀ r, c = '\r' → s ≠ '\n' :: r) :
    lines (c :: s) = match lines s with
      | [] => [[c]]
      | l :: ls => (c :: l) :: ls :=
  lines.eq_4 c s h hr

/-- The text up to a line feed is a line, but for a carriage return right before the feed. -/
theorem exists_lines_append_feed (l s : List Char) (h : '\n' ∉ l) :
    ∃ line, lines (l ++ '\n' :: s) = line :: lines s ∧ (l = line ∨ l = line ++ ['\r']) := by
  induction l with
  | nil => exact ⟨[], by simp [lines], .inl rfl⟩
  | cons c l ih =>
    have hc : c ≠ '\n' := fun he => h (by simp [he])
    have hl : '\n' ∉ l := fun hm => h (List.mem_cons_of_mem c hm)
    by_cases hend : c = '\r' ∧ l = []
    · obtain ⟨rfl, rfl⟩ := hend
      exact ⟨[], by simp [lines], .inr rfl⟩
    · have hr : ∀ r, c = '\r' → l ++ '\n' :: s ≠ '\n' :: r := by
        intro r hcr he
        cases l with
        | nil => exact hend ⟨hcr, rfl⟩
        | cons d l =>
          rw [List.cons_append, List.cons.injEq] at he
          exact hl (by simp [he.1])
      obtain ⟨line, hlines, hline⟩ := ih hl
      refine ⟨c :: line, ?_, hline.imp (congrArg _) (congrArg _)⟩
      rw [List.cons_append, lines_cons c _ hc hr, hlines]

theorem lines_append_feed (l s : List Char) (hfeed : '\n' ∉ l)
    (hreturn : ∀ h : l ≠ [], l.getLast h ≠ '\r') :
    lines (l ++ '\n' :: s) = l :: lines s := by
  obtain ⟨line, hlines, rfl | rfl⟩ := exists_lines_append_feed l s hfeed
  · exact hlines
  · exact absurd (by simp) (hreturn (by simp))

theorem lines_of_feed_not_mem (l : List Char) (h : '\n' ∉ l) (hne : l ≠ []) : lines l = [l] := by
  induction l with
  | nil => exact absurd rfl hne
  | cons c l ih =>
    have hc : c ≠ '\n' := fun he => h (by simp [he])
    have hl : '\n' ∉ l := fun hm => h (List.mem_cons_of_mem c hm)
    rw [lines_cons c l hc fun r _ he => hl (by simp [he])]
    cases l with
    | nil => rfl
    | cons d l => rw [ih hl (by simp)]

/-- Behind a line feed the lines are those of the text that stands there. -/
theorem exists_lines_append (front s : List Char) :
    ∃ line ls, lines (front ++ '\n' :: s) = line :: ls ++ lines s := by
  induction front with
  | nil => exact ⟨[], [], by simp [lines]⟩
  | cons c front ih =>
    obtain ⟨line, ls, hlines⟩ := ih
    by_cases hfeed : c = '\n'
    · subst hfeed
      exact ⟨[], line :: ls, by simp [lines, hlines]⟩
    by_cases hreturn : c = '\r' ∧ ∃ r, front ++ '\n' :: s = '\n' :: r
    · -- The carriage return belongs to the feed behind it.
      obtain ⟨rfl, r, hr⟩ := hreturn
      refine ⟨line, ls, ?_⟩
      rw [← hlines, List.cons_append, hr, lines, lines]
    · refine ⟨c :: line, ls, ?_⟩
      rw [List.cons_append, lines_cons c _ hfeed fun r hc he => hreturn ⟨hc, r, he⟩, hlines]
      rfl

theorem getLast?_lines (front last : List Char) (hfeed : '\n' ∉ last) (hne : last ≠ []) :
    (lines (front ++ '\n' :: last)).getLast? = some last := by
  obtain ⟨line, ls, hlines⟩ := exists_lines_append front last
  rw [hlines, lines_of_feed_not_mem last hfeed hne, List.getLast?_concat]

/-- Lines put together with line feeds between them come back up to the blanks at their ends and an
empty line behind the last feed. -/
theorem lines_join (ls : List (List Char)) (h : ∀ l ∈ ls, '\n' ∉ l) :
    ∃ behind, (lines (join ['\n'] ls)).map trim ++ behind = ls.map trim ∧
      ∀ l ∈ behind, blank l = true := by
  induction ls with
  | nil => exact ⟨[], rfl, by simp⟩
  | cons l ls ih =>
    rw [List.forall_mem_cons] at h
    cases ls with
    | nil =>
      cases l with
      | nil => exact ⟨[[]], rfl, by simp⟩
      | cons c l =>
        refine ⟨[], ?_, by simp⟩
        rw [join, lines_of_feed_not_mem _ h.1 (by simp), List.append_nil]
    | cons next ls =>
      obtain ⟨behind, hlines, hbehind⟩ := ih h.2
      obtain ⟨line, hfirst, hline⟩ := exists_lines_append_feed l (join ['\n'] (next :: ls)) h.1
      have hjoin : join ['\n'] (l :: next :: ls) = l ++ '\n' :: join ['\n'] (next :: ls) := by
        simp [join]
      have htrim : trim line = trim l := by
        obtain rfl | rfl := hline
        · rfl
        · rw [← trim_trimEnd (line ++ _), trimEnd_append_blank line _ (by decide), trim_trimEnd]
      refine ⟨behind, ?_, hbehind⟩
      rw [hjoin, hfirst, List.map_cons, List.cons_append, hlines, htrim]
      rfl

/-- Lines that end in neither part of a line ending come back from their text. -/
theorem lines_unlines (ls : List (List Char)) (hfeed : ∀ l ∈ ls, '\n' ∉ l)
    (hreturn : ∀ l ∈ ls, ∀ h : l ≠ [], l.getLast h ≠ '\r') : lines (unlines ls) = ls := by
  induction ls with
  | nil => rfl
  | cons l ls ih =>
    rw [List.forall_mem_cons] at hfeed hreturn
    rw [unlines_cons, lines_append_feed l _ hfeed.1 hreturn.1, ih hfeed.2 hreturn.2]

/-- No line holds a line feed. -/
theorem feed_not_mem_lines (s : List Char) : ∀ l ∈ lines s, '\n' ∉ l := by
  induction s using lines.induct with
  | case1 => simp [lines]
  | case2 r ih => simpa [lines] using ih
  | case3 r ih => simpa [lines] using ih
  | case4 c r hc hr hnil ih =>
    rw [lines_cons c r hc hr, hnil]
    simpa using fun he => hc he.symm
  | case5 c r hc hr l ls hcons ih =>
    rw [lines_cons c r hc hr, hcons]
    rw [hcons, List.forall_mem_cons] at ih
    rw [List.forall_mem_cons]
    refine ⟨?_, ih.2⟩
    simpa using ⟨fun he => hc he.symm, ih.1⟩

/-- A text is blank exactly if all its lines are. -/
theorem blank_iff_lines (s : List Char) : blank s = true ↔ ∀ l ∈ lines s, blank l = true := by
  induction s using lines.induct with
  | case1 => simp [lines]
  | case2 r ih =>
    have hn : isBlank '\n' = true := by decide
    simpa [lines, blank, hn] using ih
  | case3 r ih =>
    have hn : isBlank '\n' = true := by decide
    have hr : isBlank '\r' = true := by decide
    simpa [lines, blank, hn, hr] using ih
  | case4 c r hc hr hnil ih =>
    rw [lines_cons c r hc hr, hnil]
    rw [hnil] at ih
    have hb : blank r = true := by simpa using ih
    rw [blank] at hb
    simp [blank, hb]
  | case5 c r hc hr l ls hcons ih =>
    rw [lines_cons c r hc hr, hcons]
    rw [hcons] at ih
    simp only [blank, List.all_cons, Bool.and_eq_true, List.forall_mem_cons] at ih ⊢
    rw [ih, and_assoc]

end DiagramDesk.Text
