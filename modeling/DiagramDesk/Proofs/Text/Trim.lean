import Mathlib.Data.List.DropRight
import DiagramDesk.Text.Trim

/-!
Trimming. A trimmed text stays as it is, blanks put in front of a trimmed text
are trimmed off again, and nothing is left exactly of a blank text. Splitting gives
back the parts of a join, and words are found again behind each other.
-/
namespace DiagramDesk.Text

/-! ### Suffixes -/

section Suffix

variable {α : Type} {p : α → Bool}

theorem dropEndWhile_eq_rdropWhile (l : List α) : dropEndWhile p l = l.rdropWhile p := by
  induction l with
  | nil => rfl
  | cons a l ih =>
    have hr : (a :: l).rdropWhile p =
        if (l.reverse.dropWhile p).isEmpty then ([a].dropWhile p).reverse
        else a :: l.rdropWhile p := by
      rw [List.rdropWhile, List.reverse_cons, List.dropWhile_append]
      split
      · rfl
      · simp [List.rdropWhile]
    have hn : (l.reverse.dropWhile p).isEmpty = (l.rdropWhile p).isEmpty := by
      simp [List.rdropWhile]
    rw [hr, hn, dropEndWhile, ih]
    cases l.rdropWhile p with
    | nil => by_cases ha : p a = true <;> simp [ha]
    | cons b r => rfl

theorem dropEndWhile_eq_nil_iff (l : List α) : dropEndWhile p l = [] ↔ ∀ a ∈ l, p a = true := by
  rw [dropEndWhile_eq_rdropWhile, List.rdropWhile_eq_nil_iff]

theorem dropEndWhile_idem (l : List α) : dropEndWhile p (dropEndWhile p l) = dropEndWhile p l := by
  simp only [dropEndWhile_eq_rdropWhile, List.rdropWhile_idempotent]

theorem dropEndWhile_isPrefix (l : List α) : dropEndWhile p l <+: l := by
  rw [dropEndWhile_eq_rdropWhile]
  exact List.rdropWhile_prefix p l

theorem mem_of_mem_dropEndWhile (l : List α) (a : α) (h : a ∈ dropEndWhile p l) : a ∈ l :=
  (dropEndWhile_isPrefix l).subset h

theorem dropEndWhile_getLast (l : List α) (h : dropEndWhile p l ≠ []) :
    p ((dropEndWhile p l).getLast h) = false := by
  rw [Bool.eq_false_iff]
  simp only [dropEndWhile_eq_rdropWhile] at h ⊢
  exact List.rdropWhile_last_not p l h

theorem dropEndWhile_cons_of_not (a : α) (l : List α) (h : p a = false) :
    dropEndWhile p (a :: l) = a :: dropEndWhile p l := by
  rw [dropEndWhile]
  cases dropEndWhile p l <;> simp [h]

/-- What stands ahead of an element that stays is not looked at. -/
theorem dropEndWhile_append_cons (l : List α) (a : α) (r : List α) (h : p a = false) :
    dropEndWhile p (l ++ a :: r) = l ++ a :: dropEndWhile p r := by
  induction l with
  | nil => exact dropEndWhile_cons_of_not a r h
  | cons b l ih =>
    rw [List.cons_append, dropEndWhile, ih]
    cases l <;> rfl

/-- It does not matter which end is looked at first. -/
theorem dropWhile_dropEndWhile (l : List α) :
    (dropEndWhile p l).dropWhile p = dropEndWhile p (l.dropWhile p) := by
  induction l with
  | nil => rfl
  | cons a l ih =>
    by_cases ha : p a = true
    · rw [List.dropWhile_cons_of_pos ha, ← ih, dropEndWhile]
      cases dropEndWhile p l <;> simp [ha]
    · have ha' : p a = false := by simpa using ha
      rw [List.dropWhile_cons_of_neg ha, dropEndWhile_cons_of_not a l ha',
        List.dropWhile_cons_of_neg ha]

end Suffix

/-! ### Runs -/

section Run

variable {α : Type} {p : α → Bool} {l r : List α}

/-- What follows a run does not begin with one more of it. -/
theorem not_of_mem_head?_dropWhile : ∀ a ∈ (l.dropWhile p).head?, p a = false := by
  intro a ha
  have hhead := List.head?_dropWhile_not p l
  rwa [Option.mem_def.mp ha] at hhead

theorem dropWhile_append_of_head (hl : ∀ a ∈ l, p a = true) (hr : ∀ a ∈ r.head?, p a = false) :
    (l ++ r).dropWhile p = r := by
  rw [List.dropWhile_append_of_pos hl]
  cases r with
  | nil => rfl
  | cons a r => exact List.dropWhile_cons_of_neg (by simp [hr a (by simp)])

theorem takeWhile_append_of_head (hl : ∀ a ∈ l, p a = true) (hr : ∀ a ∈ r.head?, p a = false) :
    (l ++ r).takeWhile p = l := by
  rw [List.takeWhile_append_of_pos hl]
  cases r with
  | nil => simp
  | cons a r => rw [List.takeWhile_cons_of_neg (by simp [hr a (by simp)]), List.append_nil]

end Run

/-! ### Blanks -/

@[simp] theorem blank_nil : blank [] = true := rfl

theorem blank_iff (s : List Char) : blank s = true ↔ ∀ c ∈ s, isBlank c = true := by
  simp [blank]

theorem trimEnd_eq_nil_iff (s : List Char) : trimEnd s = [] ↔ blank s = true := by
  rw [trimEnd, dropEndWhile_eq_nil_iff, blank_iff]

theorem trimStart_eq_nil_iff (s : List Char) : trimStart s = [] ↔ blank s = true := by
  rw [trimStart, List.dropWhile_eq_nil_iff, blank_iff]

@[simp] theorem trimEnd_trimEnd (s : List Char) : trimEnd (trimEnd s) = trimEnd s :=
  dropEndWhile_idem s

theorem trimStart_trimStart (s : List Char) : trimStart (trimStart s) = trimStart s :=
  List.dropWhile_idempotent isBlank s

theorem trimStart_trimEnd (s : List Char) : trimStart (trimEnd s) = trimEnd (trimStart s) :=
  dropWhile_dropEndWhile s

@[simp] theorem trim_trimEnd (s : List Char) : trim (trimEnd s) = trim s := by
  rw [trim, trim, trimStart_trimEnd, trimEnd_trimEnd]

@[simp] theorem trimEnd_trim (s : List Char) : trimEnd (trim s) = trim s := by
  rw [trim, trimEnd_trimEnd]

@[simp] theorem trimStart_trim (s : List Char) : trimStart (trim s) = trim s := by
  rw [trim, trimStart_trimEnd, trimStart_trimStart]

@[simp] theorem trim_trim (s : List Char) : trim (trim s) = trim s := by
  rw [trim, trimStart_trim, trimEnd_trim]

theorem trim_eq_nil_iff (s : List Char) : trim s = [] ↔ blank s = true := by
  rw [trim, ← trimStart_trimEnd, trimStart_eq_nil_iff, ← trimEnd_eq_nil_iff, trimEnd_trimEnd,
    trimEnd_eq_nil_iff]

@[simp] theorem trimEnd_nil : trimEnd [] = [] := rfl

@[simp] theorem trim_nil : trim [] = [] := rfl

/-- Lines without the blanks at their ends hold what they held. -/
theorem map_trim_map_trimEnd (ls : List (List Char)) :
    (ls.map trimEnd).map trim = ls.map trim := by
  rw [List.map_map]
  exact List.map_congr_left fun l _ => trim_trimEnd l

theorem ne_nil_of_not_blank (s : List Char) (h : blank s = false) : s ≠ [] := by
  rintro rfl
  exact Bool.noConfusion h

/-- A text without blanks at its end has another character there. -/
theorem getLast_not_blank (s : List Char) (h : trimEnd s = s) (hne : s ≠ []) :
    isBlank (s.getLast hne) = false := by
  have hd : dropEndWhile isBlank s = s := h
  have hlast := dropEndWhile_getLast (p := isBlank) s
  simp only [hd] at hlast
  exact hlast hne

/-- A text with no blank at either end is trimmed. -/
theorem trim_eq_self (c d : Char) (s : List Char) (hc : isBlank c = false)
    (hd : isBlank d = false) :
    trim (c :: s ++ [d]) = c :: s ++ [d] := by
  have hstart : trimStart (c :: s ++ [d]) = c :: s ++ [d] :=
    List.dropWhile_cons_of_neg (by simp [hc])
  rw [trim, hstart]
  exact dropEndWhile_append_cons (c :: s) d [] hd

/-- A text that starts with no blank and ends in a word stays as it is. -/
theorem trim_append_clean (c : Char) (s w : List Char) (hc : isBlank c = false) (hne : w ≠ [])
    (hw : ∀ d ∈ w, isBlank d = false) : trim (c :: s ++ w) = c :: s ++ w := by
  have hlast := trim_eq_self c (w.getLast hne) (s ++ w.dropLast) hc (hw _ (List.getLast_mem hne))
  have hsplit : c :: (s ++ w.dropLast) ++ [w.getLast hne] = c :: s ++ w := by
    simp [List.append_assoc, List.dropLast_append_getLast]
  rwa [hsplit] at hlast

theorem mem_of_mem_trimEnd (s : List Char) (c : Char) (h : c ∈ trimEnd s) : c ∈ s :=
  mem_of_mem_dropEndWhile s c h

theorem mem_of_mem_trim (s : List Char) (c : Char) (h : c ∈ trim s) : c ∈ s := by
  have hs : c ∈ trimStart s := mem_of_mem_trimEnd _ c h
  exact (List.dropWhile_sublist isBlank).subset hs

theorem trimStart_append (front s : List Char) (h : blank front = true) :
    trimStart (front ++ s) = trimStart s := by
  rw [trimStart, List.dropWhile_append_of_pos ((blank_iff front).mp h)]
  rfl

/-- Blanks in front do not matter. -/
theorem trim_append (front s : List Char) (h : blank front = true) :
    trim (front ++ s) = trim s := by
  rw [trim, trimStart_append front s h, trim]

def leading (s : List Char) : List Char := s.takeWhile isBlank

/-- The blanks at the end of a text; a blank text has all of its own in front. -/
def trailing (s : List Char) : List Char := (trimStart s).rtakeWhile isBlank

theorem blank_leading (s : List Char) : blank (leading s) = true :=
  (blank_iff _).mpr fun _ hc => List.mem_takeWhile_imp hc

theorem blank_trailing (s : List Char) : blank (trailing s) = true :=
  (blank_iff _).mpr fun _ hc => List.mem_rtakeWhile_imp hc

/-- A text is what is left of it when it is trimmed, with blanks around. -/
theorem leading_trim_trailing (s : List Char) : leading s ++ trim s ++ trailing s = s := by
  have h : trim s ++ trailing s = trimStart s := by
    rw [trim, trimEnd, dropEndWhile_eq_rdropWhile]
    exact List.rdropWhile_append_rtakeWhile
  rw [List.append_assoc, h]
  exact List.takeWhile_append_dropWhile

theorem exists_blank_around (s : List Char) :
    ∃ left right, s = left ++ trim s ++ right ∧ blank left = true ∧ blank right = true :=
  ⟨leading s, trailing s, (leading_trim_trailing s).symm, blank_leading s, blank_trailing s⟩

theorem trimEnd_append_blank (s right : List Char) (h : blank right = true) :
    trimEnd (s ++ right) = trimEnd s := by
  rw [trimEnd, trimEnd, dropEndWhile_eq_rdropWhile, dropEndWhile_eq_rdropWhile, List.rdropWhile,
    List.rdropWhile, List.reverse_append, List.dropWhile_append_of_pos]
  simpa [blank_iff] using h

/-- Blanks around a trimmed text are trimmed off. -/
theorem trim_append_append (left s right : List Char) (hleft : blank left = true)
    (hright : blank right = true) (hs : trim s = s) : trim (left ++ s ++ right) = s := by
  rw [List.append_assoc, trim_append left _ hleft, ← trim_trimEnd,
    trimEnd_append_blank s right hright, trim_trimEnd, hs]

/-! ### Parts -/

theorem splitAll_of_forall (sep : Char → Bool) (part : List Char)
    (h : ∀ c ∈ part, sep c = false) : splitAll sep part = [part] := by
  induction part with
  | nil => rfl
  | cons c part ih =>
    rw [List.forall_mem_cons] at h
    simp [splitAll, h.1, ih h.2]

theorem splitAll_append_cons (sep : Char → Bool) (part : List Char) (d : Char) (rest : List Char)
    (h : ∀ c ∈ part, sep c = false) (hd : sep d = true) :
    splitAll sep (part ++ d :: rest) = part :: splitAll sep rest := by
  induction part with
  | nil => simp [splitAll, hd]
  | cons c part ih =>
    rw [List.forall_mem_cons] at h
    simp [splitAll, h.1, ih h.2]

/-- Parts without the separator come back when their join is split. -/
theorem splitAll_join (d : Char) (parts : List (List Char)) (hne : parts ≠ [])
    (h : ∀ part ∈ parts, d ∉ part) : splitAll (· == d) (join [d] parts) = parts := by
  have hsep {part : List Char} (hd : d ∉ part) : ∀ c ∈ part, (c == d) = false := by
    intro c hc
    simpa using fun he : c = d => hd (he ▸ hc)
  induction parts with
  | nil => exact absurd rfl hne
  | cons part parts ih =>
    rw [List.forall_mem_cons] at h
    cases parts with
    | nil => exact splitAll_of_forall _ part (hsep h.1)
    | cons next parts =>
      have hjoin : join [d] (part :: next :: parts) = part ++ d :: join [d] (next :: parts) := by
        simp [join]
      rw [hjoin, splitAll_append_cons _ part d _ (hsep h.1) (by simp), ih (by simp) h.2]

theorem mem_join (sep : List Char) (parts : List (List Char)) (c : Char)
    (h : c ∈ join sep parts) : c ∈ sep ∨ ∃ part ∈ parts, c ∈ part := by
  induction parts with
  | nil => exact absurd h List.not_mem_nil
  | cons part parts ih =>
    cases parts with
    | nil => exact .inr ⟨part, List.mem_cons_self, h⟩
    | cons next parts =>
      simp only [join, List.mem_append] at h
      obtain (h | h) | h := h
      · exact .inr ⟨part, List.mem_cons_self, h⟩
      · exact .inl h
      · obtain hsep | ⟨q, hq, hc⟩ := ih h
        · exact .inl hsep
        · exact .inr ⟨q, List.mem_cons_of_mem _ hq, hc⟩

theorem after?_eq_some {α : Type} [DecidableEq α] (head s rest : List α)
    (h : after? head s = some rest) : s = head ++ rest := by
  induction head generalizing s with
  | nil => simpa [after?] using h
  | cons a head ih =>
    cases s with
    | nil => cases h
    | cons b s =>
      rw [after?] at h
      split at h
      case isTrue hab => rw [hab, ih s h, List.cons_append]
      case isFalse => cases h

theorem not_sep_of_mem_splitAll (sep : Char → Bool) (s : List Char) :
    ∀ part ∈ splitAll sep s, ∀ c ∈ part, sep c = false := by
  induction s with
  | nil => simp [splitAll]
  | cons c s ih =>
    rw [splitAll]
    split
    case isTrue => simpa using ih
    case isFalse hc =>
      split
      case h_1 => simpa using hc
      case h_2 part parts hparts =>
        rw [hparts, List.forall_mem_cons] at ih
        rw [List.forall_mem_cons, List.forall_mem_cons]
        exact ⟨⟨by simpa using hc, ih.1⟩, ih.2⟩

/-! ### Words -/

/-- Words are not empty and hold no blanks. -/
theorem clean_of_mem_words (s w : List Char) (h : w ∈ words s) :
    w ≠ [] ∧ ∀ c ∈ w, isBlank c = false := by
  obtain ⟨hw, hne⟩ := List.mem_filter.mp h
  exact ⟨by simpa using hne, not_sep_of_mem_splitAll isBlank s w hw⟩

theorem words_of_clean (w : List Char) (hne : w ≠ []) (h : ∀ c ∈ w, isBlank c = false) :
    words w = [w] := by
  simp [words, splitAll_of_forall isBlank w h, hne]

theorem words_append_cons (w : List Char) (d : Char) (s : List Char) (hne : w ≠ [])
    (h : ∀ c ∈ w, isBlank c = false) (hd : isBlank d = true) :
    words (w ++ d :: s) = w :: words s := by
  simp [words, splitAll_append_cons isBlank w d s h hd, hne]

end DiagramDesk.Text
