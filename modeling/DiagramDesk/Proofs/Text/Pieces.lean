import Mathlib.Data.List.Flatten
import DiagramDesk.Proofs.Text.Document

/-!
The lines of a document, read off the lines of its source. Each line of the source makes the
lines of the document that its stray breaks cut it into. Blanks around a line may hold breaks of
their own, which make empty pieces around those of the trimmed line, and nothing else.
-/
namespace DiagramDesk.Text

/-! ### Parts -/

theorem trimEnd_cons_trimEnd (c : Char) (s : List Char) :
    trimEnd (c :: trimEnd s) = trimEnd (c :: s) := by
  have h := trimEnd_trimEnd s
  simp only [trimEnd, dropEndWhile] at h ⊢
  rw [h]

theorem trimEnd_of_isBlank {c : Char} (h : isBlank c = true) : trimEnd [c] = [] := by
  simpa [trimEnd_eq_nil_iff, blank] using h

/-- The parts of a text between its line breaks, without the blanks at their ends. -/
def parts (s : List Char) : List (List Char) := (splitAll isLineBreak s).map trimEnd

@[simp] theorem parts_nil : parts [] = [[]] := rfl

section Cons

variable {c : Char} {s : List Char}

theorem parts_cons_break (hc : isLineBreak c = true) : parts (c :: s) = [] :: parts s := by
  rw [parts, splitAll, if_pos hc]
  rfl

/-- A character that breaks no line goes to the first part. -/
theorem parts_cons {w : List Char} {ws : List (List Char)} (hc : isLineBreak c = false)
    (hs : parts s = w :: ws) : parts (c :: s) = trimEnd (c :: w) :: ws := by
  rw [parts, List.map_eq_cons_iff] at hs
  obtain ⟨v, vs, hv, rfl, rfl⟩ := hs
  rw [parts, splitAll, if_neg (by simp [hc]), hv, trimEnd_cons_trimEnd]
  rfl

end Cons

theorem exists_parts_eq_cons (s : List Char) : ∃ w ws, parts s = w :: ws := by
  induction s with
  | nil => exact ⟨[], [], rfl⟩
  | cons c s ih =>
    obtain ⟨w, ws, hs⟩ := ih
    cases hc : isLineBreak c with
    | true => exact ⟨[], _, parts_cons_break hc⟩
    | false => exact ⟨_, _, parts_cons hc hs⟩

theorem exists_parts_of_blank {s : List Char} (h : blank s = true) :
    ∃ n, parts s = [] :: List.replicate n [] := by
  induction s with
  | nil => exact ⟨0, rfl⟩
  | cons c s ih =>
    rw [blank_iff, List.forall_mem_cons, ← blank_iff] at h
    obtain ⟨n, hn⟩ := ih h.2
    cases hc : isLineBreak c with
    | true => exact ⟨n + 1, by rw [parts_cons_break hc, hn]; rfl⟩
    | false => exact ⟨n, by rw [parts_cons hc hn, trimEnd_of_isBlank h.1]⟩

/-- Blanks behind a text make empty parts behind. -/
theorem exists_parts_append_right (s : List Char) {right : List Char} (h : blank right = true) :
    ∃ n, parts (s ++ right) = parts s ++ List.replicate n [] := by
  induction s with
  | nil => exact exists_parts_of_blank h
  | cons c s ih =>
    obtain ⟨n, hn⟩ := ih
    refine ⟨n, ?_⟩
    rw [List.cons_append]
    cases hc : isLineBreak c with
    | true => rw [parts_cons_break hc, parts_cons_break hc, hn, List.cons_append]
    | false =>
      obtain ⟨w, ws, hs⟩ := exists_parts_eq_cons s
      rw [hs, List.cons_append] at hn
      rw [parts_cons hc hs, parts_cons hc hn, List.cons_append]

/-! ### Pieces -/

def pieces (s : List Char) : List (List Char) := (parts s).map trim

@[simp] theorem pieces_nil : pieces [] = [[]] := rfl

theorem pieces_cons_blank {c : Char} (s : List Char) (hc : isBlank c = true) :
    pieces (c :: s) = if isLineBreak c then [] :: pieces s else pieces s := by
  cases hb : isLineBreak c with
  | true => rw [pieces, parts_cons_break hb]; rfl
  | false =>
    obtain ⟨w, ws, hs⟩ := exists_parts_eq_cons s
    have htrim : trim (c :: w) = trim w := trim_append [c] w (by simp [blank, hc])
    rw [pieces, pieces, parts_cons hb hs, hs, List.map_cons, trim_trimEnd, htrim]
    rfl

/-- Blanks ahead of a text make empty pieces ahead. -/
theorem exists_pieces_append_left {left : List Char} (s : List Char) (h : blank left = true) :
    ∃ n, pieces (left ++ s) = List.replicate n [] ++ pieces s := by
  induction left with
  | nil => exact ⟨0, rfl⟩
  | cons c left ih =>
    rw [blank_iff, List.forall_mem_cons, ← blank_iff] at h
    obtain ⟨n, hn⟩ := ih h.2
    rw [List.cons_append, pieces_cons_blank _ h.1, hn]
    cases isLineBreak c with
    | true => exact ⟨n + 1, rfl⟩
    | false => exact ⟨n, rfl⟩

theorem exists_pieces_append_right (s : List Char) {right : List Char} (h : blank right = true) :
    ∃ n, pieces (s ++ right) = pieces s ++ List.replicate n [] := by
  obtain ⟨n, hn⟩ := exists_parts_append_right s h
  exact ⟨n, by rw [pieces, hn, List.map_append, List.map_replicate, trim_nil, pieces]⟩

/-- The pieces of a text are those of the trimmed text with empty ones around. -/
theorem exists_pieces_eq (s : List Char) :
    ∃ m n, pieces s = List.replicate m [] ++ pieces (trim s) ++ List.replicate n [] := by
  obtain ⟨left, right, hs, hleft, hright⟩ := exists_blank_around s
  obtain ⟨n, hn⟩ := exists_pieces_append_right (left ++ trim s) hright
  obtain ⟨m, hm⟩ := exists_pieces_append_left (trim s) hleft
  refine ⟨m, n, ?_⟩
  conv => lhs; rw [hs, hn, hm]

theorem pieces_of_no_break {s : List Char} (h : ∀ c ∈ s, isLineBreak c = false) :
    pieces s = [trim s] := by
  rw [pieces, parts, splitAll_of_forall isLineBreak s h, map_trim_map_trimEnd]
  rfl

/-! ### Documents -/

/-- The lines of a document are the parts of the lines of its source, and perhaps an empty one at the
end. Blanks ahead are kept here: a character in front of them keeps them. -/
theorem exists_map_trimEnd_documentLines (s : List Char) :
    ∃ n, (documentLines s).map trimEnd = (lines s).flatMap parts ++ List.replicate n [] := by
  induction s using lines.induct with
  | case1 => exact ⟨1, rfl⟩
  | case2 r ih =>
    obtain ⟨n, hn⟩ := ih
    refine ⟨n, ?_⟩
    rw [documentLines_cons_break (by simp) (by decide), lines, List.map_cons, hn]
    rfl
  | case3 r ih =>
    obtain ⟨n, hn⟩ := ih
    refine ⟨n, ?_⟩
    rw [documentLines, lines, List.map_cons, hn]
    rfl
  | case4 c r hc hr hnil ih =>
    obtain rfl : r = [] := by
      by_contra hne
      exact lines_ne_nil hne hnil
    refine ⟨0, ?_⟩
    rw [lines_cons c [] hc hr, hnil]
    cases hb : isLineBreak c with
    | true =>
      have hblank := trimEnd_of_isBlank (isBlank_of_isLineBreak c hb)
      simp [documentLines_cons_break hr hb, documentLines, parts_cons_break hb, hblank]
    | false => simp [documentLines_cons hb documentLines.eq_1, parts_cons hb parts_nil]
  | case5 c r hc hr l ls hcons ih =>
    obtain ⟨n, hn⟩ := ih
    refine ⟨n, ?_⟩
    rw [lines_cons c r hc hr, hcons, List.flatMap_cons]
    rw [hcons, List.flatMap_cons] at hn
    cases hb : isLineBreak c with
    | true =>
      rw [documentLines_cons_break hr hb, List.map_cons, hn, parts_cons_break hb,
        trimEnd_of_isBlank (isBlank_of_isLineBreak c hb)]
      rfl
    | false =>
      obtain ⟨d, ds, hd, -⟩ := exists_documentLines_eq_cons r
      obtain ⟨w, ws, hw⟩ := exists_parts_eq_cons l
      rw [hd, hw, List.map_cons, List.cons_append, List.cons_append, List.cons.injEq] at hn
      rw [documentLines_cons hb hd, List.map_cons, hn.2, parts_cons hb hw, ← hn.1,
        trimEnd_cons_trimEnd]
      rfl

/-- What the lines of a document hold, without the blanks around it, are the pieces of the lines of
its source. -/
theorem exists_map_trim_documentLines (s : List Char) :
    ∃ n, (documentLines s).map trim = (lines s).flatMap pieces ++ List.replicate n [] := by
  obtain ⟨n, hn⟩ := exists_map_trimEnd_documentLines s
  refine ⟨n, ?_⟩
  rw [← map_trim_map_trimEnd, hn, List.map_append, List.map_flatMap, List.map_replicate, trim_nil]
  rfl

/-- Where the lines of a source hold no breaks, the document has the same lines, but for an empty one
at its end. -/
theorem exists_map_trim_of_no_break {s : List Char}
    (h : ∀ l ∈ lines s, ∀ c ∈ l, isLineBreak c = false) :
    ∃ n, (documentLines s).map trim = (lines s).map trim ++ List.replicate n [] := by
  obtain ⟨n, hn⟩ := exists_map_trim_documentLines s
  refine ⟨n, ?_⟩
  rw [hn, List.map_eq_flatMap]
  congr 1
  exact List.flatMap_congr fun l hl => pieces_of_no_break (h l hl)

/-- A line of such a document that is not blank is a line of the source, and so are those ahead. -/
theorem exists_line_of_no_break {s : List Char}
    (h : ∀ l ∈ lines s, ∀ c ∈ l, isLineBreak c = false) {i : Nat} {line : List Char}
    (hline : (documentLines s)[i]? = some line) (hb : blank line = false) :
    ∃ l, (lines s)[i]? = some l ∧ trim l = trim line ∧
      ((documentLines s).take i).map trim = ((lines s).take i).map trim := by
  obtain ⟨n, hn⟩ := exists_map_trim_of_no_break h
  have hat : ((lines s).map trim ++ List.replicate n [])[i]? = some (trim line) := by
    rw [← hn, List.getElem?_map, hline, Option.map_some]
  have hlt : i < ((lines s).map trim).length := by
    by_contra hge
    rw [List.getElem?_append_right (Nat.le_of_not_lt hge)] at hat
    have hnil := List.eq_of_mem_replicate (List.mem_of_getElem? hat)
    rw [trim_eq_nil_iff, hb] at hnil
    cases hnil
  rw [List.getElem?_append_left hlt, List.getElem?_map, Option.map_eq_some_iff] at hat
  obtain ⟨l, hl, htrim⟩ := hat
  refine ⟨l, hl, htrim, ?_⟩
  rw [List.map_take, hn, List.take_append_of_le_length hlt.le, List.map_take]

/-- Without stray breaks the lines of the source hold no breaks. -/
theorem no_break_of_mem_lines {s : List Char} (h : strayBreaks s = 0) :
    ∀ l ∈ lines s, ∀ c ∈ l, isLineBreak c = false := by
  induction s using lines.induct with
  | case1 => simp [lines]
  | case2 r ih =>
    rw [strayBreaks_cons (by simp)] at h
    simpa [lines] using ih (by simpa using h)
  | case3 r ih => simpa [lines] using ih (by simpa [strayBreaks] using h)
  | case4 c r hc hr hnil ih =>
    rw [strayBreaks_cons hr, Nat.add_eq_zero_iff] at h
    rw [lines_cons c r hc hr, hnil]
    simpa [show c ≠ '\n' from hc] using h.1
  | case5 c r hc hr l ls hcons ih =>
    rw [strayBreaks_cons hr, Nat.add_eq_zero_iff] at h
    rw [lines_cons c r hc hr, hcons]
    rw [hcons, List.forall_mem_cons] at ih
    have hb : isLineBreak c = false := by simpa [show c ≠ '\n' from hc] using h.1
    rw [List.forall_mem_cons, List.forall_mem_cons]
    exact ⟨⟨hb, (ih h.2).1⟩, (ih h.2).2⟩

end DiagramDesk.Text
