import DiagramDesk.Diagnostic
import DiagramDesk.Proofs.Text.Document

/-!
Marks in a document. A mark covers what its line shows, and one character where the line shows
nothing. As every line but the last has an ending, that character is within the line, so marks of
different lines stand behind each other; only the mark of an empty last line reaches past the end.
-/
namespace DiagramDesk

open Text

namespace Diagnostic

def covered (d : Diagnostic) (text : List Char) : List Char :=
  (text.drop d.start).take (d.stop - d.start)

/-! ### Lines and ranges -/

theorem foldr_length (ls : List (List Char)) :
    ls.foldr (fun l n => l.length + n) 0 = ls.flatten.length := by
  induction ls with
  | nil => rfl
  | cons l ls ih => simp [ih]

theorem lineRange_length {s m : List Char} {ls ms : List (List Char)}
    (h : documentLines s = ls ++ m :: ms) :
    lineRange s ls.length =
      (ls.flatten.length, ls.flatten.length + max 1 (visible m).length) := by
  simp [lineRange, h, foldr_length]

theorem ofFailure_line {source : String} {i : Nat} (message : String)
    (h : i < lineCount source.toList) :
    ofFailure source (some (i + 1)) message =
      ⟨(lineRange source.toList i).1, (lineRange source.toList i).2, i + 1, message⟩ := by
  have hr : 1 ≤ i + 1 ∧ i + 1 ≤ lineCount source.toList := ⟨by omega, h⟩
  simp only [ofFailure, if_pos hr, Nat.add_sub_cancel]

theorem line_ofFailure {source : String} {n : Nat} (message : String)
    (h : n ≤ lineCount source.toList) : (ofFailure source (some n) message).line = max 1 n := by
  by_cases hn : 1 ≤ n
  · simp [ofFailure, hn, h]
  · simp only [ofFailure, if_neg (show ¬(1 ≤ n ∧ _) from fun h => hn h.1)]
    omega

theorem ofFailure_past_end {source : String} {n : Nat} (message : String)
    (h : lineCount source.toList < n) : ofFailure source (some n) message = ⟨0, 1, 1, message⟩ :=
  if_neg fun hn => Nat.not_le.mpr h hn.2

/-! ### A line and its mark -/

section Line

variable {source : String} {before after : List (List Char)} {line : List Char}
  (h : documentLines source.toList = before ++ line :: after) (message : String)

include h

theorem toList_eq_around : source.toList = before.flatten ++ (line ++ after.flatten) := by
  rw [← flatten_documentLines source.toList, h, List.flatten_append, List.flatten_cons]

theorem ofFailure_at :
    ofFailure source (some (before.length + 1)) message =
      ⟨before.flatten.length, before.flatten.length + max 1 (visible line).length,
        before.length + 1, message⟩ := by
  have hlt : before.length < lineCount source.toList := by simp [lineCount, h]
  rw [ofFailure_line message hlt, lineRange_length h]

/-- The mark of a line covers what the line shows, as long as there is something to cover. -/
theorem covered_at (hne : visible line ≠ []) :
    let mark := ofFailure source (some (before.length + 1)) message
    mark.stop = mark.start + (visible line).length ∧
      mark.covered source.toList = visible line := by
  have hmax : max 1 (visible line).length = (visible line).length :=
    Nat.max_eq_right (List.length_pos_iff.mpr hne)
  have hprefix : visible line <+: line ++ after.flatten :=
    (List.takeWhile_prefix _).trans (List.prefix_append _ _)
  simp only [ofFailure_at h, hmax, true_and]
  rw [covered, toList_eq_around h, List.drop_left, Nat.add_sub_cancel_left]
  exact (List.prefix_iff_eq_take.mp hprefix).symm

/-- With other lines behind it the line has an ending, and the mark goes no further. -/
theorem stop_le_of_ended (hne : after ≠ []) :
    (ofFailure source (some (before.length + 1)) message).stop ≤
      (before ++ [line]).flatten.length := by
  have hpos := List.length_pos_iff.mpr (endedOnce_of_append h hne).ne_nil
  have hshown : (visible line).length ≤ line.length := (List.takeWhile_prefix _).length_le
  simp only [ofFailure_at h, List.flatten_append, List.flatten_singleton, List.length_append]
  omega

/-- The mark reaches past the end exactly if the line is the last and empty, and then by one
character. -/
theorem stop_past_end :
    let mark := ofFailure source (some (before.length + 1)) message
    mark.stop ≤ source.toList.length + 1 ∧
      (mark.stop = source.toList.length + 1 ↔ line = [] ∧ after = []) := by
  intro mark
  have hlength := congrArg List.length (toList_eq_around h)
  rw [List.length_append, List.length_append] at hlength
  by_cases hafter : after = []
  · have hshown : (visible line).length ≤ line.length := (List.takeWhile_prefix _).length_le
    have hstop : mark.stop = before.flatten.length + max 1 (visible line).length := by
      simp only [mark, ofFailure_at h]
    rw [hafter, List.flatten_nil, List.length_nil] at hlength
    rw [← List.length_eq_zero_iff]
    simp only [hafter, and_true]
    omega
  · have hstop := stop_le_of_ended h message hafter
    simp only [List.flatten_append, List.flatten_singleton, List.length_append] at hstop
    have hlt : mark.stop < source.toList.length + 1 := by
      simp only [mark]
      omega
    exact ⟨hlt.le, fun he => absurd he hlt.ne, fun he => absurd he.2 hafter⟩

/-- Marks of lines stand behind each other as the lines do. -/
theorem stop_le_start {before' after' : List (List Char)} {line' : List Char}
    (h' : documentLines source.toList = before' ++ line' :: after')
    (hlt : before.length < before'.length) :
    (ofFailure source (some (before.length + 1)) message).stop ≤
      (ofFailure source (some (before'.length + 1)) message).start := by
  have hfront : before ++ [line] <+: documentLines source.toList := ⟨after, by simp [h]⟩
  have hfront' : before' <+: documentLines source.toList := ⟨line' :: after', h'.symm⟩
  have hprefix : before ++ [line] <+: before' :=
    List.prefix_of_prefix_length_le hfront hfront' (by simpa [Nat.succ_le_iff] using hlt)
  obtain ⟨more, rfl⟩ := hprefix
  have hafter : after ≠ [] := by
    have hrest := h.symm.trans h'
    rw [List.append_assoc, List.append_assoc, List.append_cancel_left_eq, List.singleton_append,
      List.cons.injEq] at hrest
    simp [hrest.2]
  rw [ofFailure_at h', List.flatten_append, List.length_append]
  exact (stop_le_of_ended h message hafter).trans (Nat.le_add_right _ _)

theorem last_iff :
    line = [] ∧ after = [] ↔
      before.length + 1 = lineCount source.toList ∧
        (documentLines source.toList).getLast? = some [] := by
  rw [lineCount, h]
  cases after with
  | nil => simp
  | cons next after =>
    simp only [reduceCtorEq, and_false, List.length_append, List.length_cons, false_iff, not_and]
    omega

end Line

theorem exists_line {text : List Char} {n : Nat} (hpos : 1 ≤ n) (hn : n ≤ lineCount text) :
    ∃ before line after, documentLines text = before ++ line :: after ∧ before.length + 1 = n := by
  have hi : n - 1 < (documentLines text).length := by
    rw [← lineCount]
    omega
  refine ⟨(documentLines text).take (n - 1), (documentLines text)[n - 1],
    (documentLines text).drop (n - 1 + 1), ?_, ?_⟩
  · rw [List.getElem_cons_drop, List.take_append_drop]
  · rw [List.length_take_of_le hi.le]
    omega

theorem ofFailure_none (source message : String) :
    ofFailure source none message = ofFailure source (some 1) message := by
  obtain ⟨line, after, hlines, -⟩ := exists_documentLines_eq_cons source.toList
  have hcount : 1 ≤ 1 ∧ 1 ≤ lineCount source.toList := by simp [lineCount, hlines]
  simp only [ofFailure, if_pos hcount]

theorem ofFailure_outside {source : String} {n : Nat} (message : String)
    (h : n = 0 ∨ lineCount source.toList < n) :
    ofFailure source (some n) message = ⟨0, 1, 1, message⟩ :=
  if_neg fun hn => by omega

/-- The first character of a text is past its end exactly if the only line of the text is empty. -/
theorem outside_past_end (text : List Char) :
    1 ≤ text.length + 1 ∧ (1 = text.length + 1 ↔
      1 = lineCount text ∧ (documentLines text).getLast? = some []) := by
  refine ⟨Nat.le_add_left 1 _, fun hlen => ?_, fun ⟨hcount, hlast⟩ => ?_⟩
  · obtain rfl : text = [] := List.eq_nil_of_length_eq_zero (by omega)
    exact ⟨rfl, rfl⟩
  · obtain ⟨line, hline⟩ := List.length_eq_one_iff.mp hcount.symm
    have hflat := flatten_documentLines text
    rw [hline, List.getLast?_singleton, Option.some.injEq] at hlast
    rw [hline, hlast, List.flatten_singleton] at hflat
    rw [← hflat]
    rfl

/-- The mark for a failure in a line of the document stands on that line: it begins behind the
characters of the lines ahead and covers what the line shows up to a line feed or a carriage return,
or one character where it shows nothing. Marks of different lines are apart and in the order of the
lines. No mark reaches further past the end than by one character, and that one only on an empty
last line. Without a line it is the mark of the first one; for a line that the document does not
have it is the first character, on the first line. -/
theorem mark_on_line (source message : String) :
    let text := source.toList
    let mark := fun line => ofFailure source line message
    (∀ n, 1 ≤ n → n ≤ lineCount text → ∃ before line after,
      documentLines text = before ++ line :: after ∧ before.length + 1 = n ∧
      (mark (some n)).line = n ∧ (mark (some n)).start < (mark (some n)).stop ∧
      (mark (some n)).start = before.flatten.length ∧
      (visible line ≠ [] →
        (mark (some n)).stop = (mark (some n)).start + (visible line).length ∧
        (mark (some n)).covered text = visible line) ∧
      (visible line = [] → (mark (some n)).stop = (mark (some n)).start + 1)) ∧
    (∀ m n, 1 ≤ m → m < n → n ≤ lineCount text →
      (mark (some m)).stop ≤ (mark (some n)).start) ∧
    (∀ line, (mark line).stop ≤ text.length + 1 ∧
      ((mark line).stop = text.length + 1 ↔
        (mark line).line = lineCount text ∧ (documentLines text).getLast? = some [])) ∧
    mark none = mark (some 1) ∧
    ∀ n, n = 0 ∨ lineCount text < n → mark (some n) = ⟨0, 1, 1, message⟩ := by
  intro text mark
  have hcount : 1 ≤ lineCount text := by
    obtain ⟨line, after, hlines, -⟩ := exists_documentLines_eq_cons text
    simp [lineCount, hlines]
  have hpast (n : Nat) (hpos : 1 ≤ n) (hn : n ≤ lineCount text) :
      (mark (some n)).stop ≤ text.length + 1 ∧
        ((mark (some n)).stop = text.length + 1 ↔
          (mark (some n)).line = lineCount text ∧ (documentLines text).getLast? = some []) := by
    obtain ⟨before, line, after, h, rfl⟩ := exists_line hpos hn
    obtain ⟨hle, hiff⟩ := stop_past_end h message
    refine ⟨hle, hiff.trans ((last_iff h).trans ?_)⟩
    simp only [mark, ofFailure_at h, text]
  refine ⟨?_, ?_, ?_, ofFailure_none source message, fun n => ofFailure_outside message⟩
  · intro n hpos hn
    obtain ⟨before, line, after, h, rfl⟩ := exists_line hpos hn
    refine ⟨before, line, after, h, rfl, ?_, ?_, ?_, covered_at h message, fun hnil => ?_⟩
    · simp only [mark, ofFailure_at h]
    · simp only [mark, ofFailure_at h]
      omega
    · simp only [mark, ofFailure_at h]
    · simp only [mark, ofFailure_at h, hnil]
      rfl
  · intro m n hm hlt hn
    obtain ⟨before, line, after, h, rfl⟩ := exists_line hm (hlt.le.trans hn)
    obtain ⟨before', line', after', h', rfl⟩ := exists_line (hm.trans hlt.le) hn
    exact stop_le_start h message h' (Nat.lt_of_succ_lt_succ hlt)
  · intro line
    cases line with
    | none =>
      simp only [mark, ofFailure_none]
      exact hpast 1 le_rfl hcount
    | some n =>
      by_cases hn : 1 ≤ n ∧ n ≤ lineCount text
      · exact hpast n hn.1 hn.2
      · have hout : n = 0 ∨ lineCount text < n := by omega
        have hmark : mark (some n) = ⟨0, 1, 1, message⟩ := ofFailure_outside message hout
        rw [hmark]
        exact outside_past_end text

/-- A text with four lines, ended in three ways, the last one empty. -/
def mixedBreaks : String := "ab\r\n\u2028c\r"

theorem mixedBreaks_marked :
    let mark := fun line => ofFailure mixedBreaks line "unexpected end"
    lineCount mixedBreaks.toList = 4 ∧
    [1, 2, 3, 4].map (fun n => ((mark (some n)).start, (mark (some n)).stop)) =
      [(0, 2), (4, 5), (5, 6), (7, 8)] ∧
    (mark (some 3)).stop ≤ (mark (some 4)).start ∧ (mark (some 4)).line = 4 ∧
    (documentLines mixedBreaks.toList).getLast? = some [] ∧ mark (some 5) = mark (some 0) := by
  intro mark
  have hcount : lineCount mixedBreaks.toList = 4 := by decide
  obtain ⟨-, hapart, hpast, -, houtside⟩ := mark_on_line mixedBreaks "unexpected end"
  obtain ⟨hline, hlast⟩ := (hpast (some 4)).2.mp (by decide)
  refine ⟨hcount, by decide, hapart 3 4 (by decide) (by decide) (by decide), hline.trans hcount,
    hlast, ?_⟩
  rw [show mark (some 5) = _ from houtside 5 (.inr (by decide)), ← houtside 0 (.inl rfl)]

end Diagnostic

end DiagramDesk
