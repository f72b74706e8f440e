import DiagramDesk.Engine.Basic
import DiagramDesk.Proofs.Diagram.FrontMatter

/-!
Preambles. Blank lines and comments, behind front matter or not, only move the header down: the
kind of a diagram and the verdict on its text are those without them, and a refusal points as many
lines further down. The lines of a text may be put together with line feeds between them.
-/
namespace DiagramDesk

open Text

/-! ### The header and its place -/

/-- The header without the blanks around it, behind its place among the lines. -/
def header? (ls : List (List Char)) : Option (Nat × List Char) :=
  (headerIndex ls).map fun i => (i, trim (ls[i]?.getD []))

theorem ofLines_eq_header? (ls : List (List Char)) :
    DiagramKind.ofLines ls = match header? ls with
      | some (_, header) => .ofHeader header
      | none => .generic := by
  rw [DiagramKind.ofLines, header?]
  cases headerIndex ls with
  | none => rfl
  | some i => exact (ofHeader_trim _).symm

theorem checkLines_eq_header? (ls : List (List Char)) :
    checkLines ls = match header? ls with
      | none => .error { message := "No diagram definition found" }
      | some (i, header) =>
        if DiagramKind.ofHeader header = .generic then
          .error {
            message := "No diagram type detected matching given configuration for text: " ++
              String.ofList header
            line := some (i + 1)
            column := some 1 }
        else .ok () := by
  rw [checkLines, header?]
  cases headerIndex ls with
  | none => rfl
  | some i => simp only [Option.map_some, ofHeader_trim]

/-! ### Lines of a text that is put together -/

/-- Front matter is found by the trimmed lines. -/
theorem frontMatterEnd_map_trim (ls : List (List Char)) :
    frontMatterEnd (ls.map trim) = frontMatterEnd ls := by
  obtain hblank | ⟨front, first, rest, rfl, hfront, hfirst⟩ := blank_or_first ls
  · rw [frontMatterEnd_of_blank ls hblank, frontMatterEnd_of_blank]
    simpa [blank_trim] using hblank
  · have hfence : isFence ∘ trim = isFence := funext isFence_trim
    rw [List.map_append, List.map_cons, frontMatterEnd_append_cons front first rest hfront hfirst,
      frontMatterEnd_append_cons, isFence_trim, List.length_map, List.findIdx?_map, hfence]
    · simpa [blank_trim] using hfront
    · rw [blank_trim, hfirst]

theorem headerIndex_map_trim (ls : List (List Char)) :
    headerIndex (ls.map trim) = headerIndex ls := by
  have hlike : headerLike ∘ trim = headerLike := funext headerLike_trim
  rw [headerIndex, headerIndex, frontMatterEnd_map_trim]
  simp only [← List.map_drop, List.findIdx?_map, hlike]

theorem header?_map_trim (ls : List (List Char)) : header? (ls.map trim) = header? ls := by
  rw [header?, header?, headerIndex_map_trim]
  cases hi : headerIndex ls with
  | none => rfl
  | some i =>
    obtain ⟨l, hl, -⟩ := headerLike_headerIndex ls i hi
    simp [hl]

section Trailing

variable (ls : List (List Char)) {blanks : List (List Char)}
  (h : ∀ l ∈ blanks, blank l = true)

include h

/-- Blank lines at the end neither open front matter nor close it. -/
theorem frontMatterEnd_append_blanks :
    frontMatterEnd (ls ++ blanks) = frontMatterEnd ls := by
  obtain hblank | ⟨front, first, rest, rfl, hfront, hfirst⟩ := blank_or_first ls
  · rw [frontMatterEnd_of_blank ls hblank, frontMatterEnd_of_blank]
    exact List.forall_mem_append.mpr ⟨hblank, h⟩
  · have hfence : blanks.findIdx? isFence = none :=
      List.findIdx?_eq_none_iff.mpr fun l hl => isFence_blank l (h l hl)
    rw [List.append_assoc, List.cons_append, frontMatterEnd_append_cons _ _ _ hfront hfirst,
      frontMatterEnd_append_cons _ _ _ hfront hfirst, List.findIdx?_append, hfence, Option.map_none,
      Option.or_none]

theorem headerIndex_append_blanks : headerIndex (ls ++ blanks) = headerIndex ls := by
  have hlike : blanks.findIdx? headerLike = none :=
    List.findIdx?_eq_none_iff.mpr fun l hl => headerLike_blank l (h l hl)
  rw [headerIndex, headerIndex, frontMatterEnd_append_blanks ls h]
  cases hend : frontMatterEnd ls with
  | none => simp [List.findIdx?_append, hlike]
  | some close =>
    obtain ⟨l, hl, -⟩ := isFence_frontMatterEnd ls close hend
    have hlt := (List.getElem?_eq_some_iff.mp hl).1
    simp only [List.drop_append_of_le_length hlt, List.findIdx?_append, hlike, Option.map_none,
      Option.or_none]

theorem header?_append_blanks : header? (ls ++ blanks) = header? ls := by
  rw [header?, header?, headerIndex_append_blanks ls h]
  cases hi : headerIndex ls with
  | none => rfl
  | some i =>
    obtain ⟨l, hl, -⟩ := headerLike_headerIndex ls i hi
    have hlt := (List.getElem?_eq_some_iff.mp hl).1
    rw [Option.map_some, Option.map_some, List.getElem?_append_left hlt]

end Trailing

/-- The text of lines, with line feeds between them. -/
def joined (ls : List (List Char)) : String := String.ofList (join ['\n'] ls)

theorem header?_lines_joined (ls : List (List Char)) (h : ∀ l ∈ ls, '\n' ∉ l) :
    header? (lines (joined ls).toList) = header? ls := by
  obtain ⟨behind, hlines, hbehind⟩ := lines_join ls h
  rw [joined, String.toList_ofList, ← header?_map_trim, ← header?_append_blanks _ hbehind, hlines,
    header?_map_trim]

/-! ### What only moves the header -/

/-- A line that is blank or a comment. -/
def IsRemark (l : List Char) : Prop := blank l = true ∨ startsWith (trim l) ['%', '%'] = true

instance (l : List Char) : Decidable (IsRemark l) :=
  inferInstanceAs (Decidable (_ ∨ _))

theorem IsRemark.not_headerLike {l : List Char} (h : IsRemark l) : headerLike l = false := by
  obtain hblank | hcomment := h
  · exact headerLike_blank l hblank
  · rw [headerLike, hcomment, Bool.not_true, Bool.and_false]

theorem IsRemark.not_isFence {l : List Char} (h : IsRemark l) : isFence l = false := by
  rw [Bool.eq_false_iff]
  intro hfence
  have hlike := h.not_headerLike
  rw [headerLike_of_isFence l hfence] at hlike
  exact Bool.noConfusion hlike

/-- Lines ahead of a diagram: blank lines and comments, behind closed front matter or not. -/
inductive IsPreamble : List (List Char) → Prop
  | remarks {ls : List (List Char)} (h : ∀ l ∈ ls, IsRemark l) : IsPreamble ls
  | frontMatter (m : FrontMatter) {ls : List (List Char)} (h : ∀ l ∈ ls, IsRemark l) :
      IsPreamble (m.whole ++ ls)

/-- The first line that is not blank, if there is one, opens no front matter. -/
def PlainStart (ls : List (List Char)) : Prop :=
  ∀ l, ls.find? (fun l => !blank l) = some l → isFence l = false

/-- Without an opening fence the header is the first line that can be one. -/
theorem PlainStart.headerIndex_eq {ls : List (List Char)} (h : PlainStart ls) :
    headerIndex ls = ls.findIdx? headerLike := by
  have hopen : frontMatterEnd ls = none := by
    obtain hblank | ⟨front, first, rest, rfl, hfront, hfirst⟩ := blank_or_first ls
    · exact frontMatterEnd_of_blank ls hblank
    · have hfound : (front ++ first :: rest).find? (fun l => !blank l) = some first :=
        List.find?_eq_some_iff_append.mpr
          ⟨by simp [hfirst], front, rest, rfl, by simpa using hfront⟩
      rw [frontMatterEnd_append_cons _ _ _ hfront hfirst, h first hfound]
      rfl
  rw [headerIndex, hopen, List.drop_zero]
  simp

theorem PlainStart.remarks_append {ls rest : List (List Char)} (h : PlainStart rest)
    (hls : ∀ l ∈ ls, IsRemark l) : PlainStart (ls ++ rest) := by
  intro l hl
  rw [List.find?_append, Option.or_eq_some_iff] at hl
  obtain hl | ⟨-, hl⟩ := hl
  · exact (hls l (List.mem_of_find?_eq_some hl)).not_isFence
  · exact h l hl

theorem findIdx?_remarks_append (ls rest : List (List Char)) (h : ∀ l ∈ ls, IsRemark l) :
    (ls ++ rest).findIdx? headerLike = (rest.findIdx? headerLike).map (ls.length + ·) := by
  have hls : ls.findIdx? headerLike = none :=
    List.findIdx?_eq_none_iff.mpr fun l hl => (h l hl).not_headerLike
  rw [List.findIdx?_append, hls, Option.none_or]
  simp only [Nat.add_comm]

section Shift

variable {pre ls : List (List Char)} (hpre : IsPreamble pre) (hls : PlainStart ls)

include hpre hls

theorem headerIndex_append : headerIndex (pre ++ ls) = (headerIndex ls).map (pre.length + ·) := by
  rw [hls.headerIndex_eq]
  cases hpre with
  | remarks h => rw [(hls.remarks_append h).headerIndex_eq, findIdx?_remarks_append _ _ h]
  | @frontMatter m rest h =>
    rw [List.append_assoc, m.headerIndex_whole, findIdx?_remarks_append _ _ h, Option.map_map,
      List.length_append]
    simp only [Function.comp_def, Nat.add_assoc]

theorem header?_append :
    header? (pre ++ ls) = (header? ls).map fun (i, header) => (pre.length + i, header) := by
  rw [header?, header?, headerIndex_append hpre hls]
  cases headerIndex ls with
  | none => rfl
  | some i =>
    simp only [Option.map_some, List.getElem?_append_right (Nat.le_add_right pre.length i),
      Nat.add_sub_cancel_left]

end Shift

/-- A refusal that points so many lines further down. -/
def EngineError.shifted (n : Nat) (e : EngineError) : EngineError :=
  { e with line := e.line.map (n + ·) }

/-- A preamble ahead of lines that do not start with a fence moves the header down by its length,
and changes neither the kind of the diagram nor what the check says of its text, but for the line
it points at, which moves with the header. -/
theorem preamble_transparent {pre ls : List (List Char)} (hpre : IsPreamble pre)
    (hls : PlainStart ls) :
    headerIndex (pre ++ ls) = (headerIndex ls).map (pre.length + ·) ∧
    ((∀ l ∈ pre ++ ls, '\n' ∉ l) →
      DiagramKind.detect (joined (pre ++ ls)) = DiagramKind.detect (joined ls) ∧
      checkSource (joined (pre ++ ls)) =
        (checkSource (joined ls)).mapError (EngineError.shifted pre.length)) := by
  refine ⟨headerIndex_append hpre hls, fun hfeed => ?_⟩
  have hheader := header?_append hpre hls
  have hboth := header?_lines_joined (pre ++ ls) hfeed
  have hrest := header?_lines_joined ls fun l hl => hfeed l (List.mem_append_right pre hl)
  constructor
  · rw [DiagramKind.detect, DiagramKind.detect, ofLines_eq_header?, ofLines_eq_header?, hboth,
      hrest, hheader]
    cases header? ls <;> rfl
  · rw [checkSource, checkSource, checkLines_eq_header?, checkLines_eq_header?, hboth, hrest,
      hheader]
    cases header? ls with
    | none => rfl
    | some found =>
      obtain ⟨i, header⟩ := found
      simp only [Option.map_some]
      by_cases hkind : DiagramKind.ofHeader header = .generic
      · rw [if_pos hkind, if_pos hkind]
        rfl
      · rw [if_neg hkind, if_neg hkind]
        rfl

/-- Settings and a remark ahead of a text that is refused and that holds fences of its own: the
refusal points six lines further down. -/
theorem settings_transparent :
    let pre := forestSettings.whole ++ ["", "%% rings"].map String.toList
    let ls := ["", "sunburst", "---", "%% end", "---"].map String.toList
    headerIndex (pre ++ ls) = some 7 ∧
      DiagramKind.detect (joined (pre ++ ls)) = DiagramKind.detect (joined ls) ∧
      checkSource (joined (pre ++ ls)) = .error {
        message := "No diagram type detected matching given configuration for text: sunburst"
        line := some 8
        column := some 1 } := by
  intro pre ls
  have hpre : IsPreamble pre := .frontMatter forestSettings (by decide)
  have hls : PlainStart ls := by
    have hfirst : ls.find? (fun l => !blank l) = some "sunburst".toList := by decide
    intro l hl
    rw [hfirst, Option.some.injEq] at hl
    rw [← hl]
    decide
  obtain ⟨hheader, htext⟩ := preamble_transparent hpre hls
  obtain ⟨hkind, hcheck⟩ := htext (by decide)
  have hrefused : checkSource (joined ls) = .error {
      message := "No diagram type detected matching given configuration for text: sunburst"
      line := some 2
      column := some 1 } := by decide
  refine ⟨?_, hkind, ?_⟩
  · rw [hheader]
    decide
  · rw [hcheck, hrefused]
    rfl

end DiagramDesk
