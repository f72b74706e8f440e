import DiagramDesk.Text.Document
import DiagramDesk.Proofs.Text.Lines

/-!
Lines of a document beside lines of a source. Both end at a line feed. A document
ends lines at other characters too, and each of those that stands alone puts what
is behind it one line further down than it is in the source.
-/
namespace DiagramDesk.Text

/-- How many line breaks end a line of a document but none of a source: all but line feeds and the
carriage returns right before them. -/
def strayBreaks : List Char → Nat
  | [] => 0
  | '\r' :: '\n' :: s => strayBreaks s
  | c :: s => (if isLineBreak c && c != '\n' then 1 else 0) + strayBreaks s

theorem isBlank_of_isLineBreak (c : Char) (h : isLineBreak c = true) : isBlank c = true := by
  simp only [isLineBreak, isBlank, Bool.or_eq_true, Bool.and_eq_true, decide_eq_true_eq,
    beq_iff_eq] at h ⊢
  omega

/-! ### One character in front -/

section Cons

variable {c : Char} {s : List Char}

/-- The condition under which a character in front is a matter of its own. -/
theorem alone_of_head (hs : s.head? ≠ some '\n') : ∀ r, c = '\r' → s ≠ '\n' :: r := by
  rintro r - rfl
  exact hs rfl

theorem strayBreaks_cons (h : ∀ r, c = '\r' → s ≠ '\n' :: r) :
    strayBreaks (c :: s) = (if isLineBreak c && c != '\n' then 1 else 0) + strayBreaks s :=
  strayBreaks.eq_3 c s h

theorem documentLines_cons_break (h : ∀ r, c = '\r' → s ≠ '\n' :: r) (hc : isLineBreak c = true) :
    documentLines (c :: s) = [c] :: documentLines s := by
  rw [documentLines.eq_3 c s h, if_pos hc]

/-- A character that breaks no line goes to the first line. -/
theorem documentLines_cons {l : List Char} {ls : List (List Char)} (hc : isLineBreak c = false)
    (hs : documentLines s = l :: ls) : documentLines (c :: s) = (c :: l) :: ls := by
  have h : ∀ r, c = '\r' → s ≠ '\n' :: r := by
    rintro r rfl
    exact absurd hc (by decide)
  rw [documentLines.eq_3 c s h, if_neg (by simp [hc]), hs]

theorem length_lines_cons (hc : c ≠ '\n') (h : ∀ r, c = '\r' → s ≠ '\n' :: r)
    (hs : lines s ≠ []) : (lines (c :: s)).length = (lines s).length := by
  rw [lines_cons c s hc h]
  cases hl : lines s with
  | nil => exact absurd hl hs
  | cons l ls => rfl

end Cons

theorem lines_ne_nil {s : List Char} (h : s ≠ []) : lines s ≠ [] := by
  fun_cases lines s with
  | case1 => exact absurd rfl h
  | case2 r | case3 r => exact List.cons_ne_nil [] (lines r)
  | case4 c r => exact List.cons_ne_nil [c] []
  | case5 c r _ _ l ls => exact List.cons_ne_nil (c :: l) ls

theorem strayBreaks_append (a s : List Char) (hs : s.head? ≠ some '\n') :
    strayBreaks (a ++ s) = strayBreaks a + strayBreaks s := by
  induction a using strayBreaks.induct with
  | case1 => simp [strayBreaks]
  | case2 a ih => simpa only [List.cons_append, strayBreaks] using ih
  | case3 c a h ih =>
    have h' : ∀ r, c = '\r' → a ++ s ≠ '\n' :: r := by
      intro r hc he
      cases a with
      | nil => exact alone_of_head hs r hc he
      | cons d a =>
        rw [List.cons_append, List.cons.injEq] at he
        exact h a hc (by rw [he.1])
    rw [List.cons_append, strayBreaks_cons h', strayBreaks_cons h, ih, Nat.add_assoc]

/-- Within a line of a source every line break is stray. -/
theorem strayBreaks_eq_zero_iff (s : List Char) (h : '\n' ∉ s) :
    strayBreaks s = 0 ↔ ∀ c ∈ s, isLineBreak c = false := by
  induction s with
  | nil => simp [strayBreaks]
  | cons c s ih =>
    rw [List.mem_cons, not_or] at h
    have hs : s.head? ≠ some '\n' := fun he => h.2 (List.mem_of_mem_head? he)
    rw [strayBreaks_cons (alone_of_head hs), List.forall_mem_cons, ← ih h.2]
    cases isLineBreak c <;> simp [Ne.symm h.1]

theorem exists_first_break {s : List Char} (h : ¬ ∀ c ∈ s, isLineBreak c = false) :
    ∃ a c b, s = a ++ c :: b ∧ (∀ d ∈ a, isLineBreak d = false) ∧ isLineBreak c = true := by
  induction s with
  | nil => exact absurd (by simp) h
  | cons c s ih =>
    cases hc : isLineBreak c with
    | true => exact ⟨[], c, s, rfl, by simp, hc⟩
    | false =>
      obtain ⟨a, d, b, rfl, ha, hd⟩ := ih fun hs => h (List.forall_mem_cons.mpr ⟨hc, hs⟩)
      exact ⟨c :: a, d, b, rfl, List.forall_mem_cons.mpr ⟨hc, ha⟩, hd⟩

/-! ### The first line of a document -/

theorem exists_documentLines_eq_cons (s : List Char) :
    ∃ l ls, documentLines s = l :: ls ∧ l <+: s := by
  induction s using documentLines.induct with
  | case1 => exact ⟨[], [], rfl, List.nil_prefix⟩
  | case2 s ih => exact ⟨['\r', '\n'], documentLines s, rfl, by simp⟩
  | case3 c s h hc ih => exact ⟨[c], documentLines s, documentLines_cons_break h hc, by simp⟩
  | case4 c s h hc hnil ih =>
    obtain ⟨l, ls, hs, -⟩ := ih
    rw [hnil] at hs
    cases hs
  | case5 c s h hc l ls hcons ih =>
    obtain ⟨m, ms, hs, hp⟩ := ih
    exact ⟨c :: m, ms, documentLines_cons (by simpa using hc) hs, by simpa using hp⟩

theorem documentLines_append {a s l : List Char} {ls : List (List Char)}
    (ha : ∀ c ∈ a, isLineBreak c = false) (hs : documentLines s = l :: ls) :
    documentLines (a ++ s) = (a ++ l) :: ls := by
  induction a with
  | nil => exact hs
  | cons c a ih =>
    rw [List.forall_mem_cons] at ha
    exact documentLines_cons ha.1 (ih ha.2)

theorem visible_append {a : List Char} (l : List Char) (ha : ∀ c ∈ a, isLineBreak c = false) :
    visible (a ++ l) = a ++ visible l := by
  refine List.takeWhile_append_of_pos fun c hc => ?_
  have hb := ha c hc
  by_contra hn
  have : c = '\n' ∨ c = '\r' := by simpa [or_iff_not_imp_left] using hn
  rcases this with rfl | rfl <;> exact absurd hb (by decide)

/-! ### Lines and their endings -/

/-- A line with its ending: the characters that break lines are at its end, one alone or a carriage
return with a line feed. -/
def EndedOnce (l : List Char) : Prop :=
  ∃ body ending, l = body ++ ending ∧ (∀ c ∈ body, isLineBreak c = false) ∧
    (ending = ['\r', '\n'] ∨ ∃ c, isLineBreak c = true ∧ ending = [c])

theorem EndedOnce.ne_nil {l : List Char} (h : EndedOnce l) : l ≠ [] := by
  obtain ⟨body, ending, rfl, -, rfl | ⟨c, -, rfl⟩⟩ := h <;> simp

theorem EndedOnce.cons {c : Char} {l : List Char} (hc : isLineBreak c = false) (h : EndedOnce l) :
    EndedOnce (c :: l) := by
  obtain ⟨body, ending, rfl, hbody, hending⟩ := h
  exact ⟨c :: body, ending, rfl, List.forall_mem_cons.mpr ⟨hc, hbody⟩, hending⟩

/-- The lines of a document are the document, cut behind each ending. -/
theorem exists_endedOnce (s : List Char) :
    ∃ ended last, documentLines s = ended ++ [last] ∧ ended.flatten ++ last = s ∧
      (∀ l ∈ ended, EndedOnce l) ∧ ∀ c ∈ last, isLineBreak c = false := by
  induction s using documentLines.induct with
  | case1 => exact ⟨[], [], rfl, rfl, by simp, by simp⟩
  | case2 s ih =>
    obtain ⟨ended, last, hs, hflat, hended, hlast⟩ := ih
    refine ⟨['\r', '\n'] :: ended, last, by rw [documentLines, hs]; rfl, by simp [hflat], ?_, hlast⟩
    exact List.forall_mem_cons.mpr ⟨⟨[], _, rfl, by simp, .inl rfl⟩, hended⟩
  | case3 c s h hc ih =>
    obtain ⟨ended, last, hs, hflat, hended, hlast⟩ := ih
    refine ⟨[c] :: ended, last, by rw [documentLines_cons_break h hc, hs]; rfl, by simp [hflat], ?_,
      hlast⟩
    exact List.forall_mem_cons.mpr ⟨⟨[], [c], rfl, by simp, .inr ⟨c, hc, rfl⟩⟩, hended⟩
  | case4 c s h hc hnil ih =>
    obtain ⟨ended, last, hs, -⟩ := ih
    simp [hnil] at hs
  | case5 c s h hc l ls hcons ih =>
    have hc' : isLineBreak c = false := by simpa using hc
    obtain ⟨ended, last, hs, hflat, hended, hlast⟩ := ih
    rw [documentLines_cons hc' hcons]
    rw [hcons] at hs
    cases ended with
    | nil =>
      rw [List.nil_append, List.cons.injEq] at hs
      obtain ⟨rfl, rfl⟩ := hs
      exact ⟨[], c :: l, rfl, by simpa using hflat, by simp, List.forall_mem_cons.mpr ⟨hc', hlast⟩⟩
    | cons m ended =>
      rw [List.cons_append, List.cons.injEq] at hs
      obtain ⟨rfl, rfl⟩ := hs
      rw [List.forall_mem_cons] at hended
      exact ⟨(c :: l) :: ended, last, rfl, by simpa using hflat,
        List.forall_mem_cons.mpr ⟨hended.1.cons hc', hended.2⟩, hlast⟩

theorem flatten_documentLines (s : List Char) : (documentLines s).flatten = s := by
  obtain ⟨ended, last, hs, hflat, -, -⟩ := exists_endedOnce s
  rw [hs, List.flatten_append, List.flatten_singleton, hflat]

/-- A line with others behind it has an ending. -/
theorem endedOnce_of_append {s l : List Char} {before after : List (List Char)}
    (h : documentLines s = before ++ l :: after) (hne : after ≠ []) : EndedOnce l := by
  obtain ⟨ended, last, hs, -, hended, -⟩ := exists_endedOnce s
  refine hended l ?_
  have hdrop : ended = before ++ l :: after.dropLast := by
    have hlast := congrArg List.dropLast (hs.symm.trans h)
    rwa [List.dropLast_concat, List.dropLast_append_of_ne_nil (List.cons_ne_nil l after),
      List.dropLast_cons_of_ne_nil hne] at hlast
  simp [hdrop]

/-! ### Ended lines -/

/-- A text in which every line is ended. -/
def Ended (s : List Char) : Prop := s = [] ∨ ∃ a, s = a ++ ['\n']

theorem Ended.cons {c : Char} {s : List Char} (h : Ended s) (hs : s = [] → c = '\n') :
    Ended (c :: s) := by
  obtain rfl | ⟨a, rfl⟩ := h
  · exact .inr ⟨[], by rw [hs rfl]; rfl⟩
  · exact .inr ⟨c :: a, rfl⟩

/-- Ended lines are lines of the document whatever follows. There are as many as in the source, and
one more for each stray break. -/
theorem Ended.documentLines_append {a : List Char} (h : Ended a) :
    ∃ ls, ls.flatten = a ∧ (∀ l ∈ ls, l ≠ []) ∧
      ls.length = (lines a).length + strayBreaks a ∧
      ∀ s, documentLines (a ++ s) = ls ++ documentLines s := by
  obtain rfl | ⟨a, rfl⟩ := h
  · exact ⟨[], rfl, by simp, rfl, fun s => rfl⟩
  induction a using strayBreaks.induct with
  | case1 =>
    exact ⟨[['\n']], rfl, by simp, by decide,
      fun s => documentLines_cons_break (by simp) (by decide)⟩
  | case2 a ih =>
    obtain ⟨ls, hflat, hne, hlen, happend⟩ := ih
    refine ⟨['\r', '\n'] :: ls, by simp [hflat], by simpa using hne, ?_, fun s => ?_⟩
    · simp only [List.cons_append, lines, strayBreaks, List.length_cons]
      omega
    · simp only [List.cons_append, documentLines, happend]
  | case3 c a h ih =>
    obtain ⟨ls, hflat, hne, hlen, happend⟩ := ih
    by_cases hr : c = '\r' ∧ a = []
    · obtain ⟨rfl, rfl⟩ := hr
      exact ⟨[['\r', '\n']], rfl, by simp, by decide, fun s => by simp [documentLines]⟩
    have h' (s : List Char) : ∀ r, c = '\r' → a ++ ['\n'] ++ s ≠ '\n' :: r := by
      intro r hc he
      cases a with
      | nil => exact hr ⟨hc, rfl⟩
      | cons d a =>
        rw [List.cons_append, List.cons_append, List.cons.injEq] at he
        exact h a hc (by rw [he.1])
    have h₀ := h' []
    rw [List.append_nil] at h₀
    have hlines : (lines (c :: (a ++ ['\n']))).length + strayBreaks (c :: (a ++ ['\n'])) =
        ls.length + (if isLineBreak c then 1 else 0) := by
      rw [strayBreaks_cons h₀, hlen]
      by_cases hn : c = '\n'
      · subst hn
        simp [lines, isLineBreak]
        omega
      · rw [length_lines_cons hn h₀ (lines_ne_nil (by simp))]
        cases hb : isLineBreak c <;> simp [hn]; omega
    cases hc : isLineBreak c with
    | true =>
      refine ⟨[c] :: ls, by simp [hflat], by simpa using hne, ?_, fun s => ?_⟩
      · rw [List.cons_append, hlines, if_pos hc, List.length_cons]
      · rw [List.cons_append, List.cons_append, documentLines_cons_break (h' s) hc, happend,
          List.cons_append]
    | false =>
      obtain _ | ⟨l, ls⟩ := ls
      · simp at hflat
      refine ⟨(c :: l) :: ls, by simpa using hflat, ?_, ?_, fun s => ?_⟩
      · rw [List.forall_mem_cons] at hne ⊢
        exact ⟨List.cons_ne_nil c l, hne.2⟩
      · rw [List.cons_append, hlines, if_neg (by simp [hc])]
        rfl
      · exact documentLines_cons hc (happend s)

/-- A line of a source stands behind as many ended lines as its index tells, and ahead of its own
ending. -/
theorem exists_ended_of_getElem? {s : List Char} {i : Nat} {l : List Char}
    (h : (lines s)[i]? = some l) :
    ∃ ahead rest, s = ahead ++ l ++ rest ∧ Ended ahead ∧ (lines ahead).length = i ∧
      ∀ c ∈ rest.head?, c = '\n' ∨ c = '\r' := by
  induction s using lines.induct generalizing i l with
  | case1 => simp [lines] at h
  | case2 r ih =>
    rw [lines] at h
    cases i with
    | zero =>
      obtain rfl : [] = l := by simpa using h
      exact ⟨[], '\n' :: r, rfl, .inl rfl, rfl, by simp⟩
    | succ i =>
      obtain ⟨ahead, rest, rfl, hend, hlen, hrest⟩ := ih (by simpa using h)
      exact ⟨'\n' :: ahead, rest, rfl, hend.cons fun _ => rfl, by simp [lines, hlen], hrest⟩
  | case3 r ih =>
    rw [lines] at h
    cases i with
    | zero =>
      obtain rfl : [] = l := by simpa using h
      exact ⟨[], '\r' :: '\n' :: r, rfl, .inl rfl, rfl, by simp⟩
    | succ i =>
      obtain ⟨ahead, rest, rfl, hend, hlen, hrest⟩ := ih (by simpa using h)
      refine ⟨'\r' :: '\n' :: ahead, rest, rfl, ?_, by simp [lines, hlen], hrest⟩
      exact (hend.cons fun _ => rfl).cons (by simp)
  | case4 c r hc hr hnil ih =>
    obtain rfl : r = [] := by
      by_contra hne
      exact lines_ne_nil hne hnil
    cases i with
    | zero =>
      obtain rfl : [c] = l := by simpa [lines_cons c [] hc hr, lines] using h
      exact ⟨[], [], rfl, .inl rfl, rfl, by simp⟩
    | succ i => simp [lines_cons c [] hc hr, lines] at h
  | case5 c r hc hr first ls hcons ih =>
    rw [lines_cons c r hc hr, hcons] at h
    cases i with
    | zero =>
      obtain rfl : c :: first = l := by simpa using h
      obtain ⟨ahead, rest, rfl, -, hlen, hrest⟩ := ih (i := 0) (l := first) (by simp [hcons])
      obtain rfl : ahead = [] := by
        by_contra hne
        exact lines_ne_nil hne (List.eq_nil_of_length_eq_zero hlen)
      exact ⟨[], rest, rfl, .inl rfl, rfl, hrest⟩
    | succ i =>
      have hl : (lines r)[i + 1]? = some l := by simpa [hcons] using h
      obtain ⟨ahead, rest, rfl, hend, hlen, hrest⟩ := ih hl
      have hne : ahead ≠ [] := by
        rintro rfl
        cases hlen
      have hr' : ∀ t, c = '\r' → ahead ≠ '\n' :: t := by
        rintro t rfl rfl
        exact hr _ rfl rfl
      refine ⟨c :: ahead, rest, rfl, hend.cons (absurd · hne), ?_, hrest⟩
      rw [length_lines_cons hc hr' (lines_ne_nil hne), hlen]

/-! ### A line in its place -/

/-- A line of a source in its place: the ended lines ahead of it, what it holds between blanks, and
what follows. -/
structure LinePlace where
  ended : List Char
  left : List Char
  text : List Char
  right : List Char
  rest : List Char
  isEnded : Ended ended
  line : (lines (ended ++ (left ++ text ++ right) ++ rest))[(lines ended).length]? =
    some (left ++ text ++ right)
  rest_head : ∀ c ∈ rest.head?, c = '\n' ∨ c = '\r'
  blank_left : blank left = true
  blank_right : blank right = true
  trim_text : trim text = text

namespace LinePlace

variable (p : LinePlace)

def source : List Char := p.ended ++ (p.left ++ p.text ++ p.right) ++ p.rest

def index : Nat := (lines p.ended).length

/-- What stands ahead of what the line holds. -/
def ahead : List Char := p.ended ++ p.left

/-- What stands behind what the line holds. -/
def behind : List Char := p.right ++ p.rest

theorem source_eq : p.source = p.ahead ++ p.text ++ p.behind := by
  simp [source, ahead, behind]

theorem feed_not_mem : '\n' ∉ p.left ++ p.text := fun h =>
  feed_not_mem_lines p.source _ (List.mem_of_getElem? p.line) (List.mem_append_left _ h)

/-- What a line holds does not end with a blank, let alone with a line break. -/
theorem exists_append_of_break {a b : List Char} {c : Char} (hne : p.text ≠ [])
    (h : p.left ++ p.text = a ++ c :: b) (hc : isLineBreak c = true) :
    ∃ d r, b = d :: r ∧ d ≠ '\n' := by
  cases b with
  | nil =>
    have hlast : p.text.getLast hne = c := by
      have hl := congrArg List.getLast? h
      simpa [List.getLast?_append, List.getLast?_eq_some_getLast hne] using hl
    have htrim : trimEnd p.text = p.text := by rw [← p.trim_text, trimEnd_trim]
    have hb := getLast_not_blank p.text htrim hne
    rw [hlast, isBlank_of_isLineBreak c hc] at hb
    cases hb
  | cons d r =>
    refine ⟨d, r, rfl, ?_⟩
    rintro rfl
    exact p.feed_not_mem (by simp [h])

theorem strayBreaks_front :
    strayBreaks (p.ahead ++ p.text) = strayBreaks p.ended + strayBreaks (p.left ++ p.text) := by
  rw [ahead, List.append_assoc, strayBreaks_append]
  exact fun h => p.feed_not_mem (List.mem_of_mem_head? h)

end LinePlace

theorem exists_linePlace {s : List Char} {i : Nat} {l : List Char} (h : (lines s)[i]? = some l) :
    ∃ p : LinePlace, p.source = s ∧ p.index = i ∧ p.text = trim l := by
  obtain ⟨ended, rest, rfl, hend, rfl, hrest⟩ := exists_ended_of_getElem? h
  obtain ⟨left, right, hl, hleft, hright⟩ := exists_blank_around l
  have hline : (lines (ended ++ (left ++ trim l ++ right) ++ rest))[(lines ended).length]? =
      some (left ++ trim l ++ right) := by rwa [← hl]
  exact ⟨⟨ended, left, trim l, right, rest, hend, hline, hrest, hleft, hright, trim_trim l⟩,
    by rw [LinePlace.source, ← hl], rfl, rfl⟩

end DiagramDesk.Text
