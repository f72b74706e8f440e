import DiagramDesk.Text.Escape
import DiagramDesk.Proofs.Text.Scan

/-!
Escaped text. Replacing one reserved character after the other comes to the same as replacing all
of them at once, because no name holds a character that is replaced behind it. What comes out holds
no reserved character but the first ones of names, and reading the names gives the text back.
-/
namespace DiagramDesk.Text

/-! ### One replacement after the other -/

/-- Replacements made in turn are made all at once, if none of them finds its character in a name
that was put in before. -/
theorem replaceInTurn_eq (rules : List (Char × List Char))
    (h : rules.Pairwise fun earlier later => later.1 ∉ earlier.2) (s : List Char) :
    replaceInTurn rules s = s.flatMap fun c => (rules.lookup c).getD [c] := by
  induction rules generalizing s with
  | nil => simp [replaceInTurn]
  | cons r rules ih =>
    rw [List.pairwise_cons] at h
    have hname : (r.2.flatMap fun c => (rules.lookup c).getD [c]) = r.2 := by
      conv => rhs; rw [← List.flatMap_singleton' r.2]
      refine List.flatMap_congr fun c hc => ?_
      have hnone : rules.lookup c = none := by
        rw [List.lookup_eq_none_iff]
        intro q hq
        simpa using fun he : c = q.1 => h.1 q hq (he ▸ hc)
      rw [hnone]
      rfl
    have hstep : replaceInTurn (r :: rules) s = replaceInTurn rules (replaceChar r.1 r.2 s) := rfl
    rw [hstep, ih h.2, replaceChar, List.flatMap_assoc]
    refine List.flatMap_congr fun c _ => ?_
    by_cases hc : c = r.1
    · rw [if_pos hc, hname, hc, List.lookup_cons_self]
      rfl
    · rw [if_neg hc, List.flatMap_singleton, List.lookup_cons, beq_eq_false_iff_ne.mpr hc]

/-- The name of a reserved character; any other character stands for itself. -/
def named : Char → List Char
  | '&' => "&amp;".toList
  | '<' => "&lt;".toList
  | '>' => "&gt;".toList
  | '"' => "&quot;".toList
  | c => [c]

def marks : List Char := ['&', '<', '>', '"']

theorem eq_of_mem_marks {c : Char} (h : c ∈ marks) : c = '&' ∨ c = '<' ∨ c = '>' ∨ c = '"' := by
  simpa only [marks, List.mem_cons, List.not_mem_nil, or_false] using h

theorem named_of_not_mem {c : Char} (h : c ∉ marks) : named c = [c] := by
  simp only [marks, List.mem_cons, List.not_mem_nil, or_false, not_or] at h
  rw [named]
  exacts [h.1, h.2.1, h.2.2.1, h.2.2.2]

theorem lookup_reserved (c : Char) : (reserved.lookup c).getD [c] = named c := by
  by_cases h : c ∈ marks
  · obtain rfl | rfl | rfl | rfl := eq_of_mem_marks h <;> rfl
  · have hnone : reserved.lookup c = none := by
      rw [List.lookup_eq_none_iff]
      intro r hr
      have hmark : ∀ r ∈ reserved, r.1 ∈ marks := by decide
      simpa using fun he : c = r.1 => h (he ▸ hmark r hr)
    rw [hnone, named_of_not_mem h]
    rfl

def escaped (s : List Char) : List Char := s.flatMap named

theorem toList_escapeMarkup (s : String) : (escapeMarkup s).toList = escaped s.toList := by
  rw [escapeMarkup, String.toList_ofList, replaceInTurn_eq reserved (by decide), escaped]
  exact List.flatMap_congr fun c _ => lookup_reserved c

/-! ### What an escaped text holds -/

/-- The mark that begins a name stands nowhere else in it. -/
theorem exists_named_eq {c : Char} (h : c ∈ marks) :
    ∃ name, named c = '&' :: name ∧ ∀ d ∈ name, d ∉ marks := by
  have hclean : ((named c).tail.all fun d => !marks.contains d) = true := by
    obtain rfl | rfl | rfl | rfl := eq_of_mem_marks h <;> decide
  refine ⟨(named c).tail, ?_, by simpa using hclean⟩
  obtain rfl | rfl | rfl | rfl := eq_of_mem_marks h <;> rfl

theorem not_mem_escaped {c : Char} (hc : c ∈ marks) (hne : c ≠ '&') (s : List Char) :
    c ∉ escaped s := by
  intro h
  obtain ⟨d, -, hd⟩ := List.mem_flatMap.mp h
  by_cases hm : d ∈ marks
  · obtain ⟨name, hname, hclean⟩ := exists_named_eq hm
    rw [hname, List.mem_cons] at hd
    obtain rfl | hd := hd
    · exact hne rfl
    · exact hclean c hd hc
  · rw [named_of_not_mem hm, List.mem_singleton] at hd
    exact hm (hd ▸ hc)

/-- In an escaped text the mark that begins names begins one. -/
theorem exists_named_of_escaped {s front rest : List Char}
    (h : escaped s = front ++ '&' :: rest) : ∃ c ∈ marks, named c <+: '&' :: rest := by
  induction s generalizing front with
  | nil => simp [escaped] at h
  | cons c s ih =>
    rw [escaped, List.flatMap_cons, ← escaped] at h
    obtain ⟨more, hfront, hrest⟩ | ⟨more, hname, hrest⟩ := List.append_eq_append_iff.mp h
    · exact ih hrest
    · cases more with
      | nil => exact @ih [] hrest.symm
      | cons d more =>
        rw [List.cons_append, List.cons.injEq] at hrest
        obtain ⟨rfl, rfl⟩ := hrest
        by_cases hm : c ∈ marks
        · obtain ⟨name, hc, hclean⟩ := exists_named_eq hm
          cases front with
          | nil => exact ⟨c, hm, by rw [hname]; simp⟩
          | cons e front =>
            rw [hc, List.cons_append, List.cons.injEq] at hname
            exact absurd (by decide) (hclean '&' (by simp [hname.2]))
        · rw [named_of_not_mem hm] at hname
          cases front with
          | nil =>
            rw [List.nil_append, List.cons.injEq] at hname
            exact absurd (by decide) (hname.1 ▸ hm)
          | cons e front => simp at hname

/-! ### Reading the names -/

def nameOf : Pattern Char := fun s =>
  marks.findSome? fun c => (after? (named c) s).map fun _ => (c, (named c).length)

def readNames (s : List Char) : List Char := replaceAll nameOf (fun c => [c]) s

theorem nameOf_named {c : Char} (h : c ∈ marks) (rest : List Char) :
    nameOf (named c ++ rest) = some (c, (named c).length) := by
  obtain rfl | rfl | rfl | rfl := eq_of_mem_marks h <;> rfl

theorem nameOf_eq_some {s : List Char} {c : Char} {n : Nat} (h : nameOf s = some (c, n)) :
    c ∈ marks ∧ n = (named c).length ∧ ∃ rest, s = named c ++ rest := by
  obtain ⟨d, hd, hs⟩ := List.exists_of_findSome?_eq_some h
  obtain ⟨rest, hrest, he⟩ := Option.map_eq_some_iff.mp hs
  cases he
  exact ⟨hd, rfl, rest, after?_eq_some _ _ _ hrest⟩

theorem nameOf_local : nameOf.Local := by
  refine .of_iff (T := fun v c => c ∈ marks ∧ v = named c) ?_ ?_
  · rintro v c ⟨hc, rfl⟩
    obtain ⟨name, hname, -⟩ := exists_named_eq hc
    rw [hname]
    exact List.cons_ne_nil '&' name
  · intro s c n
    constructor
    · intro h
      obtain ⟨hc, rfl, rest, rfl⟩ := nameOf_eq_some h
      exact ⟨named c, rest, rfl, rfl, hc, rfl⟩
    · rintro ⟨v, rest, rfl, rfl, hc, rfl⟩
      exact nameOf_named hc rest

theorem nameOf_eq_none {c : Char} (h : c ≠ '&') (s : List Char) : nameOf (c :: s) = none := by
  cases hs : nameOf (c :: s) with
  | none => rfl
  | some m =>
    obtain ⟨hm, -, rest, hrest⟩ := nameOf_eq_some hs
    obtain ⟨name, hname, -⟩ := exists_named_eq hm
    rw [hname, List.cons_append, List.cons.injEq] at hrest
    exact absurd hrest.1 h

/-- Reading the names of an escaped text gives the text back. -/
theorem readNames_escaped (s : List Char) : readNames (escaped s) = s := by
  induction s with
  | nil => rw [escaped, List.flatMap_nil, readNames, replaceAll, spans, List.flatMap_nil]
  | cons c s ih =>
    rw [readNames, replaceAll] at ih
    rw [readNames, replaceAll, escaped, List.flatMap_cons, ← escaped]
    by_cases hc : c ∈ marks
    · rw [nameOf_local.spans_of_match (nameOf_named hc _), List.flatMap_cons, ih]
      rfl
    · have hne : c ≠ '&' := fun he => hc (he ▸ by decide)
      rw [named_of_not_mem hc, List.singleton_append]
      simp only [spans, nameOf_eq_none hne, List.flatMap_cons, ih]
      rfl

end DiagramDesk.Text
