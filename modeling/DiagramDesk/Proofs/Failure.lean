import DiagramDesk.Failure
import DiagramDesk.Proofs.Number.Reading
import DiagramDesk.Proofs.Text.Character
import DiagramDesk.Proofs.Text.Trim

/-!
The line that a message is about. A line number is mentioned where the word for a line, blanks and a
digit stand behind each other; as no blank is a digit, such a place can be read in one way only.
The first place decides: what stands there is the line or there is none, whatever is mentioned
behind it.
-/
namespace DiagramDesk

open Text

/-! ### A mention -/

/-- The word for a line, in any letter case. -/
def IsLineWord (word : List Char) : Prop := word.map lowerAscii = "line".toList

/-- A line number is mentioned at the head of a text: the word, a blank or more, and a digit. -/
def MentionsLine (s : List Char) : Prop :=
  ∃ word gap digit rest, s = word ++ (gap ++ digit :: rest) ∧ IsLineWord word ∧ gap ≠ [] ∧
    (∀ c ∈ gap, isBlank c = true) ∧ isPatternDigit digit = true

/-- A mention with all the digits there are. -/
def MentionOf (s digits : List Char) : Prop :=
  ∃ word gap rest, s = word ++ (gap ++ (digits ++ rest)) ∧ IsLineWord word ∧ gap ≠ [] ∧
    (∀ c ∈ gap, isBlank c = true) ∧ digits ≠ [] ∧ (∀ c ∈ digits, isPatternDigit c = true) ∧
    ∀ c ∈ rest.head?, isPatternDigit c = false

/-- The first place in a text where a line number is mentioned has these digits. -/
def FirstMention (s digits : List Char) : Prop :=
  ∃ t, t <:+ s ∧ MentionOf t digits ∧ ∀ u, u <:+ s → t.length < u.length → ¬ MentionsLine u

theorem not_isBlank_of_isPatternDigit {c : Char} (h : isPatternDigit c = true) :
    isBlank c = false := by
  rw [Bool.eq_false_iff]
  intro hblank
  have hdigit : isPatternDigit c = false :=
    forall_blank (P := fun c => isPatternDigit c = false) (by decide +kernel) c hblank
  exact absurd h (Bool.eq_false_iff.mp hdigit)

theorem lineMention_eq_some_iff {s digits : List Char} :
    lineMention s = some digits ↔ MentionOf s digits := by
  constructor
  · intro h
    simp only [lineMention, Option.ite_none_right_eq_some, Option.some.injEq] at h
    obtain ⟨⟨hword, hgap, hdigits⟩, rfl⟩ := h
    let rest := s.drop 4
    let more := rest.dropWhile isBlank
    refine ⟨s.take 4, rest.takeWhile isBlank, more.dropWhile isPatternDigit, ?_, hword, ?_,
      fun c hc => List.mem_takeWhile_imp hc, by simpa using hdigits,
      fun c hc => List.mem_takeWhile_imp hc, not_of_mem_head?_dropWhile⟩
    · rw [List.takeWhile_append_dropWhile, List.takeWhile_append_dropWhile, List.take_append_drop]
    · cases hrest : rest with
      | nil => simp [rest, hrest] at hgap
      | cons c t =>
        have hc : isBlank c = true := by simpa [rest, hrest] using hgap
        rw [List.takeWhile_cons_of_pos hc]
        exact List.cons_ne_nil _ _
  · rintro ⟨word, gap, rest, rfl, hword, hne, hgap, hdigits, hall, hrest⟩
    have hlength : word.length = 4 := by simpa using congrArg List.length hword
    have hgapEnd : ∀ c ∈ (digits ++ rest).head?, isBlank c = false := by
      obtain ⟨d, ds, rfl⟩ := List.exists_cons_of_ne_nil hdigits
      intro c hc
      cases hc
      exact not_isBlank_of_isPatternDigit (hall d List.mem_cons_self)
    have htake : (word ++ (gap ++ (digits ++ rest))).take 4 = word := List.take_left' hlength
    have hdrop : (word ++ (gap ++ (digits ++ rest))).drop 4 = gap ++ (digits ++ rest) :=
      List.drop_left' hlength
    have hhead : ((gap ++ (digits ++ rest)).head?.map isBlank).getD false = true := by
      obtain ⟨c, gap, rfl⟩ := List.exists_cons_of_ne_nil hne
      exact hgap c List.mem_cons_self
    simp only [lineMention, htake, hdrop, dropWhile_append_of_head hgap hgapEnd,
      takeWhile_append_of_head hall hrest]
    exact if_pos ⟨hword, hhead, by simpa using hdigits⟩

/-- Where a line number is mentioned, it is mentioned with all its digits. -/
theorem mentionsLine_iff {s : List Char} : MentionsLine s ↔ ∃ digits, MentionOf s digits := by
  constructor
  · rintro ⟨word, gap, digit, rest, rfl, hword, hne, hgap, hdigit⟩
    have hrow : (digit :: rest).takeWhile isPatternDigit ≠ [] := by
      rw [List.takeWhile_cons_of_pos hdigit]
      exact List.cons_ne_nil _ _
    refine ⟨(digit :: rest).takeWhile isPatternDigit, word, gap,
      (digit :: rest).dropWhile isPatternDigit, ?_, hword, hne, hgap, hrow,
      fun c hc => List.mem_takeWhile_imp hc, not_of_mem_head?_dropWhile⟩
    rw [List.takeWhile_append_dropWhile]
  · rintro ⟨digits, word, gap, rest, rfl, hword, hne, hgap, hdigits, hall, -⟩
    obtain ⟨d, ds, rfl⟩ := List.exists_cons_of_ne_nil hdigits
    exact ⟨word, gap, d, ds ++ rest, rfl, hword, hne, hgap, hall d List.mem_cons_self⟩

theorem lineMention_eq_none_iff {s : List Char} : lineMention s = none ↔ ¬ MentionsLine s := by
  rw [mentionsLine_iff, Option.eq_none_iff_forall_ne_some]
  simp [lineMention_eq_some_iff]

/-! ### The first mention -/

theorem firstLineMention_eq_some_iff {s digits : List Char} :
    firstLineMention s = some digits ↔ FirstMention s digits := by
  induction s with
  | nil =>
    have hnone : ¬ FirstMention [] digits := by
      rintro ⟨t, ht, hmention, -⟩
      rw [List.suffix_nil.mp ht, ← lineMention_eq_some_iff] at hmention
      cases hmention
    simpa [firstLineMention] using hnone
  | cons c s ih =>
    rw [firstLineMention]
    cases hhead : lineMention (c :: s) with
    | some ds =>
      have hfirst := lineMention_eq_some_iff.mp hhead
      constructor
      · intro h
        cases h
        exact ⟨c :: s, List.suffix_rfl, hfirst, fun u hu hlt => absurd hu.length_le (by omega)⟩
      · rintro ⟨t, ht, hmention, hbefore⟩
        obtain rfl | ht := List.suffix_cons_iff.mp ht
        · exact hhead.symm.trans (lineMention_eq_some_iff.mpr hmention)
        · exact absurd (mentionsLine_iff.mpr ⟨ds, hfirst⟩)
            (hbefore _ List.suffix_rfl (by simpa [Nat.lt_succ_iff] using ht.length_le))
    | none =>
      have hnone := lineMention_eq_none_iff.mp hhead
      refine ih.trans ⟨?_, ?_⟩
      · rintro ⟨t, ht, hmention, hbefore⟩
        refine ⟨t, ht.trans (List.suffix_cons c s), hmention, fun u hu hlt => ?_⟩
        obtain rfl | hu := List.suffix_cons_iff.mp hu
        · exact hnone
        · exact hbefore u hu hlt
      · rintro ⟨t, ht, hmention, hbefore⟩
        obtain rfl | ht := List.suffix_cons_iff.mp ht
        · exact absurd (mentionsLine_iff.mpr ⟨digits, hmention⟩) hnone
        · exact ⟨t, ht, hmention, fun u hu => hbefore u (hu.trans (List.suffix_cons c s))⟩

theorem firstLineMention_eq_none_iff {s : List Char} :
    firstLineMention s = none ↔ ∀ t, t <:+ s → ¬ MentionsLine t := by
  induction s with
  | nil =>
    have hnone : ¬ MentionsLine [] := lineMention_eq_none_iff.mp rfl
    simpa [firstLineMention] using hnone
  | cons c s ih =>
    rw [firstLineMention]
    cases hhead : lineMention (c :: s) with
    | some ds =>
      have hfirst : MentionsLine (c :: s) :=
        mentionsLine_iff.mpr ⟨ds, lineMention_eq_some_iff.mp hhead⟩
      simpa using ⟨c :: s, List.suffix_rfl, hfirst⟩
    | none =>
      have hnone := lineMention_eq_none_iff.mp hhead
      simp [ih, List.suffix_cons_iff, hnone]

/-- The digits of a mention are no number with a sign. -/
theorem FirstMention.digits {s ds : List Char} (h : FirstMention s ds) :
    ds ≠ [] ∧ ds.head? ≠ some '+' := by
  obtain ⟨t, -, ⟨word, gap, rest, -, -, -, -, hne, hall, -⟩, -⟩ := h
  exact ⟨hne, fun hplus => absurd (hall '+' (List.mem_of_mem_head? hplus)) (by decide)⟩

theorem lineInMessage_eq_some_iff {message : String} {n : ℕ} :
    lineInMessage message = some n ↔ ∃ digits, FirstMention message.toList digits ∧
      (∀ c ∈ digits, c.isDigit = true) ∧ Nat.ofDigitChars 10 digits 0 = n ∧ n < countBound := by
  simp only [lineInMessage, Option.bind_eq_some_iff, firstLineMention_eq_some_iff]
  refine exists_congr fun digits => and_congr_right fun h => ?_
  rw [natBelow?_eq_some_iff h.digits.2]
  exact and_iff_right h.digits.1

theorem lineInMessage_eq_none_iff {message : String} :
    lineInMessage message = none ↔
      (∀ t, t <:+ message.toList → ¬ MentionsLine t) ∨
        ∃ digits, FirstMention message.toList digits ∧
          ((∃ c ∈ digits, c.isDigit = false) ∨ countBound ≤ Nat.ofDigitChars 10 digits 0) := by
  simp only [← firstLineMention_eq_none_iff, ← firstLineMention_eq_some_iff]
  cases hfirst : firstLineMention message.toList with
  | none => simp [lineInMessage, hfirst]
  | some digits =>
    have hdigits := (firstLineMention_eq_some_iff.mp hfirst).digits
    simp only [lineInMessage, hfirst, Option.bind_some, natBelow?_eq_none_iff hdigits.2, hdigits.1,
      reduceCtorEq, Option.some.injEq, exists_eq_left', false_or]

/-- The first place in a message that mentions a line number decides. Its number is the line if all
the digits there are ASCII digits and the number is small enough; else there is none, whatever the
message mentions behind it. A message that says a line in digits before it mentions any other is
about that line, but what the engine itself reports goes before what its message says. -/
theorem first_mention_decides (message : String) :
    let s := message.toList
    (∀ n, lineInMessage message = some n ↔ ∃ digits, FirstMention s digits ∧
      (∀ c ∈ digits, c.isDigit = true) ∧ Nat.ofDigitChars 10 digits 0 = n ∧ n < countBound) ∧
    (lineInMessage message = none ↔ (∀ t, t <:+ s → ¬ MentionsLine t) ∨
      ∃ digits, FirstMention s digits ∧
        ((∃ c ∈ digits, c.isDigit = false) ∨ countBound ≤ Nat.ofDigitChars 10 digits 0)) ∧
    (∀ n < countBound, FirstMention s (toString n).toList → lineInMessage message = some n) ∧
    ∀ e : EngineError, e.message = message →
      (∀ n, e.line = some n → e.resolvedLine = some n) ∧
      (e.line = none → e.resolvedLine = lineInMessage message) := by
  intro s
  refine ⟨fun n => lineInMessage_eq_some_iff, lineInMessage_eq_none_iff, fun n hn h => ?_,
    fun e he => ⟨fun n hn => ?_, fun hnone => ?_⟩⟩
  · rw [lineInMessage, firstLineMention_eq_some_iff.mpr h, Option.bind_some, natBelow?_toString hn]
  · rw [EngineError.resolvedLine, hn, Option.some_or]
  · rw [EngineError.resolvedLine, hnone, Option.none_or, he]

/-- A message with a word that ends like the one for a line, and a line ahead of another. -/
def twoLines : String := "in outline of LINE \u00a014, as in line 2"

theorem twoLines_about_first :
    FirstMention twoLines.toList (toString 14).toList ∧ lineInMessage twoLines = some 14 ∧
    (EngineError.mk twoLines (some 3) none).resolvedLine = some 3 := by
  obtain ⟨-, -, hsays, hown⟩ := first_mention_decides twoLines
  have hfirst : FirstMention twoLines.toList (toString 14).toList :=
    firstLineMention_eq_some_iff.mp (by decide +kernel)
  exact ⟨hfirst, hsays 14 (by decide) hfirst, (hown ⟨twoLines, some 3, none⟩ rfl).1 3 rfl⟩

end DiagramDesk
