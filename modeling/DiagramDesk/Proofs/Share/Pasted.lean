import DiagramDesk.Proofs.Share.Accepted
import DiagramDesk.Proofs.Share.Opened
import DiagramDesk.Proofs.Share.Transport

/-!
Bare tokens that are pasted. The blanks around a pasted text are trimmed off before it is read, but
a space in a token is a plus sign that went through a query, wherever it stands. So a bare token is
read as what it holds if no space is among the blanks around it; each space there is a sign less.
-/
namespace DiagramDesk.Token

open Text

/-- Of blanks only the spaces stay, as the sign for which they stand. -/
theorem normalize_of_blank {s : List Char} (h : blank s = true) :
    normalize s = List.replicate (s.count ' ') '-' := by
  rw [blank_iff] at h
  induction s with
  | nil => rfl
  | cons c s ih =>
    rw [List.forall_mem_cons] at h
    by_cases hspace : c = ' '
    · subst hspace
      rw [List.count_cons_self, List.replicate_succ, ← ih h.2]
      rfl
    · have hfiller : isFiller c = true := by simp [isFiller, h.1, hspace]
      rw [List.count_cons_of_ne hspace, ← ih h.2, normalize,
        List.filterMap_cons_none ((normalizeChar_eq_none_iff c).mpr hfiller), ← normalize]

/-- What the blanks around a token add to what is left of it when they are trimmed off. -/
theorem normalize_around (s : List Char) :
    normalize s = List.replicate ((leading s).count ' ') '-' ++ normalize (trim s) ++
      List.replicate ((trailing s).count ' ') '-' := by
  rw [← normalize_of_blank (blank_leading s), ← normalize_of_blank (blank_trailing s),
    ← normalize_append, ← normalize_append, leading_trim_trailing]

/-- No space is among the blanks around a text. -/
def Unspaced (s : List Char) : Prop := ' ' ∉ leading s ∧ ' ' ∉ trailing s

/-- Trimming takes nothing from a token exactly if no space is trimmed off. -/
theorem normalize_trim_iff (s : List Char) : normalize (trim s) = normalize s ↔ Unspaced s := by
  rw [Unspaced, ← List.count_eq_zero, ← List.count_eq_zero, normalize_around s]
  constructor
  · intro h
    have hlength := congrArg List.length h
    simp only [List.length_append, List.length_replicate] at hlength
    omega
  · rintro ⟨hleading, htrailing⟩
    rw [hleading, htrailing, List.replicate_zero, List.nil_append, List.append_nil]

/-- What reading keeps as it is must be a symbol of links in a token that holds a text. -/
theorem isLinkSymbol_of_decode {token text : String} (h : decode token = .ok text) {c : Char}
    (hc : c ∈ token.toList) (hkept : normalizeChar c = some c) : isLinkSymbol c = true := by
  have hmem : c ∈ normalize token.toList := List.mem_filterMap.mpr ⟨c, hc, hkept⟩
  have hreads := decode_reads token
  rw [h] at hreads
  cases hreads with
  | text bytes _ _ hspelled _ => exact isLinkSymbol_of_mem_encode bytes c (hspelled ▸ hmem)

end DiagramDesk.Token

namespace DiagramDesk.Link

open Text

/-- A text that is no link to open and has no number sign in front. -/
structure IsBare (s : List Char) : Prop where
  noLink : (Url.parse s).toOption.filter opens = none
  noMark : s.head? ≠ some '#'

/-- A bare token is read without the blanks around it. -/
theorem sourceOf_of_isBare {input : String} (h : IsBare (trim input.toList)) :
    sourceOf input = Token.decode (String.ofList (trim input.toList)) := by
  have hkept : (trim input.toList).dropWhile (· == '#') = trim input.toList := by
    have hmark := h.noMark
    cases hs : trim input.toList with
    | nil => rfl
    | cons c s =>
      rw [hs, List.head?_cons] at hmark
      exact List.dropWhile_cons_of_neg (by simpa using hmark)
  simp only [sourceOf, h.noLink, hkept]

/-- A token that holds a text is bare: the colon of a link and the number sign are no symbols. -/
theorem isBare_of_decode {token text : String} (h : Token.decode token = .ok text) :
    IsBare (trim token.toList) := by
  have hforeign {c : Char} (hc : c ∈ trim token.toList) (hkept : Token.normalizeChar c = some c) :
      Token.isLinkSymbol c = true :=
    Token.isLinkSymbol_of_decode h (mem_of_mem_trim _ c hc) hkept
  constructor
  · rw [Option.filter_eq_none_iff]
    intro u hu
    cases hparse : Url.parse (trim token.toList) with
    | error fault => simp [hparse, Except.toOption] at hu
    | ok v => exact absurd (hforeign (Url.colon_mem_of_parse hparse) (by decide)) (by decide)
  · intro hmark
    exact absurd (hforeign (List.mem_of_mem_head? hmark) (by decide)) (by decide)

theorem sourceOf_of_unspaced {input : String} (h : IsBare (trim input.toList))
    (hunspaced : Token.Unspaced input.toList) : sourceOf input = Token.decode input := by
  rw [sourceOf_of_isBare h]
  refine Token.decode_congr ?_
  rw [String.toList_ofList]
  exact (Token.normalize_trim_iff _).mpr hunspaced

/-- A bare token that is pasted is read without the blanks around it. If no space is among these, it
is read as it is, whether it holds a text or not, and what holds a text is bare. Each space among
them would have been the sign of a symbol that is missing now. -/
theorem pasted_token_read (input : String) :
    (IsBare (trim input.toList) →
      sourceOf input = Token.decode (String.ofList (trim input.toList))) ∧
    (Token.Unspaced input.toList →
      (IsBare (trim input.toList) → sourceOf input = Token.decode input) ∧
      ∀ text, Token.decode input = .ok text → sourceOf input = .ok text) ∧
    Token.normalize input.toList =
      List.replicate ((leading input.toList).count ' ') '-' ++
        Token.normalize (trim input.toList) ++
        List.replicate ((trailing input.toList).count ' ') '-' := by
  refine ⟨sourceOf_of_isBare, fun hunspaced => ⟨fun h => sourceOf_of_unspaced h hunspaced, ?_⟩,
    Token.normalize_around _⟩
  intro text htext
  rw [sourceOf_of_unspaced (isBare_of_decode htext) hunspaced, htext]

/-- A token whose plus sign became a space inside, with a tab and line breaks around it. -/
theorem waves_pasted :
    Token.Unspaced "\n\tfn5 Pj4+\r\n".toList ∧ sourceOf "\n\tfn5 Pj4+\r\n" = .ok "~~~>>>" := by
  have hunspaced : Token.Unspaced "\n\tfn5 Pj4+\r\n".toList := ⟨by decide, by decide⟩
  have htext : Token.decode "\n\tfn5 Pj4+\r\n" = .ok "~~~>>>" := by decide +kernel
  exact ⟨hunspaced, ((pasted_token_read "\n\tfn5 Pj4+\r\n").2.1 hunspaced).2 "~~~>>>" htext⟩

/-- The same token with its last plus sign, too, gone through a query: the last character of the
diagram is missing. -/
theorem last_wave_missing :
    IsBare "fn5 Pj4 ".toList ∧ Token.decode "fn5 Pj4 " = .ok "~~~>>>" ∧
    sourceOf "fn5 Pj4 " = .ok "~~~>>" :=
  ⟨⟨by decide +kernel, by decide⟩, by decide +kernel, by decide +kernel⟩

end DiagramDesk.Link
