import DiagramDesk.Url.Percent
import DiagramDesk.Proofs.Text.Character

/-!
Percent escapes. The escape of a byte is read as that byte, and a part that has
been escaped holds nothing to escape.
-/
namespace DiagramDesk.Url

open Text

/-! ### Codes -/

theorem toNat_ofNat (n : Nat) (h : n < 0xD800) : (Char.ofNat n).toNat = n := by
  have hvalid : n.isValidChar := .inl h
  rw [Char.ofNat, dif_pos hvalid]
  rfl

theorem lt_of_isAlphanum {c : Char} (h : c.isAlphanum = true) : c.toNat < 128 := by
  have hup (last : Char) (hlast : last.toNat < 128) (hle : c.val ≤ last.val) : c.toNat < 128 :=
    Nat.lt_of_le_of_lt (UInt32.le_iff_toNat_le.mp hle) hlast
  obtain h | h := Bool.or_eq_true_iff.mp h
  · obtain h | h := Bool.or_eq_true_iff.mp h
    · exact hup 'Z' (by decide) (of_decide_eq_true h).2
    · exact hup 'z' (by decide) (of_decide_eq_true (Bool.and_eq_true_iff.mp h).2)
  · exact hup '9' (by decide) (of_decide_eq_true (Bool.and_eq_true_iff.mp h).2)

/-! ### Escapes -/

theorem hexDigit?_hexDigit : ∀ n < 16, hexDigit? (hexDigit n) = some n := by decide

theorem unescape_cons (c : Char) (s : List Char) (h : c ≠ '%') :
    unescape (c :: s) = utf8 [c] ++ unescape s := by
  simp [unescape, h]

/-- The escape of a byte is read as that byte. -/
theorem unescape_escapeByte (b : UInt8) (s : List Char) :
    unescape (escapeByte b ++ s) = b :: unescape s := by
  have hb : b.toNat < 256 := b.toNat_lt
  have hhigh := hexDigit?_hexDigit (b.toNat / 16) (by omega)
  have hlow := hexDigit?_hexDigit (b.toNat % 16) (by omega)
  have hsum : b.toNat / 16 * 16 + b.toNat % 16 = b.toNat := by omega
  simp [escapeByte, unescape, hhigh, hlow, hsum]

theorem mem_escapeByte {b : UInt8} {c : Char} (h : c ∈ escapeByte b) :
    c = '%' ∨ ∃ n < 16, c = hexDigit n := by
  have hb : b.toNat < 256 := b.toNat_lt
  simp only [escapeByte, List.mem_cons, List.not_mem_nil, or_false] at h
  obtain h | h | h := h
  · exact .inl h
  · exact .inr ⟨_, by omega, h⟩
  · exact .inr ⟨_, by omega, h⟩

/-! ### Escaped parts -/

/-- What stands in an escaped part is a character that the part does not escape, or belongs to an
escape. -/
theorem mem_escape {part : Part} {s : List Char} {c : Char} (h : c ∈ part.escape s) :
    part.escapes c = false ∨ c = '%' ∨ ∃ n < 16, c = hexDigit n := by
  obtain ⟨d, -, hd⟩ := List.mem_flatMap.mp h
  split at hd
  · obtain ⟨b, -, hb⟩ := List.mem_flatMap.mp hd
    exact .inr (mem_escapeByte hb)
  · rename_i he
    rw [List.mem_singleton.mp hd]
    exact .inl (by simpa using he)

theorem escapes_percent (part : Part) : part.escapes '%' = false := by
  cases part <;> decide

theorem escapes_hexDigit (part : Part) : ∀ n < 16, part.escapes (hexDigit n) = false := by
  cases part <;> decide

/-- An escaped part holds nothing to escape. -/
theorem escapes_of_mem_escape {part : Part} {s : List Char} :
    ∀ c ∈ part.escape s, part.escapes c = false := by
  intro c hc
  obtain h | rfl | ⟨n, hn, rfl⟩ := mem_escape hc
  · exact h
  · exact escapes_percent part
  · exact escapes_hexDigit part n hn

theorem escape_eq_self {part : Part} {s : List Char} (h : ∀ c ∈ s, part.escapes c = false) :
    part.escape s = s := by
  induction s with
  | nil => rfl
  | cons c s ih =>
    rw [List.forall_mem_cons] at h
    have hs := ih h.2
    rw [Part.escape] at hs ⊢
    rw [List.flatMap_cons, hs, h.1]
    rfl

/-- Whatever a part escapes, it escapes control characters. -/
theorem isControl_of_not_escapes {part : Part} {c : Char} (h : part.escapes c = false) :
    isControl c = false := by
  cases hc : isControl c with
  | false => rfl
  | true => simp [Part.escapes, hc] at h

theorem le_of_not_escapes {part : Part} {c : Char} (h : part.escapes c = false) :
    0x20 ≤ c.toNat := by
  have hc := isControl_of_not_escapes h
  simp [isControl] at hc
  omega

theorem lt_of_not_escapes {part : Part} {c : Char} (hspace : part.escapes ' ' = true)
    (h : part.escapes c = false) : 0x20 < c.toNat := by
  have hle := le_of_not_escapes h
  have hne : c.toNat ≠ ' '.toNat := by
    intro he
    rw [Char.toNat_inj.mp he, hspace] at h
    exact absurd h (by decide)
  exact Nat.lt_of_le_of_ne hle (Ne.symm hne)

end DiagramDesk.Url
