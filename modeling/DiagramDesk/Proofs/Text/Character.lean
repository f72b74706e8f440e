import DiagramDesk.Text.Character

/-!
Characters of ASCII and blanks, one by one. The case rule of patterns takes word characters only to
letters.
-/
namespace DiagramDesk.Text

/-- What holds of the characters with the first codes holds of every ASCII character. -/
theorem forall_ascii {P : Char → Prop} (h : ∀ n < 128, P (Char.ofNat n)) (c : Char)
    (hc : c.toNat < 128) : P c := by
  have hself := h c.toNat hc
  rwa [Char.ofNat_toNat] at hself

def blankCodes : List Nat :=
  [9, 10, 11, 12, 13, 0x20, 0x85, 0xA0, 0x1680, 0x2000, 0x2001, 0x2002, 0x2003, 0x2004, 0x2005,
    0x2006, 0x2007, 0x2008, 0x2009, 0x200A, 0x2028, 0x2029, 0x202F, 0x205F, 0x3000]

theorem forall_blank {P : Char → Prop} (h : ∀ n ∈ blankCodes, P (Char.ofNat n)) (c : Char)
    (hc : isBlank c = true) : P c := by
  have hcode : c.toNat ∈ blankCodes := by
    simp only [isBlank, Bool.or_eq_true, Bool.and_eq_true, decide_eq_true_eq, beq_iff_eq] at hc
    simp only [blankCodes, List.mem_cons, List.not_mem_nil, or_false]
    omega
  have hself := h c.toNat hcode
  rwa [Char.ofNat_toNat] at hself

def isSmallLetter (c : Char) : Bool := 'a' ≤ c && c ≤ 'z'

/-- Beyond ASCII, only the long s and the Kelvin sign are taken for a small letter. -/
theorem eq_of_foldCase {c : Char} (hc : 128 ≤ c.toNat) (h : isSmallLetter (foldCase c) = true) :
    c = Char.ofNat 0x17F ∨ c = Char.ofNat 0x212A := by
  have heq {n : Nat} (hn : c.toNat = n) : c = Char.ofNat n := by rw [← hn, Char.ofNat_toNat]
  have hbig {z : Char} (hz : z.toNat < 128) : ¬c ≤ z := by
    intro hle
    have hle : c.toNat ≤ z.toNat := hle
    omega
  rw [foldCase] at h
  split at h
  case isTrue hlong => exact .inl (heq (by simpa using hlong))
  case isFalse =>
    split at h
    case isTrue hkelvin => exact .inr (heq (by simpa using hkelvin))
    case isFalse =>
      have hself : lowerAscii c = c := by simp [lowerAscii, hbig (z := 'Z') (by decide)]
      simp [hself, isSmallLetter, hbig (z := 'z') (by decide)] at h

/-- Whatever a pattern takes for a small letter is a character inside a word. -/
theorem isWord_of_foldCase {c : Char} (h : isSmallLetter (foldCase c) = true) :
    isWord c = true := by
  by_cases hascii : c.toNat < 128
  · exact forall_ascii (P := fun c => isSmallLetter (foldCase c) = true → isWord c = true)
      (by decide) c hascii h
  · obtain rfl | rfl := eq_of_foldCase (by omega) h <;> decide +kernel

end DiagramDesk.Text
