import DiagramDesk.Url.Form
import DiagramDesk.Proofs.Text.Trim
import DiagramDesk.Proofs.Text.Utf8
import DiagramDesk.Proofs.Url.Percent

/-!
The written form of a list of pairs is read as that list, whatever characters the
names and values hold. It uses few characters, so that it can stand in a query as
it is.
-/
namespace DiagramDesk.Url

open Text

def isFormMark (c : Char) : Bool := c.isAlphanum || ['*', '-', '.', '_', '+', '%'].contains c

theorem isFormMark_hexDigit : ∀ n < 16, isFormMark (hexDigit n) = true := by decide

theorem isFormMark_of_mem_formByte (b : UInt8) : ∀ c ∈ formByte b, isFormMark c = true := by
  intro c hc
  simp only [formByte] at hc
  split at hc
  · rename_i h
    rw [List.mem_singleton] at hc
    simp only [Bool.and_eq_true, Bool.or_eq_true, beq_iff_eq, ← hc] at h
    obtain ⟨-, (((h | h) | h) | h) | h⟩ := h <;> simp [isFormMark, h]
  · split at hc
    · rw [List.mem_singleton.mp hc]
      rfl
    · obtain rfl | ⟨n, hn, rfl⟩ := mem_escapeByte hc
      · rfl
      · exact isFormMark_hexDigit n hn

theorem isFormMark_of_mem_formEscape (s : List Char) : ∀ c ∈ formEscape s, isFormMark c = true := by
  intro c hc
  obtain ⟨b, -, hb⟩ := List.mem_flatMap.mp hc
  exact isFormMark_of_mem_formByte b c hb

/-- A plus sign stands for a space when a component is read. -/
def spaced (s : List Char) : List Char := s.map fun c => if c = '+' then ' ' else c

theorem hexDigit_ne_plus : ∀ n < 16, hexDigit n ≠ '+' := by decide

theorem utf8_ofNat : ∀ n < 128, utf8 [Char.ofNat n] = [UInt8.ofNat n] := by decide

theorem unescape_spaced_formByte (b : UInt8) (s : List Char) :
    unescape (spaced (formByte b) ++ s) = b :: unescape s := by
  have hb : b.toNat < 256 := b.toNat_lt
  simp only [formByte]
  split
  · rename_i h
    simp only [Bool.and_eq_true, decide_eq_true_eq] at h
    have hplus : Char.ofNat b.toNat ≠ '+' := by
      intro he
      simp [he] at h
    have hpercent : Char.ofNat b.toNat ≠ '%' := by
      intro he
      simp [he] at h
    have hself := utf8_ofNat b.toNat h.1
    simp [spaced, hplus, unescape_cons _ s hpercent, hself]
  · split
    · rename_i h
      have hcode := congrArg Char.toNat (beq_iff_eq.mp h)
      rw [toNat_ofNat b.toNat (by omega)] at hcode
      obtain rfl : b = 32 := UInt8.toNat_inj.mp hcode
      rfl
    · have hhigh := hexDigit_ne_plus (b.toNat / 16) (by omega)
      have hlow := hexDigit_ne_plus (b.toNat % 16) (by omega)
      have hsame : spaced (escapeByte b) = escapeByte b := by simp [spaced, escapeByte, hhigh, hlow]
      rw [hsame, unescape_escapeByte]

/-- A component is read as it was before it was written. -/
theorem formUnescape_formEscape (s : List Char) : formUnescape (formEscape s) = s := by
  have hbytes (bytes : List UInt8) : unescape (spaced (bytes.flatMap formByte)) = bytes := by
    induction bytes with
    | nil => rfl
    | cons b bytes ih =>
      rw [List.flatMap_cons, spaced, List.map_append]
      exact (unescape_spaced_formByte b _).trans (congrArg (b :: ·) ih)
  have hread : formUnescape (formEscape s) = utf8Lossy (utf8 s) :=
    congrArg utf8Lossy (hbytes (utf8 s))
  rw [hread, utf8Lossy_utf8]

/-- The name ends at the first equals sign, which is never written in a name. -/
theorem Pair.read_text (p : Pair) : Pair.read p.text = p := by
  have hname : ∀ c ∈ formEscape p.1, (c != '=') = true := by
    intro c hc
    have hmark := isFormMark_of_mem_formEscape p.1 c hc
    simp only [bne_iff_ne, ne_eq]
    rintro rfl
    exact absurd hmark (by decide)
  have htake : p.text.takeWhile (· != '=') = formEscape p.1 := by
    rw [Pair.text, List.takeWhile_append_of_pos hname]
    simp
  have hdrop : p.text.dropWhile (· != '=') = '=' :: formEscape p.2 := by
    rw [Pair.text, List.dropWhile_append_of_pos hname]
    simp
  simp only [Pair.read, htake, hdrop, List.drop_one, List.tail_cons, formUnescape_formEscape]

/-- The characters of pairs as they are written. -/
def isPairMark (c : Char) : Bool := isFormMark c || c == '=' || c == '&'

theorem isFormMark_of_mem_text (p : Pair) (c : Char) (h : c ∈ p.text) :
    isFormMark c = true ∨ c = '=' := by
  simp only [Pair.text, List.mem_append, List.mem_cons] at h
  obtain h | h | h := h
  · exact .inl (isFormMark_of_mem_formEscape p.1 c h)
  · exact .inr h
  · exact .inl (isFormMark_of_mem_formEscape p.2 c h)

theorem amp_not_mem_text (p : Pair) : '&' ∉ p.text := by
  intro h
  obtain h | h := isFormMark_of_mem_text p '&' h <;> exact absurd h (by decide)

/-- The pairs that were written are read. -/
theorem formPairs_formText (pairs : List Pair) : formPairs (formText pairs) = pairs := by
  cases pairs with
  | nil => rfl
  | cons p pairs =>
    have hsplit : splitAll (· == '&') (formText (p :: pairs)) = (p :: pairs).map Pair.text := by
      refine splitAll_join '&' _ (by simp) ?_
      intro part hpart
      obtain ⟨q, -, rfl⟩ := List.mem_map.mp hpart
      exact amp_not_mem_text q
    have hkeep : ((p :: pairs).map Pair.text).filter (fun s => !s.isEmpty) =
        (p :: pairs).map Pair.text := by
      refine List.filter_eq_self.mpr ?_
      intro part hpart
      obtain ⟨q, -, rfl⟩ := List.mem_map.mp hpart
      simp [Pair.text]
    have hread : (p :: pairs).map (Pair.read ∘ Pair.text) = p :: pairs := by
      simp [Pair.read_text, Function.comp_def]
    rw [formPairs, hsplit, hkeep, List.map_map, hread]

theorem isPairMark_of_mem_formText (pairs : List Pair) :
    ∀ c ∈ formText pairs, isPairMark c = true := by
  intro c hc
  obtain hsep | ⟨part, hpart, hc⟩ := mem_join _ _ c hc
  · rw [List.mem_singleton.mp hsep]
    rfl
  · obtain ⟨p, -, rfl⟩ := List.mem_map.mp hpart
    obtain h | h := isFormMark_of_mem_text p c hc <;> simp [isPairMark, h]

end DiagramDesk.Url
