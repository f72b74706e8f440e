import Mathlib.Data.List.TakeWhile
import DiagramDesk.Text.Utf8

/-!
Text and its bytes: reading bytes as text inverts writing them, and exactly the
bytes of some text can be read. The reading that puts up with broken bytes finds
none among them.
-/
namespace DiagramDesk.Text

theorem utf8_cons (c : Char) (s : List Char) :
    utf8 (c :: s) = String.utf8EncodeChar c ++ utf8 s := rfl

theorem length_utf8_cons (c : Char) (s : List Char) :
    (utf8 (c :: s)).length = c.utf8Size + (utf8 s).length := by
  rw [utf8_cons, List.length_append, String.length_utf8EncodeChar]

theorem length_utf8_append (s t : List Char) :
    (utf8 (s ++ t)).length = (utf8 s).length + (utf8 t).length := by
  rw [utf8, List.flatMap_append, List.length_append]
  rfl

theorem length_utf8 (s : List Char) : (utf8 s).length = byteWidth s := by
  induction s with
  | nil => rfl
  | cons c s ih => rw [length_utf8_cons, ih]; rfl

theorem toByteArray_utf8 (s : List Char) : (utf8 s).toByteArray = s.utf8Encode := rfl

theorem byteArray_mk (bytes : List UInt8) : (⟨bytes.toArray⟩ : ByteArray) = bytes.toByteArray :=
  ByteArray.ext List.data_toByteArray.symm

/-- Bytes can be read as text exactly if they are the bytes of some text. -/
theorem ofUtf8?_eq_some_iff (bytes : List UInt8) (s : String) :
    ofUtf8? bytes = some s ↔ bytes = utf8 s.toList := by
  simp only [ofUtf8?, String.fromUTF8?, byteArray_mk]
  constructor
  · intro h
    by_cases hv : bytes.toByteArray.IsValidUTF8
    · rw [dif_pos hv, Option.some.injEq] at h
      have hb : s.toByteArray = bytes.toByteArray := by rw [← h]; rfl
      rw [← String.utf8Encode_toList, ← toByteArray_utf8] at hb
      exact (List.toByteArray_inj.mp hb).symm
    · simp [hv] at h
  · intro h
    have hb : bytes.toByteArray = s.toByteArray := by
      rw [h, toByteArray_utf8, String.utf8Encode_toList]
    have hv : bytes.toByteArray.IsValidUTF8 := ⟨s.toList, by rw [hb, String.utf8Encode_toList]⟩
    rw [dif_pos hv, Option.some.injEq]
    exact String.toByteArray_inj.mp hb

@[simp] theorem ofUtf8?_utf8 (s : String) : ofUtf8? (utf8 s.toList) = some s :=
  (ofUtf8?_eq_some_iff _ s).mpr rfl

theorem utf8_injective {s t : List Char} (h : utf8 s = utf8 t) : s = t := by
  have hs : ofUtf8? (utf8 s) = some (String.ofList s) := by
    rw [ofUtf8?_eq_some_iff, String.toList_ofList]
  have ht : ofUtf8? (utf8 t) = some (String.ofList t) := by
    rw [ofUtf8?_eq_some_iff, String.toList_ofList]
  rw [h, ht, Option.some.injEq] at hs
  exact (String.ofList_injective hs).symm

/-- A character of one byte does not matter to what follows it. -/
theorem ofUtf8?_isNone_cons (c : Char) (bytes : List UInt8) (h : c.utf8Size = 1) :
    (ofUtf8? (c.val.toUInt8 :: bytes)).isNone = (ofUtf8? bytes).isNone := by
  have hc : (c.val.toUInt8 :: bytes).toByteArray = [c].utf8Encode ++ bytes.toByteArray := by
    rw [List.utf8Encode_singleton, String.utf8EncodeChar_eq_singleton h, ← List.toByteArray_append]
    rfl
  have hv := ByteArray.isValidUTF8_utf8Encode_singleton_append_iff (b := bytes.toByteArray) (c := c)
  simp only [ofUtf8?, String.fromUTF8?, byteArray_mk, hc]
  by_cases hb : bytes.toByteArray.IsValidUTF8
  · simp [hb, hv.mpr hb]
  · simp [hb, mt hv.mp hb]

/-- No text starts with a byte that only continues a sequence. -/
theorem ofUtf8?_continuation (b : UInt8) (bytes : List UInt8) (h : ¬ b.IsUTF8FirstByte) :
    ofUtf8? (b :: bytes) = none := by
  simp only [ofUtf8?, String.fromUTF8?, byteArray_mk]
  rw [dif_neg]
  intro hv
  have hb := hv.isUTF8FirstByte_getElem_zero (by simp)
  rw [List.getElem_toByteArray] at hb
  exact h hb

/-! ### Bytes that may be broken -/

theorem isContinuation_ofNat : ∀ n < 64, isContinuation (UInt8.ofNat (n + 128)) = true := by decide

theorem sequenceShape_one : ∀ n < 128, sequenceShape (UInt8.ofNat n) = some (0, 0, 0) := by decide

theorem sequenceShape_two :
    ∀ n < 32, 2 ≤ n → sequenceShape (UInt8.ofNat (n + 192)) = some (1, 0x80, 0xBF) := by decide

theorem sequenceShape_three :
    ∀ n < 16, sequenceShape (UInt8.ofNat (n + 224)) =
      some (2, if n = 0 then 0xA0 else 0x80, if n = 13 then 0x9F else 0xBF) := by decide

theorem sequenceShape_four :
    ∀ n < 5, sequenceShape (UInt8.ofNat (n + 240)) =
      some (3, if n = 0 then 0x90 else 0x80, if n = 4 then 0x8F else 0xBF) := by decide

/-- A sequence is whole if its second byte is in range and the others continue it. -/
theorem sequenceFault_eq_none {b c lo hi : UInt8} {more : List UInt8} (rest : List UInt8)
    (hshape : sequenceShape b = some (more.length + 1, lo, hi)) (hlo : lo ≤ c) (hhi : c ≤ hi)
    (hmore : more.all isContinuation = true) :
    sequenceFault b (c :: more ++ rest) = none := by
  have hgood : more.takeWhile isContinuation = more :=
    List.takeWhile_eq_self_iff.mpr (List.all_eq_true.mp hmore)
  simp [sequenceFault, hshape, hlo, hhi, hgood]

theorem ofNat_le_ofNat {m n : Nat} (h : m ≤ n) (hn : n < 256) : UInt8.ofNat m ≤ UInt8.ofNat n := by
  rw [UInt8.le_iff_toNat_le, UInt8.toNat_ofNat', UInt8.toNat_ofNat']
  omega

/-- The bytes of a character are a whole sequence. -/
theorem sequenceFault_utf8EncodeChar (c : Char) (rest : List UInt8) :
    ∃ b tail, String.utf8EncodeChar c = b :: tail ∧ sequenceFault b (tail ++ rest) = none ∧
      (sequenceShape b).map (·.1) = some tail.length := by
  have hvalid : c.val.toNat < 55296 ∨ 57343 < c.val.toNat ∧ c.val.toNat < 1114112 := c.valid
  unfold String.utf8EncodeChar
  generalize c.val.toNat = v at hvalid
  by_cases h₁ : v ≤ 127
  · have hshape := sequenceShape_one v (by omega)
    simp only [h₁, if_true]
    exact ⟨_, _, rfl, by simp only [sequenceFault, hshape], by rw [hshape]; rfl⟩
  by_cases h₂ : v ≤ 2047
  · have hshape := sequenceShape_two (v / 64 % 32) (by omega) (by omega)
    simp only [h₁, h₂, if_true, if_false]
    refine ⟨_, _, rfl, sequenceFault_eq_none rest hshape ?_ ?_ rfl, by rw [hshape]; rfl⟩
    · exact ofNat_le_ofNat (m := 0x80) (by omega) (by omega)
    · exact ofNat_le_ofNat (n := 0xBF) (by omega) (by omega)
  by_cases h₃ : v ≤ 65535
  · have hshape := sequenceShape_three (v / 4096 % 16) (by omega)
    have hlast := isContinuation_ofNat (v % 64) (by omega)
    simp only [h₁, h₂, h₃, if_true, if_false]
    refine ⟨_, _, rfl, sequenceFault_eq_none rest hshape ?_ ?_ ?_, by rw [hshape]; rfl⟩
    · split
      · exact ofNat_le_ofNat (m := 0xA0) (by omega) (by omega)
      · exact ofNat_le_ofNat (m := 0x80) (by omega) (by omega)
    · split
      · exact ofNat_le_ofNat (n := 0x9F) (by omega) (by omega)
      · exact ofNat_le_ofNat (n := 0xBF) (by omega) (by omega)
    · simp only [List.all_cons, hlast, List.all_nil, Bool.and_self]
  · have hshape := sequenceShape_four (v / 262144 % 8) (by omega)
    have hthird := isContinuation_ofNat (v / 64 % 64) (by omega)
    have hlast := isContinuation_ofNat (v % 64) (by omega)
    simp only [h₁, h₂, h₃, if_false]
    refine ⟨_, _, rfl, sequenceFault_eq_none rest hshape ?_ ?_ ?_, by rw [hshape]; rfl⟩
    · split
      · exact ofNat_le_ofNat (m := 0x90) (by omega) (by omega)
      · exact ofNat_le_ofNat (m := 0x80) (by omega) (by omega)
    · split
      · exact ofNat_le_ofNat (n := 0x8F) (by omega) (by omega)
      · exact ofNat_le_ofNat (n := 0xBF) (by omega) (by omega)
    · simp only [List.all_cons, hthird, hlast, List.all_nil, Bool.and_self]

/-- No character of a text is lost when its bytes are read. -/
theorem utf8Lossy_utf8 (s : List Char) : utf8Lossy (utf8 s) = s := by
  induction s with
  | nil => rw [utf8, List.flatMap_nil, utf8Lossy]
  | cons c s ih =>
    obtain ⟨b, tail, hc, hfault, hlength⟩ := sequenceFault_utf8EncodeChar c (utf8 s)
    have hread : ofUtf8? (b :: tail) = some (String.ofList [c]) := by
      rw [ofUtf8?_eq_some_iff, String.toList_ofList, ← hc]
      exact (List.append_nil _).symm
    rw [utf8_cons, hc, List.cons_append, utf8Lossy]
    simp [hfault, hlength, hread, ih]

end DiagramDesk.Text
