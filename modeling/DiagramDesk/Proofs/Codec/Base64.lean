import DiagramDesk.Codec.Base64
import DiagramDesk.Proofs.Text.Utf8

/-!
Base64 without padding: what is written consists of symbols of the alphabet and
is read back as the same bytes. Nothing else is read: every byte string has one spelling.
-/
namespace DiagramDesk.Base64

open Text

/-! ### Values -/

theorem sextets_lt (bytes : List UInt8) : ∀ v ∈ sextets bytes, v < 64 := by
  induction bytes using sextets.induct with
  | case1 => simp [sextets]
  | case2 a =>
    have := a.toNat_lt
    simp only [sextets, List.forall_mem_cons]
    exact ⟨by omega, by omega, by simp⟩
  | case3 a b =>
    have := a.toNat_lt
    have := b.toNat_lt
    simp only [sextets, List.forall_mem_cons]
    exact ⟨by omega, by omega, by omega, by simp⟩
  | case4 a b c rest ih =>
    have := a.toNat_lt
    have := b.toNat_lt
    have := c.toNat_lt
    simp only [sextets, List.forall_mem_cons]
    exact ⟨by omega, by omega, by omega, by omega, ih⟩

theorem length_sextets_mod (bytes : List UInt8) : (sextets bytes).length % 4 ≠ 1 := by
  induction bytes using sextets.induct with
  | case1 => decide
  | case2 a => simp [sextets]
  | case3 a b => simp [sextets]
  | case4 a b c rest ih => simp only [sextets, List.length_cons]; omega

theorem ofNat_eq_of_toNat (n : Nat) (b : UInt8) (h : n = b.toNat) : UInt8.ofNat n = b := by
  rw [h, UInt8.ofNat_toNat]

theorem octets_sextets (bytes : List UInt8) : octets (sextets bytes) = bytes := by
  induction bytes using sextets.induct with
  | case1 => rfl
  | case2 a =>
    simp only [sextets, octets]
    rw [ofNat_eq_of_toNat _ a (by omega)]
  | case3 a b =>
    have := b.toNat_lt
    simp only [sextets, octets]
    rw [ofNat_eq_of_toNat _ a (by omega), ofNat_eq_of_toNat _ b (by omega)]
  | case4 a b c rest ih =>
    have := b.toNat_lt
    have := c.toNat_lt
    simp only [sextets, octets, ih]
    rw [ofNat_eq_of_toNat _ a (by omega), ofNat_eq_of_toNat _ b (by omega),
      ofNat_eq_of_toNat _ c (by omega)]

theorem zeroRest_sextets (bytes : List UInt8) : zeroRest (sextets bytes) = true := by
  induction bytes using sextets.induct with
  | case1 => rfl
  | case2 a => simp [sextets, zeroRest]
  | case3 a b => simp [sextets, zeroRest]
  | case4 a b c rest ih => simpa [sextets, zeroRest] using ih

/-! ### Symbols -/

def symbolByte (alphabet : Alphabet) (v : Nat) : UInt8 := (symbol alphabet v).val.toUInt8

theorem utf8EncodeChar_symbol (alphabet : Alphabet) :
    ∀ v < 64, String.utf8EncodeChar (symbol alphabet v) = [symbolByte alphabet v] := by
  cases alphabet <;> decide

theorem value?_symbolByte (alphabet : Alphabet) :
    ∀ v < 64, value? alphabet (symbolByte alphabet v) = some v := by
  cases alphabet <;> decide

theorem filterMap_value? (alphabet : Alphabet) (vs : List Nat) (h : ∀ v ∈ vs, v < 64) :
    (vs.map (symbolByte alphabet)).filterMap (value? alphabet) = vs := by
  induction vs with
  | nil => rfl
  | cons v vs ih =>
    rw [List.forall_mem_cons] at h
    rw [List.map_cons, List.filterMap_cons_some (value?_symbolByte alphabet v h.1), ih h.2]

/-- Symbols take one byte each. -/
theorem utf8_symbols (alphabet : Alphabet) (vs : List Nat) (h : ∀ v ∈ vs, v < 64) :
    utf8 (vs.map (symbol alphabet)) = vs.map (symbolByte alphabet) := by
  induction vs with
  | nil => rfl
  | cons v vs ih =>
    rw [List.forall_mem_cons] at h
    rw [List.map_cons, utf8_cons, utf8EncodeChar_symbol alphabet v h.1, ih h.2]
    rfl

/-- Symbols of the alphabet are refused for their number or for bits left over only. -/
theorem decode_symbols (alphabet : Alphabet) (vs : List Nat) (h : ∀ v ∈ vs, v < 64) :
    decode alphabet (utf8 (vs.map (symbol alphabet))) =
      if vs.length % 4 = 1 then .error (.invalidLength vs.length)
      else if zeroRest vs then .ok (octets vs)
      else .error (.invalidLastSymbol (vs.length - 1)
        ((vs.map (symbolByte alphabet)).getLast?.getD 0)) := by
  have hsome : ∀ b ∈ vs.map (symbolByte alphabet), (value? alphabet b).isNone = false := by
    intro b hb
    obtain ⟨v, hv, rfl⟩ := List.mem_map.mp hb
    simp [value?_symbolByte alphabet v (h v hv)]
  have hfind : (vs.map (symbolByte alphabet)).findIdx? (fun b => (value? alphabet b).isNone) =
      none := List.findIdx?_eq_none_iff.mpr hsome
  have hlast : ¬(vs.length % 4 = 1 ∧
      value? alphabet ((vs.map (symbolByte alphabet)).getLast?.getD 0) = none) := by
    rintro ⟨hone, hnone⟩
    have hne : vs.map (symbolByte alphabet) ≠ [] := by
      intro he
      rw [List.map_eq_nil_iff] at he
      simp [he] at hone
    have hmem := hsome _ (List.getLast_mem hne)
    rw [List.getLast?_eq_some_getLast hne, Option.getD_some] at hnone
    rw [hnone] at hmem
    exact Bool.noConfusion hmem
  rw [utf8_symbols alphabet vs h, decode]
  simp only [List.length_map, hfind, filterMap_value? alphabet vs h]
  rw [if_neg hlast]

/-- What is written is read back. -/
theorem decode_encode (alphabet : Alphabet) (bytes : List UInt8) :
    decode alphabet (utf8 (encode alphabet bytes)) = .ok bytes := by
  rw [encode, decode_symbols alphabet _ (sextets_lt bytes), if_neg (length_sextets_mod bytes),
    if_pos (zeroRest_sextets bytes), octets_sextets]

/-! ### More symbols -/

/-- Symbols behind others only add bytes. -/
theorem octets_isPrefix : ∀ vs ws : List Nat, octets vs <+: octets (vs ++ ws)
  | [], _ | [_], _ => by simp [octets]
  | [_, _], [] | [_, _], [_] | [_, _], _ :: _ :: _ => by simp [octets]
  | [_, _, _], [] | [_, _, _], _ :: _ => by simp [octets]
  | _ :: _ :: _ :: _ :: rest, ws => by simpa [octets] using octets_isPrefix rest ws

theorem length_octets : ∀ vs : List Nat, (octets vs).length = vs.length * 3 / 4
  | [] | [_] | [_, _] | [_, _, _] => by simp [octets]
  | _ :: _ :: _ :: _ :: rest => by
    simp only [octets, List.length_cons, length_octets rest]
    omega

/-- Further symbols add at least one byte unless a symbol stands alone at the end. -/
theorem octets_append (vs ws : List Nat) (hws : ws ≠ []) (hlength : (vs ++ ws).length % 4 ≠ 1) :
    ∃ more, more ≠ [] ∧ octets (vs ++ ws) = octets vs ++ more := by
  obtain ⟨more, hmore⟩ := octets_isPrefix vs ws
  refine ⟨more, ?_, hmore.symm⟩
  rintro rfl
  have hpos : 0 < ws.length := List.length_pos_iff.mpr hws
  have he := congrArg List.length hmore
  rw [List.append_nil, length_octets, length_octets, List.length_append] at he
  rw [List.length_append] at hlength
  have hrest : (vs.length + ws.length) % 4 = 0 ∨ (vs.length + ws.length) % 4 = 2 ∨
      (vs.length + ws.length) % 4 = 3 := by omega
  rcases hrest with hrest | hrest | hrest <;> omega

/-! ### The one spelling -/

/-- A byte with a value is the symbol of that value. -/
theorem symbolByte_of_value? (alphabet : Alphabet) (b : UInt8) (v : Nat)
    (h : value? alphabet b = some v) : v < 64 ∧ symbolByte alphabet v = b := by
  have hall : ∀ n < 256, ∀ v ∈ value? alphabet (UInt8.ofNat n),
      v < 64 ∧ symbolByte alphabet v = UInt8.ofNat n := by
    cases alphabet <;> decide +kernel
  have hb := hall b.toNat b.toNat_lt
  rw [UInt8.ofNat_toNat] at hb
  exact hb v h

/-- Bytes that all have values are symbols. -/
theorem exists_symbolBytes (alphabet : Alphabet) (text : List UInt8)
    (h : ∀ b ∈ text, (value? alphabet b).isNone = false) :
    ∃ vs : List Nat, (∀ v ∈ vs, v < 64) ∧ vs.map (symbolByte alphabet) = text := by
  induction text with
  | nil => exact ⟨[], by simp, rfl⟩
  | cons b text ih =>
    rw [List.forall_mem_cons] at h
    obtain ⟨v, hv⟩ := Option.isSome_iff_exists.mp (by simpa using h.1 : (value? alphabet b).isSome)
    obtain ⟨hlt, rfl⟩ := symbolByte_of_value? alphabet b v hv
    obtain ⟨vs, hvs, rfl⟩ := ih h.2
    exact ⟨v :: vs, List.forall_mem_cons.mpr ⟨hlt, hvs⟩, rfl⟩

/-- Values without leftover bits are spelled by the bytes that they spell. -/
theorem sextets_octets (vs : List Nat) (hlt : ∀ v ∈ vs, v < 64) (hlength : vs.length % 4 ≠ 1)
    (hrest : zeroRest vs = true) : sextets (octets vs) = vs := by
  induction vs using octets.induct with
  | case1 a b c d rest ih =>
    simp only [List.forall_mem_cons] at hlt
    obtain ⟨ha, hb, hc, hd, hlt⟩ := hlt
    have hih := ih hlt (by simpa [Nat.add_assoc] using hlength) hrest
    simp only [octets, sextets, hih, UInt8.toNat_ofNat', List.cons.injEq, and_true]
    omega
  | case2 a b c =>
    simp only [List.forall_mem_cons] at hlt
    simp only [zeroRest, beq_iff_eq] at hrest
    simp only [octets, sextets, UInt8.toNat_ofNat', List.cons.injEq, and_true]
    omega
  | case3 a b =>
    simp only [List.forall_mem_cons] at hlt
    simp only [zeroRest, beq_iff_eq] at hrest
    simp only [octets, sextets, UInt8.toNat_ofNat', List.cons.injEq, and_true]
    omega
  | case4 vs hfour hthree htwo =>
    match vs, hfour, hthree, htwo, hlength with
    | [], _, _, _, _ => rfl
    | [_], _, _, _, hlength => simp at hlength
    | [_, _], _, _, htwo, _ => exact absurd rfl (htwo _ _)
    | [_, _, _], _, hthree, _, _ => exact absurd rfl (hthree _ _ _)
    | _ :: _ :: _ :: _ :: _, hfour, _, _, _ => exact absurd rfl (hfour _ _ _ _ _)

/-- Reading accepts exactly what writing produces. -/
theorem decode_eq_ok_iff (alphabet : Alphabet) (text bytes : List UInt8) :
    decode alphabet text = .ok bytes ↔ text = utf8 (encode alphabet bytes) := by
  constructor
  · intro h
    have hsome : ∀ b ∈ text, (value? alphabet b).isNone = false := by
      rw [← List.findIdx?_eq_none_iff]
      cases hfind : text.findIdx? fun b => (value? alphabet b).isNone with
      | none => rfl
      | some i =>
        simp only [decode, hfind] at h
        split at h <;> cases h
    obtain ⟨vs, hlt, rfl⟩ := exists_symbolBytes alphabet text hsome
    rw [← utf8_symbols alphabet vs hlt, decode_symbols alphabet vs hlt] at h
    split at h
    · cases h
    · rename_i hlength
      split at h
      · rename_i hrest
        rw [Except.ok.injEq] at h
        rw [← h, encode, sextets_octets vs hlt hlength hrest, utf8_symbols alphabet vs hlt]
      · cases h
  · rintro rfl
    exact decode_encode alphabet bytes

end DiagramDesk.Base64
