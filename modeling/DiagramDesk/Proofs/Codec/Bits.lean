import DiagramDesk.Codec.Bits

/-!
Bit strings and the bytes that carry them. A number is recovered from its bits,
and whole bytes do not move the byte boundaries ahead of them.
-/
namespace DiagramDesk.Bits

@[simp] theorem length_ofNat (n v : Nat) : (ofNat n v).length = n := by
  induction n generalizing v with
  | zero => rfl
  | succ n ih => simp [ofNat, ih]

/-- A number below the room of its width is recovered from its bits. -/
theorem toNat_ofNat (n v : Nat) (h : v < 1 <<< n) : toNat (ofNat n v) = v := by
  induction n generalizing v with
  | zero =>
    have hv : v = 0 := by simpa using h
    simp [hv, ofNat, toNat]
  | succ n ih =>
    rw [Nat.shiftLeft_succ] at h
    have hd := ih (v / 2) (by omega)
    simp only [ofNat, toNat, hd]
    cases Nat.mod_two_eq_zero_or_one v with
    | inl hz => simp [hz]; omega
    | inr ho => simp [ho]; omega

theorem split?_append (head rest : List Bool) :
    split? head.length (head ++ rest) = some (head, rest) := by
  induction head with
  | nil => rfl
  | cons b head ih => simp [split?, ih]

/-- A number is read back from the head of a bit string, and nothing behind it is touched. -/
theorem read?_append (n v : Nat) (rest : List Bool) (h : v < 1 <<< n) :
    read? n (ofNat n v ++ rest) = some (v, rest) := by
  have hs := split?_append (ofNat n v) rest
  rw [length_ofNat] at hs
  simp [read?, hs, toNat_ofNat n v h]

theorem ofBytes_cons (b : UInt8) (bytes : List UInt8) :
    ofBytes (b :: bytes) = ofNat 8 b.toNat ++ ofBytes bytes := rfl

theorem ofBytes_append (left right : List UInt8) :
    ofBytes (left ++ right) = ofBytes left ++ ofBytes right := by
  simp [ofBytes]

@[simp] theorem length_ofBytes (bytes : List UInt8) :
    (ofBytes bytes).length = 8 * bytes.length := by
  induction bytes with
  | nil => rfl
  | cons b bytes ih =>
    simp only [ofBytes_cons, List.length_append, length_ofNat, ih, List.length_cons]
    omega

/-- Whole bytes behind some bits do not move the byte boundaries ahead of them. -/
theorem align_more {more : List Bool} (hmore : more.length % 8 = 0) (bits : List Bool) :
    align (bits ++ more) = align bits ++ more := by
  have hmod : (bits ++ more).length % 8 = bits.length % 8 := by
    rw [List.length_append]
    omega
  rw [align, align, hmod, List.drop_append_of_le_length (Nat.mod_le _ _)]

end DiagramDesk.Bits
