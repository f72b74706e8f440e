import DiagramDesk.Proofs.Text.Scan
import DiagramDesk.Proofs.Text.Utf8

/-!
Places in a text, counted in bytes. A place that is not past the end is between two characters or
inside one, and never both.
-/
namespace DiagramDesk.Text

/-- So many bytes of a text are whole characters. -/
def Between (s : List Char) (n : Nat) : Prop := ∃ a b, s = a ++ b ∧ (utf8 a).length = n

/-- So many bytes of a text end inside a character. -/
def Inside (s : List Char) (n : Nat) : Prop :=
  ∃ a c b, s = a ++ c :: b ∧ (utf8 a).length < n ∧ n < (utf8 a).length + c.utf8Size

theorem between_or_inside {s : List Char} {n : Nat} (h : n ≤ (utf8 s).length) :
    Between s n ∨ Inside s n := by
  induction s generalizing n with
  | nil => exact .inl ⟨[], [], rfl, (Nat.le_zero.mp h).symm⟩
  | cons c s ih =>
    rw [length_utf8_cons] at h
    by_cases hn : n < c.utf8Size
    · cases n with
      | zero => exact .inl ⟨[], c :: s, rfl, rfl⟩
      | succ n => exact .inr ⟨[], c, s, rfl, Nat.succ_pos n, by simpa [utf8] using hn⟩
    · obtain ⟨m, rfl⟩ := Nat.exists_eq_add_of_le (Nat.le_of_not_lt hn)
      obtain ⟨a, b, rfl, rfl⟩ | ⟨a, d, b, rfl, hlt, hgt⟩ := ih (Nat.le_of_add_le_add_left h)
      · exact .inl ⟨c :: a, b, rfl, length_utf8_cons c a⟩
      · refine .inr ⟨c :: a, d, b, rfl, ?_, ?_⟩ <;> rw [length_utf8_cons] <;> omega

theorem Inside.not_between {s : List Char} {n : Nat} (h : Inside s n) : ¬ Between s n := by
  obtain ⟨a, c, b, rfl, hlt, hgt⟩ := h
  rintro ⟨x, y, hxy, rfl⟩
  obtain ⟨t, rfl, -⟩ | ⟨t, rfl, -⟩ := append_cons_eq_append hxy
  · rw [length_utf8_append, length_utf8_cons] at hgt
    omega
  · rw [length_utf8_append] at hlt
    omega

/-- A place that is held back to the end of a text, ahead of an ending of characters of one byte,
is between characters exactly if it was not inside one: there is no place inside such an ending. -/
theorem between_min_iff {body ending : List Char} (h : ∀ c ∈ ending, c.utf8Size = 1) (n : Nat) :
    Between (body ++ ending) (min n (utf8 body).length) ↔ ¬ Inside (body ++ ending) n := by
  obtain hlt | hle := Nat.lt_or_ge (utf8 body).length n
  · rw [Nat.min_eq_right hlt.le]
    refine iff_of_true ⟨body, ending, rfl, rfl⟩ ?_
    rintro ⟨a, c, b, hs, ha, hac⟩
    obtain ⟨t, rfl, -⟩ | ⟨t, rfl, ht⟩ := append_cons_eq_append hs.symm
    · rw [length_utf8_append, length_utf8_cons] at hlt
      omega
    · have hc := h c (by simp [ht])
      rw [length_utf8_append] at ha hac
      omega
  · have hend : n ≤ (utf8 (body ++ ending)).length := by
      rw [length_utf8_append]
      omega
    rw [Nat.min_eq_left hle]
    exact ⟨fun hb hi => hi.not_between hb, fun hi => (between_or_inside hend).resolve_right hi⟩

end DiagramDesk.Text
