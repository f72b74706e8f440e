import DiagramDesk.Proofs.Diagram.Tidy

/-!
Layouts. Apart from the one that keeps indentation, every layout walks over the
lines with a state of its own, and a line is placed by its trimmed text and the
state alone. So indenting neither changes content nor reacts to blanks at the
ends of lines or to blank lines.
-/
namespace DiagramDesk

open Text

namespace Layout

theorem blank_replicate (n : Nat) : blank (List.replicate n ' ') = true := by
  rw [blank_iff]
  intro c hc
  rw [List.eq_of_mem_replicate hc]
  decide

theorem trim_indented (level : Nat) (l : List Char) : trim (indented level l) = trim l := by
  rw [indented, trim_append _ _ (blank_replicate _)]

/-- A line that ends in no blank still ends in none behind the blanks of its level. -/
theorem trimEnd_indented (level : Nat) (l : List Char) (h : blank l = false) (ht : trimEnd l = l) :
    trimEnd (indented level l) = indented level l := by
  have hne := ne_nil_of_not_blank l h
  have hlast := getLast_not_blank l ht hne
  have hsplit := List.dropLast_append_getLast hne
  rw [indented, ← hsplit, ← List.append_assoc, trimEnd, dropEndWhile_append_cons _ _ _ hlast,
    dropEndWhile]

/-! ### Walks -/

section Walk

variable {σ : Type} (place : σ → List Char → Nat × σ)

/-- Places every line by its trimmed text and a state; a blank line is made empty and keeps the
state. -/
def walk : σ → List (List Char) → List (List Char)
  | _, [] => []
  | s, raw :: rest =>
    if (trim raw).isEmpty then [] :: walk s rest
    else indented (place s (trim raw)).1 (trim raw) :: walk (place s (trim raw)).2 rest

@[simp] theorem walk_nil (s : σ) : walk place s [] = [] := rfl

theorem walk_cons_blank (s : σ) (l : List Char) (ls : List (List Char)) (h : blank l = true) :
    walk place s (l :: ls) = [] :: walk place s ls := by
  rw [walk, if_pos (List.isEmpty_iff.mpr ((trim_eq_nil_iff l).mpr h))]

theorem walk_cons (s : σ) (l : List Char) (ls : List (List Char)) (h : blank l = false) :
    walk place s (l :: ls) =
      indented (place s (trim l)).1 (trim l) :: walk place (place s (trim l)).2 ls := by
  rw [walk, if_neg]
  rw [List.isEmpty_iff, trim_eq_nil_iff, h]
  decide

theorem blank_indented_trim (level : Nat) (l : List Char) :
    blank (indented level (trim l)) = blank l :=
  blank_congr (by rw [trim_indented, trim_trim])

theorem isEmpty_indented_trim (level : Nat) (l : List Char) (h : blank l = false) :
    (indented level (trim l)).isEmpty = false := by
  rw [isEmpty_eq_blank _ (trimEnd_indented level _ (by rw [blank_trim, h]) (trimEnd_trim l)),
    blank_indented_trim, h]

/-- A walk finds in placed lines what it found in the lines before. -/
theorem walk_walk (s : σ) (ls : List (List Char)) :
    walk place s (walk place s ls) = walk place s ls := by
  induction ls generalizing s with
  | nil => rfl
  | cons l ls ih =>
    cases hb : blank l with
    | true => rw [walk_cons_blank place s l ls hb, walk_cons_blank place s [] _ blank_nil, ih]
    | false =>
      rw [walk_cons place s l ls hb, walk_cons place s _ _ (by rw [blank_indented_trim, hb]),
        trim_indented, trim_trim, ih]

theorem walk_map_trimEnd (s : σ) (ls : List (List Char)) :
    walk place s (ls.map trimEnd) = walk place s ls := by
  induction ls generalizing s with
  | nil => rfl
  | cons l ls ih =>
    have ht : blank (trimEnd l) = blank l := blank_trimEnd l
    rw [List.map_cons]
    cases hb : blank l with
    | true => rw [walk_cons_blank place s _ _ (ht.trans hb), walk_cons_blank place s l ls hb, ih]
    | false =>
      rw [walk_cons place s _ _ (ht.trans hb), walk_cons place s l ls hb, trim_trimEnd, ih]

theorem endTrimmed_walk (s : σ) (ls : List (List Char)) : EndTrimmed (walk place s ls) := by
  induction ls generalizing s with
  | nil => simp [EndTrimmed]
  | cons l ls ih =>
    cases hb : blank l with
    | true =>
      rw [walk_cons_blank place s l ls hb]
      exact List.forall_mem_cons.mpr ⟨rfl, ih s⟩
    | false =>
      rw [walk_cons place s l ls hb]
      refine List.forall_mem_cons.mpr ⟨?_, ih _⟩
      exact trimEnd_indented _ _ (by rw [blank_trim, hb]) (trimEnd_trim l)

theorem walk_collapseEmpty (b : Bool) (s : σ) (ls : List (List Char)) (h : EndTrimmed ls) :
    walk place s (collapseEmpty b ls) = collapseEmpty b (walk place s ls) := by
  induction ls generalizing b s with
  | nil => rfl
  | cons l ls ih =>
    obtain ⟨hl, hls⟩ := List.forall_mem_cons.mp h
    have he := isEmpty_eq_blank l hl
    cases hb : blank l with
    | true =>
      rw [hb] at he
      rw [walk_cons_blank place s l ls hb]
      cases b with
      | true =>
        rw [collapseEmpty_true_cons_empty l ls he, collapseEmpty_true_cons_empty [] _ rfl,
          ih _ _ hls]
      | false =>
        rw [collapseEmpty_false_cons_empty l ls he, collapseEmpty_false_cons_empty [] _ rfl,
          walk_cons_blank place s l _ hb, ih _ _ hls]
    | false =>
      rw [hb] at he
      have hi := isEmpty_indented_trim (place s (trim l)).1 l hb
      rw [collapseEmpty_cons b l ls he, walk_cons place s l _ hb, walk_cons place s l ls hb,
        collapseEmpty_cons b _ _ hi, ih _ _ hls]

theorem walk_eq_nil_iff (s : σ) (ls : List (List Char)) : walk place s ls = [] ↔ ls = [] := by
  cases ls with
  | nil => simp
  | cons l ls =>
    rw [walk]
    split <;> simp

theorem walk_dropEndWhile (s : σ) (ls : List (List Char)) (h : EndTrimmed ls) :
    walk place s (dropEndWhile List.isEmpty ls) = dropEndWhile List.isEmpty (walk place s ls) := by
  induction ls generalizing s with
  | nil => rfl
  | cons l ls ih =>
    obtain ⟨hl, hls⟩ := List.forall_mem_cons.mp h
    have he := isEmpty_eq_blank l hl
    cases hb : blank l with
    | true =>
      rw [hb] at he
      rw [walk_cons_blank place s l ls hb, dropEndWhile, dropEndWhile, ← ih s hls]
      cases hd : dropEndWhile List.isEmpty ls with
      | nil => simp [he]
      | cons r rs =>
        rw [walk_cons_blank place s l _ hb]
        split
        · rename_i hn
          rw [walk_eq_nil_iff] at hn
          contradiction
        · rfl
    | false =>
      rw [hb] at he
      have hi := isEmpty_indented_trim (place s (trim l)).1 l hb
      rw [dropEndWhile_cons_of_not l ls he, walk_cons place s l _ hb, walk_cons place s l ls hb,
        dropEndWhile_cons_of_not _ _ hi, ih _ hls]

/-- Placing tidy lines is tidying placed lines. -/
theorem walk_tidyTail (s : σ) (ls : List (List Char)) :
    walk place s (tidyTail ls) = tidyTail (walk place s ls) := by
  have ht := endTrimmed_map_trimEnd ls
  rw [tidyTail, walk_dropEndWhile place s _ (endTrimmed_collapseEmpty false _ ht),
    walk_collapseEmpty place false s _ ht, walk_map_trimEnd, tidyTail,
    (endTrimmed_walk place s ls).map_trimEnd]

/-- Trimming takes back what a walk does to trimmed lines. -/
theorem map_trim_walk (s : σ) (ls : List (List Char)) :
    (walk place s ls).map trim = ls.map trim := by
  induction ls generalizing s with
  | nil => rfl
  | cons l ls ih =>
    cases hb : blank l with
    | true =>
      rw [walk_cons_blank place s l ls hb, List.map_cons, ih, List.map_cons, trim_nil,
        (trim_eq_nil_iff l).mpr hb]
    | false =>
      rw [walk_cons place s l ls hb, List.map_cons, ih, trim_indented, trim_trim, List.map_cons]

theorem walk_not_mem (c : Char) (hc : c ≠ ' ') (s : σ) (ls : List (List Char))
    (h : ∀ l ∈ ls, c ∉ l) : ∀ l ∈ walk place s ls, c ∉ l := by
  induction ls generalizing s with
  | nil => simp
  | cons l ls ih =>
    obtain ⟨hl, hls⟩ := List.forall_mem_cons.mp h
    cases hb : blank l with
    | true =>
      rw [walk_cons_blank place s l ls hb]
      exact List.forall_mem_cons.mpr ⟨List.not_mem_nil, ih s hls⟩
    | false =>
      rw [walk_cons place s l ls hb]
      refine List.forall_mem_cons.mpr ⟨?_, ih _ hls⟩
      rw [indented, List.mem_append, not_or]
      exact ⟨fun hr => hc (List.eq_of_mem_replicate hr), mt (mem_of_mem_trim l c) hl⟩

end Walk

/-! ### Layouts as walks -/

/-- Where a line stands inside `depth` open blocks, and how many are open behind it. -/
def Blocks.place (g : Blocks) (depth : Nat) (line : List Char) : Nat × Nat :=
  let depth := if g.closes line then depth - 1 else depth
  if g.divides line then (depth, depth) else (depth + 1, if g.opens line then depth + 1 else depth)

/-- Where a line of a class diagram stands, and whether the lines behind it are members. -/
def placeMember (inBody : Bool) (line : List Char) : Nat × Bool :=
  if endsWith line ['{'] then (1, true)
  else if startsWith line ['}'] then (1, false)
  else (if inBody then 2 else 1, inBody)

theorem Blocks.indent_eq_walk (g : Blocks) (depth : Nat) (ls : List (List Char)) :
    g.indent depth ls = walk g.place depth ls := by
  induction ls generalizing depth with
  | nil => rfl
  | cons l ls ih =>
    simp only [Blocks.indent, walk, Blocks.place, ih]
    split
    · rfl
    · cases g.divides (trim l) <;> rfl

theorem indentMembers_eq_walk (inBody : Bool) (ls : List (List Char)) :
    indentMembers inBody ls = walk placeMember inBody ls := by
  induction ls generalizing inBody with
  | nil => rfl
  | cons l ls ih =>
    simp only [indentMembers, walk, placeMember, ih]
    split
    · rfl
    · by_cases hopen : endsWith (trim l) ['{'] = true
      · simp only [if_pos hopen]
      · by_cases hclose : startsWith (trim l) ['}'] = true
        · simp only [if_neg hopen, if_pos hclose]
        · simp only [if_neg hopen, if_neg hclose]

theorem indentFlat_eq_walk (ls : List (List Char)) :
    indentFlat ls = walk (fun (_ : Unit) _ => (1, ())) () ls := by
  induction ls with
  | nil => rfl
  | cons l ls ih =>
    rw [indentFlat, List.map_cons, ← indentFlat, ih, walk]
    split
    · rename_i he
      rw [if_pos he]
    · rename_i he
      rw [if_neg he]

/-- Every layout but the one that keeps indentation walks. -/
theorem indentBody_walks {layout : Layout} (h : layout ≠ .preserve) :
    ∃ (σ : Type) (place : σ → List Char → Nat × σ) (s : σ), layout.indentBody = walk place s := by
  cases layout with
  | preserve => exact absurd rfl h
  | flowchart => exact ⟨Nat, _, 0, funext (Blocks.flowchart.indent_eq_walk 0)⟩
  | sequence => exact ⟨Nat, _, 0, funext (Blocks.sequence.indent_eq_walk 0)⟩
  | classes => exact ⟨Bool, _, false, funext (indentMembers_eq_walk false)⟩
  | state => exact ⟨Nat, _, 0, funext (Blocks.state.indent_eq_walk 0)⟩
  | sectioned => exact ⟨Unit, _, (), funext indentFlat_eq_walk⟩
  | generic => exact ⟨Unit, _, (), funext indentFlat_eq_walk⟩

/-- A layout only trims the ends of lines, or it walks. -/
theorem indentBody_cases (layout : Layout) :
    layout.indentBody = List.map trimEnd ∨
      ∃ (σ : Type) (place : σ → List Char → Nat × σ) (s : σ), layout.indentBody = walk place s := by
  by_cases h : layout = .preserve
  · subst h
    exact Or.inl rfl
  · exact Or.inr (indentBody_walks h)

/-- Indenting twice is indenting once. -/
theorem indentBody_indentBody (layout : Layout) (ls : List (List Char)) :
    layout.indentBody (layout.indentBody ls) = layout.indentBody ls := by
  rcases indentBody_cases layout with h | ⟨σ, place, s, h⟩
  · rw [h, (endTrimmed_map_trimEnd ls).map_trimEnd]
  · rw [h, walk_walk]

theorem indentBody_tidyTail (layout : Layout) (ls : List (List Char)) :
    layout.indentBody (tidyTail ls) = tidyTail (layout.indentBody ls) := by
  rcases indentBody_cases layout with h | ⟨σ, place, s, h⟩
  · rw [h, (endTrimmed_tidyTail ls).map_trimEnd, tidyTail, tidyTail,
      (endTrimmed_map_trimEnd ls).map_trimEnd]
  · rw [h, walk_tidyTail]

/-- Indenting changes the blanks around lines only. -/
theorem map_trim_indentBody (layout : Layout) (ls : List (List Char)) :
    (layout.indentBody ls).map trim = ls.map trim := by
  rcases indentBody_cases layout with h | ⟨σ, place, s, h⟩
  · rw [h, map_trim_map_trimEnd]
  · rw [h, map_trim_walk]

/-- Indenting brings in blanks only. -/
theorem indentBody_not_mem (layout : Layout) (c : Char) (hc : c ≠ ' ') (ls : List (List Char))
    (h : ∀ l ∈ ls, c ∉ l) : ∀ l ∈ layout.indentBody ls, c ∉ l := by
  rcases indentBody_cases layout with he | ⟨σ, place, s, he⟩
  · rw [he]
    intro l hl
    obtain ⟨r, hr, rfl⟩ := List.mem_map.mp hl
    exact mt (mem_of_mem_trimEnd r c) (h r hr)
  · rw [he]
    exact walk_not_mem place c hc s ls h

theorem reindent_not_mem (layout : Layout) (c : Char) (hc : c ≠ ' ') (ls : List (List Char))
    (h : ∀ l ∈ ls, c ∉ l) : ∀ l ∈ layout.reindent ls, c ∉ l := by
  cases ls with
  | nil => exact h
  | cons header body =>
    obtain ⟨hheader, hbody⟩ := List.forall_mem_cons.mp h
    rw [reindent]
    refine List.forall_mem_cons.mpr ⟨mt (mem_of_mem_trim header c) hheader, ?_⟩
    exact indentBody_not_mem layout c hc body hbody

/-- The lines behind the header, once indented and tidied, stay as they are. -/
theorem tidyTail_indentBody (layout : Layout) (ls : List (List Char)) :
    tidyTail (layout.indentBody (tidyTail (layout.indentBody ls))) =
      tidyTail (layout.indentBody ls) := by
  rw [indentBody_tidyTail, indentBody_indentBody, tidyTail_tidyTail]

end Layout

end DiagramDesk
