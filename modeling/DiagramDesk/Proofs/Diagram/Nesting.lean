import DiagramDesk.Proofs.Diagram.Layout
import DiagramDesk.Proofs.Text.Character

/-!
Nesting of blocks. A closing line is matched with the last opening line ahead of it that is still
unmatched. The layouts with blocks only count, and never below zero, but the count is the number of
opening lines that are unmatched so far, so lines are placed by the blocks that are open at them.
-/
namespace DiagramDesk.Layout

open Text

/-! ### Keywords -/

/-- A keyword is read off the front of a line, up to the end of a word. -/
theorem opensWithWord_iff (line word : List Char) :
    opensWithWord line word = true ↔
      ∃ front rest, line = front ++ rest ∧ front.map foldCase = word ∧
        ∀ c ∈ rest.head?, isWord c = false := by
  constructor
  · intro h
    rw [opensWithWord, Bool.and_eq_true, beq_iff_eq] at h
    refine ⟨_, _, (List.take_append_drop word.length line).symm, h.1, fun c hc => ?_⟩
    cases hrest : line.drop word.length with
    | nil => simp [hrest] at hc
    | cons d rest =>
      rw [hrest] at h hc
      obtain rfl : d = c := by simpa using hc
      simpa using h.2
  · rintro ⟨front, rest, rfl, rfl, hrest⟩
    rw [opensWithWord, List.length_map, List.take_left, List.drop_left, beq_self_eq_true,
      Bool.true_and]
    cases rest with
    | nil => rfl
    | cons c rest => simpa using hrest c rfl

/-- Small letters only. -/
def IsKeyword (word : List Char) : Prop := ∀ c ∈ word, isSmallLetter c = true

instance (word : List Char) : Decidable (IsKeyword word) :=
  decidable_of_iff (word.all isSmallLetter = true) List.all_eq_true

/-- A line opens with one keyword at most: where the shorter one ends, the longer one goes on
inside a word. -/
theorem keyword_unique {line v w : List Char} (hv : IsKeyword v) (hw : IsKeyword w)
    (hline : opensWithWord line v = true) (hline' : opensWithWord line w = true) : v = w := by
  obtain ⟨front, rest, rfl, rfl, hrest⟩ := (opensWithWord_iff _ _).mp hline
  obtain ⟨front', rest', heq, rfl, hrest'⟩ := (opensWithWord_iff _ _).mp hline'
  have hends {front more rest : List Char} (hkeyword : IsKeyword ((front ++ more).map foldCase))
      (hrest : ∀ c ∈ (more ++ rest).head?, isWord c = false) : more = [] := by
    cases more with
    | nil => rfl
    | cons c more =>
      have hc := isWord_of_foldCase (hkeyword (foldCase c) (by simp))
      rw [hrest c rfl] at hc
      exact absurd hc (by decide)
  obtain ⟨more, rfl, rfl⟩ | ⟨more, rfl, rfl⟩ := List.append_eq_append_iff.mp heq
  · rw [hends hw hrest, List.append_nil]
  · rw [hends hv hrest', List.append_nil]

/-- A line that is the word `end` opens with no other keyword. -/
theorem not_isEnd {line w : List Char} (hw : IsKeyword w) (hne : "end".toList ≠ w)
    (hline : opensWithWord line w = true) : isEnd line = false := by
  rw [Bool.eq_false_iff]
  intro hend
  have hline' : opensWithWord line "end".toList = true :=
    (opensWithWord_iff line _).mpr ⟨line, [], (List.append_nil line).symm,
      by simpa [isEnd] using hend, by simp⟩
  exact hne (keyword_unique (by decide) hw hline' hline)

/-! ### Roles of lines -/

/-- A blank line has no role, and no line has two. -/
structure Blocks.Distinct (g : Blocks) : Prop where
  opens_nil : g.opens [] = false
  closes_nil : g.closes [] = false
  closes_opener : ∀ line, g.opens line = true → g.closes line = false
  opens_divider : ∀ line, g.divides line = true → g.opens line = false
  closes_divider : ∀ line, g.divides line = true → g.closes line = false

theorem distinct_flowchart : Blocks.flowchart.Distinct where
  opens_nil := by decide
  closes_nil := rfl
  closes_opener _ h := not_isEnd (by decide) (by decide) h
  opens_divider _ h := Bool.noConfusion h
  closes_divider _ h := Bool.noConfusion h

theorem distinct_state : Blocks.state.Distinct where
  opens_nil := by decide
  closes_nil := rfl
  closes_opener line h := by
    obtain ⟨hstate, -⟩ := Bool.and_eq_true_iff.mp h
    obtain ⟨front, rest, rfl, hfront, -⟩ := (opensWithWord_iff _ _).mp hstate
    cases front with
    | nil => cases hfront
    | cons c front =>
      have hc : c ≠ '}' := by
        rintro rfl
        have hfirst : some (foldCase '}') = some 's' := congrArg List.head? hfront
        exact absurd hfirst (by decide)
      simp [Blocks.state, startsWith, List.isPrefixOf, hc.symm]
  opens_divider _ h := Bool.noConfusion h
  closes_divider _ h := Bool.noConfusion h

theorem distinct_sequence : Blocks.sequence.Distinct where
  opens_nil := by decide
  closes_nil := rfl
  closes_opener line hopens := by
    obtain ⟨v, hv, hopens⟩ := List.any_eq_true.mp hopens
    have hletters : ∀ v ∈ ["loop", "alt", "opt", "par", "critical", "break", "rect"],
        IsKeyword v.toList ∧ "end".toList ≠ v.toList := by decide
    exact not_isEnd (hletters v hv).1 (hletters v hv).2 hopens
  opens_divider line hdivides := by
    obtain ⟨w, hw, hdivides⟩ := List.any_eq_true.mp hdivides
    rw [Bool.eq_false_iff]
    intro hopens
    obtain ⟨v, hv, hopens⟩ := List.any_eq_true.mp hopens
    have hletters : ∀ v ∈ ["loop", "alt", "opt", "par", "critical", "break", "rect"],
        ∀ w ∈ ["else", "and", "option"],
          IsKeyword v.toList ∧ IsKeyword w.toList ∧ v.toList ≠ w.toList := by decide
    obtain ⟨hkeyword, hkeyword', hne⟩ := hletters v hv w hw
    exact hne (keyword_unique hkeyword hkeyword' hopens hdivides)
  closes_divider line hdivides := by
    obtain ⟨w, hw, hdivides⟩ := List.any_eq_true.mp hdivides
    have hletters : ∀ w ∈ ["else", "and", "option"],
        IsKeyword w.toList ∧ "end".toList ≠ w.toList := by decide
    exact not_isEnd (hletters w hw).1 (hletters w hw).2 hdivides

def blocks? : Layout → Option Blocks
  | flowchart => some .flowchart
  | sequence => some .sequence
  | state => some .state
  | classes | sectioned | preserve | generic => none

theorem indentBody_of_blocks? {layout : Layout} {g : Blocks} (h : layout.blocks? = some g) :
    layout.indentBody = walk g.place 0 ∧ g.Distinct := by
  cases layout <;> cases h
  · exact ⟨funext (Blocks.indent_eq_walk _ 0), distinct_flowchart⟩
  · exact ⟨funext (Blocks.indent_eq_walk _ 0), distinct_sequence⟩
  · exact ⟨funext (Blocks.indent_eq_walk _ 0), distinct_state⟩

/-! ### Walks, place by place -/

section Walk

variable {σ : Type} (place : σ → List Char → Nat × σ)

def stateBehind (s : σ) (ls : List (List Char)) : σ :=
  ls.foldl (fun s line => if blank line then s else (place s (trim line)).2) s

theorem stateBehind_concat (s : σ) (ls : List (List Char)) (line : List Char) :
    stateBehind place s (ls ++ [line]) =
      if blank line then stateBehind place s ls
      else (place (stateBehind place s ls) (trim line)).2 := by
  rw [stateBehind, List.foldl_append]
  rfl

theorem walk_append (s : σ) (ls rs : List (List Char)) :
    walk place s (ls ++ rs) = walk place s ls ++ walk place (stateBehind place s ls) rs := by
  induction ls generalizing s with
  | nil => rfl
  | cons l ls ih =>
    rw [List.cons_append, stateBehind, List.foldl_cons, ← stateBehind]
    cases hb : blank l with
    | true =>
      rw [walk_cons_blank place s l _ hb, walk_cons_blank place s l ls hb, ih, if_pos rfl,
        List.cons_append]
    | false =>
      rw [walk_cons place s l _ hb, walk_cons place s l ls hb, ih, if_neg Bool.false_ne_true,
        List.cons_append]

theorem length_walk (s : σ) (ls : List (List Char)) : (walk place s ls).length = ls.length := by
  induction ls generalizing s with
  | nil => rfl
  | cons l ls ih =>
    rw [walk]
    split <;> rw [List.length_cons, List.length_cons, ih]

theorem walk_getElem? (s : σ) {ls : List (List Char)} {i : Nat} {line : List Char}
    (h : ls[i]? = some line) :
    (walk place s ls)[i]? = some (if blank line then [] else
      indented (place (stateBehind place s (ls.take i)) (trim line)).1 (trim line)) := by
  obtain ⟨hi, -⟩ := List.getElem?_eq_some_iff.mp h
  have hlength : (walk place s (ls.take i)).length = i := by
    rw [length_walk, List.length_take, Nat.min_eq_left (Nat.le_of_lt hi)]
  conv => lhs; rw [← List.take_append_drop i ls, drop_of_getElem? ls i line h]
  rw [walk_append, List.getElem?_append_right (Nat.le_of_eq hlength), hlength, Nat.sub_self]
  cases hb : blank line with
  | true => rw [walk_cons_blank place _ line _ hb, if_pos rfl]; rfl
  | false => rw [walk_cons place _ line _ hb, if_neg Bool.false_ne_true]; rfl

/-- Blank lines have no effect on the lines around them. -/
theorem walk_filter (s : σ) (ls : List (List Char)) :
    walk place s (ls.filter fun l => !blank l) =
      (walk place s ls).filter fun l => !l.isEmpty := by
  induction ls generalizing s with
  | nil => rfl
  | cons l ls ih =>
    cases hb : blank l with
    | true => simp [hb, walk_cons_blank place s l ls hb, ih]
    | false =>
      have hi := isEmpty_indented_trim (place s (trim l)).1 l hb
      rw [List.filter_cons_of_pos (by simp [hb]), walk_cons place s l _ hb,
        walk_cons place s l ls hb, ih, List.filter_cons_of_pos (by simp [hi])]

end Walk

/-! ### Matching -/

namespace Blocks

section Matching

variable (g : Blocks) (ls : List (List Char))

/-- A line without blanks around it; empty if there is none. -/
def lineAt (i : Nat) : List Char := trim (ls[i]?.getD [])

/-- The opening lines ahead of line `k` that are in no pair yet. -/
def unmatched (pairs : List (Nat × Nat)) (k : Nat) : List Nat :=
  (List.range k).filter fun j => g.opens (lineAt ls j) && !pairs.any fun p => p.1 == j

/-- The opening lines that are matched with closing lines among the first lines. Every closing line
is matched with the last opening line ahead of it that is still unmatched, if there is one. -/
def pairs : Nat → List (Nat × Nat)
  | 0 => []
  | k + 1 =>
    if g.closes (lineAt ls k) then
      match (g.unmatched ls (pairs k) k).getLast? with
      | some j => (j, k) :: pairs k
      | none => pairs k
    else pairs k

/-- The opening lines that are matched with closing lines. -/
def matched : List (Nat × Nat) := g.pairs ls ls.length

/-- The blocks that are open at a line, told by their opening lines. A closing line is outside of
its own block, and so is an opening line. -/
def openAt (i : Nat) : List Nat := g.unmatched ls (g.pairs ls (i + 1)) i

/-- The level of a line: one for each block that is open at it, and one more, but one less for a
divider. -/
def level (i : Nat) : Nat :=
  1 + (g.openAt ls i).length - if g.divides (lineAt ls i) then 1 else 0

/-- The blocks that are open ahead of a line. -/
def openAhead (i : Nat) : List Nat := g.unmatched ls (g.pairs ls i) i

end Matching

variable {g : Blocks} {ls : List (List Char)} {i j k n : Nat}

theorem mem_unmatched {ps : List (Nat × Nat)} :
    j ∈ g.unmatched ls ps k ↔ j < k ∧ g.opens (lineAt ls j) = true ∧ ∀ m, (j, m) ∉ ps := by
  simp only [unmatched, List.mem_filter, List.mem_range, Bool.and_eq_true, Bool.not_eq_true',
    List.any_eq_false, beq_iff_eq, Prod.forall]
  refine and_congr_right fun _ => and_congr_right fun _ => ⟨fun h m hm => h j m hm rfl, ?_⟩
  rintro h j' m hm rfl
  exact h m hm

theorem nodup_unmatched (ps : List (Nat × Nat)) : (g.unmatched ls ps k).Nodup :=
  List.nodup_range.filter _

theorem nodup_openAhead : (g.openAhead ls k).Nodup := nodup_unmatched _

theorem nodup_openAt : (g.openAt ls k).Nodup := nodup_unmatched _

theorem pairs_succ (g : Blocks) (ls : List (List Char)) (k : Nat) :
    g.pairs ls (k + 1) =
      if g.closes (lineAt ls k) then
        match (g.openAhead ls k).getLast? with
        | some j => (j, k) :: g.pairs ls k
        | none => g.pairs ls k
      else g.pairs ls k := rfl

/-- What a line adds to the pairs. -/
theorem mem_pairs_succ {p : Nat × Nat} :
    p ∈ g.pairs ls (k + 1) ↔
      (g.closes (lineAt ls k) = true ∧ (g.openAhead ls k).getLast? = some p.1 ∧ p.2 = k) ∨
        p ∈ g.pairs ls k := by
  obtain ⟨j, m⟩ := p
  rw [pairs_succ]
  split
  case isFalse hcloses => simp [hcloses]
  case isTrue hcloses =>
    cases hlast : (g.openAhead ls k).getLast? with
    | none => simp
    | some a => simp [hcloses, eq_comm]

/-- A closing line takes the last of the blocks that are open ahead of it. -/
theorem mem_pairs_iff :
    (j, k) ∈ g.pairs ls n ↔
      k < n ∧ g.closes (lineAt ls k) = true ∧ (g.openAhead ls k).getLast? = some j := by
  induction n with
  | zero => simp [pairs]
  | succ n ih =>
    rw [mem_pairs_succ, ih]
    constructor
    · rintro (⟨hcloses, hlast, rfl⟩ | ⟨hlt, hcloses, hlast⟩)
      · exact ⟨Nat.lt_succ_self _, hcloses, hlast⟩
      · exact ⟨Nat.lt_succ_of_lt hlt, hcloses, hlast⟩
    · rintro ⟨hlt, hcloses, hlast⟩
      obtain hlt | rfl := Nat.lt_succ_iff_lt_or_eq.mp hlt
      · exact .inr ⟨hlt, hcloses, hlast⟩
      · exact .inl ⟨hcloses, hlast, rfl⟩

theorem lt_of_mem_pairs (h : (j, k) ∈ g.pairs ls n) : j < k := by
  obtain ⟨-, -, hlast⟩ := mem_pairs_iff.mp h
  exact (mem_unmatched.mp (List.mem_of_getLast? hlast)).1

/-! ### Blocks that are open -/

theorem unmatched_cons (g : Blocks) (ls : List (List Char)) (p : Nat × Nat) (ps : List (Nat × Nat))
    (k : Nat) : g.unmatched ls (p :: ps) k = (g.unmatched ls ps k).filter (p.1 != ·) := by
  rw [unmatched, unmatched, List.filter_filter]
  refine List.filter_congr fun j _ => ?_
  rw [List.any_cons, Bool.not_or, Bool.and_left_comm, bne]

/-- Without its last element, a list without repetitions is the list without that element. -/
theorem filter_ne_getLast {l : List Nat} {a : Nat} (h : l.Nodup) (hlast : l.getLast? = some a) :
    l.filter (a != ·) = l.dropLast := by
  obtain ⟨front, rfl⟩ := List.getLast?_eq_some_iff.mp hlast
  have hfront : ∀ b ∈ front, (a != b) = true := by
    rintro b hb
    rw [bne_iff_ne]
    rintro rfl
    exact (List.nodup_append.mp h).2.2 a hb a (List.mem_singleton_self a) rfl
  simp [List.filter_eq_self.mpr hfront]

/-- A closing line closes the last of the blocks that are open ahead of it. -/
theorem openAt_eq (g : Blocks) (ls : List (List Char)) (i : Nat) :
    g.openAt ls i =
      if g.closes (lineAt ls i) then (g.openAhead ls i).dropLast else g.openAhead ls i := by
  rw [openAt, pairs_succ]
  split
  case isFalse => rfl
  case isTrue =>
    split
    case h_1 j hlast =>
      rw [unmatched_cons]
      exact filter_ne_getLast (nodup_unmatched _) hlast
    case h_2 hnone =>
      have hnil : g.openAhead ls i = [] := List.getLast?_eq_none_iff.mp hnone
      rw [hnil]
      exact hnil

/-- Behind an opening line one more block is open. -/
theorem openAhead_succ (g : Blocks) (ls : List (List Char)) (i : Nat) :
    g.openAhead ls (i + 1) = g.openAt ls i ++ if g.opens (lineAt ls i) then [i] else [] := by
  have hlater : ((g.pairs ls (i + 1)).any fun p => p.1 == i) = false := by
    rw [List.any_eq_false]
    rintro ⟨j, k⟩ hp
    have hlt := lt_of_mem_pairs hp
    have hle := (mem_pairs_iff.mp hp).1
    simp only [beq_iff_eq]
    omega
  rw [openAhead, unmatched, List.range_succ, List.filter_append, List.filter_cons, hlater, openAt,
    unmatched]
  simp

theorem mem_openAhead_of_mem_openAt (h : j ∈ g.openAt ls i) : j ∈ g.openAhead ls i := by
  rw [openAt_eq] at h
  split at h
  · exact List.dropLast_subset _ h
  · exact h

/-- A block is not open at its own opening line. -/
theorem not_mem_openAt_self (g : Blocks) (ls : List (List Char)) (j : Nat) : j ∉ g.openAt ls j :=
  fun h => Nat.lt_irrefl j (mem_unmatched.mp h).1

/-- A closing line that leaves a block open leaves open what is around the block. -/
theorem openAt_split_of_openAhead
    (hsplit : ∃ inner, g.openAhead ls i = g.openAt ls j ++ j :: inner)
    (h : j ∈ g.openAt ls i) : ∃ inner, g.openAt ls i = g.openAt ls j ++ j :: inner := by
  obtain ⟨inner, hinner⟩ := hsplit
  rw [openAt_eq g ls i] at h ⊢
  split at h
  case isFalse hcloses => exact ⟨inner, by rw [if_neg hcloses, hinner]⟩
  case isTrue hcloses =>
    rw [if_pos hcloses, hinner]
    rw [hinner] at h
    cases inner with
    | nil =>
      rw [List.dropLast_concat] at h
      exact absurd h (not_mem_openAt_self g ls j)
    | cons b inner =>
      exact ⟨(b :: inner).dropLast, by
        rw [List.dropLast_append_cons, List.dropLast_cons_of_ne_nil (List.cons_ne_nil b inner)]⟩

/-- While a block is open, what was open at its opening line is, and all else that is open was
opened inside of it. -/
theorem openAhead_split (h : j ∈ g.openAhead ls k) :
    ∃ inner, g.openAhead ls k = g.openAt ls j ++ j :: inner := by
  induction k with
  | zero => exact absurd h List.not_mem_nil
  | succ k ih =>
    rw [openAhead_succ] at h ⊢
    obtain h | h := List.mem_append.mp h
    · obtain ⟨inner, hinner⟩ :=
        openAt_split_of_openAhead (ih (mem_openAhead_of_mem_openAt h)) h
      exact ⟨_, by rw [hinner, List.append_assoc, List.cons_append]⟩
    · split at h
      case isFalse => exact absurd h List.not_mem_nil
      case isTrue hopens =>
        obtain rfl := List.mem_singleton.mp h
        exact ⟨[], by rw [if_pos hopens]⟩

theorem openAt_split (h : j ∈ g.openAt ls i) :
    ∃ inner, g.openAt ls i = g.openAt ls j ++ j :: inner :=
  openAt_split_of_openAhead (openAhead_split (mem_openAhead_of_mem_openAt h)) h

/-- A block that is the last one open lies directly inside of those open at its opening line. -/
theorem eq_concat_of_getLast? {l front inner : List Nat} (hnodup : l.Nodup)
    (hsplit : l = front ++ j :: inner) (hlast : l.getLast? = some j) : l = front ++ [j] := by
  subst hsplit
  cases inner with
  | nil => rfl
  | cons b inner =>
    have hmem : j ∈ b :: inner := by
      rw [List.getLast?_append, List.getLast?_cons_cons] at hlast
      exact List.mem_of_getLast? (by simpa using hlast)
    exact absurd hmem (List.nodup_cons.mp (List.nodup_append.mp hnodup).2.1).1

/-- At both ends of a block the same blocks are open. -/
theorem openAt_eq_of_mem_pairs (h : (j, k) ∈ g.pairs ls n) : g.openAt ls k = g.openAt ls j := by
  obtain ⟨-, hcloses, hlast⟩ := mem_pairs_iff.mp h
  obtain ⟨inner, hinner⟩ := openAhead_split (List.mem_of_getLast? hlast)
  have hconcat := eq_concat_of_getLast? nodup_openAhead hinner hlast
  rw [openAt_eq, if_pos hcloses, hconcat, List.dropLast_concat]

/-- A block is open between its ends. -/
theorem mem_openAt_of_between (h : (j, k) ∈ g.pairs ls n) (hj : j < i) (hk : i < k) :
    j ∈ g.openAt ls i := by
  obtain ⟨-, -, hlast⟩ := mem_pairs_iff.mp h
  obtain ⟨-, hopens, hfree⟩ := mem_unmatched.mp (List.mem_of_getLast? hlast)
  refine mem_unmatched.mpr ⟨hj, hopens, fun m hm => hfree m ?_⟩
  obtain ⟨hlt, hcloses, hlast'⟩ := mem_pairs_iff.mp hm
  exact mem_pairs_iff.mpr ⟨by omega, hcloses, hlast'⟩

/-! ### Levels -/

/-- A line is placed on its level, and one block more counts behind a line that opens one. -/
theorem place_openAhead (hg : g.Distinct) (ls : List (List Char)) (i : Nat) :
    g.place (g.openAhead ls i).length (lineAt ls i) =
      (g.level ls i, (g.openAhead ls (i + 1)).length) := by
  have hdepth : (if g.closes (lineAt ls i) then (g.openAhead ls i).length - 1
      else (g.openAhead ls i).length) = (g.openAt ls i).length := by
    rw [openAt_eq]
    split
    · exact List.length_dropLast.symm
    · rfl
  rw [place, hdepth, level, openAhead_succ, List.length_append]
  cases hdivides : g.divides (lineAt ls i) with
  | true => simp [hg.opens_divider _ hdivides]
  | false => cases g.opens (lineAt ls i) <;> simp [Nat.add_comm]

theorem openAhead_succ_of_blank (hg : g.Distinct) (h : lineAt ls i = []) :
    g.openAhead ls (i + 1) = g.openAhead ls i := by
  simp [openAhead_succ, openAt_eq, h, hg.opens_nil, hg.closes_nil]

theorem lineAt_of_getElem? {line : List Char} (h : ls[i]? = some line) :
    lineAt ls i = trim line := by
  rw [lineAt, h, Option.getD_some]

/-- Behind some lines, as many blocks count as are open. -/
theorem stateBehind_eq (hg : g.Distinct) (hi : i ≤ ls.length) :
    stateBehind g.place 0 (ls.take i) = (g.openAhead ls i).length := by
  induction i with
  | zero => rfl
  | succ i ih =>
    have hline : ls[i]? = some ls[i] := List.getElem?_eq_getElem hi
    rw [List.take_add_one, hline, Option.toList_some, stateBehind_concat,
      ih (Nat.le_of_succ_le hi), ← lineAt_of_getElem? hline]
    cases hb : blank ls[i] with
    | true =>
      rw [if_pos rfl, openAhead_succ_of_blank hg]
      rw [lineAt_of_getElem? hline, trim_eq_nil_iff, hb]
    | false => rw [if_neg Bool.false_ne_true, place_openAhead hg]

theorem level_of_not_divider (h : g.divides (lineAt ls i) = false) :
    g.level ls i = 1 + (g.openAt ls i).length := by
  rw [level, h]
  rfl

theorem level_of_divider (h : g.divides (lineAt ls i) = true) :
    g.level ls i = (g.openAt ls i).length := by
  rw [level, h, if_pos rfl, Nat.add_sub_cancel_left]

/-- A line that opens a block is no divider. -/
theorem level_of_mem_openAhead (hg : g.Distinct) (h : j ∈ g.openAhead ls k) :
    g.level ls j = 1 + (g.openAt ls j).length := by
  refine level_of_not_divider ?_
  rw [Bool.eq_false_iff]
  intro hdivides
  obtain ⟨-, hopens, -⟩ := mem_unmatched.mp h
  rw [hg.opens_divider _ hdivides] at hopens
  exact Bool.noConfusion hopens

/-- The ends of a block are on one level. -/
theorem level_of_mem_pairs (hg : g.Distinct) (h : (j, k) ∈ g.pairs ls n) :
    g.level ls k = g.level ls j := by
  obtain ⟨-, hcloses, hlast⟩ := mem_pairs_iff.mp h
  have hdivides : g.divides (lineAt ls k) = false := by
    rw [Bool.eq_false_iff]
    intro hdivides
    rw [hg.closes_divider _ hdivides] at hcloses
    exact Bool.noConfusion hcloses
  rw [level_of_not_divider hdivides, openAt_eq_of_mem_pairs h,
    level_of_mem_openAhead hg (List.mem_of_getLast? hlast)]

/-- A divider directly inside of a block is on the level of the block. -/
theorem level_of_divides (hg : g.Distinct) (hdivides : g.divides (lineAt ls i) = true)
    (hlast : (g.openAt ls i).getLast? = some j) : g.level ls i = g.level ls j := by
  have hopen := List.mem_of_getLast? hlast
  obtain ⟨inner, hinner⟩ := openAt_split hopen
  have hconcat := eq_concat_of_getLast? nodup_openAt hinner hlast
  rw [level_of_divider hdivides, level_of_mem_openAhead hg (mem_openAhead_of_mem_openAt hopen),
    hconcat, List.length_append, List.length_singleton, Nat.add_comm]

/-- All else inside of a block is on a deeper level. -/
theorem level_lt (hg : g.Distinct) (hopen : j ∈ g.openAt ls i)
    (hinside : ¬(g.divides (lineAt ls i) = true ∧ (g.openAt ls i).getLast? = some j)) :
    g.level ls j < g.level ls i := by
  obtain ⟨inner, hinner⟩ := openAt_split hopen
  have hlength := congrArg List.length hinner
  rw [List.length_append, List.length_cons] at hlength
  rw [level_of_mem_openAhead hg (mem_openAhead_of_mem_openAt hopen)]
  cases hdivides : g.divides (lineAt ls i) with
  | false =>
    rw [level_of_not_divider hdivides]
    omega
  | true =>
    -- The divider belongs to a block further inside.
    have hne : inner ≠ [] := by
      rintro rfl
      exact hinside ⟨hdivides, by rw [hinner, List.getLast?_concat]⟩
    have hpos := List.length_pos_iff.mpr hne
    rw [level_of_divider hdivides]
    omega

/-! ### Closing lines that close nothing -/

/-- Ahead of a closing line without a match no block is open. -/
theorem openAhead_eq_nil (hcloses : g.closes (lineAt ls k) = true) (hk : k < n)
    (hfree : ∀ j, (j, k) ∉ g.pairs ls n) : g.openAhead ls k = [] := by
  rw [← List.getLast?_eq_none_iff, Option.eq_none_iff_forall_ne_some]
  intro j hlast
  exact hfree j (mem_pairs_iff.mpr ⟨hk, hcloses, hlast⟩)

/-- A closing line without a match does not shift the lines behind it. -/
theorem drop_walk_of_unmatched (hg : g.Distinct) {before after : List (List Char)}
    {line : List Char} (hcloses : g.closes (trim line) = true)
    (hfree : ∀ j, (j, before.length) ∉ g.matched (before ++ line :: after)) :
    (walk g.place 0 (before ++ line :: after)).drop (before.length + 1) =
      (walk g.place 0 (before ++ after)).drop before.length := by
  have hline : (before ++ line :: after)[before.length]? = some line := by simp
  have hlt : before.length < (before ++ line :: after).length := by simp
  have hstart : stateBehind g.place 0 before = 0 := by
    have hstate := stateBehind_eq hg (Nat.le_of_lt hlt)
    rwa [List.take_left, openAhead_eq_nil (by rwa [lineAt_of_getElem? hline]) hlt hfree] at hstate
  have hb : blank line = false := by
    rw [Bool.eq_false_iff]
    intro hb
    rw [(trim_eq_nil_iff line).mpr hb, hg.closes_nil] at hcloses
    exact Bool.noConfusion hcloses
  have hplace : (g.place 0 (trim line)).2 = 0 := by
    have hopens : g.opens (trim line) = false := by
      rw [Bool.eq_false_iff]
      intro hopens
      rw [hg.closes_opener _ hopens] at hcloses
      exact Bool.noConfusion hcloses
    cases hdivides : g.divides (trim line) <;> simp [place, hcloses, hopens, hdivides]
  have hlength : (walk g.place 0 before).length = before.length := length_walk g.place 0 before
  rw [walk_append, walk_append, hstart, walk_cons g.place 0 line after hb, hplace, ← hlength,
    List.drop_left, ← List.drop_drop, List.drop_left, List.drop_one, List.tail_cons]

end Blocks

/-- Under a layout with blocks, a line that is not blank stands behind four spaces for each block
that is open at it and four more, but a divider stands four spaces further out; blocks are what the
matching of opening and closing lines makes them. So the ends of a block are aligned, dividers
directly inside of it are aligned with them, and all else inside is deeper; a closing line without a
match does not shift the lines behind it, and a blank line does not shift any. -/
theorem reindent_by_blocks (layout : Layout) (g : Blocks) (h : layout.blocks? = some g)
    (header : List Char) (body : List (List Char)) :
    (∀ i line, body[i]? = some line →
      (layout.reindent (header :: body))[i + 1]? =
        some (if blank line then [] else
          List.replicate (4 * g.level body i) ' ' ++ trim line)) ∧
    (∀ j k, (j, k) ∈ g.matched body →
      g.level body k = g.level body j ∧
      ∀ i, j < i → i < k →
        if g.divides (Blocks.lineAt body i) = true ∧ (g.openAt body i).getLast? = some j then
          g.level body i = g.level body j
        else g.level body j < g.level body i) ∧
    (∀ i j, g.divides (Blocks.lineAt body i) = true → (g.openAt body i).getLast? = some j →
      g.level body i = g.level body j) ∧
    (∀ before line after, body = before ++ line :: after → g.closes (trim line) = true →
      (∀ j, (j, before.length) ∉ g.matched body) →
      (layout.reindent (header :: body)).drop (before.length + 2) =
        (layout.reindent (header :: (before ++ after))).drop (before.length + 1)) ∧
    layout.reindent (header :: body.filter fun l => !blank l) =
      trim header :: (layout.reindent (header :: body)).tail.filter fun l => !l.isEmpty := by
  obtain ⟨hwalk, hg⟩ := indentBody_of_blocks? h
  have hreindent (ls : List (List Char)) :
      layout.reindent (header :: ls) = trim header :: walk g.place 0 ls := by
    rw [reindent, hwalk]
  refine ⟨?_, ?_, ?_, ?_, ?_⟩
  · intro i line hline
    obtain ⟨hi, -⟩ := List.getElem?_eq_some_iff.mp hline
    rw [hreindent, List.getElem?_cons_succ, walk_getElem? g.place 0 hline,
      Blocks.stateBehind_eq hg (Nat.le_of_lt hi), ← Blocks.lineAt_of_getElem? hline,
      Blocks.place_openAhead hg]
    rfl
  · intro j k hpair
    refine ⟨Blocks.level_of_mem_pairs hg hpair, fun i hj hk => ?_⟩
    split
    case isTrue hdivider => exact Blocks.level_of_divides hg hdivider.1 hdivider.2
    case isFalse hinside =>
      exact Blocks.level_lt hg (Blocks.mem_openAt_of_between hpair hj hk) hinside
  · exact fun i j => Blocks.level_of_divides hg
  · rintro before line after rfl hcloses hfree
    rw [hreindent, hreindent, List.drop_succ_cons, List.drop_succ_cons]
    exact Blocks.drop_walk_of_unmatched hg hcloses hfree
  · rw [hreindent, hreindent, List.tail_cons, walk_filter]

/-- A fragment inside a fragment, each with a divider, behind an end too many. -/
def fragments : List (List Char) :=
  ["end", "alt ok", " ", "A->>B: x", "else no", "  opt y", "and z", "B->>A: w", "END", "end"].map
    String.toList

theorem fragments_nested :
    Layout.sequence.blocks? = some .sequence ∧
    Blocks.sequence.matched fragments = [(1, 9), (5, 8)] ∧
    (Layout.sequence.reindent ("sequenceDiagram".toList :: fragments))[7]? =
      some "        and z".toList ∧
    Blocks.sequence.level fragments 9 = Blocks.sequence.level fragments 1 ∧
    Blocks.sequence.level fragments 1 < Blocks.sequence.level fragments 5 ∧
    Blocks.sequence.level fragments 4 = Blocks.sequence.level fragments 1 := by
  obtain ⟨hplaced, hblock, hdivider, -⟩ :=
    reindent_by_blocks .sequence .sequence rfl "sequenceDiagram".toList fragments
  have hmatched : Blocks.sequence.matched fragments = [(1, 9), (5, 8)] := by decide
  obtain ⟨hends, hinside⟩ := hblock 1 9 (by rw [hmatched]; decide)
  refine ⟨rfl, hmatched, ?_, hends, ?_, hdivider 4 1 (by decide) (by decide)⟩
  · rw [hplaced 6 "and z".toList rfl]
    decide
  · have hopt := hinside 5 (by decide) (by decide)
    rwa [if_neg (by decide)] at hopt

end DiagramDesk.Layout
