import DiagramDesk.Diagram.Kind
import DiagramDesk.Proofs.Text.Trim

/-!
The content of a source: its lines that are not blank, without the blanks around
them. Front matter, header and kind depend on the content only. A place among
the lines is told by its rank, the number of content lines ahead of it.
-/
namespace DiagramDesk

open Text

/-- The lines that are not blank, each without blanks around it. -/
def contentLines (ls : List (List Char)) : List (List Char) :=
  (ls.filter fun l => !blank l).map trim

theorem contentLines_cons_blank (l : List Char) (ls : List (List Char)) (h : blank l = true) :
    contentLines (l :: ls) = contentLines ls := by
  simp [contentLines, h]

theorem contentLines_cons (l : List Char) (ls : List (List Char)) (h : blank l = false) :
    contentLines (l :: ls) = trim l :: contentLines ls := by
  simp [contentLines, h]

theorem contentLines_append (ls rs : List (List Char)) :
    contentLines (ls ++ rs) = contentLines ls ++ contentLines rs := by
  simp [contentLines]

theorem blank_trim (l : List Char) : blank (trim l) = blank l := by
  rw [Bool.eq_iff_iff, ← trim_eq_nil_iff, trim_trim, trim_eq_nil_iff]

/-- Lines that hold the same are blank or not alike. -/
theorem blank_congr {l r : List Char} (h : trim l = trim r) : blank l = blank r := by
  rw [← blank_trim, h, blank_trim]

theorem contentLines_eq_nil_iff (ls : List (List Char)) :
    contentLines ls = [] ↔ ∀ l ∈ ls, blank l = true := by
  simp [contentLines]

theorem isEmpty_trim (l : List Char) : (trim l).isEmpty = blank l := by
  rw [Bool.eq_iff_iff, List.isEmpty_iff, trim_eq_nil_iff]

theorem contentLines_eq_filter (ls : List (List Char)) :
    contentLines ls = (ls.map trim).filter fun l => !l.isEmpty := by
  simp only [contentLines, List.filter_map, Function.comp_def, isEmpty_trim]

/-- The content of lines that differ in the blanks around them is the same. -/
theorem contentLines_congr {ls rs : List (List Char)} (h : ls.map trim = rs.map trim) :
    contentLines ls = contentLines rs := by
  rw [contentLines_eq_filter, contentLines_eq_filter, h]

/-! ### Ranks -/

/-- How many lines ahead of a place are not blank. -/
def rank (ls : List (List Char)) (i : Nat) : Nat := (contentLines (ls.take i)).length

@[simp] theorem rank_zero (ls : List (List Char)) : rank ls 0 = 0 := rfl

theorem rank_cons_blank (l : List Char) (ls : List (List Char)) (i : Nat) (h : blank l = true) :
    rank (l :: ls) (i + 1) = rank ls i := by
  rw [rank, List.take_succ_cons, contentLines_cons_blank l _ h, rank]

theorem rank_cons (l : List Char) (ls : List (List Char)) (i : Nat) (h : blank l = false) :
    rank (l :: ls) (i + 1) = rank ls i + 1 := by
  rw [rank, List.take_succ_cons, contentLines_cons l _ h, rank, List.length_cons]

theorem rank_add (ls : List (List Char)) (i j : Nat) :
    rank ls (i + j) = rank ls i + rank (ls.drop i) j := by
  rw [rank, List.take_add, contentLines_append, List.length_append, rank, rank]

theorem contentLines_drop (ls : List (List Char)) (i : Nat) :
    contentLines (ls.drop i) = (contentLines ls).drop (rank ls i) := by
  have h : contentLines ls = contentLines (ls.take i) ++ contentLines (ls.drop i) := by
    rw [← contentLines_append, List.take_append_drop]
  rw [h, rank, List.drop_left]

theorem drop_of_getElem? (ls : List (List Char)) (i : Nat) (l : List Char) (hl : ls[i]? = some l) :
    ls.drop i = l :: ls.drop (i + 1) := by
  obtain ⟨hi, he⟩ := List.getElem?_eq_some_iff.mp hl
  rw [List.drop_eq_getElem_cons hi, he]

theorem rank_succ (ls : List (List Char)) (i : Nat) (l : List Char) (hl : ls[i]? = some l)
    (hb : blank l = false) : rank ls (i + 1) = rank ls i + 1 := by
  rw [rank_add, drop_of_getElem? ls i l hl, rank_cons l _ 0 hb, rank_zero]

theorem getElem?_rank (ls : List (List Char)) (i : Nat) (l : List Char) (hl : ls[i]? = some l)
    (hb : blank l = false) : (contentLines ls)[rank ls i]? = some (trim l) := by
  have hc := contentLines_drop ls i
  rw [drop_of_getElem? ls i l hl, contentLines_cons l _ hb] at hc
  have h0 := congrArg (fun rs => rs[0]?) hc
  simpa using h0.symm

/-- Lines that are not blank are told apart by their ranks. -/
theorem rank_injective (ls : List (List Char)) (i j : Nat) (l r : List Char)
    (hl : ls[i]? = some l) (hlb : blank l = false) (hr : ls[j]? = some r) (hrb : blank r = false)
    (h : rank ls i = rank ls j) : i = j := by
  have hlt : ∀ {i j : Nat} {l : List Char}, ls[i]? = some l → blank l = false → i < j →
      rank ls i < rank ls j := by
    intro i j l hl hb hij
    have hs := rank_succ ls i l hl hb
    have ha := rank_add ls (i + 1) (j - (i + 1))
    rw [show i + 1 + (j - (i + 1)) = j by omega] at ha
    omega
  rcases Nat.lt_trichotomy i j with hij | hij | hij
  · have := hlt hl hlb hij
    omega
  · exact hij
  · have := hlt hr hrb hij
    omega

theorem blank_of_mem_take_findIdx (ls : List (List Char)) :
    ∀ l ∈ ls.take (ls.findIdx fun l => !blank l), blank l = true := by
  intro l hl
  obtain ⟨i, hi, rfl⟩ := List.getElem_of_mem hl
  rw [List.length_take] at hi
  have hnot := List.not_of_lt_findIdx (show i < ls.findIdx fun l => !blank l by omega)
  rw [List.getElem_take]
  simpa using hnot

/-- The first line that is not blank has rank zero. -/
theorem rank_findIdx (ls : List (List Char)) : rank ls (ls.findIdx fun l => !blank l) = 0 := by
  rw [rank, List.length_eq_zero_iff, contentLines_eq_nil_iff]
  exact blank_of_mem_take_findIdx ls

/-- The first line with a property that blank lines lack and blanks around a line do not touch has
the rank of the first such content line. -/
theorem findIdx?_contentLines (p : List Char → Bool) (hblank : ∀ l, blank l = true → p l = false)
    (htrim : ∀ l, p (trim l) = p l) (ls : List (List Char)) :
    (contentLines ls).findIdx? p = (ls.findIdx? p).map (rank ls) := by
  induction ls with
  | nil => rfl
  | cons l ls ih =>
    cases hb : blank l with
    | true =>
      rw [contentLines_cons_blank l ls hb, ih, List.findIdx?_cons, hblank l hb]
      simp [Function.comp_def, rank_cons_blank l ls _ hb]
    | false =>
      rw [contentLines_cons l ls hb, List.findIdx?_cons, htrim, ih, List.findIdx?_cons]
      cases p l with
      | true => rfl
      | false => simp [Function.comp_def, rank_cons l ls _ hb]

/-! ### Front matter and header -/

theorem findIdx?_append_cons {α : Type} {p : α → Bool} (front : List α) (a : α) (rest : List α)
    (hfront : ∀ b ∈ front, p b = false) (ha : p a = true) :
    (front ++ a :: rest).findIdx? p = some front.length := by
  rw [List.findIdx?_append, List.findIdx?_eq_none_iff.mpr hfront, List.findIdx?_cons, if_pos ha]
  simp

theorem isFence_blank (l : List Char) (h : blank l = true) : isFence l = false := by
  rw [isFence, (trim_eq_nil_iff l).mpr h]
  rfl

theorem not_blank_of_isFence (l : List Char) (h : isFence l = true) : blank l = false := by
  rw [Bool.eq_false_iff]
  intro hb
  simp [isFence_blank l hb] at h

theorem isFence_trim (l : List Char) : isFence (trim l) = isFence l := by
  rw [isFence, trim_trim, isFence]

theorem headerLike_blank (l : List Char) (h : blank l = true) : headerLike l = false := by
  rw [headerLike, (trim_eq_nil_iff l).mpr h]
  rfl

theorem headerLike_trim (l : List Char) : headerLike (trim l) = headerLike l := by
  rw [headerLike, trim_trim, headerLike]

theorem ofHeader_trim (l : List Char) : DiagramKind.ofHeader (trim l) = DiagramKind.ofHeader l := by
  rw [DiagramKind.ofHeader, trim_trim, DiagramKind.ofHeader]

/-- Lines are blank, or blank up to a first one that is not. -/
theorem blank_or_first (ls : List (List Char)) :
    (∀ l ∈ ls, blank l = true) ∨ ∃ front first rest, ls = front ++ first :: rest ∧
      (∀ l ∈ front, blank l = true) ∧ blank first = false := by
  cases hfind : ls.find? fun l => !blank l with
  | none => exact .inl (by simpa using hfind)
  | some first =>
    obtain ⟨hfirst, front, rest, hls, hfront⟩ := List.find?_eq_some_iff_append.mp hfind
    exact .inr ⟨front, first, rest, hls, by simpa using hfront, by simpa using hfirst⟩

theorem frontMatterEnd_of_blank (ls : List (List Char)) (h : ∀ l ∈ ls, blank l = true) :
    frontMatterEnd ls = none := by
  have hnone : ls.findIdx? (fun l => !blank l) = none :=
    List.findIdx?_eq_none_iff.mpr fun l hl => by simp [h l hl]
  rw [frontMatterEnd, hnone]

/-- Front matter is opened by the first line that is not blank or not at all. -/
theorem frontMatterEnd_append_cons (front : List (List Char)) (first : List Char)
    (rest : List (List Char)) (hfront : ∀ l ∈ front, blank l = true)
    (hfirst : blank first = false) :
    frontMatterEnd (front ++ first :: rest) =
      if isFence first then (rest.findIdx? isFence).map (front.length + 1 + ·) else none := by
  have hstart : (front ++ first :: rest).findIdx? (fun l => !blank l) = some front.length :=
    findIdx?_append_cons front first rest (fun l hl => by simp [hfront l hl]) (by simp [hfirst])
  rw [frontMatterEnd, hstart]
  simp only [List.drop_left]

/-- The closing line of front matter is a fence. -/
theorem isFence_frontMatterEnd (ls : List (List Char)) (close : Nat)
    (h : frontMatterEnd ls = some close) : ∃ l, ls[close]? = some l ∧ isFence l = true := by
  obtain hblank | ⟨front, first, rest, rfl, hfront, hfirst⟩ := blank_or_first ls
  · rw [frontMatterEnd_of_blank ls hblank] at h
    exact absurd h (by simp)
  · rw [frontMatterEnd_append_cons front first rest hfront hfirst] at h
    split at h
    case isTrue =>
      obtain ⟨k, hk, rfl⟩ := Option.map_eq_some_iff.mp h
      obtain ⟨hlt, hfence, -⟩ := List.findIdx?_eq_some_iff_getElem.mp hk
      refine ⟨rest[k], ?_, hfence⟩
      rw [Nat.add_assoc, List.getElem?_append_right (Nat.le_add_right _ _),
        Nat.add_sub_cancel_left, Nat.add_comm, List.getElem?_cons_succ,
        List.getElem?_eq_getElem hlt]
    case isFalse => exact absurd h (by simp)

theorem frontMatterEnd_contentLines (ls : List (List Char)) :
    frontMatterEnd (contentLines ls) = (frontMatterEnd ls).map (rank ls) := by
  obtain hblank | ⟨front, first, rest, rfl, hfront, hfirst⟩ := blank_or_first ls
  · rw [(contentLines_eq_nil_iff ls).mpr hblank, frontMatterEnd_of_blank ls hblank]
    rfl
  · have hrank : ∀ k, rank (front ++ first :: rest) (front.length + 1 + k) = 1 + rank rest k := by
      intro k
      have hzero : rank (front ++ first :: rest) front.length = 0 := by
        rw [rank, List.take_left, (contentLines_eq_nil_iff front).mpr hfront, List.length_nil]
      rw [Nat.add_assoc, rank_add, hzero, List.drop_left, Nat.add_comm 1 k, rank_cons _ _ _ hfirst,
        Nat.zero_add, Nat.add_comm]
    have hcontent : contentLines (front ++ first :: rest) =
        [] ++ trim first :: contentLines rest := by
      rw [contentLines_append, (contentLines_eq_nil_iff front).mpr hfront,
        contentLines_cons _ _ hfirst]
    rw [hcontent, frontMatterEnd_append_cons [] _ _ (by simp) ((blank_trim first).trans hfirst),
      frontMatterEnd_append_cons front first rest hfront hfirst, isFence_trim,
      findIdx?_contentLines isFence isFence_blank isFence_trim]
    by_cases hopen : isFence first = true
    · simp [hopen, Function.comp_def, hrank]
    · simp [hopen]

/-- The header is the content line of the same rank. -/
theorem headerIndex_contentLines (ls : List (List Char)) :
    headerIndex (contentLines ls) = (headerIndex ls).map (rank ls) := by
  have hfrom : ∀ i, ((contentLines ls).drop (rank ls i)).findIdx? headerLike =
      ((ls.drop i).findIdx? headerLike).map (rank (ls.drop i)) := by
    intro i
    rw [← contentLines_drop, findIdx?_contentLines headerLike headerLike_blank headerLike_trim]
  rw [headerIndex, headerIndex, frontMatterEnd_contentLines]
  cases hm : frontMatterEnd ls with
  | none =>
    have h0 := hfrom 0
    rw [rank_zero, List.drop_zero, List.drop_zero] at h0
    simp [h0, Function.comp_def]
  | some close =>
    obtain ⟨l, hl, hfence⟩ := isFence_frontMatterEnd ls close hm
    have hb := not_blank_of_isFence l hfence
    have h1 := hfrom (close + 1)
    rw [rank_succ ls close l hl hb] at h1
    simp [h1, Function.comp_def, rank_add, rank_succ ls close l hl hb]

/-- The header is a line that can be one. -/
theorem headerLike_headerIndex (ls : List (List Char)) (i : Nat) (h : headerIndex ls = some i) :
    ∃ l, ls[i]? = some l ∧ headerLike l = true := by
  unfold headerIndex at h
  obtain ⟨k, hk, rfl⟩ := Option.map_eq_some_iff.mp h
  obtain ⟨hlt, hlike, -⟩ := List.findIdx?_eq_some_iff_getElem.mp hk
  refine ⟨_, ?_, hlike⟩
  rw [← List.getElem?_drop, List.getElem?_eq_getElem hlt]

theorem not_blank_of_headerLike (l : List Char) (h : headerLike l = true) : blank l = false := by
  rw [Bool.eq_false_iff]
  intro hb
  simp [headerLike_blank l hb] at h

/-- The kind of a source depends on its content only. -/
theorem ofLines_contentLines (ls : List (List Char)) :
    DiagramKind.ofLines (contentLines ls) = DiagramKind.ofLines ls := by
  rw [DiagramKind.ofLines, DiagramKind.ofLines, headerIndex_contentLines]
  cases hi : headerIndex ls with
  | none => rfl
  | some i =>
    obtain ⟨l, hl, hlike⟩ := headerLike_headerIndex ls i hi
    have hr := getElem?_rank ls i l hl (not_blank_of_headerLike l hlike)
    simp [hl, hr, ofHeader_trim]

end DiagramDesk
