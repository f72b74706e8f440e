import Mathlib.Data.List.Infix
import DiagramDesk.Text.Scan
import DiagramDesk.Proofs.Text.Trim

/-!
Patterns that look at no more of a text than they take, and what is left of a text
when their matches are replaced. A match that is found in the new text holds a place
where something was taken out: nothing else can bring characters together that stood
apart.
-/
namespace DiagramDesk.Text

variable {α β : Type} {p : Pattern β}

/-- A match takes at least one character. It is found in the text it takes, whatever stands
behind it. -/
structure Pattern.Local (p : Pattern β) : Prop where
  exists_take : ∀ {s b n}, p s = some (b, n) →
    ∃ v w, s = v ++ w ∧ v ≠ [] ∧ v.length = n ∧ p v = some (b, n)
  append : ∀ {s m}, p s = some m → ∀ t, p (s ++ t) = some m

/-- A text in which a pattern is found nowhere. -/
def Free (p : Pattern β) (s : List Char) : Prop := ∀ t, t <:+ s → p t = none

instance (p : Pattern β) (s : List Char) : Decidable (Free p s) :=
  decidable_of_iff (∀ t ∈ s.tails, (p t).isNone = true) (by simp [Free])

/-- Whether a match begins in the first of two texts and ends in the second. -/
def crosses (p : Pattern β) (u w : List Char) : Bool :=
  u.tails.any fun v => !v.isEmpty && (p (v ++ w)).any fun m => v.length < m.2

/-- No match begins in a text or reaches into it, whatever stands around it. -/
structure Inert (p : Pattern β) (r : List Char) : Prop where
  ahead : ∀ u w, crosses p u (r ++ w) = false
  within : ∀ v w, v <:+ r → v ≠ [] → p (v ++ w) = none

/-! ### Texts without matches -/

theorem suffix_append_cases {t u w : List α} (h : t <:+ u ++ w) :
    t <:+ w ∨ ∃ v, v <:+ u ∧ v ≠ [] ∧ t = v ++ w := by
  obtain hw | ⟨v, rfl⟩ := List.suffix_or_suffix_of_suffix h (List.suffix_append u w)
  · exact .inl hw
  · by_cases hne : v = []
    · exact .inl (by simp [hne])
    · exact .inr ⟨v, List.suffix_append_self_iff.mp h, hne, rfl⟩

/-- A character of two texts behind each other is in the first or in the second. -/
theorem append_cons_eq_append {u z x y : List α} {a : α} (h : u ++ a :: z = x ++ y) :
    (∃ t, x = u ++ a :: t ∧ z = t ++ y) ∨ ∃ t, u = x ++ t ∧ y = t ++ a :: z := by
  obtain ⟨t, hx, ht⟩ | ⟨t, hu, hy⟩ := List.append_eq_append_iff.mp h
  · cases t with
    | nil => exact .inr ⟨[], by simpa using hx.symm, by simpa using ht.symm⟩
    | cons b t =>
      rw [List.cons_append, List.cons.injEq] at ht
      exact .inl ⟨t, by rw [hx, ht.1], ht.2⟩
  · exact .inr ⟨t, hu, hy⟩

theorem mem_of_suffix_concat {v l : List α} {a : α} (h : v <:+ l ++ [a]) (hne : v ≠ []) :
    a ∈ v := by
  obtain rfl | ⟨u, rfl, -⟩ := List.suffix_concat_iff.mp h
  · exact absurd rfl hne
  · simp

theorem crosses_eq_false_iff {u w : List Char} :
    crosses p u w = false ↔
      ∀ v, v <:+ u → v ≠ [] → ∀ b n, p (v ++ w) = some (b, n) → n ≤ v.length := by
  simp only [crosses, List.any_eq_false, List.mem_tails, Bool.and_eq_true, Bool.not_eq_true',
    List.isEmpty_eq_false_iff, Option.any_eq_true, decide_eq_true_eq, not_and, not_exists,
    Nat.not_lt, Prod.forall]

theorem crosses_suffix {u v w : List Char} (h : crosses p u w = false) (hv : v <:+ u) :
    crosses p v w = false := by
  rw [crosses_eq_false_iff] at h ⊢
  exact fun x hx => h x (hx.trans hv)

theorem Free.suffix {s t : List Char} (h : Free p s) (ht : t <:+ s) : Free p t :=
  fun v hv => h v (hv.trans ht)

theorem free_cons_iff {c : Char} {s : List Char} :
    Free p (c :: s) ↔ p (c :: s) = none ∧ Free p s := by
  constructor
  · exact fun h => ⟨h _ List.suffix_rfl, h.suffix (List.suffix_cons c s)⟩
  · rintro ⟨hc, hs⟩ t ht
    rcases List.suffix_cons_iff.mp ht with rfl | ht
    · exact hc
    · exact hs t ht

theorem Inert.free_append {r w : List Char} (h : Inert p r) (hw : Free p w) : Free p (r ++ w) := by
  intro t ht
  obtain ht | ⟨v, hv, hne, rfl⟩ := suffix_append_cases ht
  · exact hw t ht
  · exact h.within v w hv hne

/-- A pattern whose matches are the beginnings of a text that satisfy `T`. -/
theorem Pattern.Local.of_iff {T : List Char → β → Prop} (hne : ∀ v b, T v b → v ≠ [])
    (h : ∀ s b n, p s = some (b, n) ↔ ∃ v w, s = v ++ w ∧ v.length = n ∧ T v b) :
    p.Local where
  exists_take hs := by
    obtain ⟨v, w, rfl, hn, hv⟩ := (h _ _ _).mp hs
    exact ⟨v, w, rfl, hne v _ hv, hn, (h v _ _).mpr ⟨v, [], by simp, hn, hv⟩⟩
  append hs t := by
    obtain ⟨v, w, rfl, hn, hv⟩ := (h _ _ _).mp hs
    exact (h _ _ _).mpr ⟨v, w ++ t, by simp, hn, hv⟩

namespace Pattern.Local

variable (hp : p.Local)
include hp

theorem nil : p [] = none := by
  cases h : p [] with
  | none => rfl
  | some m =>
    obtain ⟨v, w, hvw, hv, -⟩ := hp.exists_take h
    exact absurd (List.append_eq_nil_iff.mp hvw.symm).1 hv

theorem pos {s : List Char} {b : β} {n : Nat} (h : p s = some (b, n)) : 0 < n := by
  obtain ⟨v, w, -, hv, rfl, -⟩ := hp.exists_take h
  exact List.length_pos_iff.mpr hv

/-- A match that ends within the first part of a text is one of that part. -/
theorem of_append {u w : List Char} {b : β} {n : Nat} (h : p (u ++ w) = some (b, n))
    (hn : n ≤ u.length) : p u = some (b, n) := by
  obtain ⟨v, x, hvx, -, rfl, hpv⟩ := hp.exists_take h
  obtain ⟨y, rfl⟩ := List.prefix_of_prefix_length_le ⟨x, hvx.symm⟩ (List.prefix_append u w) hn
  exact hp.append hpv y

theorem none_of_append {u w : List Char} (h : p (u ++ w) = none) : p u = none := by
  cases hu : p u with
  | none => rfl
  | some m => rw [hp.append hu w] at h; cases h

theorem free_nil : Free p [] := by
  intro t ht
  rw [List.suffix_nil.mp ht, hp.nil]

theorem free_prefix {u s : List Char} (h : Free p s) (hu : u <+: s) : Free p u := by
  obtain ⟨w, rfl⟩ := hu
  rintro v ⟨x, rfl⟩
  exact hp.none_of_append (h (v ++ w) ⟨x, by simp⟩)

theorem free_infix {u s : List Char} (h : Free p s) (hu : u <:+: s) : Free p u := by
  obtain ⟨x, y, rfl⟩ := hu
  exact hp.free_prefix (h.suffix ⟨x, by simp⟩) (List.prefix_append u y)

/-- A match in two texts behind each other is in one of them, or begins in the one and ends in
the other. -/
theorem free_append_iff {u w : List Char} :
    Free p (u ++ w) ↔ Free p u ∧ Free p w ∧ crosses p u w = false := by
  rw [crosses_eq_false_iff]
  constructor
  · intro h
    refine ⟨hp.free_prefix h (List.prefix_append u w), h.suffix (List.suffix_append u w), ?_⟩
    rintro v ⟨x, rfl⟩ - b n hb
    rw [h (v ++ w) ⟨x, by simp⟩] at hb
    cases hb
  · rintro ⟨hu, hw, hc⟩ t ht
    obtain ht | ⟨v, hv, hne, rfl⟩ := suffix_append_cases ht
    · exact hw t ht
    · cases hm : p (v ++ w) with
      | none => rfl
      | some m =>
        have hv' := hp.of_append hm (hc v hv hne _ _ hm)
        rw [hu v hv] at hv'
        cases hv'

/-- Nothing comes about where a text is put in that no match touches. -/
theorem free_insert {u r w : List Char} (h : Free p (u ++ w)) (hr : Inert p r) :
    Free p (u ++ (r ++ w)) := by
  obtain ⟨hu, hw, -⟩ := hp.free_append_iff.mp h
  exact hp.free_append_iff.mpr ⟨hu, hr.free_append hw, hr.ahead u w⟩

end Pattern.Local

/-! ### Pieces of a text -/

/-- A text that some pieces may come from: each character is itself, a match any text. -/
inductive Spells : List (Span β) → List Char → Prop where
  | nil : Spells [] []
  | char (c : Char) {l : List (Span β)} {s : List Char} (h : Spells l s) :
    Spells (.char c :: l) (c :: s)
  | found (b : β) (v : List Char) {l : List (Span β)} {s : List Char} (h : Spells l s) :
    Spells (.found b :: l) (v ++ s)

/-- Whether a match is put together at a place where something is taken out. `ahead` is the text
that is written ahead of the pieces. -/
def joins (p : Pattern β) (replace : α → List Char) : List Char → List (Span α) → Bool
  | _, [] => false
  | ahead, .char c :: l => joins p replace (ahead ++ [c]) l
  | ahead, .found a :: l =>
    (replace a).isEmpty && crosses p ahead (l.flatMap (Span.text replace)) ||
      joins p replace (ahead ++ replace a) l

/-- The pieces of a text, run by run: characters, and a match behind them. -/
theorem Span.run_induction {motive : List (Span α) → Prop}
    (run : ∀ s : List Char, motive (s.map .char))
    (found : ∀ (s : List Char) a l, motive l → motive (s.map .char ++ .found a :: l)) :
    ∀ l, motive l := by
  have key (l : List (Span α)) : ∀ s : List Char, motive (s.map .char ++ l) := by
    induction l with
    | nil => simpa using run
    | cons x l ih =>
      cases x with
      | char c =>
        intro s
        have h := ih (s ++ [c])
        rwa [List.map_append, List.append_assoc] at h
      | found a => exact fun s => found s a l (ih [])
  exact fun l => key l []

@[simp] theorem flatMap_text_char (g : α → List Char) (s : List Char) :
    (s.map Span.char).flatMap (Span.text g) = s := by
  induction s with
  | nil => rfl
  | cons c s ih => simpa [Span.text] using ih

@[simp] theorem joins_run (p : Pattern β) (g : α → List Char) (ahead s : List Char)
    (l : List (Span α)) :
    joins p g ahead (s.map .char ++ l) = joins p g (ahead ++ s) l := by
  induction s generalizing ahead with
  | nil => simp
  | cons c s ih => simp [joins, ih]

/-- Where a match is put together there is one. -/
theorem Pattern.Local.joins_of_free (hp : p.Local) (g : α → List Char) (ahead : List Char)
    (l : List (Span α)) (h : Free p (ahead ++ l.flatMap (Span.text g))) :
    joins p g ahead l = false := by
  induction l generalizing ahead with
  | nil => rfl
  | cons x l ih =>
    cases x with
    | char c => exact ih (ahead ++ [c]) (by simpa [Span.text] using h)
    | found a =>
      simp only [List.flatMap_cons, Span.text] at h
      rw [joins, ih (ahead ++ g a) (by rwa [List.append_assoc]), Bool.or_false,
        Bool.and_eq_false_imp]
      intro ha
      rw [List.isEmpty_iff.mp ha, List.nil_append] at h
      exact (hp.free_append_iff.mp h).2.2

/-- Where no match is put together there is none, if the text between the places where something
was replaced holds none, and no match touches what was put in. -/
theorem Pattern.Local.free_of_joins (hp : p.Local) (g : α → List Char) (ahead : List Char)
    (l : List (Span α)) (hruns : ∀ s : List Char, s.map .char <:+: l → Free p s)
    (hg : ∀ a, .found a ∈ l → g a ≠ [] → Inert p (g a)) (h : joins p g ahead l = false) :
    Free p (l.flatMap (Span.text g)) := by
  induction l using Span.run_induction generalizing ahead with
  | run s => simpa using hruns s List.infix_rfl
  | found s a l ih =>
    have hs : Free p s := hruns s (List.prefix_append _ _).isInfix
    have hl : s.map .char ++ .found a :: l = (s.map .char ++ [.found a]) ++ l := by simp
    rw [joins_run, joins, Bool.or_eq_false_iff, Bool.and_eq_false_imp, List.isEmpty_iff] at h
    have hrest := ih (ahead ++ s ++ g a)
      (fun t ht => hruns t (ht.trans (hl ▸ (List.suffix_append _ l).isInfix)))
      (fun b hb => hg b (by simp [hb])) h.2
    rw [List.flatMap_append, flatMap_text_char, List.flatMap_cons, Span.text]
    by_cases hne : g a = []
    · have hc := crosses_suffix (h.1 hne) (List.suffix_append ahead s)
      rw [hne, List.nil_append]
      exact hp.free_append_iff.mpr ⟨hs, hrest, hc⟩
    · -- What was put in is a barrier, so the run and the rest may as well stand apart.
      have hi := hg a (by simp) hne
      exact hp.free_append_iff.mpr ⟨hs, hi.free_append hrest, hi.ahead _ _⟩

/-- What is left of a text holds a match exactly if one is put together. -/
theorem Pattern.Local.free_flatMap_iff (hp : p.Local) (g : α → List Char) (l : List (Span α))
    (hruns : ∀ s : List Char, s.map .char <:+: l → Free p s)
    (hg : ∀ a, .found a ∈ l → g a ≠ [] → Inert p (g a)) :
    Free p (l.flatMap (Span.text g)) ↔ joins p g [] l = false :=
  ⟨fun h => hp.joins_of_free g [] l h, fun h => hp.free_of_joins g [] l hruns hg h⟩

/-- Replacing with a state at hand, where what a match is replaced with is the same in all states
that can come up. -/
theorem replaceSpans_eq {σ : Type} {replace : σ → α → List Char × σ} {g : α → List Char}
    {I : σ → Prop} (h : ∀ st a, I st → (replace st a).1 = g a ∧ I (replace st a).2)
    (l : List (Span α)) (st : σ) (hst : I st) :
    (replaceSpans replace st l).1 = l.flatMap (Span.text g) ∧ I (replaceSpans replace st l).2 := by
  induction l generalizing st with
  | nil => exact ⟨rfl, hst⟩
  | cons x l ih =>
    cases x with
    | char c =>
      obtain ⟨htext, hrest⟩ := ih st hst
      exact ⟨by simp [replaceSpans, Span.text, htext], hrest⟩
    | found a =>
      obtain ⟨ha, hst'⟩ := h st a hst
      obtain ⟨htext, hrest⟩ := ih _ hst'
      exact ⟨by simp [replaceSpans, Span.text, ha, htext], hrest⟩

/-! ### Where the pieces come from -/

namespace Spells

theorem append {l m : List (Span β)} {s t : List Char} (hl : Spells l s) (hm : Spells m t) :
    Spells (l ++ m) (s ++ t) := by
  induction hl with
  | nil => exact hm
  | char c _ ih => exact ih.char c
  | found b v _ ih => rw [List.append_assoc]; exact ih.found b v

theorem run (s : List Char) : Spells (s.map .char : List (Span β)) s := by
  induction s with
  | nil => exact .nil
  | cons c s ih => exact ih.char c

theorem isPrefix {l : List (Span β)} {s u : List Char} (h : Spells l s)
    (hu : u.map .char <+: l) : u <+: s := by
  induction h generalizing u with
  | nil => simpa using hu
  | char c _ ih =>
    cases u with
    | nil => exact List.nil_prefix
    | cons d u =>
      rw [List.map_cons, List.cons_prefix_cons, Span.char.injEq] at hu
      rw [hu.1]
      exact List.cons_prefix_cons.mpr ⟨rfl, ih hu.2⟩
  | found b v _ ih =>
    cases u with
    | nil => exact List.nil_prefix
    | cons d u => simp at hu

/-- Characters behind each other in the pieces are behind each other in the text. -/
theorem isInfix {l : List (Span β)} {s u : List Char} (h : Spells l s)
    (hu : u.map .char <:+: l) : u <:+: s := by
  induction h with
  | nil => simpa using hu
  | char c h ih =>
    rcases List.infix_cons_iff.mp hu with hu | hu
    · exact ((h.char c).isPrefix hu).isInfix
    · exact (ih hu).trans (List.suffix_cons c _).isInfix
  | found b v h ih =>
    rcases List.infix_cons_iff.mp hu with hu | hu
    · exact ((h.found b v).isPrefix hu).isInfix
    · exact (ih hu).trans (List.suffix_append v _).isInfix

end Spells

/-! ### The pieces that a pattern gives -/

theorem spans_cons {c : Char} {s : List Char} (h : p (c :: s) = none) :
    spans p (c :: s) = .char c :: spans p s := by
  simp only [spans, h]

theorem spans_of_free {s : List Char} (h : Free p s) : spans p s = s.map .char := by
  induction s with
  | nil => rw [spans]; rfl
  | cons c s ih =>
    obtain ⟨hc, hs⟩ := free_cons_iff.mp h
    simp only [spans, hc, ih hs, List.map_cons]

theorem replaceAll_of_free (g : β → List Char) {s : List Char} (h : Free p s) :
    replaceAll p g s = s := by
  rw [replaceAll, spans_of_free h, flatMap_text_char]

/-- Putting something shorter for each match makes a text shorter, unless there are none. -/
theorem length_replaceAll {g : β → List Char}
    (hg : ∀ s b n, p s = some (b, n) → n ≤ s.length ∧ (g b).length < n) (s : List Char) :
    (replaceAll p g s).length ≤ s.length ∧
      ((replaceAll p g s).length = s.length → Free p s) := by
  induction s using spans.induct (p := p) with
  | case1 =>
    have hnil : p [] = none := by
      cases h : p [] with
      | none => rfl
      | some m =>
        obtain ⟨hn, hlt⟩ := hg [] m.1 m.2 h
        rw [List.length_nil] at hn
        omega
    refine ⟨by simp [replaceAll, spans], fun _ t ht => ?_⟩
    rw [List.suffix_nil.mp ht, hnil]
  | case2 c s b n h ih =>
    obtain ⟨hn, hlt⟩ := hg _ b n h
    have hstep : replaceAll p g (c :: s) = g b ++ replaceAll p g (s.drop (n - 1)) := by
      simp only [replaceAll, spans, h, List.flatMap_cons, Span.text]
    have hshort : (replaceAll p g (c :: s)).length < (c :: s).length := by
      have hrest := ih.1
      rw [List.length_drop] at hrest
      rw [List.length_cons] at hn
      rw [hstep, List.length_append, List.length_cons]
      omega
    exact ⟨hshort.le, fun he => absurd he hshort.ne⟩
  | case3 c s h ih =>
    have hstep : replaceAll p g (c :: s) = c :: replaceAll p g s := by
      simp only [replaceAll, spans, h, List.flatMap_cons, Span.text, List.singleton_append]
    rw [hstep]
    simp only [List.length_cons, Nat.add_le_add_iff_right, Nat.add_right_cancel_iff]
    exact ⟨ih.1, fun he => free_cons_iff.mpr ⟨h, ih.2 he⟩⟩

/-- If matches are replaced by shorter texts, only a text without any stays as it is. -/
theorem replaceAll_eq_self_iff {g : β → List Char}
    (hg : ∀ s b n, p s = some (b, n) → n ≤ s.length ∧ (g b).length < n) {s : List Char} :
    replaceAll p g s = s ↔ Free p s :=
  ⟨fun h => (length_replaceAll hg s).2 (congrArg List.length h), replaceAll_of_free g⟩

namespace Pattern.Local

variable (hp : p.Local)
include hp

/-- Scanning goes on behind a match. -/
theorem spans_of_match {v w : List Char} {b : β} (h : p (v ++ w) = some (b, v.length)) :
    spans p (v ++ w) = .found b :: spans p w := by
  cases v with
  | nil => exact absurd (hp.pos h) (Nat.lt_irrefl 0)
  | cons c v =>
    rw [List.cons_append] at h ⊢
    simp only [spans, h]
    simp

/-- Scanning a text step by step: at its end, behind a match, or behind a character. -/
theorem spans_induction {motive : List Char → Prop} (nil : motive [])
    (found : ∀ b v w, p (v ++ w) = some (b, v.length) → v ≠ [] → motive w → motive (v ++ w))
    (char : ∀ c s, p (c :: s) = none → motive s → motive (c :: s)) : ∀ s, motive s := by
  intro s
  induction s using spans.induct (p := p) with
  | case1 => exact nil
  | case2 c s b n h ih =>
    obtain ⟨v, w, hvw, hv, rfl, -⟩ := hp.exists_take h
    cases v with
    | nil => exact absurd rfl hv
    | cons d v =>
      rw [List.cons_append, List.cons.injEq] at hvw
      obtain ⟨rfl, rfl⟩ := hvw
      rw [← List.cons_append]
      exact found b (c :: v) w h hv (by simpa using ih)
  | case3 c s h ih => exact char c s h ih

theorem spells_spans (s : List Char) : Spells (spans p s) s := by
  induction s using hp.spans_induction with
  | nil => rw [spans]; exact .nil
  | found b v w h _ ih => rw [hp.spans_of_match h]; exact ih.found b v
  | char c s h ih => simp only [spans, h]; exact ih.char c

/-- Between matches there is none. -/
theorem free_of_run {s u : List Char} (h : u.map .char <:+: spans p s) : Free p u := by
  induction s using hp.spans_induction generalizing u with
  | nil =>
    rw [spans, List.infix_nil, List.map_eq_nil_iff] at h
    exact h ▸ hp.free_nil
  | found b v w hm hv ih =>
    rw [hp.spans_of_match hm] at h
    rcases List.infix_cons_iff.mp h with h | h
    · cases u with
      | nil => exact hp.free_nil
      | cons c u => simp at h
    · exact ih h
  | char c s hm ih =>
    have hs := hp.spells_spans (c :: s)
    simp only [spans, hm] at h hs
    rcases List.infix_cons_iff.mp h with h | h
    · cases u with
      | nil => exact hp.free_nil
      | cons d u =>
        obtain ⟨t, ht⟩ := hs.isPrefix h
        rw [← ht] at hm
        rw [List.map_cons, List.cons_prefix_cons] at h
        exact free_cons_iff.mpr ⟨hp.none_of_append hm, ih h.2.isInfix⟩
    · exact ih h

/-- A text is scanned in parts if no match begins in the one and ends in the other. -/
theorem spans_append {s t : List Char} (h : crosses p s t = false) :
    spans p (s ++ t) = spans p s ++ spans p t := by
  induction s using hp.spans_induction with
  | nil => rw [spans]; rfl
  | found b v w hm hv ih =>
    have ht : p (v ++ (w ++ t)) = some (b, v.length) := by
      rw [← List.append_assoc]
      exact hp.append hm t
    rw [List.append_assoc, hp.spans_of_match ht, hp.spans_of_match hm,
      ih (crosses_suffix h (List.suffix_append v w)), List.cons_append]
  | char c s hm ih =>
    have hnone : p (c :: s ++ t) = none := by
      cases hsome : p (c :: s ++ t) with
      | none => rfl
      | some m =>
        have hn := crosses_eq_false_iff.mp h _ List.suffix_rfl (List.cons_ne_nil c s) _ _ hsome
        rw [hp.of_append hsome hn] at hm
        cases hm
    rw [List.cons_append] at hnone ⊢
    simp only [spans, hnone, hm, ih (crosses_suffix h (List.suffix_cons c s)), List.cons_append]

/-- What a pattern leaves of a text holds a match of it exactly if one was put together. -/
theorem free_replaceAll_iff (g : β → List Char) (s : List Char)
    (hg : ∀ b, g b ≠ [] → Inert p (g b)) :
    Free p (replaceAll p g s) ↔ joins p g [] (spans p s) = false :=
  hp.free_flatMap_iff g _ (fun _ => hp.free_of_run) fun b _ => hg b

/-- What is left of a text that does not hold another pattern holds it exactly if it was put
together. -/
theorem free_flatMap_iff_of_spells {g : α → List Char} {l : List (Span α)} {s : List Char}
    (hl : Spells l s) (hs : Free p s) (hg : ∀ a, g a ≠ [] → Inert p (g a)) :
    Free p (l.flatMap (Span.text g)) ↔ joins p g [] l = false :=
  hp.free_flatMap_iff g l (fun _ hu => hp.free_infix hs (hl.isInfix hu)) fun a _ => hg a

/-- Taking matches out makes a text shorter, unless there are none. -/
theorem length_remove (s : List Char) :
    (replaceAll p (fun _ => []) s).length ≤ s.length ∧
      ((replaceAll p (fun _ => []) s).length = s.length → Free p s) := by
  refine length_replaceAll (g := fun _ => []) (fun s b n h => ⟨?_, hp.pos h⟩) s
  obtain ⟨v, w, rfl, -, rfl, -⟩ := hp.exists_take h
  exact (List.prefix_append v w).length_le

end Pattern.Local

/-! ### A fixed text -/

def literal (part : List Char) : Pattern Unit := fun s =>
  (after? part s).map fun _ => ((), part.length)

/-- A text ahead of the first occurrence of `part`: none begins in it, not even one that ends in
the occurrence behind it. -/
def Ahead (part s : List Char) : Prop := ∀ v, v <:+ s → v ≠ [] → ¬ part <+: v ++ part

theorem after?_append [DecidableEq α] (head rest : List α) :
    after? head (head ++ rest) = some rest := by
  induction head with
  | nil => rfl
  | cons c head ih => simpa [after?] using ih

theorem after?_eq_none_iff [DecidableEq α] {head s : List α} :
    after? head s = none ↔ ¬ head <+: s := by
  constructor
  · rintro h ⟨rest, rfl⟩
    rw [after?_append] at h
    cases h
  · intro h
    cases hs : after? head s with
    | none => rfl
    | some rest => exact absurd ⟨rest, (after?_eq_some head s rest hs).symm⟩ h

theorem literal_append (part rest : List Char) :
    literal part (part ++ rest) = some ((), part.length) := by
  rw [literal, after?_append, Option.map_some]

theorem literal_eq_none_iff {part s : List Char} : literal part s = none ↔ ¬ part <+: s := by
  rw [literal, Option.map_eq_none_iff, after?_eq_none_iff]

theorem literal_eq_some {part s : List Char} {m : Unit × Nat} (h : literal part s = some m) :
    m = ((), part.length) ∧ ∃ rest, s = part ++ rest := by
  obtain ⟨rest, hr, rfl⟩ := Option.map_eq_some_iff.mp h
  exact ⟨rfl, rest, after?_eq_some part s rest hr⟩

theorem literal_local {part : List Char} (hne : part ≠ []) : (literal part).Local := by
  refine .of_iff (fun v _ (hv : v = part) => hv ▸ hne) ?_
  intro s b n
  constructor
  · intro h
    obtain ⟨hm, rest, rfl⟩ := literal_eq_some h
    cases hm
    exact ⟨part, rest, rfl, rfl, rfl⟩
  · rintro ⟨v, rest, rfl, rfl, rfl⟩
    exact literal_append v rest

/-- A text that begins with a character which is not in `part`, and does not hold the first
character of `part`, is not touched. -/
theorem literal_inert {c d : Char} {cs r : List Char} (hd : d ∉ c :: cs) (hc : c ∉ d :: r) :
    Inert (literal (c :: cs)) (d :: r) where
  ahead u w := by
    rw [crosses_eq_false_iff]
    intro v _ hv _ n h
    obtain ⟨hn, rest, hs⟩ := literal_eq_some h
    cases hn
    by_contra hlt
    rw [Nat.not_le] at hlt
    obtain ⟨x, hx⟩ := List.prefix_of_prefix_length_le (List.prefix_append v (d :: r ++ w))
      (hs ▸ List.prefix_append (c :: cs) rest) hlt.le
    rw [← hx, List.append_assoc, List.append_cancel_left_eq] at hs
    cases x with
    | nil =>
      rw [← hx, List.append_nil] at hlt
      exact Nat.lt_irrefl _ hlt
    | cons e x =>
      rw [List.cons_append, List.cons_append, List.cons.injEq] at hs
      exact hd (by rw [← hx, hs.1]; simp)
  within v w hv hne := by
    rw [literal_eq_none_iff]
    rintro ⟨rest, hs⟩
    cases v with
    | nil => exact hne rfl
    | cons e v =>
      rw [List.cons_append, List.cons_append, List.cons.injEq] at hs
      exact hc (hv.subset (by simp [hs.1]))

/-- Where the first character of a text does not come again in it, its occurrences do not
overlap. -/
theorem ahead_iff_free {c : Char} {cs s : List Char} (hc : c ∉ cs) :
    Ahead (c :: cs) s ↔ Free (literal (c :: cs)) s := by
  constructor
  · intro h v hv
    rw [literal_eq_none_iff]
    intro hpre
    by_cases hne : v = []
    · rw [hne, List.prefix_nil] at hpre
      cases hpre
    · exact h v hv hne (hpre.trans (List.prefix_append v _))
  · intro h v hv hne hpre
    have hfree := literal_eq_none_iff.mp (h v hv)
    obtain hv' | ⟨y, hy⟩ := List.prefix_or_prefix_of_prefix hpre (List.prefix_append v _)
    · exact hfree hv'
    cases v with
    | nil => exact hne rfl
    | cons d v =>
      cases y with
      | nil => exact hfree (by rw [← hy]; simp)
      | cons e y =>
        have hpre' := hpre
        rw [← hy, List.prefix_append_right_inj] at hpre'
        rw [hy, List.cons_prefix_cons] at hpre'
        rw [List.cons_append, List.cons.injEq] at hy
        exact hc (by rw [← hy.2, ← hpre'.1]; simp)

theorem not_mem_of_ahead {c : Char} {s : List Char} (h : Ahead [c] s) : c ∉ s := by
  intro hc
  obtain ⟨a, b, rfl⟩ := List.append_of_mem hc
  exact h (c :: b) (List.suffix_append a _) (List.cons_ne_nil c b) (by simp)

theorem ahead_of_not_mem {c : Char} {cs s : List Char} (h : c ∉ s) : Ahead (c :: cs) s := by
  rintro v hv hne ⟨t, ht⟩
  cases v with
  | nil => exact hne rfl
  | cons d v =>
    rw [List.cons_append, List.cons_append, List.cons.injEq] at ht
    exact h (hv.subset (by simp [ht.1]))

theorem splitOnce_ahead {part s : List Char} (rest : List Char) (hne : part ≠ [])
    (h : Ahead part s) : splitOnce part (s ++ part ++ rest) = some (s, rest) := by
  induction s with
  | nil =>
    cases part with
    | nil => exact absurd rfl hne
    | cons c cs =>
      have := after?_append (c :: cs) rest
      rw [List.nil_append, List.cons_append] at *
      rw [splitOnce, this]
  | cons c s ih =>
    have hnone : after? part (c :: s ++ part ++ rest) = none := by
      rw [after?_eq_none_iff]
      intro hpre
      refine h (c :: s) List.suffix_rfl (List.cons_ne_nil c s) ?_
      exact List.prefix_of_prefix_length_le hpre (List.prefix_append _ rest) (by simp; omega)
    rw [List.cons_append, List.cons_append] at hnone ⊢
    rw [splitOnce, hnone, ih fun v hv => h v (hv.trans (List.suffix_cons c s))]
    rfl

theorem exists_ahead {part s a rest : List Char} (h : splitOnce part s = some (a, rest)) :
    s = a ++ part ++ rest ∧ Ahead part a := by
  induction s generalizing a with
  | nil =>
    rw [splitOnce] at h
    split at h
    case isTrue hpart =>
      cases h
      rw [List.isEmpty_iff.mp hpart]
      exact ⟨rfl, fun v hv hne => absurd (List.suffix_nil.mp hv) hne⟩
    case isFalse => cases h
  | cons c s ih =>
    rw [splitOnce] at h
    split at h
    case h_1 r hr =>
      cases h
      exact ⟨after?_eq_some part _ _ hr, fun v hv hne => absurd (List.suffix_nil.mp hv) hne⟩
    case h_2 hnone =>
      obtain ⟨⟨a', r'⟩, ha', he⟩ := Option.map_eq_some_iff.mp h
      cases he
      obtain ⟨hs, ha⟩ := ih ha'
      refine ⟨by rw [hs]; simp, ?_⟩
      intro v hv hne hpre
      rcases List.suffix_cons_iff.mp hv with rfl | hv
      · refine after?_eq_none_iff.mp hnone (hpre.trans ⟨rest, ?_⟩)
        rw [hs]
        simp
      · exact ha v hv hne hpre

theorem exists_splitOnce {part s : List Char} (h : part <:+: s) :
    ∃ a rest, splitOnce part s = some (a, rest) := by
  induction s with
  | nil =>
    rw [List.infix_nil.mp h]
    exact ⟨[], [], rfl⟩
  | cons c s ih =>
    rw [splitOnce]
    split
    case h_1 rest hr => exact ⟨[], rest, rfl⟩
    case h_2 hnone =>
      rcases List.infix_cons_iff.mp h with h | h
      · exact absurd h (after?_eq_none_iff.mp hnone)
      · obtain ⟨a, rest, ha⟩ := ih h
        exact ⟨c :: a, rest, by rw [ha]; rfl⟩

theorem upTo_ahead {part s : List Char} (rest : List Char) (hne : part ≠ [])
    (h : Ahead part s) : upTo part (s ++ part ++ rest) = some (s ++ part, rest) := by
  rw [upTo, splitOnce_ahead rest hne h, Option.map_some]

theorem exists_upTo {part s front rest : List Char} (h : upTo part s = some (front, rest)) :
    ∃ a, front = a ++ part ∧ s = a ++ part ++ rest ∧ Ahead part a := by
  obtain ⟨⟨a, r⟩, hsplit, he⟩ := Option.map_eq_some_iff.mp h
  cases he
  obtain ⟨hs, ha⟩ := exists_ahead hsplit
  exact ⟨a, rfl, hs, ha⟩

end DiagramDesk.Text
