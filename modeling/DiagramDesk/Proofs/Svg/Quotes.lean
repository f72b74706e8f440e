import DiagramDesk.Proofs.Text.Scan
import DiagramDesk.Proofs.Text.Utf8
import DiagramDesk.Svg.Quotes

/-!
Double quotes in font family values. A text is cut at its marks: a value goes from a mark to the
double quote that closes it, and the next mark is looked for behind that quote. Mending keeps the
cut and leaves no double quote inside a value, so that mending again finds the same marks and the
same closing quotes, and nothing between them. A closing quote is told from what follows it, and
white space other than the space is not known to follow one.
-/
namespace DiagramDesk.Svg

open Text

/-! ### Texts and their values -/

/-- A text cut at its font family values. -/
inductive Families where
  | plain (text : List Char)
  | unclosed (ahead value : List Char)
  | closed (ahead value : List Char) (rest : Families)

/-- No double quote in a text closes a value, with this text behind it. -/
def RunsOn (closes : List Char → Prop) (v s : List Char) : Prop :=
  ∀ x y, v = x ++ '"' :: y → ¬ closes (y ++ s)

namespace Families

def text : Families → List Char
  | plain t => t
  | unclosed a v => a ++ (fontFamilyMark ++ v)
  | closed a v d => a ++ (fontFamilyMark ++ (v ++ '"' :: d.text))

/-- Each value begins behind the first mark there is, and ends at the first double quote that
closes it, if there is one; `closes` tells that from the text behind the quote. -/
def CutBy (closes : List Char → Prop) : Families → Prop
  | plain t => ¬ fontFamilyMark <:+: t
  | unclosed a v => Ahead fontFamilyMark a ∧ RunsOn closes v []
  | closed a v d => Ahead fontFamilyMark a ∧ RunsOn closes v ('"' :: d.text) ∧ closes d.text ∧
      d.CutBy closes

def values : Families → List (List Char)
  | plain _ => []
  | unclosed _ v => [v]
  | closed _ v d => v :: d.values

/-- The texts behind closing quotes. -/
def behind : Families → List (List Char)
  | closed _ _ d => d.text :: d.behind
  | _ => []

end Families

section Cut

variable {closes : List Char → Prop} {v s : List Char} {c : Char}

theorem runsOn_of_not_mem (h : '"' ∉ v) : RunsOn closes v s := by
  rintro x y rfl
  exact absurd (by simp) h

theorem runsOn_cons_iff : RunsOn closes (c :: v) s ↔
    (c = '"' → ¬ closes (v ++ s)) ∧ RunsOn closes v s := by
  constructor
  · exact fun h => ⟨fun hc => h [] v (by rw [hc]; rfl), fun x y hv => h (c :: x) y (by rw [hv]; rfl)⟩
  · rintro ⟨hc, hv⟩ x y hxy
    cases x with
    | nil =>
      obtain ⟨rfl, rfl⟩ := List.cons.inj hxy
      exact hc rfl
    | cons d x => exact hv x y (List.cons.inj hxy).2

theorem not_mem_of_runsOn (h : RunsOn (fun _ => True) v s) : '"' ∉ v := by
  intro hv
  obtain ⟨x, y, rfl⟩ := List.append_of_mem hv
  exact h x y rfl trivial

/-- A value has no end, or it has a first one. -/
theorem exists_value (closes : List Char → Prop) (s : List Char) :
    RunsOn closes s [] ∨ ∃ v r, s = v ++ '"' :: r ∧ RunsOn closes v ('"' :: r) ∧ closes r := by
  induction s with
  | nil => exact .inl (runsOn_of_not_mem List.not_mem_nil)
  | cons c s ih =>
    by_cases hc : c = '"' ∧ closes s
    · obtain ⟨rfl, hs⟩ := hc
      exact .inr ⟨[], s, rfl, runsOn_of_not_mem List.not_mem_nil, hs⟩
    · rw [not_and] at hc
      obtain hs | ⟨v, r, rfl, hv, hr⟩ := ih
      · exact .inl (runsOn_cons_iff.mpr ⟨by simpa using hc, hs⟩)
      · exact .inr ⟨c :: v, r, rfl, runsOn_cons_iff.mpr ⟨hc, hv⟩, hr⟩

/-- Every text can be cut. -/
theorem exists_families (closes : List Char → Prop) (s : List Char) :
    ∃ d : Families, d.CutBy closes ∧ d.text = s := by
  induction hn : s.length using Nat.strong_induction_on generalizing s with
  | _ n ih =>
    by_cases hmark : fontFamilyMark <:+: s
    · obtain ⟨a, rest, hsplit⟩ := exists_splitOnce hmark
      obtain ⟨rfl, ha⟩ := exists_ahead hsplit
      obtain hv | ⟨v, r, rfl, hv, hr⟩ := exists_value closes rest
      · exact ⟨.unclosed a rest, ⟨ha, hv⟩, by simp [Families.text]⟩
      · have hlt : r.length < n := by
          rw [← hn]
          simp only [List.length_append, List.length_cons]
          omega
        obtain ⟨d, hd, rfl⟩ := ih r.length hlt r rfl
        exact ⟨.closed a v d, ⟨ha, hv, hr, hd⟩, by simp [Families.text]⟩
    · exact ⟨.plain s, hmark, rfl⟩

theorem ahead_unique {a a' r r' : List Char} (ha : Ahead fontFamilyMark a)
    (ha' : Ahead fontFamilyMark a') (h : a ++ (fontFamilyMark ++ r) = a' ++ (fontFamilyMark ++ r')) :
    a = a' ∧ r = r' := by
  have hne : fontFamilyMark ≠ [] := by decide
  have hsplit := splitOnce_ahead r hne ha
  rw [List.append_assoc, h, ← List.append_assoc, splitOnce_ahead r' hne ha'] at hsplit
  simpa [eq_comm] using hsplit

/-- Of two quotes that close a value, each is the first one. -/
theorem value_unique {v' r r' : List Char} (hv : RunsOn closes v ('"' :: r)) (hr : closes r)
    (hv' : RunsOn closes v' ('"' :: r')) (hr' : closes r')
    (h : v ++ '"' :: r = v' ++ '"' :: r') : v = v' ∧ r = r' := by
  obtain ⟨t, rfl, rfl⟩ | ⟨t, rfl, ht⟩ := append_cons_eq_append h
  · exact absurd hr (hv' v t rfl)
  · cases t with
    | nil => exact ⟨by simp, (List.cons.inj ht).2.symm⟩
    | cons e t =>
      obtain ⟨rfl, rfl⟩ := List.cons.inj ht
      exact absurd hr' (hv v' t rfl)

theorem not_closes_of_unclosed {r : List Char} (hv : RunsOn closes (v ++ '"' :: r) []) :
    ¬ closes r := by
  simpa using hv v r rfl

theorem Families.plain_without_mark {t a r : List Char} (hd : (plain t).CutBy closes) :
    t ≠ a ++ (fontFamilyMark ++ r) := by
  rintro rfl
  exact hd ⟨a, r, by simp⟩

/-- A text can be cut in one way only. -/
theorem Families.eq_of_text_eq {d d' : Families} (hd : d.CutBy closes) (hd' : d'.CutBy closes)
    (h : d.text = d'.text) : d = d' := by
  induction d generalizing d' with
  | plain t =>
    cases d' with
    | plain t' => exact congrArg plain h
    | unclosed | closed => exact absurd h (plain_without_mark hd)
  | unclosed a v =>
    cases d' with
    | plain t => exact absurd h.symm (plain_without_mark hd')
    | unclosed a' v' =>
      obtain ⟨rfl, rfl⟩ := ahead_unique hd.1 hd'.1 h
      rfl
    | closed a' v' d' =>
      obtain ⟨rfl, rfl⟩ := ahead_unique hd.1 hd'.1 h
      exact absurd hd'.2.2.1 (not_closes_of_unclosed hd.2)
  | closed a v d ih =>
    cases d' with
    | plain t => exact absurd h.symm (plain_without_mark hd')
    | unclosed a' v' =>
      obtain ⟨rfl, rfl⟩ := ahead_unique hd.1 hd'.1 h
      exact absurd hd.2.2.1 (not_closes_of_unclosed hd'.2)
    | closed a' v' d' =>
      obtain ⟨ha, hv, hclosing, hrest⟩ := hd
      obtain ⟨ha', hv', hclosing', hrest'⟩ := hd'
      obtain ⟨rfl, hvalue⟩ := ahead_unique ha ha' h
      obtain ⟨rfl, htext⟩ := value_unique hv hclosing hv' hclosing' hvalue
      rw [ih hrest hrest' htext]

end Cut

/-! ### Mending, step by step -/

/-- What a double quote that closes a value stands before: a closing bracket, a space, a slash, a
character of several bytes, or nothing. -/
def Closing (s : List Char) : Prop := ∀ c ∈ s.head?, c = '>' ∨ c = ' ' ∨ c = '/' ∨ 1 < c.utf8Size

theorem closesBefore_iff {s : List Char} : closesBefore s = true ↔ Closing s := by
  cases s with
  | nil => simp [closesBefore, Closing]
  | cons c s =>
    have hsize : 1 < c.utf8Size ↔ 128 ≤ c.toNat := by
      have hpos := c.utf8Size_pos
      have hone : c.utf8Size = 1 ↔ c.toNat ≤ 127 :=
        Char.utf8Size_eq_one_iff.trans UInt32.le_iff_toNat_le
      omega
    simp [closesBefore, Closing, hsize, or_assoc]

/-- A value with single quotes for its double quotes. -/
def single (v : List Char) : List Char := v.map fun c => if c = '"' then Char.ofNat 39 else c

theorem quote_not_mem_single (v : List Char) : '"' ∉ single v := by
  simp only [single, List.mem_map, not_exists, not_and]
  intro c _
  split <;> simp_all

theorem single_of_not_mem {v : List Char} (h : '"' ∉ v) : single v = v := by
  have hself : ∀ c ∈ v, (if c = '"' then Char.ofNat 39 else c) = c := fun c hc =>
    if_neg fun (he : c = '"') => h (he ▸ hc)
  rw [single, List.map_congr_left hself, List.map_id']

theorem length_utf8_single (v : List Char) : (utf8 (single v)).length = (utf8 v).length := by
  induction v with
  | nil => rfl
  | cons c v ih =>
    have hc : (if c = '"' then Char.ofNat 39 else c).utf8Size = c.utf8Size := by
      split
      · next he => rw [he]; decide
      · rfl
    rw [length_utf8, length_utf8] at ih ⊢
    exact congrArg₂ (· + ·) hc ih

section Mend

variable {a v s t : List Char} {c : Char}

theorem mendQuotes_mark (s : List Char) :
    mendQuotes false (fontFamilyMark ++ s) = fontFamilyMark ++ mendQuotes true s := by
  obtain ⟨c, mark, hmark⟩ : ∃ c mark, fontFamilyMark = c :: mark := ⟨_, _, rfl⟩
  have hstart : startsWith (c :: (mark ++ s)) (c :: mark) = true := by
    rw [startsWith, List.isPrefixOf_iff_prefix]
    exact List.prefix_append (c :: mark) s
  rw [hmark, List.cons_append, mendQuotes, if_neg Bool.false_ne_true, hmark, if_pos hstart]
  simp

theorem mendQuotes_outside (h : ¬ fontFamilyMark <+: c :: s) :
    mendQuotes false (c :: s) = c :: mendQuotes false s := by
  rw [mendQuotes, if_neg Bool.false_ne_true, if_neg]
  rwa [startsWith, List.isPrefixOf_iff_prefix]

theorem mendQuotes_inside (h : c ≠ '"') : mendQuotes true (c :: s) = c :: mendQuotes true s := by
  rw [mendQuotes, if_pos rfl, if_neg h]

theorem mendQuotes_closing (h : Closing s) :
    mendQuotes true ('"' :: s) = '"' :: mendQuotes false s := by
  rw [mendQuotes, if_pos rfl, if_pos rfl, if_pos (closesBefore_iff.mpr h)]

theorem mendQuotes_not_closing (h : ¬ Closing s) :
    mendQuotes true ('"' :: s) = Char.ofNat 39 :: mendQuotes true s := by
  rw [mendQuotes, if_pos rfl, if_pos rfl, if_neg (mt closesBefore_iff.mp h)]

theorem mendQuotes_plain (h : ¬ fontFamilyMark <:+: t) : mendQuotes false t = t := by
  induction t with
  | nil => rw [mendQuotes]
  | cons c t ih =>
    rw [List.infix_cons_iff, not_or] at h
    rw [mendQuotes_outside h.1, ih h.2]

theorem mendQuotes_ahead (h : Ahead fontFamilyMark a) (s : List Char) :
    mendQuotes false (a ++ (fontFamilyMark ++ s)) =
      a ++ (fontFamilyMark ++ mendQuotes true s) := by
  induction a with
  | nil => exact mendQuotes_mark s
  | cons c a ih =>
    have hc : ¬ fontFamilyMark <+: c :: (a ++ (fontFamilyMark ++ s)) := by
      intro hpre
      refine h (c :: a) List.suffix_rfl (List.cons_ne_nil c a) ?_
      exact List.prefix_of_prefix_length_le hpre ⟨s, by simp⟩ (by simp; omega)
    have ha : Ahead fontFamilyMark a := fun v hv => h v (hv.trans (List.suffix_cons c a))
    rw [List.cons_append, mendQuotes_outside hc, ih ha]
    rfl

theorem mendQuotes_value (h : RunsOn Closing v s) :
    mendQuotes true (v ++ s) = single v ++ mendQuotes true s := by
  induction v with
  | nil => rfl
  | cons c v ih =>
    rw [runsOn_cons_iff] at h
    by_cases hc : c = '"'
    · rw [List.cons_append, hc, mendQuotes_not_closing (h.1 hc), ih h.2]
      rfl
    · rw [List.cons_append, mendQuotes_inside hc, ih h.2]
      simp [single, hc]

end Mend

/-! ### Mending a text -/

namespace Families

/-- The same cut with no double quote in a value. -/
def mended : Families → Families
  | plain t => plain t
  | unclosed a v => unclosed a (single v)
  | closed a v d => closed a (single v) d.mended

variable {d : Families}

theorem mendQuotes_text (h : d.CutBy Closing) : mendQuotes false d.text = d.mended.text := by
  induction d with
  | plain t => exact mendQuotes_plain h
  | unclosed a v =>
    have hv := mendQuotes_value h.2
    rw [List.append_nil, mendQuotes, List.append_nil] at hv
    rw [text, mendQuotes_ahead h.1, hv]
    rfl
  | closed a v d ih =>
    obtain ⟨ha, hv, hclosing, hd⟩ := h
    rw [text, mendQuotes_ahead ha, mendQuotes_value hv, mendQuotes_closing hclosing, ih hd]
    rfl

theorem quote_not_mem_values_mended (d : Families) : ∀ v ∈ d.mended.values, '"' ∉ v := by
  induction d with
  | plain t => simp [mended, values]
  | unclosed a v => simpa [mended, values] using quote_not_mem_single v
  | closed a v d ih => simpa [mended, values] using ⟨quote_not_mem_single v, ih⟩

theorem mended_eq_self (h : ∀ v ∈ d.values, '"' ∉ v) : d.mended = d := by
  induction d with
  | plain t => rfl
  | unclosed a v => rw [mended, single_of_not_mem (h v (by simp [values]))]
  | closed a v d ih =>
    rw [values, List.forall_mem_cons] at h
    rw [mended, single_of_not_mem h.1, ih h.2]

/-- A text and its mended form begin alike. -/
theorem head?_text_mended (d : Families) : d.mended.text.head? = d.text.head? := by
  have hmark (a s t : List Char) :
      (a ++ (fontFamilyMark ++ s)).head? = (a ++ (fontFamilyMark ++ t)).head? := by
    cases a <;> rfl
  cases d with
  | plain t => rfl
  | unclosed a v => exact hmark a _ _
  | closed a v d => exact hmark a _ _

/-- In the mended text the same quotes close, as what follows them begins as before. -/
theorem cutBy_mended (h : d.CutBy Closing) : d.mended.CutBy Closing := by
  induction d with
  | plain t => exact h
  | unclosed a v => exact ⟨h.1, runsOn_of_not_mem (quote_not_mem_single v)⟩
  | closed a v d ih =>
    obtain ⟨ha, -, hclosing, hd⟩ := h
    refine ⟨ha, runsOn_of_not_mem (quote_not_mem_single v), ?_, ih hd⟩
    rwa [Closing, head?_text_mended]

theorem length_utf8_text_mended (d : Families) :
    (utf8 d.mended.text).length = (utf8 d.text).length := by
  induction d with
  | plain t => rfl
  | unclosed a v => simp only [mended, text, length_utf8_append, length_utf8_single]
  | closed a v d ih =>
    simp only [mended, text, length_utf8_append, length_utf8_cons, length_utf8_single, ih]

/-- Where the first double quote is taken for the end of a value, mending changes nothing exactly
if it is one. -/
theorem mendQuotes_text_eq_iff (h : d.CutBy fun _ => True) :
    mendQuotes false d.text = d.text ↔ ∀ s ∈ d.behind, Closing s := by
  induction d with
  | plain t => exact iff_of_true (mendQuotes_plain h) (by simp [behind])
  | unclosed a v =>
    have hcut : (unclosed a v).CutBy Closing :=
      ⟨h.1, runsOn_of_not_mem (not_mem_of_runsOn h.2)⟩
    rw [mendQuotes_text hcut, mended, single_of_not_mem (not_mem_of_runsOn h.2)]
    simp [behind]
  | closed a v d ih =>
    obtain ⟨ha, hv, -, hd⟩ := h
    have hquote := not_mem_of_runsOn hv
    rw [text, mendQuotes_ahead ha, mendQuotes_value (runsOn_of_not_mem hquote),
      single_of_not_mem hquote, behind, List.forall_mem_cons]
    simp only [List.append_cancel_left_eq]
    -- Up to the first quote the text stays, so the quote itself decides.
    by_cases hclosing : Closing d.text
    · rw [mendQuotes_closing hclosing, List.cons.injEq, ih hd]
      simp [hclosing]
    · rw [mendQuotes_not_closing hclosing, List.cons.injEq]
      exact iff_of_false (fun he => absurd he.1 (by decide)) fun hs => hclosing hs.1

end Families

theorem toList_mendFontFamilies (svg : String) :
    (mendFontFamilies svg).toList = mendQuotes false svg.toList := String.toList_ofList

/-- A text has one cut in which a double quote closes a value if a closing bracket, a space, a
slash, a character of several bytes or nothing follows. Mending takes the double quotes out of the
values of that cut and changes nothing else. What it gives is cut alike, is as long, and is left
alone by mending. -/
theorem mendFontFamilies_keeps_cut (svg : String) :
    mendFontFamilies (mendFontFamilies svg) = mendFontFamilies svg ∧
    (utf8 (mendFontFamilies svg).toList).length = (utf8 svg.toList).length ∧
    ∃! d : Families, (d.text = svg.toList ∧ d.CutBy Closing) ∧
      d.mended.text = (mendFontFamilies svg).toList ∧ d.mended.CutBy Closing ∧
      ∀ v ∈ d.mended.values, '"' ∉ v := by
  obtain ⟨d, hcut, htext⟩ := exists_families Closing svg.toList
  have hmended : (mendFontFamilies svg).toList = d.mended.text := by
    rw [toList_mendFontFamilies, ← htext, Families.mendQuotes_text hcut]
  have hvalues := d.quote_not_mem_values_mended
  have hcut' := Families.cutBy_mended hcut
  refine ⟨?_, ?_, d, ⟨⟨htext, hcut⟩, hmended.symm, hcut', hvalues⟩, ?_⟩
  · rw [← String.toList_inj, toList_mendFontFamilies, hmended, Families.mendQuotes_text hcut',
      Families.mended_eq_self hvalues]
  · rw [hmended, ← htext, Families.length_utf8_text_mended]
  · rintro d' ⟨⟨htext', hother⟩, -⟩
    exact Families.eq_of_text_eq hother hcut (htext'.trans htext.symm)

/-- What may stand behind the value of an attribute: white space, a slash, a closing bracket, or
nothing. -/
def AttributeEnd (s : List Char) : Prop := ∀ c ∈ s.head?, c ∈ [' ', '\t', '\n', '\r', '/', '>']

theorem closing_iff_of_attributeEnd {s : List Char} (h : AttributeEnd s) :
    Closing s ↔ ∀ c ∈ s.head?, c ∉ ['\t', '\n', '\r'] := by
  cases s with
  | nil => simp [Closing]
  | cons c s =>
    have hc : c ∈ [' ', '\t', '\n', '\r', '/', '>'] := h c rfl
    simp only [List.mem_cons, List.not_mem_nil, or_false] at hc
    simp only [Closing, List.head?_cons, Option.mem_some_iff, forall_eq']
    obtain rfl | rfl | rfl | rfl | rfl | rfl := hc <;> decide

/-- In a text whose values hold no double quote, and end as attributes do, mending changes nothing
exactly if no value ends ahead of a tab, a line feed or a carriage return. -/
theorem mendFontFamilies_eq_self_iff {svg : String} {d : Families} (htext : d.text = svg.toList)
    (hcut : d.CutBy fun _ => True) (hends : ∀ s ∈ d.behind, AttributeEnd s) :
    mendFontFamilies svg = svg ↔ ∀ s ∈ d.behind, ∀ c ∈ s.head?, c ∉ ['\t', '\n', '\r'] := by
  rw [← String.toList_inj, toList_mendFontFamilies, ← htext, Families.mendQuotes_text_eq_iff hcut]
  exact forall₂_congr fun s hs => closing_iff_of_attributeEnd (hends s hs)

/-- A label with a font and, behind a space, a size. -/
def spacedLabel : Families :=
  .closed "<text ".toList "Inter, sans-serif".toList (.plain " font-size=\"14\"/>".toList)

theorem spacedLabel_left_alone :
    spacedLabel.text = "<text font-family=\"Inter, sans-serif\" font-size=\"14\"/>".toList ∧
      spacedLabel.CutBy (fun _ => True) ∧ (∀ s ∈ spacedLabel.behind, AttributeEnd s) ∧
      (∀ s ∈ spacedLabel.behind, ∀ c ∈ s.head?, c ∉ ['\t', '\n', '\r']) ∧
      mendFontFamilies "<text font-family=\"Inter, sans-serif\" font-size=\"14\"/>" =
        "<text font-family=\"Inter, sans-serif\" font-size=\"14\"/>" := by
  have htext : spacedLabel.text =
      "<text font-family=\"Inter, sans-serif\" font-size=\"14\"/>".toList := by decide +kernel
  have hcut : spacedLabel.CutBy fun _ => True :=
    ⟨ahead_of_not_mem (by decide), runsOn_of_not_mem (by decide), trivial, by
      show ¬ fontFamilyMark <:+: " font-size=\"14\"/>".toList
      decide +kernel⟩
  have hends : ∀ s ∈ spacedLabel.behind, AttributeEnd s := by
    simp [spacedLabel, Families.behind, Families.text, AttributeEnd]
  have hknown : ∀ s ∈ spacedLabel.behind, ∀ c ∈ s.head?, c ∉ ['\t', '\n', '\r'] := by
    simp [spacedLabel, Families.behind, Families.text]
  exact ⟨htext, hcut, hends, hknown, (mendFontFamilies_eq_self_iff htext hcut hends).mpr hknown⟩

/-- The same with a line feed in place of the space. -/
def brokenLabel : Families :=
  .closed "<text ".toList "Inter".toList (.plain "\nfont-size=\"14\"/>".toList)

/-- The quote ahead of the line feed is not taken for a closing one, and the value of the next
attribute loses its opening one. -/
theorem brokenLabel_mended :
    brokenLabel.text = "<text font-family=\"Inter\"\nfont-size=\"14\"/>".toList ∧
      brokenLabel.CutBy (fun _ => True) ∧ (∀ s ∈ brokenLabel.behind, AttributeEnd s) ∧
      mendFontFamilies "<text font-family=\"Inter\"\nfont-size=\"14\"/>" =
        "<text font-family=\"Inter'\nfont-size='14\"/>" := by
  refine ⟨by decide +kernel, ⟨ahead_of_not_mem (by decide), runsOn_of_not_mem (by decide), trivial,
    ?_⟩, ?_, by decide +kernel⟩
  · show ¬ fontFamilyMark <:+: "\nfont-size=\"14\"/>".toList
    decide +kernel
  · simp [brokenLabel, Families.behind, Families.text, AttributeEnd]

end DiagramDesk.Svg
