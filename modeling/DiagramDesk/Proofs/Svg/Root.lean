import DiagramDesk.Proofs.Svg.Styles

/-!
What is put into the root element. A namespace brings no reference into a style block,
wherever the root element begins; a style element behind the root's tag brings none
if no style tag opens ahead of it.
-/
namespace DiagramDesk.Svg

open Text

/-! ### A text inside a style block -/

section Insert

variable {r : List Char} {c : Char} {u w z v : List Char} {b : StyleBlock}

/-- A character that is in no part of a style block that is fixed. -/
structure Loose (c : Char) : Prop where
  name : c ∉ '<' :: "style".toList
  bracket : c ≠ '>'
  styleEnd : c ∉ styleEnd

/-- A text that opens and closes nothing. -/
structure Plain (r : List Char) : Prop where
  start : '<' ∉ r
  bracket : '>' ∉ r
  styleEnd : Inert (literal styleEnd) r

/-- The second block is the first with a text put in somewhere. -/
def Holds (r : List Char) (b b' : StyleBlock) : Prop :=
  b'.body = b.body ∨ ∃ l m, b.body = l ++ m ∧ b'.body = l ++ (r ++ m)

/-- A loose character of a block is in its attributes or in its body. -/
theorem StyleBlock.Written.split (h : b.Written v) (hc : Loose c) (hv : v = u ++ c :: z) :
    (∃ (t : TagText "style".toList) (left right : List Char),
      b.opening = t.text ∧ t.attributes = left ++ c :: right ∧
      u = '<' :: "style".toList ++ left ∧ z = right ++ '>' :: (b.body ++ styleEnd)) ∨
    ∃ left right, b.body = left ++ c :: right ∧ u = b.opening ++ left ∧ z = right ++ styleEnd := by
  obtain ⟨t, ht⟩ := h.opening
  have htext := h.text
  rw [hv, List.append_assoc] at htext
  obtain ⟨x, hx, hz⟩ | ⟨x, hx, hz⟩ := append_cons_eq_append htext
  · rw [← ht, TagText.text, List.append_assoc] at hx
    obtain ⟨y, hy, -⟩ | ⟨y, hy, hy'⟩ := append_cons_eq_append hx.symm
    · exact absurd (by rw [hy]; simp) hc.name
    obtain ⟨right, hr, hr'⟩ | ⟨s, -, hs⟩ := append_cons_eq_append hy'.symm
    · refine .inl ⟨t, y, right, ht.symm, hr, hy, ?_⟩
      rw [hz, hr']
      simp
    · cases s with
      | nil => exact absurd (List.cons.inj hs).1.symm hc.bracket
      | cons d s => simp at hs
  · obtain ⟨right, hr, hr'⟩ | ⟨s, -, hs⟩ := append_cons_eq_append hz.symm
    · exact .inr ⟨x, right, hr, hx, hr'⟩
    · exact absurd (by rw [hs]; simp) hc.styleEnd

/-- A plain text put in behind a loose character makes a block of a block. -/
theorem StyleBlock.Written.insert (h : b.Written (u ++ c :: z)) (hc : Loose c) (hr : Plain r) :
    ∃ b', StyleBlock.Written b' (u ++ c :: (r ++ z)) ∧ Holds r b b' := by
  obtain ⟨t, left, right, ht, ha, rfl, rfl⟩ | ⟨left, right, hbody, rfl, rfl⟩ := h.split hc rfl
  · let t' : TagText "style".toList := {
      attributes := left ++ c :: (r ++ right)
      closed := by
        have hclosed := t.closed
        rw [ha] at hclosed
        simp only [List.mem_append, List.mem_cons, not_or] at hclosed ⊢
        exact ⟨hclosed.1, hclosed.2.1, hr.bracket, hclosed.2.2⟩
      boundary := by
        have hboundary := t.boundary
        rw [ha] at hboundary
        cases left with
        | nil => simpa using hboundary
        | cons d left => simpa using hboundary }
    exact ⟨⟨t'.text, b.body⟩, ⟨⟨t', rfl⟩, h.body, by simp [t', TagText.text]⟩, .inl rfl⟩
  · refine ⟨⟨b.opening, left ++ c :: (r ++ right)⟩, ⟨h.opening, ?_, by simp⟩,
      .inr ⟨left ++ [c], right, by simp [hbody], by simp⟩⟩
    have hfree := ahead_styleEnd_iff.mp h.body
    rw [hbody] at hfree
    have hinsert := styleEnd_local.free_insert (u := left ++ [c]) (by simpa using hfree) hr.styleEnd
    exact ahead_styleEnd_iff.mpr (by simpa using hinsert)

/-- Where no block opened none opens when a plain text is put in behind a loose character. -/
theorem styleBlock_insert (hc : Loose c) (hr : Plain r) (h : styleBlock (u ++ c :: w) = none) :
    styleBlock (u ++ c :: (r ++ w)) = none := by
  cases hm : styleBlock (u ++ c :: (r ++ w)) with
  | none => rfl
  | some m =>
    obtain ⟨v, rest, hs, -, hv⟩ := (styleBlock_iff _ m.1 m.2).mp hm
    obtain ⟨z, hz, hw⟩ | ⟨z, hz, -⟩ := append_cons_eq_append hs
    · obtain ⟨t, ht⟩ := hv.opening
      have hopens := t.opensTag_text (m.1.body ++ styleEnd ++ rest)
      rw [ht, ← List.append_assoc, ← List.append_assoc, ← hv.text, ← hs] at hopens
      have hopens' : opensTag "style".toList (u ++ [c] ++ w) = true :=
        opensTag_congr (c := c) (by simp) hc.name w (x := r ++ w) (by simpa using hopens)
      obtain ⟨t, left, right, -, -, -, rfl⟩ | ⟨left, right, hbody, hu, rfl⟩ := hv.split hc hz
      · rw [List.append_assoc, List.cons_append] at hw
        obtain ⟨x, hx, -⟩ | ⟨x, hx, hw'⟩ := append_cons_eq_append hw.symm
        · exact absurd (by rw [hx]; simp) hr.bracket
        · refine absurd h (styleBlock_ne_none (u := u ++ c :: x) (m := m.1.body) (w := rest) ?_ ?_)
          · simpa using hopens'
          · rw [hw']
            simp
      · have hstart : styleEnd = '<' :: "/style>".toList := rfl
        rw [hstart, List.append_assoc, List.cons_append] at hw
        obtain ⟨x, hx, -⟩ | ⟨x, hx, hw'⟩ := append_cons_eq_append hw.symm
        · exact absurd (by rw [hx]; simp) hr.start
        · obtain ⟨front, hfront, -⟩ := hv.exists_eq
          refine absurd h (styleBlock_ne_none (u := front) (m := left ++ c :: x) (w := rest) ?_ ?_)
          · simpa using hopens'
          · rw [hw', hu, hfront, hstart]
            simp
    · rw [hz, List.append_assoc, hv.styleBlock_append] at h
      cases h

theorem styleBlocks_append_of_start {r : List Char} (hr : '<' ∉ r) (w : List Char) :
    styleBlocks (r ++ w) = styleBlocks w := by
  induction r with
  | nil => rfl
  | cons c r ih =>
    rw [List.mem_cons, not_or] at hr
    have hnone : styleBlock (c :: (r ++ w)) = none := by
      cases hm : styleBlock (c :: (r ++ w)) with
      | none => rfl
      | some m =>
        obtain ⟨v, rest, hs, -, hv⟩ := (styleBlock_iff _ m.1 m.2).mp hm
        obtain ⟨t, ht⟩ := hv.opening
        rw [hv.text, ← ht, TagText.text] at hs
        exact absurd (List.cons.inj hs).1.symm hr.1
    rw [List.cons_append, styleBlocks_cons hnone, ih hr.2]

/-- The blocks of a text with a plain text put in are those of the text, but one may hold it. -/
theorem exists_of_mem_insert (hc : Loose c) (hr : Plain r) (u w : List Char) :
    ∀ b' ∈ styleBlocks (u ++ c :: (r ++ w)), ∃ b ∈ styleBlocks (u ++ c :: w), Holds r b b' := by
  have hstay {b : StyleBlock} : Holds r b b := .inl rfl
  induction hn : u.length using Nat.strong_induction_on generalizing u with
  | h n ih =>
    cases u with
    | nil =>
      have hne : '<' ≠ c := fun h => hc.name (h ▸ List.mem_cons_self)
      have hstart : '<' ∉ [c] := by simpa using hne
      have hold := styleBlocks_append_of_start hstart w
      have hnew := styleBlocks_append_of_start (r := c :: r)
        (by simpa using And.intro hne hr.start) w
      rw [List.singleton_append] at hold
      rw [List.cons_append] at hnew
      rw [List.nil_append, List.nil_append, hold, hnew]
      exact fun b hb => ⟨b, hb, hstay⟩
    | cons d u =>
      cases hm : styleBlock (d :: u ++ c :: w) with
      | none =>
        have hm' := styleBlock_insert hc hr hm
        rw [List.cons_append] at hm hm'
        rw [List.cons_append, List.cons_append, styleBlocks_cons hm, styleBlocks_cons hm']
        exact ih u.length (by simp [← hn]) u rfl
      | some m =>
        obtain ⟨v, rest, hs, -, hv⟩ := (styleBlock_iff _ m.1 m.2).mp hm
        obtain ⟨z, rfl, rfl⟩ | ⟨z, hz, rfl⟩ := append_cons_eq_append hs
        · obtain ⟨b', hb', hholds⟩ := hv.insert hc hr
          have hassoc (x : List Char) :
              d :: u ++ c :: (x ++ rest) = (d :: u ++ c :: x) ++ rest := by simp
          rw [← List.append_assoc, hassoc, hassoc, styleBlocks_match hb', styleBlocks_match hv]
          intro x hx
          obtain rfl | hx := List.mem_cons.mp hx
          · exact ⟨m.1, List.mem_cons_self, hholds⟩
          · exact ⟨x, List.mem_cons_of_mem _ hx, hstay⟩
        · have hv' := List.length_pos_iff.mpr (hv.text ▸ List.append_ne_nil_of_right_ne_nil _
            (by decide) : v ≠ [])
          have hlt : z.length < n := by
            rw [← hn, hz, List.length_append]
            omega
          rw [hz, List.append_assoc, List.append_assoc, styleBlocks_match hv, styleBlocks_match hv]
          intro x hx
          obtain rfl | hx := List.mem_cons.mp hx
          · exact ⟨m.1, List.mem_cons_self, hstay⟩
          · obtain ⟨b, hb, hholds⟩ := ih z.length hlt z rfl x hx
            exact ⟨b, List.mem_cons_of_mem _ hb, hholds⟩

theorem noRemoteStyle_insert (hc : Loose c) (hr : Plain r) (href : Inert remoteReference r)
    (h : NoRemoteStyle (u ++ c :: w)) : NoRemoteStyle (u ++ c :: (r ++ w)) := by
  intro b' hb'
  obtain ⟨b, hb, hsame | ⟨l, m, hold, hnew⟩⟩ := exists_of_mem_insert hc hr u w b' hb'
  · rw [hsame]
    exact h b hb
  · rw [hnew]
    exact remoteReference_local.free_insert (hold ▸ h b hb) href

end Insert

/-! ### The namespace -/

theorem plain_namespaceAttribute : Plain namespaceAttribute where
  start := by decide
  bracket := by decide
  styleEnd := literal_inert (c := '<') (d := ' ') (by decide) (by decide)

theorem inert_namespaceAttribute : Inert remoteReference namespaceAttribute where
  ahead u w := by
    rw [crosses_eq_false_iff]
    intro v _ _ a n h
    exact reference_stops [] (c := ' ') (d := 'x') (by decide) (.inl (by decide)) (by decide)
      (w := namespaceAttribute.drop 2 ++ w) h
  within v w hv hne := by
    have hlast : namespaceAttribute = namespaceAttribute.dropLast ++ ['"'] := rfl
    refine remoteReference_eq_none (mem_of_suffix_concat (hlast ▸ hv) hne) (by decide) ?_ w
    exact fun h => absurd (hv.subset h) (by decide)

/-- Giving the root element a namespace brings no reference into a style block. -/
theorem noRemoteStyle_ensureNamespace {s : List Char} (h : NoRemoteStyle s) :
    NoRemoteStyle (ensureNamespaceText s) := by
  rw [ensureNamespaceText]
  split
  case h_1 => exact h
  case h_2 ahead rest hsplit =>
    split
    case isTrue => exact h
    case isFalse =>
      have hloose : Loose 'g' := ⟨by decide, by decide, by decide⟩
      have hs := (exists_ahead hsplit).1
      have hroot : rootStart = "<sv".toList ++ ['g'] := rfl
      have hnew := noRemoteStyle_insert (u := ahead ++ "<sv".toList) (w := rest) hloose
        plain_namespaceAttribute inert_namespaceAttribute (by simpa [hs, hroot] using h)
      simpa [hroot] using hnew

/-! ### A style element behind the tag of the root -/

/-- What stands ahead of the end of the root element's tag. -/
def rootHead? (s : List Char) : Option (List Char) := do
  let (ahead, rest) ← splitOnce rootStart s
  let (attributes, _) ← splitOnce ['>'] rest
  return ahead ++ rootStart ++ attributes

def styleStart : List Char := "<style".toList

theorem StyleBlock.Written.styleStart_prefix {b : StyleBlock} {v : List Char} (h : b.Written v) :
    styleStart <+: v := by
  obtain ⟨t, ht⟩ := h.opening
  rw [h.text, ← ht, TagText.text, List.append_assoc, List.append_assoc, List.append_assoc]
  exact List.prefix_append styleStart _

/-- No block begins ahead of a bracket where no style tag opens. -/
theorem styleBlock_of_head {head v : List Char} (h : ¬ styleStart <:+: head)
    (hv : v <:+ head ++ ['>']) (hne : v ≠ []) (w : List Char) : styleBlock (v ++ w) = none := by
  obtain rfl | ⟨v, rfl, hhead⟩ := List.suffix_concat_iff.mp hv
  · exact absurd rfl hne
  cases hm : styleBlock (v ++ ['>'] ++ w) with
  | none => rfl
  | some m =>
    obtain ⟨x, rest, hs, -, hx⟩ := (styleBlock_iff _ m.1 m.2).mp hm
    have hpre : styleStart <+: v ++ '>' :: w := by
      have hxs := hx.styleStart_prefix.trans (List.prefix_append x rest)
      rw [← hs] at hxs
      simpa using hxs
    obtain hin | ⟨y, hy⟩ := List.prefix_or_prefix_of_prefix hpre (List.prefix_append v _)
    · exact absurd (hin.isInfix.trans hhead.isInfix) h
    · rw [← hy, List.prefix_append_right_inj] at hpre
      cases y with
      | nil => exact absurd (by rw [← hy, List.append_nil]; exact hhead.isInfix) h
      | cons d y =>
        rw [List.cons_prefix_cons] at hpre
        have hd : '>' ∈ styleStart := by rw [← hy, ← hpre.1]; simp
        exact absurd hd (by decide)

/-- A text without style tags, up to a bracket, holds no part of a block. -/
theorem styleBlocks_append_bracket {head : List Char} (h : ¬ styleStart <:+: head)
    (w : List Char) : styleBlocks (head ++ '>' :: w) = styleBlocks w := by
  have hcross : crosses styleBlock (head ++ ['>']) w = false := by
    rw [crosses_eq_false_iff]
    intro v hv hne b n hb
    rw [styleBlock_of_head h hv hne] at hb
    cases hb
  have hfree : Free styleBlock (head ++ ['>']) := by
    intro v hv
    by_cases hne : v = []
    · rw [hne, styleBlock_local.nil]
    · simpa using styleBlock_of_head h hv hne []
  have happend := styleBlocks_append hcross
  rw [styleBlocks_of_free hfree] at happend
  simpa using happend

def styleElement (rule : List Char) : List Char := "<style>".toList ++ rule ++ styleEnd

/-- A style element behind the tag of the root element is a style block of its own, if no style
tag opens ahead of it. -/
theorem noRemoteStyle_insertAfterRoot_iff {s rule : List Char}
    (hroot : ∀ head, rootHead? s = some head → ¬ styleStart <:+: head)
    (hend : Ahead styleEnd rule) (hrule : Free remoteReference rule) :
    NoRemoteStyle (insertAfterRootText s (styleElement rule)) ↔ NoRemoteStyle s := by
  have hblock : StyleBlock.Written ⟨"<style>".toList, rule⟩ (styleElement rule) :=
    ⟨⟨⟨[], by simp, by simp⟩, rfl⟩, hend, rfl⟩
  have hstyle (w : List Char) : NoRemoteStyle (styleElement rule ++ w) ↔ NoRemoteStyle w := by
    rw [NoRemoteStyle, styleBlocks_match hblock, List.forall_mem_cons]
    exact and_iff_right hrule
  have hhead {head : List Char} (w : List Char) (hh : ¬ styleStart <:+: head) :
      NoRemoteStyle (head ++ '>' :: w) ↔ NoRemoteStyle w := by
    rw [NoRemoteStyle, styleBlocks_append_bracket hh]
    rfl
  rw [insertAfterRootText]
  split
  case h_1 => rfl
  case h_2 ahead rest hahead =>
    split
    case h_1 => rfl
    case h_2 attributes behind hattributes =>
      have hopen : ¬ styleStart <:+: ahead ++ rootStart ++ attributes := by
        refine hroot _ ?_
        simp only [rootHead?, hahead, hattributes, Option.bind_eq_bind, Option.bind_some,
          Option.pure_def]
      have hs : s = ahead ++ rootStart ++ attributes ++ '>' :: behind := by
        rw [(exists_ahead hahead).1, (exists_ahead hattributes).1]
        simp
      rw [hs, hhead behind hopen]
      split
      case isTrue =>
        -- The root closed itself: the slash goes, and a closing tag comes behind the style.
        have hstem : ¬ styleStart <:+: ahead ++ rootStart ++ attributes.dropLast := fun hin =>
          hopen (hin.trans ((List.prefix_append_right_inj _).mpr
            (List.dropLast_prefix attributes)).isInfix)
        have hclosed : ¬ styleStart <:+: "</svg".toList := by decide
        rw [List.append_assoc, List.append_assoc _ ('>' :: _), List.cons_append, hhead _ hstem]
        exact (hstyle _).trans (hhead behind hclosed)
      case isFalse =>
        rw [List.append_assoc _ ('>' :: _), List.cons_append, hhead _ hopen]
        exact hstyle behind

end DiagramDesk.Svg
