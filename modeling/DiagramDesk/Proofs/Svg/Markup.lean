import DiagramDesk.Svg.Markup
import DiagramDesk.Proofs.Text.Scan

/-!
Places in markup, described by their text: tags, style blocks and picture elements. Each
pattern finds exactly the texts described, so it looks at no more than it takes.
-/
namespace DiagramDesk.Svg

open Text

/-! ### Tags -/

section Tags

variable {name : List Char}

/-- A tag of some name: what stands between the name and the first closing bracket. -/
structure TagText (name : List Char) where
  attributes : List Char
  closed : '>' ∉ attributes
  boundary : ∀ c ∈ attributes.head?, isWord c = false

def TagText.text (t : TagText name) : List Char := '<' :: name ++ t.attributes ++ ['>']

theorem opensTag_append (rest : List Char) (h : ∀ c ∈ rest.head?, isWord c = false) :
    opensTag name ('<' :: name ++ rest) = true := by
  have hprefix : startsWith ('<' :: name ++ rest) ('<' :: name) = true := by
    rw [startsWith, List.isPrefixOf_iff_prefix]
    exact List.prefix_append _ _
  have hdrop : ('<' :: name ++ rest).drop (name.length + 1) = rest := List.drop_left
  rw [opensTag, hprefix, hdrop, Bool.true_and]
  cases rest with
  | nil => rfl
  | cons c rest => simpa using h

theorem exists_of_opensTag {s : List Char} (h : opensTag name s = true) :
    ∃ rest, s = '<' :: name ++ rest ∧ ∀ c ∈ rest.head?, isWord c = false := by
  rw [opensTag, Bool.and_eq_true, startsWith, List.isPrefixOf_iff_prefix] at h
  obtain ⟨⟨rest, rfl⟩, hb⟩ := h
  have hdrop : ('<' :: name ++ rest).drop (name.length + 1) = rest := List.drop_left
  rw [hdrop] at hb
  refine ⟨rest, rfl, ?_⟩
  cases rest with
  | nil => simp
  | cons c rest => simpa using hb

/-- The attributes end a tag's name. -/
theorem TagText.opensTag_text (t : TagText name) (rest : List Char) :
    opensTag name (t.text ++ rest) = true := by
  have hb : ∀ c ∈ (t.attributes ++ '>' :: rest).head?, isWord c = false := by
    have h := t.boundary
    cases hs : t.attributes with
    | nil =>
      intro c hc
      obtain rfl : '>' = c := by simpa using hc
      decide
    | cons c attributes => simpa [hs] using h
  simpa [text] using opensTag_append _ hb

theorem TagText.tag?_text (t : TagText name) (hname : '>' ∉ name) (rest : List Char) :
    tag? name (t.text ++ rest) = some (t.text, rest) := by
  have hahead : Ahead ['>'] ('<' :: name ++ t.attributes) :=
    ahead_of_not_mem (by simp [hname, t.closed])
  have hsplit : splitOnce ['>'] (t.text ++ rest) = some ('<' :: name ++ t.attributes, rest) :=
    splitOnce_ahead rest (List.cons_ne_nil _ _) hahead
  rw [tag?, if_pos (t.opensTag_text rest), upTo, hsplit]
  rfl

theorem exists_tag (hname : '>' ∉ name) {s opening rest : List Char}
    (h : tag? name s = some (opening, rest)) :
    ∃ t : TagText name, t.text = opening ∧ s = opening ++ rest := by
  rw [tag?] at h
  split at h
  case isFalse => cases h
  case isTrue hopens =>
    obtain ⟨⟨front, rest⟩, hsplit, he⟩ := Option.map_eq_some_iff.mp h
    cases he
    obtain ⟨hs, hahead⟩ := exists_ahead hsplit
    obtain ⟨behind, hs', hb⟩ := exists_of_opensTag hopens
    have hprefix : '<' :: name <+: front := by
      rw [hs', List.append_assoc front, List.append_eq_append_iff] at hs
      obtain ⟨attributes, hfront, -⟩ | ⟨more, hmore, hrest⟩ := hs
      · exact ⟨attributes, hfront.symm⟩
      · cases more with
        | nil => exact ⟨[], by rw [hmore]; simp⟩
        | cons c more =>
          rw [List.singleton_append, List.cons_append, List.cons.injEq] at hrest
          have hc : '>' ∈ '<' :: name := by rw [hmore, hrest.1]; simp
          exact absurd hc (by simp [hname])
    obtain ⟨attributes, rfl⟩ := hprefix
    have hmem := not_mem_of_ahead hahead
    refine ⟨⟨attributes, fun hc => hmem (by simp [hc]), ?_⟩, rfl, hs⟩
    rw [hs', List.append_assoc, List.append_assoc, List.append_cancel_left_eq] at hs
    rw [hs] at hb
    cases attributes with
    | nil => simp
    | cons c attributes => simpa using hb

end Tags

/-! ### Style blocks and picture elements -/

/-- What a style block is: a tag, a body, and the first closing tag behind the tag. -/
structure StyleBlock.Written (b : StyleBlock) (v : List Char) : Prop where
  opening : ∃ t : TagText "style".toList, t.text = b.opening
  body : Ahead styleEnd b.body
  text : v = b.opening ++ b.body ++ styleEnd

theorem styleBlock_iff (s : List Char) (b : StyleBlock) (n : Nat) :
    styleBlock s = some (b, n) ↔ ∃ v w, s = v ++ w ∧ v.length = n ∧ b.Written v := by
  have hname : '>' ∉ "style".toList := by decide
  constructor
  · intro h
    simp only [styleBlock, Option.bind_eq_bind, Option.bind_eq_some_iff, Prod.exists,
      Option.pure_def, Option.some.injEq, Prod.mk.injEq] at h
    obtain ⟨opening, rest, ht, body, behind, hbody, rfl, rfl⟩ := h
    obtain ⟨t, rfl, rfl⟩ := exists_tag hname ht
    obtain ⟨rfl, hahead⟩ := exists_ahead hbody
    exact ⟨t.text ++ body ++ styleEnd, behind, by simp, by simp [Nat.add_assoc], ⟨t, rfl⟩,
      hahead, rfl⟩
  · rintro ⟨v, w, rfl, rfl, ⟨t, ht⟩, hbody, rfl⟩
    have hsplit := splitOnce_ahead w (by decide : styleEnd ≠ []) hbody
    have htag := t.tag?_text hname (b.body ++ styleEnd ++ w)
    rw [ht, ← List.append_assoc, ← List.append_assoc] at htag
    simp only [styleBlock, htag, hsplit, Option.bind_eq_bind, Option.bind_some, Option.pure_def,
      List.length_append]

theorem styleBlock_local : Pattern.Local styleBlock := by
  refine .of_iff (fun v (b : StyleBlock) (hv : b.Written v) => ?_) styleBlock_iff
  rw [hv.text]
  exact List.append_ne_nil_of_right_ne_nil _ (by decide)

def imageEnd : List Char := "</image>".toList

/-- What a picture element is: a tag that closes itself, or else a tag and everything up to the
first closing tag behind it. -/
inductive ImageText : List Char → Prop where
  | lone (t : TagText "image".toList) (h : endsWith t.text ['/', '>'] = true) : ImageText t.text
  | pair (t : TagText "image".toList) (h : endsWith t.text ['/', '>'] = false) (inner : List Char)
    (hinner : Ahead imageEnd inner) : ImageText (t.text ++ inner ++ imageEnd)

theorem imageElement_eq (s : List Char) :
    imageElement s = (tag? "image".toList s).bind fun x =>
      if endsWith x.1 ['/', '>'] = true then some ((), x.1.length)
      else (upTo imageEnd x.2).bind fun y => some ((), x.1.length + y.1.length) := rfl

theorem imageElement_iff (s : List Char) (u : Unit) (n : Nat) :
    imageElement s = some (u, n) ↔ ∃ v w, s = v ++ w ∧ v.length = n ∧ ImageText v := by
  have hname : '>' ∉ "image".toList := by decide
  have hne : imageEnd ≠ [] := by decide
  rw [imageElement_eq]
  constructor
  · intro h
    obtain ⟨⟨opening, rest⟩, ht, hm⟩ := Option.bind_eq_some_iff.mp h
    obtain ⟨t, rfl, rfl⟩ := exists_tag hname ht
    split at hm
    case isTrue hend =>
      cases hm
      exact ⟨t.text, rest, rfl, rfl, .lone t hend⟩
    case isFalse hend =>
      obtain ⟨⟨closed, behind⟩, hclosed, hm⟩ := Option.bind_eq_some_iff.mp hm
      cases hm
      obtain ⟨inner, rfl, rfl, hinner⟩ := exists_upTo hclosed
      refine ⟨t.text ++ inner ++ imageEnd, behind, ?_, ?_,
        .pair t (Bool.eq_false_iff.mpr hend) inner hinner⟩
      · simp only [List.append_assoc]
      · simp only [List.length_append, Nat.add_assoc]
  · rintro ⟨v, w, rfl, rfl, hv⟩
    cases hv with
    | lone t hend => rw [t.tag?_text hname w, Option.bind_some, if_pos hend]
    | pair t hend inner hinner =>
      rw [List.append_assoc t.text, List.append_assoc t.text, t.tag?_text hname, Option.bind_some,
        if_neg (Bool.eq_false_iff.mp hend), upTo_ahead w hne hinner, Option.bind_some]
      simp only [List.length_append]

theorem imageElement_local : Pattern.Local imageElement := by
  refine .of_iff (fun v _ (hv : ImageText v) => ?_) imageElement_iff
  cases hv with
  | lone t => exact List.cons_ne_nil _ _
  | pair t => exact List.cons_ne_nil _ _

end DiagramDesk.Svg
