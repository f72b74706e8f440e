import DiagramDesk.Proofs.Svg.Markup
import DiagramDesk.Proofs.Svg.Reference

/-!
Style blocks when their bodies are rewritten. As long as no new body holds a closing tag,
the blocks of the new text are those of the old one with their new bodies.
-/
namespace DiagramDesk.Svg

open Text

def styleBlocks (s : List Char) : List StyleBlock :=
  (spans styleBlock s).filterMap fun
    | .char _ => none
    | .found b => some b

/-- No style block of a text holds a reference to a remote file. -/
def NoRemoteStyle (s : List Char) : Prop := ∀ b ∈ styleBlocks s, Free remoteReference b.body

instance (s : List Char) : Decidable (NoRemoteStyle s) :=
  inferInstanceAs (Decidable (∀ b ∈ styleBlocks s, _))

/-! ### Finding a block -/

/-- Which tag opens at the head of a text is settled by a first part that holds a character which
is not in the name. -/
theorem opensTag_congr {name u x : List Char} {c : Char} (hc : c ∈ u) (hname : c ∉ '<' :: name)
    (y : List Char) (h : opensTag name (u ++ x) = true) : opensTag name (u ++ y) = true := by
  obtain ⟨rest, hs, hb⟩ := exists_of_opensTag h
  rw [List.append_eq_append_iff] at hs
  obtain ⟨z, hz, -⟩ | ⟨z, rfl, rfl⟩ := hs
  · exact absurd (hz ▸ List.mem_append_left z hc) hname
  · cases z with
    | nil => exact absurd (by simpa using hc) hname
    | cons d z =>
      rw [List.append_assoc]
      exact opensTag_append _ (by simpa using hb)

/-- A style tag that is closed, with a closing tag behind it, opens a block. -/
theorem styleBlock_ne_none {s u m w : List Char} (hopens : opensTag "style".toList s = true)
    (hs : s = u ++ '>' :: (m ++ styleEnd ++ w)) : styleBlock s ≠ none := by
  have hbracket : ['>'] <:+: s := ⟨u, m ++ styleEnd ++ w, by rw [hs]; simp⟩
  obtain ⟨front, rest, hfront⟩ := exists_splitOnce hbracket
  have htag : tag? "style".toList s = some (front ++ ['>'], rest) := by
    rw [tag?, if_pos hopens, upTo, hfront, Option.map_some]
  obtain ⟨hsplit, hahead⟩ := exists_ahead hfront
  have hrest : m ++ styleEnd ++ w <:+ rest := by
    rw [hs, List.append_assoc front, List.singleton_append, List.append_eq_append_iff] at hsplit
    obtain ⟨z, hz, h⟩ | ⟨z, hz, h⟩ := hsplit
    · cases z with
      | nil => exact (List.cons.inj h).2 ▸ List.suffix_rfl
      | cons c z =>
        -- The bracket would stand ahead of the first one.
        have hc : '>' ∈ front := by rw [hz, ← (List.cons.inj h).1]; simp
        exact absurd hc (not_mem_of_ahead hahead)
    · cases z with
      | nil => exact (List.cons.inj h).2 ▸ List.suffix_rfl
      | cons c z => exact ⟨z ++ ['>'], by rw [(List.cons.inj h).2]; simp⟩
  obtain ⟨y, hy⟩ := hrest
  have hend : styleEnd <:+: rest := ⟨y ++ m, w, by rw [← hy]; simp⟩
  obtain ⟨body, behind, hbody⟩ := exists_splitOnce hend
  intro hnone
  simp only [styleBlock, htag, hbody, Option.bind_eq_bind, Option.bind_some, Option.pure_def,
    reduceCtorEq] at hnone

theorem written_of_match {v w : List Char} {b : StyleBlock}
    (h : styleBlock (v ++ w) = some (b, v.length)) : b.Written v := by
  obtain ⟨v', w', hs, hn, hb⟩ := (styleBlock_iff _ _ _).mp h
  rwa [(List.append_inj hs.symm hn).1] at hb

theorem StyleBlock.Written.styleBlock_append {b : StyleBlock} {v : List Char} (h : b.Written v)
    (w : List Char) : styleBlock (v ++ w) = some (b, v.length) :=
  (styleBlock_iff _ _ _).mpr ⟨v, w, rfl, rfl, h⟩

/-- The bracket that closes the tag, and the body and the closing tag behind it. -/
theorem StyleBlock.Written.exists_eq {b : StyleBlock} {v : List Char} (h : b.Written v) :
    ∃ u, b.opening = u ++ ['>'] ∧ v = u ++ '>' :: (b.body ++ styleEnd) := by
  obtain ⟨t, ht⟩ := h.opening
  refine ⟨'<' :: "style".toList ++ t.attributes, ht.symm, ?_⟩
  rw [h.text, ← ht, TagText.text]
  simp only [List.append_assoc, List.cons_append, List.nil_append]

section Blocks

variable {c : Char} {s v w : List Char} {b : StyleBlock}

@[simp] theorem styleBlocks_nil : styleBlocks [] = [] := by simp [styleBlocks, spans]

theorem styleBlocks_match (h : b.Written v) : styleBlocks (v ++ w) = b :: styleBlocks w := by
  rw [styleBlocks, styleBlock_local.spans_of_match (h.styleBlock_append w)]
  rfl

theorem styleBlocks_cons (h : styleBlock (c :: s) = none) :
    styleBlocks (c :: s) = styleBlocks s := by
  simp only [styleBlocks, spans, h, List.filterMap_cons]

theorem styleBlocks_append (h : crosses styleBlock v w = false) :
    styleBlocks (v ++ w) = styleBlocks v ++ styleBlocks w := by
  rw [styleBlocks, styleBlock_local.spans_append h, List.filterMap_append]
  rfl

theorem styleBlocks_of_free (h : Free styleBlock s) : styleBlocks s = [] := by
  rw [styleBlocks, spans_of_free h, List.filterMap_map]
  exact List.filterMap_eq_nil_iff.mpr fun _ _ => rfl

/-- Scanning a text for style blocks, step by step. -/
theorem styleBlocks_induction {motive : List Char → Prop} (nil : motive [])
    (block : ∀ (b : StyleBlock) (v w : List Char), b.Written v → motive w → motive (v ++ w))
    (char : ∀ c s, styleBlock (c :: s) = none → motive s → motive (c :: s)) : ∀ s, motive s := by
  intro s
  induction s using styleBlock_local.spans_induction with
  | nil => exact nil
  | found b v w hm _ ih => exact block b v w (written_of_match hm) ih
  | char c s hm ih => exact char c s hm ih

theorem exists_written (h : b ∈ styleBlocks s) : ∃ v, b.Written v := by
  induction s using styleBlocks_induction with
  | nil => simp at h
  | block b' v w hb ih =>
    rw [styleBlocks_match hb, List.mem_cons] at h
    obtain rfl | h := h
    · exact ⟨v, hb⟩
    · exact ih h
  | char c s hm ih => exact ih (styleBlocks_cons hm ▸ h)

end Blocks

/-! ### Rewriting bodies -/

section Rewriting

variable {f : List Char → List Char} {c : Char} {s v w : List Char} {b : StyleBlock}

theorem mapStyles_match (h : b.Written v) :
    mapStyles f (v ++ w) = b.opening ++ f b.body ++ styleEnd ++ mapStyles f w := by
  rw [mapStyles, replaceAll, styleBlock_local.spans_of_match (h.styleBlock_append w),
    List.flatMap_cons, Span.text]
  rfl

theorem mapStyles_cons (h : styleBlock (c :: s) = none) :
    mapStyles f (c :: s) = c :: mapStyles f s := by
  simp only [mapStyles, replaceAll, spans, h, List.flatMap_cons, Span.text, List.singleton_append]

/-- A text up to its first style block, which rewriting leaves as it is. -/
theorem mapStyles_cases (f : List Char → List Char) (s : List Char) :
    mapStyles f s = s ∨ ∃ (run v rest : List Char) (b : StyleBlock), b.Written v ∧
      s = run ++ (v ++ rest) ∧
      mapStyles f s = run ++ (b.opening ++ f b.body ++ styleEnd ++ mapStyles f rest) := by
  induction s using styleBlocks_induction with
  | nil => exact .inl (by simp [mapStyles, replaceAll, spans])
  | block b v w hb _ => exact .inr ⟨[], v, w, b, hb, rfl, mapStyles_match hb⟩
  | char c s hm ih =>
    obtain h | ⟨run, v, rest, b, hb, hs, h⟩ := ih
    · exact .inl (by rw [mapStyles_cons hm, h])
    · exact .inr ⟨c :: run, v, rest, b, hb, by rw [hs]; rfl, by rw [mapStyles_cons hm, h]; rfl⟩

/-- Where no block opened none opens when the bodies behind are rewritten. -/
theorem styleBlock_mapStyles (f : List Char → List Char) (h : styleBlock (c :: s) = none) :
    styleBlock (c :: mapStyles f s) = none := by
  obtain he | ⟨run, v, rest, b, hb, hs, he⟩ := mapStyles_cases f s
  · rwa [he]
  obtain ⟨u, hu, hv⟩ := hb.exists_eq
  cases hm : styleBlock (c :: mapStyles f s) with
  | none => rfl
  | some m =>
    obtain ⟨v', w', hs', -, hb'⟩ := (styleBlock_iff _ m.1 m.2).mp hm
    obtain ⟨t, ht⟩ := hb'.opening
    have hopens := t.opensTag_text (m.1.body ++ styleEnd ++ w')
    rw [ht, ← List.append_assoc, ← List.append_assoc, ← hb'.text, ← hs', he, hu] at hopens
    -- The tag opens ahead of the end of the next block's tag, so it opened before.
    have hopens' : opensTag "style".toList
        ((c :: run ++ (u ++ ['>'])) ++ (b.body ++ styleEnd ++ rest)) = true := by
      refine opensTag_congr (c := '>') (by simp) (by decide) _ (x := f b.body ++ styleEnd ++
        mapStyles f rest) ?_
      simpa using hopens
    refine absurd h (styleBlock_ne_none (u := c :: run ++ u) (m := b.body) (w := rest) ?_ ?_)
    · rw [hs, hv]
      simpa using hopens'
    · rw [hs, hv]
      simp

def StyleBlock.map (f : List Char → List Char) (b : StyleBlock) : StyleBlock where
  opening := b.opening
  body := f b.body

theorem StyleBlock.Written.map (h : b.Written v) (hf : Ahead styleEnd (f b.body)) :
    (b.map f).Written (b.opening ++ f b.body ++ styleEnd) :=
  ⟨h.opening, hf, rfl⟩

/-- The blocks of a text whose bodies were rewritten. -/
theorem styleBlocks_mapStyles (hf : ∀ b ∈ styleBlocks s, Ahead styleEnd (f b.body)) :
    styleBlocks (mapStyles f s) = (styleBlocks s).map (StyleBlock.map f) := by
  induction s using styleBlocks_induction with
  | nil => simp [mapStyles, replaceAll, spans]
  | block b v w hb ih =>
    rw [styleBlocks_match hb, List.forall_mem_cons] at hf
    rw [mapStyles_match hb, styleBlocks_match (hb.map hf.1), styleBlocks_match hb, ih hf.2,
      List.map_cons]
  | char c s hm ih =>
    rw [styleBlocks_cons hm] at hf
    rw [mapStyles_cons hm, styleBlocks_cons (styleBlock_mapStyles f hm), styleBlocks_cons hm, ih hf]

theorem noRemoteStyle_mapStyles_iff (hf : ∀ b ∈ styleBlocks s, Ahead styleEnd (f b.body)) :
    NoRemoteStyle (mapStyles f s) ↔ ∀ b ∈ styleBlocks s, Free remoteReference (f b.body) := by
  rw [NoRemoteStyle, styleBlocks_mapStyles hf, List.forall_mem_map]
  rfl

end Rewriting

/-! ### Replacing references -/

/-- The pieces of a text with the references in its styles. -/
def styleReferences (s : List Char) : List (Span (List Char)) :=
  (spans styleBlock s).flatMap fun
    | .char c => [.char c]
    | .found b => b.opening.map .char ++ spans remoteReference b.body ++ styleEnd.map .char

/-- No closing style tag is put together when the references of the styles are replaced. -/
def KeepsStyles (g : List Char → List Char) (s : List Char) : Prop :=
  ∀ b ∈ styleBlocks s, joins (literal styleEnd) g [] (spans remoteReference b.body) = false

/-- No reference is put together when the references of the styles are replaced. -/
def KeepsReferences (g : List Char → List Char) (s : List Char) : Prop :=
  ∀ b ∈ styleBlocks s, joins remoteReference g [] (spans remoteReference b.body) = false

instance (g : List Char → List Char) (s : List Char) : Decidable (KeepsStyles g s) :=
  inferInstanceAs (Decidable (∀ b ∈ styleBlocks s, _))

instance (g : List Char → List Char) (s : List Char) : Decidable (KeepsReferences g s) :=
  inferInstanceAs (Decidable (∀ b ∈ styleBlocks s, _))

section Replacing

variable {g : List Char → List Char} {s : List Char}

theorem flatMap_styleReferences :
    (styleReferences s).flatMap (Span.text g) = mapStyles (replaceAll remoteReference g) s := by
  rw [styleReferences, mapStyles, replaceAll, List.flatMap_assoc]
  refine List.flatMap_congr fun x _ => ?_
  cases x with
  | char c => simp [Span.text]
  | found b => simp [Span.text, replaceAll]

theorem spells_styleReferences : Spells (styleReferences s) s := by
  induction s using styleBlock_local.spans_induction with
  | nil => rw [styleReferences, spans]; exact .nil
  | found b v w hm _ ih =>
    rw [styleReferences, styleBlock_local.spans_of_match hm, List.flatMap_cons,
      (written_of_match hm).text]
    exact (((Spells.run _).append (remoteReference_local.spells_spans _)).append
      (Spells.run _)).append ih
  | char c s hm ih =>
    rw [styleReferences]
    simp only [spans, hm, List.flatMap_cons]
    exact ih.char c

theorem styleEnd_local : (literal styleEnd).Local := literal_local (by decide)

theorem ahead_styleEnd_iff : Ahead styleEnd s ↔ Free (literal styleEnd) s := by
  have hstart : '<' ∉ "/style>".toList := by decide
  exact ahead_iff_free hstart

/-- If replacing references puts no closing tag together, it leaves a reference in a style block
exactly if it puts one together. -/
theorem noRemoteStyle_iff (hg : ∀ a, g a ≠ [] → Inert remoteReference (g a))
    (hend : ∀ a, g a ≠ [] → Inert (literal styleEnd) (g a)) (h : KeepsStyles g s) :
    NoRemoteStyle (mapStyles (replaceAll remoteReference g) s) ↔ KeepsReferences g s := by
  rw [noRemoteStyle_mapStyles_iff]
  · exact forall₂_congr fun b _ => remoteReference_local.free_replaceAll_iff g b.body hg
  · intro b hb
    obtain ⟨v, hv⟩ := exists_written hb
    rw [ahead_styleEnd_iff]
    exact (styleEnd_local.free_flatMap_iff_of_spells (remoteReference_local.spells_spans b.body)
      (ahead_styleEnd_iff.mp hv.body) hend).mpr (h b hb)

end Replacing

end DiagramDesk.Svg
