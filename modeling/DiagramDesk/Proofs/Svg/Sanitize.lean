import DiagramDesk.Proofs.Svg.Styles

/-!
Sanitizing. Picture elements are taken out of a text, then references to remote files out
of its styles, each in one pass. A text stays as it is exactly if it holds neither. What
is left of any other text holds neither as long as no removal puts one together, or a
closing style tag.
-/
namespace DiagramDesk.Svg

open Text

/-- Markup without picture elements, and without references to remote files in its styles. -/
structure Clean (s : List Char) : Prop where
  image : Free imageElement s
  styles : NoRemoteStyle s

def withoutImages (s : List Char) : List Char := replaceAll imageElement (fun _ => []) s

theorem toList_sanitize (svg : String) : (sanitize svg).toList = sanitizeText svg.toList :=
  String.toList_ofList

/-! ### Texts that stay as they are -/

section Stay

variable {f : List Char → List Char}

theorem mapStyles_eq_self {s : List Char} (h : ∀ b ∈ styleBlocks s, f b.body = b.body) :
    mapStyles f s = s := by
  induction s using styleBlocks_induction with
  | nil => simp [mapStyles, replaceAll, spans]
  | block b v w hb ih =>
    rw [styleBlocks_match hb, List.forall_mem_cons] at h
    rw [mapStyles_match hb, h.1, ih h.2, ← hb.text]
  | char c s hm ih =>
    rw [styleBlocks_cons hm] at h
    rw [mapStyles_cons hm, ih h]

/-- Rewriting that makes no body longer makes the text shorter, unless all bodies keep their
length. -/
theorem length_mapStyles (hf : ∀ body, (f body).length ≤ body.length) (s : List Char) :
    (mapStyles f s).length ≤ s.length ∧ ((mapStyles f s).length = s.length →
      ∀ b ∈ styleBlocks s, (f b.body).length = b.body.length) := by
  induction s using styleBlocks_induction with
  | nil => simp [mapStyles, replaceAll, spans]
  | block b v w hb ih =>
    have hbody := hf b.body
    have hw := ih.1
    rw [mapStyles_match hb, styleBlocks_match hb, hb.text, List.forall_mem_cons]
    simp only [List.length_append]
    exact ⟨by omega, fun he => ⟨by omega, ih.2 (by omega)⟩⟩
  | char c s hm ih =>
    rw [mapStyles_cons hm, styleBlocks_cons hm]
    simp only [List.length_cons, Nat.add_le_add_iff_right, Nat.add_right_cancel_iff]
    exact ih

end Stay

/-- Exactly the clean texts stay as they are. -/
theorem sanitizeText_eq_self_iff (s : List Char) : sanitizeText s = s ↔ Clean s := by
  have himages := imageElement_local.length_remove s
  have hbodies := length_mapStyles
    (fun body => (remoteReference_local.length_remove body).1) (withoutImages s)
  constructor
  · intro h
    have hlength := congrArg List.length h
    rw [sanitizeText] at hlength
    rw [withoutImages] at hbodies
    have hfree := himages.2 (le_antisymm himages.1 (hlength ▸ hbodies.1))
    rw [replaceAll_of_free _ hfree] at hlength hbodies
    exact ⟨hfree, fun b hb => (remoteReference_local.length_remove b.body).2
      (hbodies.2 hlength b hb)⟩
  · intro h
    rw [sanitizeText, replaceAll_of_free _ h.image]
    exact mapStyles_eq_self fun b hb => replaceAll_of_free _ (h.styles b hb)

theorem sanitize_eq_self_iff (svg : String) : sanitize svg = svg ↔ Clean svg.toList := by
  rw [← sanitizeText_eq_self_iff, ← toList_sanitize, String.toList_inj]

/-! ### What is left of a text -/

/-- What is left of a text, if taking out its picture elements puts none together, and taking out
references puts no closing style tag together. It is clean exactly if taking out references puts
no picture element and no reference together, and exactly then sanitizing again changes nothing. -/
theorem sanitize_clean_iff (svg : String)
    (himages : joins imageElement (fun _ => []) [] (spans imageElement svg.toList) = false)
    (hstyles : KeepsStyles (fun _ => []) (withoutImages svg.toList)) :
    (Clean (sanitize svg).toList ↔
      joins imageElement (fun _ => []) [] (styleReferences (withoutImages svg.toList)) = false ∧
        KeepsReferences (fun _ => []) (withoutImages svg.toList)) ∧
    (Clean (sanitize svg).toList ↔ sanitize (sanitize svg) = sanitize svg) := by
  have hfree : Free imageElement (withoutImages svg.toList) :=
    (imageElement_local.free_replaceAll_iff _ _ fun _ h => absurd rfl h).mpr himages
  have himage := imageElement_local.free_flatMap_iff_of_spells (g := fun _ => [])
    spells_styleReferences hfree fun _ h => absurd rfl h
  have hstyle := noRemoteStyle_iff (g := fun _ => []) (fun _ h => absurd rfl h)
    (fun _ h => absurd rfl h) hstyles
  rw [flatMap_styleReferences] at himage
  refine ⟨?_, (sanitize_eq_self_iff _).symm⟩
  rw [toList_sanitize, ← himage, ← hstyle]
  exact ⟨fun h => ⟨h.image, h.styles⟩, fun h => ⟨h.1, h.2⟩⟩

/-- Two picture elements and a style with a remote and a local reference. -/
def picturesAndFont : String :=
  "<svg><image href=\"https://x/p.png\"/><image href=\"a\"></image>" ++
    "<style>a\x7bsrc:url('https://x/f.woff2')\x7d b\x7bfill:url(#grad)\x7d</style></svg>"

/-- A picture element inside the name of another one's tag. -/
def splitImage : String := "<svg><ima<image/>ge href=\"https://x/p.png\"/></svg>"

theorem picturesAndFont_clean :
    (joins imageElement (fun _ => []) [] (spans imageElement picturesAndFont.toList) = false ∧
      KeepsStyles (fun _ => []) (withoutImages picturesAndFont.toList)) ∧
    Clean (sanitize picturesAndFont).toList ∧
    sanitize (sanitize picturesAndFont) = sanitize picturesAndFont := by
  have himages : joins imageElement (fun _ => []) []
      (spans imageElement picturesAndFont.toList) = false := by decide +kernel
  have hstyles : KeepsStyles (fun _ => []) (withoutImages picturesAndFont.toList) := by
    decide +kernel
  obtain ⟨hclean, hagain⟩ := sanitize_clean_iff picturesAndFont himages hstyles
  have h := hclean.mpr (by decide +kernel)
  exact ⟨⟨himages, hstyles⟩, h, hagain.mp h⟩

/-- Taking the inner element out puts the outer one together, and only the next pass takes that
out. -/
theorem splitImage_not_clean :
    sanitize splitImage = "<svg><image href=\"https://x/p.png\"/></svg>" ∧
    ¬ Clean (sanitize splitImage).toList ∧
    sanitize (sanitize splitImage) = "<svg></svg>" := by
  have h : sanitize splitImage = "<svg><image href=\"https://x/p.png\"/></svg>" := by
    decide +kernel
  have hagain : sanitize (sanitize splitImage) = "<svg></svg>" := by decide +kernel
  refine ⟨h, ?_, hagain⟩
  rw [← sanitize_eq_self_iff, hagain, h]
  decide

end DiagramDesk.Svg
