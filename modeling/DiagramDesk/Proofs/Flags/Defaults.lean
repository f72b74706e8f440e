import DiagramDesk.Flags.Defaults
import DiagramDesk.Proofs.Files.Tree
import DiagramDesk.Proofs.Flags.Saved

/-!
Defaults on disk. What is kept is read back, and it is what was given unless a page or a path is
empty or has a blank in it: lines are cut at blanks, and nothing marks where a value ends. What is
cleared gives no flags any more. Neither keeping nor clearing changes a text in another file.
-/
namespace DiagramDesk.Flags

variable {files : FileTree} {path : String}

/-! ### Files -/

theorem load_of_readText {text : String} (h : files.readText path = .ok text) :
    load files path = .ok (ofText text) := by
  rw [load, if_pos (FileTree.present_of_readText h), h]
  rfl

theorem load_of_not_present (h : files.present path = false) : load files path = .ok {} := by
  rw [load, h, if_neg Bool.false_ne_true]

/-- Flags are kept in a file that is written once its directories are there. -/
theorem exists_write_of_save {f : Flags} (h : (f.save files path).1 = .ok ()) :
    ∃ before : FileTree, files.Keeps before ∧
      before.write path (.ofText f.text) = .ok (f.save files path).2 := by
  unfold save at h ⊢
  split at h
  rename_i made before hmade
  have hkeeps : files.Keeps before := by
    split at hmade
    case h_1 parent _ =>
      obtain ⟨-, rfl⟩ := Prod.mk.inj hmade
      exact files.keeps_makeDirectories parent
    case h_2 =>
      obtain ⟨-, rfl⟩ := Prod.mk.inj hmade
      exact .refl files
  cases made with
  | error trouble => cases h
  | ok _ =>
    cases hwrite : before.write path (.ofText f.text) with
    | error fault =>
      simp only [hwrite] at h
      cases h
    | ok after => exact ⟨before, hkeeps, by simp only [hwrite]⟩

theorem load_save {f : Flags} (h : (f.save files path).1 = .ok ()) :
    load (f.save files path).2 path = .ok (ofText f.text) := by
  obtain ⟨_, -, hwrite⟩ := exists_write_of_save h
  exact load_of_readText (FileTree.readText_write hwrite)

/-- A text stays in its file when flags are kept in another one. -/
theorem readText_save_other {f : Flags} {other text : String}
    (h : (f.save files path).1 = .ok ()) (htext : files.readText other = .ok text) :
    (f.save files path).2.readText other = .ok text ∨ (f.save files path).2.Meet path other := by
  obtain ⟨_, hkeeps, hwrite⟩ := exists_write_of_save h
  exact FileTree.readText_write_other hwrite (hkeeps.readText htext)

theorem meet_save {f : Flags} {first second : String} (h : (f.save files path).1 = .ok ())
    (hmeet : files.Meet first second) : (f.save files path).2.Meet first second := by
  obtain ⟨_, hkeeps, hwrite⟩ := exists_write_of_save h
  exact FileTree.meet_write hwrite (hkeeps.meet hmeet)

/-- A file of defaults is cleared by removing it, if it is there. -/
theorem clear_eq_ok {after : FileTree} (h : clear files path = .ok after) :
    files.remove path = .ok after ∨ files.present path = false ∧ after = files := by
  unfold clear at h
  split at h
  case isTrue =>
    left
    cases hremove : files.remove path with
    | error fault =>
      rw [hremove] at h
      cases h
    | ok removed =>
      rw [hremove] at h
      exact congrArg Except.ok (Except.ok.inj h)
  case isFalse habsent => exact .inr ⟨by simpa using habsent, (Except.ok.inj h).symm⟩

theorem load_clear {after : FileTree} (h : clear files path = .ok after) :
    load after path = .ok {} := by
  obtain hremove | ⟨habsent, rfl⟩ := clear_eq_ok h
  · exact load_of_not_present (FileTree.present_remove hremove)
  · exact load_of_not_present habsent

/-- A text stays in its file when another file of defaults is cleared. -/
theorem readText_clear_other {after : FileTree} {other text : String}
    (h : clear files path = .ok after) (htext : files.readText other = .ok text) :
    after.readText other = .ok text ∨ after.Meet path other := by
  obtain hremove | ⟨-, rfl⟩ := clear_eq_ok h
  · exact FileTree.readText_remove_other hremove htext
  · exact .inl htext

/-- Flags that were kept in a file are read from it again, and they are what was given exactly if
page and path are words. -/
theorem load_save_iff (f : Flags) (files : FileTree) (path : String) (hrange : f.InRange)
    (hsaved : (f.save files path).1 = .ok ()) :
    ∃ g, load (f.save files path).2 path = .ok g ∧
      (g = f ↔ (∀ u ∈ f.baseUrl, IsWord u) ∧ ∀ d ∈ f.debugLog, IsWord d) := by
  exact ⟨ofText f.text, load_save hsaved, ofText_text_iff f hrange⟩

/-- Flags with a page and a path that are words, kept in a file that was not there. -/
theorem full_flags_come_back :
    let f : Flags :=
      { perf := true, randomSeed := true, theme := some .dark, look := some .handDrawn
        handFont := some .kalam, fontSize := some .small, seed := some 1234
        scale := some ⟨0x40200000⟩, background := some .checker, lang := some .zh
        baseUrl := some "https://example.com/pad/", debugLog := some "render.log" }
    f.InRange ∧ (f.save {} ".mermaidpadrc").1 = .ok () ∧
      load (f.save {} ".mermaidpadrc").2 ".mermaidpadrc" = .ok f := by
  intro f
  have hrange : f.InRange :=
    ⟨by rintro n ⟨⟩; decide, by rintro x ⟨⟩; decide⟩
  have hsaved : (f.save {} ".mermaidpadrc").1 = .ok () := rfl
  obtain ⟨g, hload, hback⟩ := load_save_iff f {} ".mermaidpadrc" hrange hsaved
  have hwords : (∀ u ∈ f.baseUrl, IsWord u) ∧ ∀ d ∈ f.debugLog, IsWord d :=
    ⟨by rintro u ⟨⟩; decide, by rintro d ⟨⟩; decide⟩
  exact ⟨hrange, hsaved, by rw [hload, hback.mpr hwords]⟩

/-- A page with a blank in it is cut off there. -/
theorem page_cut_at_blank :
    let f : Flags := { baseUrl := some "https://example.com/my pad/" }
    let cut : Flags := { baseUrl := some "https://example.com/my" }
    (f.save {} ".mermaidpadrc").1 = .ok () ∧
      load (f.save {} ".mermaidpadrc").2 ".mermaidpadrc" = .ok cut ∧ cut ≠ f :=
  ⟨rfl, rfl, by decide⟩

end DiagramDesk.Flags
