import DiagramDesk.Cli.Run
import DiagramDesk.Export.Standard
import DiagramDesk.Proofs.Flags.Defaults
import DiagramDesk.Proofs.Flags.Merge

/-!
The flags that a run goes by. The files of defaults are read once the run has cleared and kept what
its command line asks for, so a run that keeps its flags finds them in the file it has just written.
A run that clears the defaults reads neither file: it goes by its command line alone.
-/
namespace DiagramDesk.Cli

open Flags

/-- The flags of a command line on top of those of both files. -/
def layered (flags : Flags) (path : String) (files : FileTree) : Except Trouble Flags := do
  let saved ← load files path
  let here ← load files localPath
  return (saved.merge here).merge flags

variable {i : Invocation} {path : String} {files : FileTree}

/-! ### Clearing and keeping -/

/-- The defaults are cleared first, and then flags are kept. -/
theorem exists_cleared_of_keep (h : (keep i path files).1 = .ok ()) :
    ∃ cleared, (if i.clear then clear files path else .ok files) = .ok cleared ∧
      keep i path files = if i.save then i.flags.save cleared path else (.ok (), cleared) := by
  unfold keep at h ⊢
  split at h
  case h_1 => cases h
  case h_2 cleared hcleared => exact ⟨cleared, hcleared, rfl⟩

theorem keep_eq_self (hclear : i.clear = false) (hsave : i.save = false) :
    keep i path files = (.ok (), files) := by
  simp [keep, hclear, hsave]

/-- The defaults that a run leaves: the flags that it keeps, or none if it only clears. -/
theorem load_keep (h : (keep i path files).1 = .ok ()) :
    load (keep i path files).2 path =
      if i.save then .ok (ofText i.flags.text) else if i.clear then .ok {} else load files path := by
  obtain ⟨cleared, hcleared, hkeep⟩ := exists_cleared_of_keep h
  rw [hkeep] at h ⊢
  cases hsave : i.save with
  | true =>
    simp only [hsave, if_true] at h ⊢
    exact load_save h
  | false =>
    cases hclear : i.clear with
    | true =>
      simp only [hclear, if_true] at hcleared
      simpa using load_clear hcleared
    | false =>
      simp only [hclear, Bool.false_eq_true, if_false, Except.ok.injEq] at hcleared
      simp [hcleared]

/-- A text stays in its file unless the defaults are kept there. -/
theorem readText_keep_other {other text : String} (h : (keep i path files).1 = .ok ())
    (htext : files.readText other = .ok text) :
    (keep i path files).2.readText other = .ok text ∨ (keep i path files).2.Meet path other := by
  obtain ⟨cleared, hcleared, hkeep⟩ := exists_cleared_of_keep h
  have hkept : cleared.readText other = .ok text ∨ cleared.Meet path other := by
    cases hclear : i.clear with
    | true =>
      simp only [hclear, if_true] at hcleared
      exact readText_clear_other hcleared htext
    | false =>
      simp only [hclear, Bool.false_eq_true, if_false, Except.ok.injEq] at hcleared
      exact .inl (hcleared ▸ htext)
  rw [hkeep] at h ⊢
  cases hsave : i.save with
  | false => exact hkept
  | true =>
    simp only [hsave, if_true] at h ⊢
    obtain htext | hmeet := hkept
    · exact readText_save_other h htext
    · exact .inr (meet_save h hmeet)

/-! ### The flags that hold -/

theorem flagsInForce_of_clear (h : i.clear = true) : flagsInForce i path files = .ok i.flags := by
  rw [flagsInForce, h, if_pos rfl]
  exact congrArg Except.ok i.flags.empty_merge

theorem flagsInForce_of_not_clear (h : i.clear = false) :
    flagsInForce i path files = layered i.flags path files := by
  unfold flagsInForce layered effective
  simp only [h, Bool.false_eq_true, if_false, bind_assoc, pure_bind]

theorem prepare_of_keep {w : World}
    (h : (keep i (globalPath w.variable?) w.host.files).1 = .ok ()) :
    (prepare i w).1 =
      flagsInForce i (globalPath w.variable?) (keep i (globalPath w.variable?) w.host.files).2 := by
  rw [prepare]
  simp only [h]
  rfl

/-- A run that does not clear goes by the saved defaults that it leaves, the file at hand and its
command line, the later over the earlier. A run that clears goes by its command line alone. The
defaults that are left are those that the run keeps, else none if it clears, else those that were
there; the file at hand is as it was unless the defaults are kept in it. Where clearing or keeping
fails there are no flags. -/
theorem prepare_layered (i : Invocation) (w : World) :
    let path := globalPath w.variable?
    let kept := keep i path w.host.files
    let files := (prepare i w).2
    (∀ trouble, kept.1 = .error trouble → (prepare i w).1 = .error trouble) ∧
    (kept.1 = .ok () →
      (prepare i w).1 = (if i.clear then .ok i.flags else layered i.flags path files) ∧
      load files path = (if i.save then .ok (ofText i.flags.text)
        else if i.clear then .ok {} else load w.host.files path) ∧
      (i.clear = false → i.save = false → files = w.host.files) ∧
      ∀ text, w.host.files.readText localPath = .ok text →
        load files localPath = .ok (ofText text) ∨ files.Meet path localPath) := by
  intro path kept files
  refine ⟨fun trouble htrouble => ?_, fun hkept => ?_⟩
  · rw [prepare]
    simp only [show (keep i (globalPath w.variable?) w.host.files).1 = .error trouble from htrouble]
    rfl
  refine ⟨?_, load_keep hkept, fun hclear hsave => ?_, fun text htext => ?_⟩
  · rw [show (prepare i w).1 = flagsInForce i path files from prepare_of_keep hkept]
    cases hclear : i.clear with
    | true => exact flagsInForce_of_clear hclear
    | false => exact flagsInForce_of_not_clear hclear
  · exact congrArg Prod.snd (keep_eq_self hclear hsave)
  · obtain hsame | hmeet := readText_keep_other hkept htext
    · exact .inl (load_of_readText hsame)
    · exact .inr hmeet

/-- Where there are saved defaults and a file at hand. -/
def furnished : World where
  environment := [("XDG_CONFIG_HOME", "settings")]
  host := {
    tools := .standard
    fonts := { fetch := fun _ _ => .ok [] }
    files := ⟨[(["settings"], .directory), (["settings", "mermaidpad"], .directory),
      (["settings", "mermaidpad", "config"], .file (.ofText "--font-size small\n")),
      ([".mermaidpadrc"], .file (.ofText "--lang zh\n"))]⟩ }
  dice := { numbers := fun n => n }

/-- A run that keeps a theme goes by it and by the language at hand. -/
theorem furnished_kept :
    let i : Invocation := ⟨.examples none, { theme := some .dark }, true, false⟩
    (keep i (globalPath furnished.variable?) furnished.host.files).1 = .ok () ∧
      (prepare i furnished).1 = .ok { theme := some .dark, lang := some .zh } := by
  intro i
  have hkept : (keep i (globalPath furnished.variable?) furnished.host.files).1 = .ok () := by
    decide +kernel
  exact ⟨hkept, ((prepare_layered i furnished).2 hkept).1.trans (by decide +kernel)⟩

/-- A run that clears leaves a file at hand aside. -/
theorem furnished_cleared :
    let i : Invocation := ⟨.examples none, {}, false, true⟩
    let files := (prepare i furnished).2
    load files (globalPath furnished.variable?) = .ok {} ∧
      layered i.flags (globalPath furnished.variable?) files = .ok { lang := some .zh } ∧
      (prepare i furnished).1 = .ok {} ∧ ({} : Flags) ≠ { lang := some .zh } := by
  decide +kernel

end DiagramDesk.Cli
