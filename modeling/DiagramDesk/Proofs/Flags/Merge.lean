import DiagramDesk.Flags.Basic

/-!
Flags from several sources. Merging is associative, with no flags as its unit. Merged flags do
to settings what the two sets do one after the other, with one exception: the switch for random
seeds stays on once it is given, so a seed from the second source does not make the mode fixed
again.
-/
namespace DiagramDesk.Flags

/-- A later value wins over an earlier one, and both win over what was there. -/
theorem getD_orElse {α : Type} (later earlier : Option α) (x : α) :
    (later <|> earlier).getD x = later.getD (earlier.getD x) := by
  cases later <;> rfl

/-- No flags below others change nothing. -/
theorem empty_merge (f : Flags) : ({} : Flags).merge f = f := by
  simp [merge]

/-- No flags on top of others change nothing. -/
theorem merge_empty (f : Flags) : f.merge {} = f := by
  simp [merge]

theorem merge_assoc (f g h : Flags) : (f.merge g).merge h = f.merge (g.merge h) := by
  simp only [merge, Bool.or_assoc, Option.orElse_eq_orElse, Option.orElse_eq_or, Option.or_assoc]

/-- Turning on a switch is merging with the flags of the switch alone. -/
theorem turnOn_eq_merge (f : Flags) (s : Switch) :
    f.turnOn s = f.merge (({} : Flags).turnOn s) := by
  cases s <;> simp [turnOn, merge]

/-- Making a choice is merging with the flags of the choice alone: a value that makes no sense
gives none. -/
theorem choose_eq_merge (f : Flags) (c : Choice) (value : String) :
    f.choose c value = f.merge (({} : Flags).choose c value) := by
  cases c <;> simp [choose, merge]

/-- The seed mode is random if either set asks for it, whatever seeds there are. -/
theorem seedMode?_merge (f g : Flags) :
    (f.merge g).seedMode? =
      if f.randomSeed then some .random else g.seedMode? <|> f.seedMode? := by
  cases hf : f.randomSeed with
  | true => simp [seedMode?, merge, hf]
  | false =>
    cases hg : g.randomSeed with
    | true => simp [seedMode?, merge, hg]
    | false => cases hs : g.seed <;> simp [seedMode?, merge, hf, hg, hs]

theorem seedMode_applyTo_merge (f g : Flags) (s : Settings) :
    ((f.merge g).applyTo s).seedMode =
      if f.randomSeed then .random else (g.applyTo (f.applyTo s)).seedMode := by
  simp only [applyTo, seedMode?_merge]
  cases f.randomSeed with
  | true => rfl
  | false => exact getD_orElse _ _ _

/-- Where one set follows the other, the random mode of the first is lost exactly if the second
gives a seed alone. -/
theorem seedMode_applyTo_eq_random_iff (f g : Flags) (s : Settings) (hf : f.randomSeed = true) :
    (g.applyTo (f.applyTo s)).seedMode = .random ↔
      ¬(g.seed.isSome = true ∧ g.randomSeed = false) := by
  cases hg : g.randomSeed with
  | true => simp [applyTo, seedMode?, hg]
  | false => cases hs : g.seed <;> simp [applyTo, seedMode?, hf, hg, hs]

/-- Merged flags act like the first set and then the second, except that the mode is random
wherever the first set asks for it. So the two ways differ exactly if the first set asks for random
seeds and the second one gives a seed without asking for random ones. -/
theorem applyTo_merge (f g : Flags) (s : Settings) :
    (f.merge g).applyTo s =
      { g.applyTo (f.applyTo s) with
        seedMode := if f.randomSeed then .random else (g.applyTo (f.applyTo s)).seedMode } ∧
    ((f.merge g).applyTo s = g.applyTo (f.applyTo s) ↔
      ¬(f.randomSeed = true ∧ g.seed.isSome = true ∧ g.randomSeed = false)) := by
  have hmerged : (f.merge g).applyTo s =
      { g.applyTo (f.applyTo s) with
        seedMode := if f.randomSeed then .random else (g.applyTo (f.applyTo s)).seedMode } := by
    rw [← seedMode_applyTo_merge]
    simp only [applyTo, merge, getD_orElse, Settings.mk.injEq, true_and, and_true]
    cases g.look <;> rfl
  refine ⟨hmerged, ?_⟩
  cases hf : f.randomSeed with
  | false => simp [hmerged, hf]
  | true =>
    have hmode : (f.merge g).applyTo s = g.applyTo (f.applyTo s) ↔
        (g.applyTo (f.applyTo s)).seedMode = .random := by
      rw [hmerged, hf, if_pos rfl]
      constructor <;> intro h <;> rw [← h]
    rw [hmode, seedMode_applyTo_eq_random_iff f g s hf]
    simp

/-- A seed given on top of a default for random seeds does not bring back the fixed mode. -/
theorem later_seed_stays_random :
    (({ randomSeed := true } : Flags).merge { seed := some 7 }).applyTo {} ≠
      ({ seed := some 7 } : Flags).applyTo (({ randomSeed := true } : Flags).applyTo {}) := by
  decide

end DiagramDesk.Flags
