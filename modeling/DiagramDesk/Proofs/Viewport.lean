import DiagramDesk.Viewport
import DiagramDesk.Proofs.Text.Trim
import Mathlib.Tactic.FieldSimp
import Mathlib.Tactic.Linarith
import Mathlib.Tactic.NormNum
import Mathlib.Tactic.Ring

/-!
The picture on the screen, on exact numbers. Whatever is done with a viewport, its scale stays
between the bounds, so the way from the picture to the screen has a way back. A viewport is known
from its scale and one point of the picture with its place on the screen. Zooming keeps such a
point, the one under the anchor; that zooming twice comes to zooming once follows from it.

A drag keeps the shift that the picture had when it began. So while the pointer rests, whatever
else shifts the picture is undone by the next word of the pointer.
-/
namespace DiagramDesk

namespace Vec

theorem add_rat (a b : Vec ℚ) : a + b = ⟨a.x + b.x, a.y + b.y⟩ := rfl

theorem sub_rat (a b : Vec ℚ) : a - b = ⟨a.x - b.x, a.y - b.y⟩ := rfl

theorem scale_rat (a : Vec ℚ) (k : ℚ) : a.scale k = ⟨a.x * k, a.y * k⟩ := rfl

theorem add_sub_self (a b : Vec ℚ) : a + (b - b) = a := by
  simp only [add_rat, sub_rat, sub_self, add_zero]

end Vec

namespace Viewport

/-! ### To the screen and back -/

section Map

variable (v : Viewport ℚ) (p : Vec ℚ)

theorem toScreen_rat :
    v.toScreen p = ⟨v.scale * p.x + v.translate.x, v.scale * p.y + v.translate.y⟩ := by
  simp only [toScreen, affine, Affine.apply, Affine.comp, Affine.shift, Affine.scale]
  norm_num

theorem toContent_rat :
    v.toContent p =
      ⟨(p.x - v.translate.x) / v.scale, (p.y - v.translate.y) / v.scale⟩ := by
  have hinverse : v.scale⁻¹ * v.scale⁻¹ * v.scale = v.scale⁻¹ := by
    by_cases h : v.scale = 0
    · simp [h]
    · rw [mul_assoc, inv_mul_cancel₀ h, mul_one]
  simp only [toContent, affine, Affine.apply, Affine.comp, Affine.shift, Affine.scale,
    Affine.inverse, Affine.determinant]
  norm_num
  rw [← mul_assoc, ← mul_assoc, hinverse]
  constructor <;> ring

theorem determinant_affine : v.affine.determinant = v.scale * v.scale := by
  simp only [affine, Affine.comp, Affine.shift, Affine.scale, Affine.determinant]
  norm_num

variable {v} (h : v.scale ≠ 0)

include h

theorem toScreen_toContent : v.toScreen (v.toContent p) = p := by
  rw [toScreen_rat, toContent_rat]
  simp only [mul_div_cancel₀ _ h, sub_add_cancel]

theorem toContent_toScreen : v.toContent (v.toScreen p) = p := by
  rw [toContent_rat, toScreen_rat]
  simp only [add_sub_cancel_right, mul_div_cancel_left₀ _ h]

/-- The scale, and what is seen at one place of the screen, tell how far the picture is shifted. -/
theorem eq_of_toContent_eq {w : Viewport ℚ} {p : Vec ℚ} (hscale : w.scale = v.scale)
    (hsize : w.size = v.size) (hdrag : w.drag = v.drag) (hp : w.toContent p = v.toContent p) :
    w = v := by
  rw [toContent_rat, toContent_rat, hscale, Vec.mk.injEq, div_left_inj' h, div_left_inj' h,
    sub_right_inj, sub_right_inj] at hp
  have htranslate : w.translate = v.translate := congrArg₂ Vec.mk hp.1 hp.2
  cases v
  cases w
  simp_all only

end Map

/-! ### The scale -/

/-- A scale between the bounds. -/
def InRange (s : ℚ) : Prop := minScale ≤ s ∧ s ≤ maxScale

theorem minScale_rat : (minScale : ℚ) = 1 / 10 := by norm_num [minScale]

theorem maxScale_rat : (maxScale : ℚ) = 8 := by norm_num [maxScale]

theorem inRange_clampScale (s : ℚ) : InRange (clampScale s) := by
  simp only [InRange, clampScale, Scalar.lt, decide_eq_true_eq, minScale_rat, maxScale_rat]
  split
  · norm_num
  · split
    · norm_num
    · constructor <;> linarith

theorem inRange_one : InRange (1.0 : ℚ) := by
  rw [InRange, minScale_rat, maxScale_rat]
  norm_num

theorem InRange.pos {s : ℚ} (h : InRange s) : 0 < s := by
  have hmin := h.1
  rw [minScale_rat] at hmin
  linarith

/-! ### Zooming -/

section Zoom

variable (v : Viewport ℚ) (target : ℚ) (anchor : Option (Vec ℚ))

theorem zoomTo_rat :
    v.zoomTo target anchor =
      let p := anchor.getD v.center
      { v with
        scale := clampScale target
        translate := p - (p - v.translate).scale (clampScale target / v.scale) } := rfl

theorem center_zoomTo : (v.zoomTo target anchor).center = v.center := rfl

/-- The point under the anchor stays there. -/
theorem toContent_zoomTo (h : v.scale ≠ 0) :
    (v.zoomTo target anchor).toContent (anchor.getD v.center) =
      v.toContent (anchor.getD v.center) := by
  have hscale : clampScale target ≠ 0 := (inRange_clampScale target).pos.ne'
  have hcancel (x : ℚ) : x * (clampScale target / v.scale) / clampScale target = x / v.scale := by
    field_simp
  rw [toContent_rat, toContent_rat, zoomTo_rat]
  simp only [Vec.sub_rat, Vec.scale_rat, sub_sub_cancel, hcancel]

/-- A zoom is undone by another one with the same anchor. -/
theorem zoomTo_zoomTo (h : v.scale ≠ 0) (a b : ℚ) :
    (v.zoomTo a anchor).zoomTo b anchor = v.zoomTo b anchor := by
  have hscale (s : ℚ) : (v.zoomTo s anchor).scale ≠ 0 := (inRange_clampScale s).pos.ne'
  -- All three show the same point under the anchor.
  have hpoint : ((v.zoomTo a anchor).zoomTo b anchor).toContent (anchor.getD v.center) =
      (v.zoomTo b anchor).toContent (anchor.getD v.center) := by
    rw [toContent_zoomTo v b anchor h, ← toContent_zoomTo v a anchor h, ← center_zoomTo v a anchor]
    exact toContent_zoomTo _ b anchor (hscale a)
  exact eq_of_toContent_eq (hscale b) rfl rfl rfl hpoint

end Zoom

/-! ### Many acts -/

inductive Act (α : Type) where
  | zoomTo (target : α) (anchor : Option (Vec α))
  | zoomIn
  | zoomOut
  | wheel (delta : α) (anchor : Vec α)
  | pan (delta : Vec α)
  | beginDrag (p : Vec α)
  | dragTo (p : Vec α)
  | endDrag
  | reset
  | resize (size : Vec α)
  deriving DecidableEq

section Run

variable {α : Type} [Scalar α] (v : Viewport α)

def act : Act α → Viewport α
  | .zoomTo target anchor => v.zoomTo target anchor
  | .zoomIn => v.zoomIn
  | .zoomOut => v.zoomOut
  | .wheel delta anchor => v.wheel delta anchor
  | .pan delta => v.pan delta
  | .beginDrag p => v.beginDrag p
  | .dragTo p => v.dragTo p
  | .endDrag => v.endDrag
  | .reset => v.reset
  | .resize size => v.resize size

def run (acts : List (Act α)) : Viewport α := acts.foldl act v

theorem run_append (front rest : List (Act α)) : v.run (front ++ rest) = (v.run front).run rest :=
  List.foldl_append

end Run

/-- One notch of the wheel is a zoom to some scale, or nothing. -/
theorem wheel_cases (v : Viewport ℚ) (delta : ℚ) (anchor : Vec ℚ) :
    (∃ target, v.wheel delta anchor = v.zoomTo target (some anchor)) ∨
      v.wheel delta anchor = v := by
  unfold wheel
  split
  · exact .inl ⟨_, rfl⟩
  · split
    · exact .inl ⟨_, rfl⟩
    · exact .inr rfl

theorem scale_dragTo (v : Viewport ℚ) (p : Vec ℚ) : (v.dragTo p).scale = v.scale := by
  unfold dragTo
  split <;> rfl

theorem inRange_act (v : Viewport ℚ) (h : InRange v.scale) (a : Act ℚ) :
    InRange (v.act a).scale := by
  cases a with
  | zoomTo target => exact inRange_clampScale target
  | zoomIn | zoomOut => exact inRange_clampScale _
  | wheel delta anchor =>
    obtain ⟨target, hw⟩ | hw := wheel_cases v delta anchor
    · rw [act, hw]
      exact inRange_clampScale target
    · rwa [act, hw]
  | dragTo p => rwa [act, scale_dragTo]
  | reset => exact inRange_one
  | pan | beginDrag | endDrag | resize => exact h

theorem inRange_run (v : Viewport ℚ) (h : InRange v.scale) (acts : List (Act ℚ)) :
    InRange (v.run acts).scale := by
  induction acts generalizing v with
  | nil => exact h
  | cons a acts ih => exact ih (v.act a) (inRange_act v h a)

/-- Whatever was done with a viewport, its scale is between the bounds, the map to the screen has
an inverse, and the two ways undo each other. Zooming leaves the point under the anchor where it is,
at either bound as well, and a zoom is forgotten when another one with its anchor follows. -/
theorem zoom_keeps_anchor (size : Vec ℚ) (acts : List (Act ℚ)) :
    let v := (ofSize size).run acts
    minScale ≤ v.scale ∧ v.scale ≤ maxScale ∧ v.affine.determinant ≠ 0 ∧
    (∀ p, v.toScreen (v.toContent p) = p) ∧ (∀ p, v.toContent (v.toScreen p) = p) ∧
    (∀ target anchor,
      let p := anchor.getD v.center
      (v.zoomTo target anchor).scale = clampScale target ∧
      (v.zoomTo target anchor).toScreen (v.toContent p) = p) ∧
    ∀ a b anchor, (v.zoomTo a anchor).zoomTo b anchor = v.zoomTo b anchor := by
  intro v
  have hrange : InRange v.scale := inRange_run (ofSize size) inRange_one acts
  have h : v.scale ≠ 0 := hrange.pos.ne'
  refine ⟨hrange.1, hrange.2, ?_, fun p => toScreen_toContent p h, fun p => toContent_toScreen p h,
    fun target anchor => ⟨rfl, ?_⟩, fun a b anchor => zoomTo_zoomTo v anchor h a b⟩
  · rw [determinant_affine]
    exact mul_ne_zero h h
  · rw [← toContent_zoomTo v target anchor h]
    exact toScreen_toContent _ (inRange_clampScale target).pos.ne'

/-! ### The pointer -/

def Act.point? : Act α → Option (Vec α)
  | .beginDrag p => some p
  | .dragTo p => some p
  | _ => none

/-- Whether something has to do with neither the pointer nor a drag. -/
def Act.isAside : Act α → Bool
  | .beginDrag _ | .dragTo _ | .endDrag | .reset => false
  | _ => true

/-- Where the pointer was said to be last. -/
def lastPoint (acts : List (Act α)) : Option (Vec α) := (acts.filterMap Act.point?).getLast?

/-- What was done up to the last word of the pointer. -/
def upToPoint (acts : List (Act α)) : List (Act α) := Text.dropEndWhile (·.point?.isNone) acts

/-- The drag under way, if any, puts the picture to some shift when the pointer is at `q`. -/
def Grips (v : Viewport ℚ) (q shift : Vec ℚ) : Prop :=
  ∀ d, v.drag = some d → d.origin + (q - d.start) = shift

section Pointer

variable {v : Viewport ℚ} {q shift : Vec ℚ} {a : Act ℚ} {acts : List (Act ℚ)}

theorem dragTo_of_grips (h : v.Grips q shift) (hdrag : v.drag.isSome = true) :
    v.dragTo q = { v with translate := shift } := by
  obtain ⟨d, hd⟩ := Option.isSome_iff_exists.mp hdrag
  simp only [dragTo, hd, h d hd]

/-- When the pointer is heard of, the drag puts the picture to where it is then. -/
theorem grips_of_point (h : a.point? = some q) : (v.act a).Grips q (v.act a).translate := by
  intro d hd
  cases a with
  | beginDrag p =>
    cases h
    cases hd
    exact Vec.add_sub_self _ _
  | dragTo p =>
    cases h
    cases hv : v.drag with
    | none =>
      simp only [act, dragTo, hv] at hd
      cases hd
    | some e =>
      simp only [act, dragTo, hv] at hd ⊢
      cases hd
      rfl
  | _ => cases h

theorem drag_wheel (v : Viewport ℚ) (delta : ℚ) (anchor : Vec ℚ) :
    (v.wheel delta anchor).drag = v.drag := by
  obtain ⟨target, h⟩ | h := wheel_cases v delta anchor
  · rw [h]
    rfl
  · rw [h]

theorem drag_act_of_isAside (v : Viewport ℚ) (h : a.isAside = true) : (v.act a).drag = v.drag := by
  cases a with
  | wheel delta anchor => exact drag_wheel v delta anchor
  | zoomTo | zoomIn | zoomOut | pan | resize => rfl
  | beginDrag | dragTo | endDrag | reset => cases h

/-- Without a word of the pointer a drag stays as it is, or it ends. -/
theorem drag_act (v : Viewport ℚ) (h : a.point? = none) :
    (v.act a).drag = v.drag ∨ (v.act a).drag = none := by
  cases a with
  | endDrag | reset => exact .inr rfl
  | beginDrag | dragTo => cases h
  | _ => exact .inl (drag_act_of_isAside v rfl)

theorem point?_of_isAside (h : a.isAside = true) : a.point? = none := by
  cases a with
  | beginDrag | dragTo => cases h
  | _ => rfl

theorem Grips.act (h : v.Grips q shift) (ha : a.point? = none) : (v.act a).Grips q shift := by
  intro d hd
  obtain hkept | hnone := drag_act v ha
  · exact h d (hkept ▸ hd)
  · rw [hnone] at hd
    cases hd

theorem upToPoint_concat (acts : List (Act ℚ)) (a : Act ℚ) :
    upToPoint (acts ++ [a]) = if a.point?.isNone then upToPoint acts else acts ++ [a] := by
  simp only [upToPoint, Text.dropEndWhile_eq_rdropWhile, List.rdropWhile_concat]

theorem lastPoint_concat (acts : List (Act ℚ)) (a : Act ℚ) :
    lastPoint (acts ++ [a]) = a.point?.or (lastPoint acts) := by
  have hlast : ([a].filterMap Act.point?).getLast? = a.point? := by
    cases h : a.point? <;> simp [h]
  rw [lastPoint, List.filterMap_append, List.getLast?_append, hlast, lastPoint]

/-- The shift that the picture had at the last word of the pointer is what a drag goes back to. -/
theorem grips_run (v : Viewport ℚ) (h : lastPoint acts = some q) :
    (v.run acts).Grips q (v.run (upToPoint acts)).translate := by
  induction acts using List.reverseRecOn with
  | nil => cases h
  | append_singleton acts a ih =>
    rw [lastPoint_concat] at h
    rw [upToPoint_concat, run_append]
    cases ha : a.point? with
    | none =>
      rw [ha, Option.none_or] at h
      exact (ih h).act ha
    | some p =>
      rw [ha, Option.some_or] at h
      cases h
      rw [if_neg (by simp), run_append]
      exact grips_of_point ha

theorem drag_run_of_isAside (v : Viewport ℚ) (h : ∀ a ∈ acts, a.isAside = true) :
    (v.run acts).drag = v.drag := by
  induction acts generalizing v with
  | nil => rfl
  | cons a acts ih =>
    rw [List.forall_mem_cons] at h
    exact (ih (v.act a) h.2).trans (drag_act_of_isAside v h.1)

theorem Grips.run_of_isAside (hv : v.Grips q shift) (h : ∀ a ∈ acts, a.isAside = true) :
    (v.run acts).Grips q shift := by
  induction acts generalizing v with
  | nil => exact hv
  | cons a acts ih =>
    rw [List.forall_mem_cons] at h
    exact ih (hv.act (point?_of_isAside h.1)) h.2

end Pointer

/-- While a drag is under way and the pointer rests, all that shifts the picture is for nothing: the
next word of the pointer puts the picture back to where it was at the last one. So that word leaves
everything as it is exactly if the picture is where it was then. -/
theorem dragTo_puts_back (size : Vec ℚ) (acts meanwhile : List (Act ℚ)) (q : Vec ℚ)
    (hdrag : ((ofSize size).run acts).drag.isSome = true) (hq : lastPoint acts = some q)
    (haside : ∀ a ∈ meanwhile, a.isAside = true) :
    let held := ((ofSize size).run (upToPoint acts)).translate
    let v := ((ofSize size).run acts).run meanwhile
    v.dragTo q = { v with translate := held } ∧ (v.dragTo q = v ↔ v.translate = held) := by
  intro held v
  have hgrips : v.Grips q held := (grips_run (ofSize size) hq).run_of_isAside haside
  have hunder : v.drag.isSome = true := by
    rw [drag_run_of_isAside _ haside]
    exact hdrag
  have hback : v.dragTo q = { v with translate := held } := dragTo_of_grips hgrips hunder
  refine ⟨hback, ?_⟩
  rw [hback]
  constructor
  · intro h
    exact (congrArg translate h).symm
  · intro h
    rw [← h]

/-- A drag with the wheel turned and the picture moved in the middle of it. -/
theorem wheel_put_back :
    let acts : List (Act ℚ) := [.pan ⟨3, 0⟩, .beginDrag ⟨0, 0⟩, .dragTo ⟨30, -10⟩]
    let meanwhile : List (Act ℚ) := [.wheel (-1) ⟨100, 100⟩, .pan ⟨5, 5⟩]
    let v := ((ofSize ⟨800, 600⟩).run acts).run meanwhile
    ((ofSize ⟨800, 600⟩).run acts).drag.isSome = true ∧ lastPoint acts = some ⟨30, -10⟩ ∧
    (∀ a ∈ meanwhile, a.isAside = true) ∧ v.translate = ⟨29.96, -18.2⟩ ∧
    v.dragTo ⟨30, -10⟩ = { v with translate := ⟨33, -10⟩ } := by
  intro acts meanwhile v
  have hdrag : ((ofSize ⟨800, 600⟩).run acts).drag.isSome = true := rfl
  have hq : lastPoint acts = some ⟨30, -10⟩ := rfl
  have haside : ∀ a ∈ meanwhile, a.isAside = true := by decide
  obtain ⟨hback, -⟩ := dragTo_puts_back ⟨800, 600⟩ acts meanwhile ⟨30, -10⟩ hdrag hq haside
  refine ⟨hdrag, hq, haside, ?_, hback.trans ?_⟩
  · decide +kernel
  · decide +kernel

/-- A picture that was moved while a drag rested goes back when the pointer says that it is where it
was, and so does one that was zoomed. -/
theorem resting_pointer_moves_picture :
    let v := (ofSize ⟨800, 600⟩ : Viewport ℚ).beginDrag ⟨100, 100⟩
    (v.pan ⟨5, 5⟩).translate = ⟨5, 5⟩ ∧ ((v.pan ⟨5, 5⟩).dragTo ⟨100, 100⟩).translate = ⟨0, 0⟩ ∧
    (v.zoomTo 2 none).translate = ⟨-400, -300⟩ ∧
    ((v.zoomTo 2 none).dragTo ⟨100, 100⟩).translate = ⟨0, 0⟩ := by
  decide +kernel

end Viewport

end DiagramDesk
