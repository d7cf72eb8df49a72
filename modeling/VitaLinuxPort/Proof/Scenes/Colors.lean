import Mathlib.Tactic.IntervalCases
import VitaLinuxPort.Cart.Scenes

/-!
# Solid pixels

Every colour the scenes draw with has alpha 255: it is a blend, which `cart_rgba` makes, or an entry of
the palette. So whatever an overlay draws over a buffer whose pixels are solid, they stay solid.
-/

namespace VitaLinuxPort

/-- The alpha channel, the highest byte. -/
def alpha (pixel : UInt32) : UInt32 := pixel >>> 24

def Solid (pixel : UInt32) : Prop := alpha pixel = 0xff

instance (pixel : UInt32) : Decidable (Solid pixel) := inferInstanceAs (Decidable (_ = _))

theorem solid_or (color : UInt32) : Solid (color ||| 0xff000000) := by
  apply UInt32.eq_of_toBitVec_eq
  simp only [alpha, UInt32.toBitVec_shiftRight, UInt32.toBitVec_or]
  ext i hi
  interval_cases i <;> simp

theorem solid_cartRgba (red green blue : Int) : Solid (cartRgba red green blue) := solid_or _

theorem solid_mix (a b : UInt32) (t : Int) : Solid (mix a b t) := solid_cartRgba _ _ _

theorem solid_pal {index : Int} (h : index.toNat < 10) : Solid (pal index) := by
  have hpalette : ∀ i < 10, Solid (palette.getD i 0) := by decide
  exact hpalette _ h

theorem solid_pal_tmod (index : Int) {m : Int} (hpos : 0 < m) (hm : m ≤ 10) :
    Solid (pal (index.tmod m)) := by
  have hlt := Int.tmod_lt_of_pos index hpos
  exact solid_pal (by omega)

theorem solid_ite {p : Prop} [Decidable p] {a b : UInt32} (ha : Solid a) (hb : Solid b) :
    Solid (if p then a else b) := by
  split
  · exact ha
  · exact hb

/-- A canvas whose buffer has this size and only solid pixels. -/
structure CartCanvas.Painted (size : Nat) (canvas : CartCanvas) : Prop where
  length : canvas.pixels.length = size
  solid : ∀ pixel ∈ canvas.pixels, Solid pixel

namespace CartCanvas.Painted

variable {size : Nat} {canvas : CartCanvas} {color : UInt32}

theorem put (h : canvas.Painted size) (hcolor : Solid color) (index : Nat) :
    (canvas.put index color).Painted size := by
  constructor
  · simp only [CartCanvas.put, List.length_set, h.length]
  · intro pixel hpixel
    obtain hold | rfl := List.mem_or_eq_of_mem_set hpixel
    · exact h.solid pixel hold
    · exact hcolor

/-- A loop each turn of which keeps a canvas painted. -/
theorem foldl {α : Type} {turn : CartCanvas → α → CartCanvas} (h : canvas.Painted size) (l : List α)
    (hturn : ∀ canvas : CartCanvas, canvas.Painted size → ∀ a, (turn canvas a).Painted size) :
    (l.foldl turn canvas).Painted size :=
  l.foldlRecOn turn h fun canvas h a _ => hturn canvas h a

theorem ite {p : Prop} [Decidable p] {other : CartCanvas} (h : canvas.Painted size)
    (hother : other.Painted size) : (if p then canvas else other).Painted size := by
  split
  · exact h
  · exact hother

theorem fill (h : canvas.Painted size) (hcolor : Solid color) (left right top bottom : Int)
    (inside : Int → Int → Bool) :
    (canvas.fill left right top bottom inside color).Painted size := by
  apply h.foldl
  intro canvas h row
  apply h.foldl
  intro canvas h column
  exact ite (h.put hcolor _) h

variable [Target]

theorem px (h : canvas.Painted size) (hcolor : Solid color) (x y : Int) :
    (cartCanvasPx canvas x y color).Painted size :=
  ite h (h.put hcolor _)

theorem rect (h : canvas.Painted size) (hcolor : Solid color) (x y width height : Int) :
    (cartCanvasRect canvas x y width height color).Painted size :=
  ite h (ite h (h.fill hcolor _ _ _ _ _))

theorem circle (h : canvas.Painted size) (hcolor : Solid color) (x y radius : Int) :
    (cartCanvasCircle canvas x y radius color).Painted size :=
  ite h (ite h (h.fill hcolor _ _ _ _ _))

theorem heart (h : canvas.Painted size) {edge : UInt32} (hcolor : Solid color) (hedge : Solid edge)
    (cx cy s : Int) : (VitaLinuxPort.heart canvas cx cy s color edge).Painted size := by
  refine ite (rect ?shape (by decide) _ _ _ _) ?shape
  apply h.foldl
  intro canvas h y
  apply h.foldl
  intro canvas h x
  exact ite (h.rect (solid_ite hedge hcolor) _ _ _ _) h

theorem star (h : canvas.Painted size) (hcolor : Solid color) (cx cy r : Int) :
    (VitaLinuxPort.star canvas cx cy r color).Painted size := by
  apply h.foldl
  intro canvas h i
  have hcross := (h.px hcolor (cx + i) cy).px hcolor cx (cy + i)
  exact ite ((hcross.px hcolor _ _).px hcolor _ _) hcross

theorem flower (h : canvas.Painted size) {center : UInt32} (hcolor : Solid color)
    (hcenter : Solid center) (cx cy s : Int) :
    (VitaLinuxPort.flower canvas cx cy s color center).Painted size := by
  have hpetals := (h.circle hcolor (cx - s) cy s).circle hcolor (cx + s) cy s
  exact ((hpetals.circle hcolor _ _ _).circle hcolor _ _ _).circle hcenter _ _ _

theorem textGlyphs (h : canvas.Painted size) (hcolor : Solid color) (x y : Int) (s : CString)
    (scale : Int) : (VitaLinuxPort.textGlyphs canvas x y s scale color).Painted size := by
  induction s generalizing canvas x with
  | nil => exact h
  | cons char rest ih =>
    apply ih
    refine ite h ?_
    apply h.foldl
    intro canvas h yy
    apply h.foldl
    intro canvas h xx
    exact ite (h.rect hcolor _ _ _ _) h

theorem textCenter (h : canvas.Painted size) {shadow : UInt32} (hcolor : Solid color)
    (hshadow : Solid shadow) (y : Int) (s : CString) (scale : Int) :
    (VitaLinuxPort.textCenter canvas y s scale color shadow).Painted size :=
  textGlyphs (ite (h.textGlyphs hshadow _ _ _ _) h) hcolor _ _ _ _

end CartCanvas.Painted

theorem solid_pal_two : Solid (pal 2) := solid_pal (by decide)

theorem solid_pal_eight : Solid (pal 8) := solid_pal (by decide)

theorem solid_pal_tmod_five (index : Int) : Solid (pal (index.tmod 5)) :=
  solid_pal_tmod index (by decide) (by decide)

section Overlays

variable [Target] {size : Nat} {canvas : CartCanvas} (sine : Nat → Int) (t : Int)

theorem painted_overlayCandy (h : canvas.Painted size) : (overlayCandy canvas t).Painted size := by
  refine .textCenter (.heart (h.foldl _ ?_) (solid_pal (by decide)) solid_pal_eight _ _ _)
    solid_pal_two solid_pal_eight _ _ _
  intro canvas h i
  exact h.star solid_pal_two _ _ _

theorem painted_overlayGirlMode (h : canvas.Painted size) :
    (overlayGirlMode canvas t).Painted size := by
  refine .textCenter (.textCenter (h.foldl _ ?_) solid_pal_two solid_pal_eight _ _ _)
    (solid_pal (by decide)) solid_pal_eight _ _ _
  intro canvas h i
  exact h.heart (solid_pal_tmod_five i) solid_pal_eight _ _ _

theorem painted_overlayBubblegum (h : canvas.Painted size) :
    (overlayBubblegum canvas).Painted size := by
  refine .textCenter (.textCenter (h.foldl _ ?_) solid_pal_two solid_pal_eight _ _ _)
    (solid_pal (by decide)) solid_pal_eight _ _ _
  intro canvas h i
  exact h.star solid_pal_two _ _ _

theorem painted_overlayButterflyRiot (h : canvas.Painted size) :
    (overlayButterflyRiot sine canvas t).Painted size := by
  refine .textCenter (.foldl (h.foldl _ ?_) _ ?_) solid_pal_two solid_pal_eight _ _ _
  · intro canvas h i
    have hleft := solid_pal_tmod_five (i + 0)
    have hright := solid_pal_tmod_five (i + 3)
    have hwings (x y : Int) := (((h.circle hleft (x - 4) (y - 2) 3).circle hright (x + 4) (y - 2)
      3).circle hleft (x - 3) (y + 3) 2).circle hright (x + 3) (y + 3) 2
    have hbody (x y : Int) := (hwings x y).rect solid_pal_eight (x - 1) (y - 4) 2 9
    exact .ite ((hbody _ _).star solid_pal_two _ _ _) (hbody _ _)
  · intro canvas h i
    exact h.flower (solid_pal_tmod_five (i + 1)) solid_pal_two _ _ _

theorem painted_overlayHyperdrive (h : canvas.Painted size) :
    (overlayHyperdrive sine canvas t).Painted size := by
  refine .textCenter (.textCenter (.star (.circle (h.foldl _ ?_) (by decide) _ _ _) (by decide)
    _ _ _) solid_pal_two solid_pal_eight _ _ _) (solid_pal (by decide)) solid_pal_eight _ _ _
  intro canvas h y
  apply h.foldl
  intro canvas h x
  exact .ite (h.px (solid_pal_tmod _ (by decide) (by decide)) _ _) h

theorem painted_overlayTooMuch (h : canvas.Painted size) :
    (overlayTooMuch canvas).Painted size := by
  refine .textCenter (.textCenter (h.foldl _ ?_) solid_pal_two solid_pal_eight _ _ _)
    (solid_pal (by decide)) solid_pal_eight _ _ _
  intro canvas h i
  exact .ite (h.heart (solid_pal_tmod_five i) solid_pal_eight _ _ _)
    (.ite (h.flower (solid_pal_tmod_five i) solid_pal_two _ _ _) (h.star solid_pal_two _ _ _))

theorem painted_overlay (h : canvas.Painted size) (which : SceneIndex) :
    (overlay sine canvas which t).Painted size := by
  unfold overlay
  refine .foldl ?_ _ ?_
  · split
    · exact painted_overlayCandy t h
    · exact painted_overlayGirlMode t h
    · exact painted_overlayBubblegum h
    · exact painted_overlayButterflyRiot sine t h
    · exact painted_overlayHyperdrive sine t h
    · exact painted_overlayTooMuch h
  · intro canvas h i
    exact h.circle (solid_ite solid_pal_two solid_pal_eight) _ _ _

end Overlays

end VitaLinuxPort
