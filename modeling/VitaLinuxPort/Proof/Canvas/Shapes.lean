import Mathlib.Tactic.Lift
import VitaLinuxPort.Cart.CanvasArithmetic

/-!
# What a drawing function sets

A drawing function sets the pixels of a shape that are on the canvas to its colour and nothing else:
not the rest of the canvas, and not the places between the rows. What is drawn is determined by that,
and one drawing after another sets what either does.
-/

namespace VitaLinuxPort

/-- The buffer of a valid canvas is there. -/
structure CartCanvas.Backed [Target] (canvas : CartCanvas) : Prop where
  valid : cartCanvasValid canvas = true
  length : canvas.pixels.length = canvas.stride * canvas.height

/-- The canvases that differ in what is drawn on them. -/
structure CartCanvas.Like (canvas other : CartCanvas) : Prop where
  frame : other = { canvas with pixels := other.pixels }
  length : other.pixels.length = canvas.pixels.length

/-- The pixels of the shape have the colour, and everything else in the buffer is as it was. -/
structure SetsExactly (before after : CartCanvas) (color : UInt32) (shape : Int → Int → Prop) :
    Prop where
  like : before.Like after
  inside : ∀ c r : Nat, c < before.width → r < before.height → shape c r →
    after.pixels[r * before.stride + c]? = some color
  outside : ∀ i, (∀ c r : Nat, c < before.width → r < before.height → shape c r →
    i ≠ r * before.stride + c) → after.pixels[i]? = before.pixels[i]?

namespace CartCanvas

theorem Like.refl (canvas : CartCanvas) : canvas.Like canvas := ⟨rfl, rfl⟩

theorem Like.trans {first second third : CartCanvas} (h : first.Like second)
    (hthen : second.Like third) : first.Like third := by
  refine ⟨?_, hthen.length.trans h.length⟩
  rw [hthen.frame, h.frame]

theorem like_put (canvas : CartCanvas) (index : Nat) (color : UInt32) :
    canvas.Like (canvas.put index color) :=
  ⟨rfl, List.length_set⟩

section Like

variable {canvas other : CartCanvas} (h : canvas.Like other)
include h

theorem Like.width : other.width = canvas.width := by rw [h.frame]

theorem Like.height : other.height = canvas.height := by rw [h.frame]

theorem Like.stride : other.stride = canvas.stride := by rw [h.frame]

theorem Like.backed [Target] (hcanvas : canvas.Backed) : other.Backed := by
  refine ⟨?_, ?_⟩
  · rw [h.frame]
    exact hcanvas.valid
  · rw [h.length, h.stride, h.height, hcanvas.length]

end Like

section Backed

variable [Target] {canvas : CartCanvas} (h : canvas.Backed)
include h

theorem Backed.width_le : canvas.width ≤ canvas.stride := by
  have hvalid := h.valid
  simp only [cartCanvasValid, Bool.and_eq_true, Bool.not_eq_true', Bool.or_eq_false_iff,
    decide_eq_false_iff_not] at hvalid
  omega

theorem Backed.pos : 0 < canvas.width ∧ 0 < canvas.height := by
  have hvalid := h.valid
  simp only [cartCanvasValid, Bool.and_eq_true, Bool.not_eq_true', Bool.or_eq_false_iff,
    beq_eq_false_iff_ne] at hvalid
  omega

theorem Backed.size_lt : canvas.stride * canvas.height * 4 < 2 ^ Target.sizeBits := by
  have hvalid := h.valid
  simp only [cartCanvasValid, Bool.and_eq_true, Bool.not_eq_true', decide_eq_false_iff_not] at hvalid
  have hbytes := hvalid.2
  have hpos := Nat.two_pow_pos Target.sizeBits
  unfold sizeMax at hbytes
  omega

/-- The place of a pixel on the canvas is one of the buffer's. -/
theorem Backed.place_lt {c r : Nat} (hc : c < canvas.width) (hr : r < canvas.height) :
    r * canvas.stride + c < canvas.pixels.length := by
  have hwidth := h.width_le
  have hrows : (r + 1) * canvas.stride ≤ canvas.height * canvas.stride :=
    Nat.mul_le_mul_right _ hr
  rw [h.length, Nat.mul_comm canvas.stride]
  rw [Nat.add_one_mul] at hrows
  omega

/-- It is computed in `size_t` without wrapping. -/
theorem Backed.place_eq {c r : Nat} (hc : c < canvas.width) (hr : r < canvas.height) :
    canvas.place r c = r * canvas.stride + c := by
  have hplace := h.place_lt hc hr
  have hsize := h.size_lt
  rw [h.length] at hplace
  rw [place, Int.toNat_natCast, Int.toNat_natCast, Nat.mod_eq_of_lt (by omega),
    sizeAdd_of_lt (by omega)]

end Backed

end CartCanvas

namespace SetsExactly

variable {color : UInt32} {shape other : Int → Int → Prop}

theorem refl (canvas : CartCanvas) : SetsExactly canvas canvas color fun _ _ => False :=
  ⟨.refl canvas, fun _ _ _ _ h => h.elim, fun _ _ => rfl⟩

theorem congr {before after : CartCanvas} (h : SetsExactly before after color shape)
    (hiff : ∀ c r : Nat, c < before.width → r < before.height → (shape c r ↔ other c r)) :
    SetsExactly before after color other :=
  ⟨h.like, fun c r hc hr hother => h.inside c r hc hr ((hiff c r hc hr).mpr hother),
    fun i hi => h.outside i fun c r hc hr hshape => hi c r hc hr ((hiff c r hc hr).mp hshape)⟩

theorem trans {first second third : CartCanvas} (h : SetsExactly first second color shape)
    (hthen : SetsExactly second third color other) :
    SetsExactly first third color fun c r => shape c r ∨ other c r := by
  have hinside := hthen.inside
  have houtside := hthen.outside
  rw [h.like.width, h.like.height, h.like.stride] at hinside houtside
  refine ⟨h.like.trans hthen.like, ?_, ?_⟩
  · intro c r hc hr hshape
    -- the second drawing may cover the place, whichever pixel it is there for
    by_cases hcovered : ∃ c' r' : Nat, c' < first.width ∧ r' < first.height ∧ other c' r' ∧
        r * first.stride + c = r' * first.stride + c'
    · obtain ⟨c', r', hc', hr', hother, hplace⟩ := hcovered
      rw [hplace]
      exact hinside c' r' hc' hr' hother
    · rw [houtside _ fun c' r' hc' hr' hother hplace =>
        hcovered ⟨c', r', hc', hr', hother, hplace⟩]
      obtain hshape | hother := hshape
      · exact h.inside c r hc hr hshape
      · exact absurd ⟨c, r, hc, hr, hother, rfl⟩ hcovered
  · intro i hi
    rw [houtside i fun c r hc hr hother => hi c r hc hr (.inr hother)]
    exact h.outside i fun c r hc hr hshape => hi c r hc hr (.inl hshape)

/-- A loop each turn of which draws a shape draws all of them. -/
theorem foldl {α : Type} {turn : CartCanvas → α → CartCanvas} {shape : α → Int → Int → Prop}
    {canvas : CartCanvas} (l : List α) (hturn : ∀ other, canvas.Like other → ∀ a ∈ l,
      SetsExactly other (turn other a) color (shape a)) :
    SetsExactly canvas (l.foldl turn canvas) color fun c r => ∃ a ∈ l, shape a c r := by
  induction l generalizing canvas with
  | nil => exact (refl canvas).congr (by simp)
  | cons a l ih =>
    have hfirst := hturn canvas (.refl canvas) a List.mem_cons_self
    have hrest := ih fun other hlike b hb =>
      hturn other (hfirst.like.trans hlike) b (List.mem_cons_of_mem _ hb)
    exact (hfirst.trans hrest).congr (by simp)

/-- The shape and the colour determine what is drawn. -/
theorem unique {before after after' : CartCanvas} (h : SetsExactly before after color shape)
    (h' : SetsExactly before after' color shape) : after = after' := by
  rw [h.like.frame, h'.like.frame]
  congr 1
  apply List.ext_getElem?
  intro i
  by_cases hcovered : ∃ c r : Nat, c < before.width ∧ r < before.height ∧ shape c r ∧
      i = r * before.stride + c
  · obtain ⟨c, r, hc, hr, hshape, rfl⟩ := hcovered
    rw [h.inside c r hc hr hshape, h'.inside c r hc hr hshape]
  · have hnot : ∀ c r : Nat, c < before.width → r < before.height → shape c r →
        i ≠ r * before.stride + c := fun c r hc hr hshape hplace =>
      hcovered ⟨c, r, hc, hr, hshape, hplace⟩
    rw [h.outside i hnot, h'.outside i hnot]

section Backed

variable [Target] {canvas : CartCanvas} (h : canvas.Backed)
include h

theorem put {c r : Nat} (hc : c < canvas.width) (hr : r < canvas.height) :
    SetsExactly canvas (canvas.put (r * canvas.stride + c) color) color
      fun c' r' => c' = c ∧ r' = r := by
  refine ⟨canvas.like_put _ _, ?_, ?_⟩
  · rintro c' r' - - ⟨hc', hr'⟩
    obtain rfl := Int.ofNat_inj.mp hc'
    obtain rfl := Int.ofNat_inj.mp hr'
    rw [CartCanvas.put, List.getElem?_set_self (h.place_lt hc hr)]
  · intro i hi
    rw [CartCanvas.put, List.getElem?_set_ne (hi c r hc hr ⟨rfl, rfl⟩).symm]

theorem fillPixel {row column : Int} (hrow : 0 ≤ row ∧ row < canvas.height)
    (hcolumn : 0 ≤ column ∧ column < canvas.width) (inside : Bool) :
    SetsExactly canvas
      (if inside then canvas.put (row.toNat * canvas.stride + column.toNat) color else canvas) color
      fun c r => inside = true ∧ c = column ∧ r = row := by
  lift row to Nat using hrow.1
  lift column to Nat using hcolumn.1
  cases inside with
  | false => exact (refl canvas).congr (by simp)
  | true => exact (put h (by omega) (by omega)).congr (by simp)

theorem fillRow {row left right : Int} (hrow : 0 ≤ row ∧ row < canvas.height) (hleft : 0 ≤ left)
    (hright : right ≤ canvas.width) (inside : Int → Int → Bool) :
    SetsExactly canvas
      ((Int.range left right).foldl (fun canvas column =>
        if inside row column then canvas.put (row.toNat * canvas.stride + column.toNat) color
        else canvas) canvas) color
      fun c r => ∃ column ∈ Int.range left right, inside row column = true ∧ c = column ∧ r = row := by
  apply foldl
  intro other hlike column hcolumn
  rw [Int.mem_range_iff] at hcolumn
  apply fillPixel (hlike.backed h)
  · rwa [hlike.height]
  · rw [hlike.width]
    omega

theorem fill {left right top bottom : Int} (hleft : 0 ≤ left) (hright : right ≤ canvas.width)
    (htop : 0 ≤ top) (hbottom : bottom ≤ canvas.height) (inside : Int → Int → Bool) :
    SetsExactly canvas (canvas.fill left right top bottom inside color) color fun c r =>
      (left ≤ c ∧ c < right) ∧ (top ≤ r ∧ r < bottom) ∧ inside r c = true := by
  have hrows : SetsExactly canvas (canvas.fill left right top bottom inside color) color fun c r =>
      ∃ row ∈ Int.range top bottom, ∃ column ∈ Int.range left right,
        inside row column = true ∧ c = column ∧ r = row := by
    apply foldl
    intro other hlike row hrow
    rw [Int.mem_range_iff] at hrow
    apply fillRow (hlike.backed h) _ hleft (by rwa [hlike.width])
    rw [hlike.height]
    omega
  apply hrows.congr
  intro c r _ _
  simp only [Int.mem_range_iff]
  constructor
  · rintro ⟨row, hrow, column, hcolumn, hinside, rfl, rfl⟩
    exact ⟨hcolumn, hrow, hinside⟩
  · rintro ⟨hcolumn, hrow, hinside⟩
    exact ⟨r, hrow, c, hcolumn, hinside, rfl, rfl⟩

end Backed

end SetsExactly

section Clip

theorem clip_low (value : Int) : (if value < 0 then 0 else value) = max 0 value := by
  split <;> omega

theorem clip_high (value bound : Int) :
    (if value > bound then bound else value) = min value bound := by
  split <;> omega

theorem clip_last (value size : Int) :
    (if value ≥ size then size - 1 else value) = min value (size - 1) := by
  split <;> omega

end Clip

section Checked

open CIntType

/-- A loop each turn of which succeeds, while a fact about its state lasts. -/
theorem foldlM_eq_some {σ α : Type} {turn : σ → α → Option σ} {exact : σ → α → σ} {P : σ → Prop}
    {l : List α} (hturn : ∀ s, P s → ∀ a ∈ l, turn s a = some (exact s a) ∧ P (exact s a)) {s : σ}
    (hs : P s) : l.foldlM turn s = some (l.foldl exact s) := by
  induction l generalizing s with
  | nil => rfl
  | cons a l ih =>
    obtain ⟨hfirst, hkept⟩ := hturn s hs a List.mem_cons_self
    rw [List.foldlM_cons, hfirst, List.foldl_cons, Option.bind_eq_bind, Option.bind_some]
    exact ih (fun s hs b hb => hturn s hs b (List.mem_cons_of_mem _ hb)) hkept

variable [Target] {canvas : CartCanvas} (h : canvas.Backed)
include h

/-- The width and the height are in range of `int64_t` and so are the pixels. -/
theorem CartCanvas.Backed.lt_int64 :
    (canvas.width : Int) < 9223372036854775807 ∧ (canvas.height : Int) < 9223372036854775807 := by
  have hsize := h.size_lt
  have hpos := h.pos
  have hwidth := h.width_le
  have hbits : 2 ^ Target.sizeBits ≤ 2 ^ 64 := Nat.pow_le_pow_right (by decide) Target.sizeBits_le
  have hheight : canvas.height ≤ canvas.stride * canvas.height :=
    Nat.le_mul_of_pos_left _ (by omega)
  have hstride : canvas.stride ≤ canvas.stride * canvas.height :=
    Nat.le_mul_of_pos_right _ hpos.2
  omega

theorem checkedPut_eq {row column : Int} (hrow : 0 ≤ row ∧ row < canvas.height)
    (hcolumn : 0 ≤ column ∧ column < canvas.width) (color : UInt32) :
    canvas.checkedPut row column color
      = some (canvas.put (row.toNat * canvas.stride + column.toNat) color) := by
  lift row to Nat using hrow.1
  lift column to Nat using hcolumn.1
  have hc : column < canvas.width := by omega
  have hr : row < canvas.height := by omega
  rw [CartCanvas.checkedPut, h.place_eq hc hr, if_pos (h.place_lt hc hr), Int.toNat_natCast,
    Int.toNat_natCast]

/-- Within the canvas the loops stay in their types and in the buffer if the test does. -/
theorem checkedFill_eq {left right top bottom : Int} (hleft : 0 ≤ left)
    (hright : right ≤ canvas.width) (htop : 0 ≤ top) (hbottom : bottom ≤ canvas.height)
    {test : Int → Int → Option Bool} {inside : Int → Int → Bool}
    (htest : ∀ row column, top ≤ row → row < bottom → left ≤ column → column < right →
      test row column = some (inside row column)) (color : UInt32) :
    canvas.checkedFill left right top bottom test color
      = some (canvas.fill left right top bottom inside color) := by
  obtain ⟨hwidth, hheight⟩ := h.lt_int64
  refine foldlM_eq_some (P := canvas.Like) ?_ (.refl canvas)
  intro other hlike row hrow
  rw [Int.mem_range_iff] at hrow
  have hinRow : 0 ≤ row ∧ row < other.height := by
    rw [hlike.height]
    omega
  have hcolumns : (Int.range left right).foldlM (fun canvas column => do
      let hit ← test row column
      let canvas ← if hit then canvas.checkedPut row column color else some canvas
      let _ ← int64.add column 1
      return canvas) other = some ((Int.range left right).foldl (fun canvas column =>
        if inside row column then canvas.put (row.toNat * canvas.stride + column.toNat) color
        else canvas) other) := by
    refine foldlM_eq_some (P := other.Like) ?_ (.refl other)
    intro third hthird column hcolumn
    rw [Int.mem_range_iff] at hcolumn
    have hbacked := (hlike.trans hthird).backed h
    have hinThird : 0 ≤ row ∧ row < third.height := by rwa [hthird.height]
    have hinColumn : 0 ≤ column ∧ column < third.width := by
      rw [hthird.width, hlike.width]
      omega
    have hnext : int64.add column 1 = some (column + 1) :=
      add_of_holds (holds_int64_iff.mpr (by omega))
    refine ⟨?_, hthird.trans (SetsExactly.fillPixel hbacked hinThird hinColumn _).like⟩
    rw [htest row column hrow.1 hrow.2 hcolumn.1 hcolumn.2, checkedPut_eq hbacked hinThird hinColumn,
      hnext]
    cases inside row column <;> rfl
  have hnext : int64.add row 1 = some (row + 1) := add_of_holds (holds_int64_iff.mpr (by omega))
  have hinRight : right ≤ other.width := by
    rw [hlike.width]
    exact hright
  have hset := @SetsExactly.fillRow color _ other (hlike.backed h) row left right hinRow hleft
    hinRight inside
  refine ⟨?_, hlike.trans hset.like⟩
  rw [hcolumns, hnext]
  rfl

end Checked

end VitaLinuxPort
