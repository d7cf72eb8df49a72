import Mathlib.Algebra.Order.Ring.Abs
import Mathlib.Tactic.Linarith
import VitaLinuxPort.Proof.Canvas.Rect

/-!
# Circles

The bounding box is clipped before the distance is looked at, so neither difference is larger than the
radius there and the squares stay in range. What the box leaves out is farther away than the radius.
-/

namespace VitaLinuxPort

open CIntType

variable [Target] {canvas : CartCanvas} {centerX centerY radius : Int}

/-- The lattice points `(c, r)` of the disc. -/
def InDisc (centerX centerY radius c r : Int) : Prop :=
  (c - centerX) * (c - centerX) + (r - centerY) * (r - centerY) ≤ radius * radius

omit [Target] in
/-- A disc fits its bounding box. -/
theorem InDisc.near {c r : Int} (hradius : 0 ≤ radius) (h : InDisc centerX centerY radius c r) :
    (centerX - radius ≤ c ∧ c ≤ centerX + radius) ∧ (centerY - radius ≤ r ∧ r ≤ centerY + radius) := by
  unfold InDisc at h
  have hx : |c - centerX| ≤ |radius| :=
    abs_le_iff_mul_self_le.mpr (by linarith [mul_self_nonneg (r - centerY)])
  have hy : |r - centerY| ≤ |radius| :=
    abs_le_iff_mul_self_le.mpr (by linarith [mul_self_nonneg (c - centerX)])
  rw [abs_of_nonneg hradius, abs_le] at hx hy
  omega

theorem circle_setsExactly (h : canvas.Backed) (centerX centerY : Int) (hradius : 0 ≤ radius)
    (color : UInt32) :
    SetsExactly canvas (cartCanvasCircle canvas centerX centerY radius color) color
      (InDisc centerX centerY radius) := by
  simp only [cartCanvasCircle, h.valid, Bool.not_true, Bool.false_eq_true, false_or,
    not_lt.mpr hradius, if_false, clip_low, clip_last]
  split
  case isTrue hoff =>
    refine (SetsExactly.refl canvas).congr fun c r _ _ => ?_
    rw [false_iff]
    intro hdisc
    have hnear := hdisc.near hradius
    omega
  case isFalse =>
    refine (SetsExactly.fill h (by omega) (by omega) (by omega) (by omega) _).congr
      fun c r _ _ => ?_
    rw [decide_eq_true_eq]
    constructor
    · exact fun hinside => hinside.2.2
    · intro hdisc
      have hnear := hdisc.near hradius
      exact ⟨by omega, by omega, hdisc⟩

omit [Target] in
/-- The squares of two numbers no larger than an `int`, and their sum. -/
theorem squares_hold {a b : Int} (ha : |a| ≤ 2147483647) (hb : |b| ≤ 2147483647) :
    int64.Holds (a * a) ∧ int64.Holds (b * b) ∧ int64.Holds (a * a + b * b) := by
  have hsquareA : a * a ≤ 2147483647 * 2147483647 := abs_le_iff_mul_self_le.mp (by simpa using ha)
  have hsquareB : b * b ≤ 2147483647 * 2147483647 := abs_le_iff_mul_self_le.mp (by simpa using hb)
  have := mul_self_nonneg a
  have := mul_self_nonneg b
  simp only [holds_int64_iff]
  omega

omit [Target] in
theorem checkedInside_eq {row column : Int} (hradius : radius ≤ 2147483647)
    (hrow : |row - centerY| ≤ radius) (hcolumn : |column - centerX| ≤ radius) :
    checkedInside centerX centerY (radius * radius) row column
      = some (decide ((column - centerX) * (column - centerX) + (row - centerY) * (row - centerY)
          ≤ radius * radius)) := by
  obtain ⟨hsquareX, hsquareY, hsum⟩ := squares_hold (hcolumn.trans hradius) (hrow.trans hradius)
  rw [abs_le] at hrow hcolumn
  have hdeltaY : int64.sub row centerY = some (row - centerY) :=
    sub_of_holds (holds_int64_iff.mpr (by omega))
  have hdeltaX : int64.sub column centerX = some (column - centerX) :=
    sub_of_holds (holds_int64_iff.mpr (by omega))
  simp only [checkedInside, hdeltaY, hdeltaX, Option.bind_eq_bind, Option.bind_some,
    mul_of_holds hsquareX, mul_of_holds hsquareY, add_of_holds hsum]
  rfl

theorem checkedCircle_eq (h : canvas.Backed) (hx : int32.Holds centerX) (hy : int32.Holds centerY)
    (hradius : int32.Holds radius) (color : UInt32) :
    checkedCanvasCircle canvas centerX centerY radius color
      = some (cartCanvasCircle canvas centerX centerY radius color) := by
  rw [holds_int32_iff] at hx hy hradius
  obtain ⟨hcolumns, hrows⟩ := h.lt_int64
  have hleft : int64.sub centerX radius = some (centerX - radius) :=
    sub_of_holds (holds_int64_iff.mpr (by omega))
  have htop : int64.sub centerY radius = some (centerY - radius) :=
    sub_of_holds (holds_int64_iff.mpr (by omega))
  have hright : int64.add centerX radius = some (centerX + radius) :=
    add_of_holds (holds_int64_iff.mpr (by omega))
  have hbottom : int64.add centerY radius = some (centerY + radius) :=
    add_of_holds (holds_int64_iff.mpr (by omega))
  have hwidth : int64.fit canvas.width = some (canvas.width : Int) :=
    fit_of_holds (holds_int64_iff.mpr (by omega))
  have hheight : int64.fit canvas.height = some (canvas.height : Int) :=
    fit_of_holds (holds_int64_iff.mpr (by omega))
  have hlastColumn : int64.sub canvas.width 1 = some ((canvas.width : Int) - 1) :=
    sub_of_holds (holds_int64_iff.mpr (by omega))
  have hlastRow : int64.sub canvas.height 1 = some ((canvas.height : Int) - 1) :=
    sub_of_holds (holds_int64_iff.mpr (by omega))
  rw [checkedCanvasCircle, cartCanvasCircle]
  split
  case isTrue => rfl
  case isFalse hdrawn =>
    have hpositive : 0 ≤ radius := by
      omega
    have hlargest : |radius| ≤ 2147483647 := by
      rw [abs_of_nonneg hpositive]
      exact hradius.2
    have hsquared : int64.mul radius radius = some (radius * radius) :=
      mul_of_holds (squares_hold hlargest hlargest).1
    simp only [hleft, htop, hright, hbottom, hwidth, hheight, hlastColumn, hlastRow, hsquared,
      Option.bind_eq_bind, Option.bind_some, clip_low, clip_last]
    rw [apply_ite some, checkedFill_eq h (by omega) (by omega) (by omega) (by omega) ?_]
    intro row column hrowFrom hrowTo hcolumnFrom hcolumnTo
    apply checkedInside_eq hradius.2
    · rw [abs_le]
      omega
    · rw [abs_le]
      omega

/-- A circle is drawn without leaving the types and the buffer, the pixels of the disc that are on the
canvas are set and nothing else is. -/
theorem circle_eq_disc (h : canvas.Backed) (hx : int32.Holds centerX) (hy : int32.Holds centerY)
    (hradius : int32.Holds radius) (hpositive : 0 ≤ radius) (color : UInt32) :
    checkedCanvasCircle canvas centerX centerY radius color
        = some (cartCanvasCircle canvas centerX centerY radius color) ∧
      SetsExactly canvas (cartCanvasCircle canvas centerX centerY radius color) color
        (InDisc centerX centerY radius) :=
  ⟨checkedCircle_eq h hx hy hradius color, circle_setsExactly h centerX centerY hpositive color⟩

omit [Target] in
/-- As far away and as large as can be. -/
theorem circle_eq_disc_tinyCanvas :
    letI := armv7
    checkedCanvasCircle tinyCanvas (-2147483648) 2147483647 2147483647 9
        = some (cartCanvasCircle tinyCanvas (-2147483648) 2147483647 2147483647 9) ∧
      SetsExactly tinyCanvas (cartCanvasCircle tinyCanvas (-2147483648) 2147483647 2147483647 9) 9
        (InDisc (-2147483648) 2147483647 2147483647) :=
  @circle_eq_disc armv7 tinyCanvas (-2147483648) 2147483647 2147483647 backed_tinyCanvas (by decide)
    (by decide) (by decide) (by decide) 9

end VitaLinuxPort
