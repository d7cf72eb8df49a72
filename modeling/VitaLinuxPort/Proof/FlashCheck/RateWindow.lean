import Mathlib.Algebra.Order.Field.Rat
import Mathlib.Algebra.Order.Floor.Ring
import Mathlib.Data.Rat.Floor
import Mathlib.Tactic.Linarith
import VitaLinuxPort.Lib.SlidingWindow
import VitaLinuxPort.Proof.FlashCheck.Analysis

/-!
# The window and the second

The rate is counted over a whole number of frames, the frame rate rounded, halves to the even side.
Over exact numbers that is the number of frames that begin within a second wherever the rate is not
above the rounded rate. Where it is, one frame more begins within the second than the window has.
-/

namespace VitaLinuxPort

namespace FlashCheck

open Python SlidingWindow

/-- Two adjacent frames are a flash pair. -/
def FlashAt (series : List ℚ) (i : Nat) : Prop :=
  ∃ first second, series[i]? = some first ∧ series[i + 1]? = some second ∧
    1 / 10 ≤ |second - first| ∧ Min.min first second < 4 / 5

/-- More than three flash pairs, the first and the last of them less than a second apart. -/
def ExceedsInSecond (series : List ℚ) (fps : ℚ) : Prop :=
  ∃ frame : Fin 4 → Nat, Marks (FlashAt series) frame ∧ ((last frame : ℚ) - first frame) / fps < 1

/-- What `analyse` reports. -/
def RateExceeded (series : List ℚ) (fps : ℚ) (label : CString) : Prop :=
  ∃ region, analyse series fps label = .ok region ∧ region.rateExceeded = true

section Flags

theorem abs_rat (x : ℚ) : PyFloat.abs x = |x| := by
  obtain hx | hx := le_total 0 x
  · exact (Rat.abs_of_nonneg hx).trans (abs_of_nonneg hx).symm
  · exact (Rat.abs_of_nonpos hx).trans (abs_of_nonpos hx).symm

theorem min_rat (x y : ℚ) : Python.min x y = Min.min x y := by
  simp only [Python.min, PyFloat.lt, decide_eq_true_eq]
  split
  case isTrue h => exact (min_eq_right h.le).symm
  case isFalse h => exact (min_eq_left (not_lt.mp h)).symm

theorem isFlashPair_rat (first second : ℚ) :
    isFlashPair first second = true ↔ 1 / 10 ≤ |second - first| ∧ Min.min first second < 4 / 5 := by
  have hdelta : (flashDelta : ℚ) = 1 / 10 := by
    norm_num [flashDelta]
  have hdark : (darkLimit : ℚ) = 4 / 5 := by
    norm_num [darkLimit]
  rw [isFlashPair, Bool.and_eq_true, hdelta, hdark, abs_rat, sub_rat, min_rat]
  simp only [PyFloat.le, PyFloat.lt, decide_eq_true_eq]

theorem flag_iff (series : List ℚ) (i : Nat) :
    (flashFlags series)[i]? = some true ↔ FlashAt series i := by
  rw [getElem?_flashFlags]
  simp only [isFlashPair_rat, FlashAt]

theorem windowCount_eq (flags : List Bool) (window start : Nat) :
    windowCount flags window start = SlidingWindow.count (flags[·]? = some true) window start := by
  induction window with
  | zero => simp [windowCount, SlidingWindow.count_zero]
  | succ window ih =>
    rw [SlidingWindow.count_succ, ← ih, windowCount, windowCount, List.take_add_one, List.count_append,
      List.getElem?_drop]
    congr 1
    cases flags[start + window]? with
    | none => rfl
    | some flag => cases flag <;> rfl

end Flags

section Window

variable {fps : ℚ}

/-- Rounding moves a number by half at most. -/
theorem round_rat (x : ℚ) :
    ∃ n : Int, PyFloat.round x = some n ∧ (n : ℚ) - 1 / 2 ≤ x ∧ x ≤ n + 1 / 2 := by
  have hlow : (x.floor : ℚ) ≤ x := Rat.floor_le x
  have hhigh : x < x.floor + 1 := by exact_mod_cast Rat.lt_floor_add_one x
  simp only [PyFloat.round]
  split
  case isTrue h => exact ⟨_, rfl, by linarith, by linarith⟩
  case isFalse h =>
    have hhalf := not_lt.mp h
    split
    case isTrue h => exact ⟨_, rfl, by push_cast; linarith, by push_cast; linarith⟩
    case isFalse h =>
      have hhalf' := not_lt.mp h
      split
      · exact ⟨_, rfl, by linarith, by linarith⟩
      · exact ⟨_, rfl, by push_cast; linarith, by push_cast; linarith⟩

/-- The window is the rounded rate: it is less than one frame away from the rate on either side. -/
theorem rateWindow_rat (hfps : 0 < fps) :
    ∃ window : Nat, rateWindow fps = some window ∧ (window : ℚ) - 1 < fps ∧ fps < window + 1 := by
  obtain ⟨n, hround, hbelow, habove⟩ := round_rat fps
  refine ⟨(max 1 n).toNat, ?_, ?_⟩
  · rw [rateWindow, hround]
    rfl
  · have hcast : (((max 1 n).toNat : Nat) : ℚ) = Max.max 1 (n : ℚ) := by
      have htoNat : ((max 1 n).toNat : Int) = max 1 n :=
        Int.toNat_of_nonneg (le_trans (by decide) (le_max_left 1 n))
      exact_mod_cast congrArg (Int.cast : Int → ℚ) htoNat
    rw [hcast]
    obtain hone | hmore := le_total (n : ℚ) 1
    · rw [max_eq_left hone]
      constructor
      · linarith
      · linarith
    · rw [max_eq_right hmore]
      constructor
      · linarith
      · linarith

end Window

section Rate

variable {series : List ℚ} {fps : ℚ} {window : Nat}

theorem rateExceeded_iff (hwindow : rateWindow fps = some window) (label : CString) :
    RateExceeded series fps label ↔
      ∃ frame : Fin 4 → Nat, Marks (FlashAt series) frame ∧ last frame < first frame + window := by
  have hflags : ((flashFlags series)[·]? = some true) = FlashAt series :=
    funext fun i => propext (flag_iff series i)
  have hregion : RateExceeded series fps label
      ↔ (regionOf window label series).rateExceeded = true := by
    rw [RateExceeded, analyse_eq hwindow]
    constructor
    · rintro ⟨region, hregion, hexceeded⟩
      rwa [Except.ok.inj hregion]
    · exact fun hexceeded => ⟨_, rfl, hexceeded⟩
  rw [hregion, rateExceeded_regionOf (pos_of_rateWindow hwindow), ExceedsRate]
  simp only [windowCount_eq]
  rw [exists_lt_count_iff, hflags]
  rfl

/-- The number of frames between two of them that begin less than a second apart. -/
theorem within_second_iff (hfps : 0 < fps) (hbelow : (window : ℚ) - 1 < fps)
    (habove : fps < window + 1) {first last : Nat} (hle : first ≤ last) :
    ((last : ℚ) - first) / fps < 1 ↔
      last < first + window ∨ last = first + window ∧ (window : ℚ) < fps := by
  rw [div_lt_one hfps]
  obtain ⟨frames, rfl⟩ := Nat.exists_eq_add_of_le hle
  push_cast
  rw [add_sub_cancel_left]
  obtain hlt | heq | hgt := lt_trichotomy frames window
  · have hcast : (frames : ℚ) + 1 ≤ window := by exact_mod_cast hlt
    exact iff_of_true (by linarith) (.inl (by omega))
  · subst heq
    simp
  · have hcast : (window : ℚ) + 1 ≤ frames := by exact_mod_cast hgt
    exact iff_of_false (by linarith) (by omega)

/-- `analyse` reports the rate exceeded where it is, over a second, exactly where the frame rate is not
above the window, or where with any four flash pairs that are as far apart as the window is long
there are four that are closer together. -/
theorem rate_exceeded_iff (hfps : 0 < fps) (series : List ℚ) (label : CString) :
    ∃ window : Nat, rateWindow fps = some window ∧
      ((RateExceeded series fps label ↔ ExceedsInSecond series fps) ↔
        fps ≤ window ∨ ∀ frame : Fin 4 → Nat, Marks (FlashAt series) frame →
          last frame = first frame + window →
          ∃ closer : Fin 4 → Nat, Marks (FlashAt series) closer ∧
            last closer < first closer + window) := by
  obtain ⟨window, hwindow, hbelow, habove⟩ := rateWindow_rat hfps
  have hsecond : ExceedsInSecond series fps ↔ ∃ frame : Fin 4 → Nat,
      Marks (FlashAt series) frame ∧
        (last frame < first frame + window ∨ last frame = first frame + window ∧ (window : ℚ) < fps) :=
    exists_congr fun frame => and_congr_right fun hmarks =>
      within_second_iff hfps hbelow habove (first_le_last hmarks.1)
  refine ⟨window, hwindow, ?_⟩
  rw [rateExceeded_iff hwindow, hsecond]
  constructor
  · intro hiff
    refine or_iff_not_imp_left.mpr fun hrate frame hmarks hlast => ?_
    exact hiff.mpr ⟨frame, hmarks, .inr ⟨hlast, not_le.mp hrate⟩⟩
  · intro hcondition
    constructor
    · rintro ⟨frame, hmarks, hlast⟩
      exact ⟨frame, hmarks, .inl hlast⟩
    · rintro ⟨frame, hmarks, hlast | ⟨hlast, hrate⟩⟩
      · exact ⟨frame, hmarks, hlast⟩
      · obtain hle | hcloser := hcondition
        · exact absurd hle (not_le.mpr hrate)
        · exact hcloser frame hmarks hlast

/-- At 60 frames a second. -/
theorem rate_exceeded_iff_sixty :
    ∃ window : Nat, rateWindow (60 : ℚ) = some window ∧
      ((RateExceeded [0, 1, 0] 60 [] ↔ ExceedsInSecond [0, 1, 0] 60) ↔
        60 ≤ (window : ℚ) ∨ ∀ frame : Fin 4 → Nat, Marks (FlashAt [0, 1, 0]) frame →
          last frame = first frame + window →
          ∃ closer : Fin 4 → Nat, Marks (FlashAt [0, 1, 0]) closer ∧
            last closer < first closer + window) :=
  rate_exceeded_iff (by decide) [0, 1, 0] []

/-- Four flash pairs in a row, at 17 frames in five seconds: the window has three frames. -/
theorem rate_exceeded_iff_rounded_down :
    ¬∀ (series : List ℚ) (fps : ℚ) (label : CString), 0 < fps →
      (RateExceeded series fps label ↔ ExceedsInSecond series fps) := by
  intro h
  have hflash : ∀ i : Fin 4, FlashAt [0, 1 / 2, 0, 1 / 2, 0] i := by
    intro i
    rw [← flag_iff]
    revert i
    decide +kernel
  have hseconds : ExceedsInSecond [0, 1 / 2, 0, 1 / 2, 0] (17 / 5) :=
    ⟨Fin.val, ⟨Fin.val_strictMono, hflash⟩, by norm_num [first, last]⟩
  obtain ⟨region, hregion, hexceeded⟩ := (h _ (17 / 5) [] (by norm_num)).mpr hseconds
  rw [analyse_eq (show rateWindow (17 / 5 : ℚ) = some 3 by decide +kernel)] at hregion
  rw [← Except.ok.inj hregion] at hexceeded
  exact absurd hexceeded (by decide +kernel)

end Rate

end FlashCheck

end VitaLinuxPort
