import Mathlib.Data.List.Basic
import VitaLinuxPort.Cart.FlashCheck

/-!
# What the verdict says

A series has a flash pair where two adjacent frames are one, and it exceeds the rate where more than
three of its flash pairs fall into one window. The status is taken from the worst region; since that
is no better than any other, it says so of all of them.
-/

namespace VitaLinuxPort

namespace FlashCheck

open Python

section Series

variable {F : Type} [PyFloat F]

def HasFlashPair (series : List F) : Prop :=
  ∃ i first second, series[i]? = some first ∧ series[i + 1]? = some second ∧
    isFlashPair first second = true

def ExceedsRate (window : Nat) (series : List F) : Prop :=
  ∃ start, flashesPerSecond < windowCount (flashFlags series) window start

theorem getElem?_flashFlags (series : List F) (i : Nat) :
    (flashFlags series)[i]? = some true ↔
      ∃ first second, series[i]? = some first ∧ series[i + 1]? = some second ∧
        isFlashPair first second = true := by
  rw [flashFlags, List.getElem?_map, Option.map_eq_some_iff]
  constructor
  · rintro ⟨⟨first, second⟩, hpair, hflash⟩
    obtain ⟨hfirst, hsecond⟩ := List.getElem?_zip_eq_some.mp hpair
    rw [List.getElem?_tail] at hsecond
    exact ⟨first, second, hfirst, hsecond, hflash⟩
  · rintro ⟨first, second, hfirst, hsecond, hflash⟩
    rw [← List.getElem?_tail] at hsecond
    exact ⟨(first, second), List.getElem?_zip_eq_some.mpr ⟨hfirst, hsecond⟩, hflash⟩

theorem count_flashFlags_pos (series : List F) :
    (flashFlags series).count true ≠ 0 ↔ HasFlashPair series := by
  rw [← Nat.pos_iff_ne_zero, List.count_pos_iff, List.mem_iff_getElem?, HasFlashPair]
  simp only [getElem?_flashFlags]

/-- The greatest count is above a bound if and only if a count is. -/
theorem lt_foldl_worst (count : Nat → Nat) (starts : List Nat) (bound : Nat) (worst : Nat × Int) :
    bound < (starts.foldl (fun worst start =>
        if count start > worst.1 then (count start, (start : Int)) else worst) worst).1 ↔
      bound < worst.1 ∨ ∃ start ∈ starts, bound < count start := by
  induction starts generalizing worst with
  | nil => simp
  | cons start starts ih =>
    rw [List.foldl_cons, ih, List.exists_mem_cons_iff, ← or_assoc]
    apply or_congr_left
    split
    · omega
    · omega

/-- A window that begins after the last whole one has no flash pair that that one has not. -/
theorem windowCount_le (flags : List Bool) {window start : Nat} (hwindow : 0 < window)
    (hstart : flags.length + 1 - window ≤ start) :
    windowCount flags window start ≤ windowCount flags window (flags.length - window) := by
  have hrest : flags.drop start = (flags.drop (flags.length - window)).drop
      (start - (flags.length - window)) := by
    rw [List.drop_drop, show flags.length - window + (start - (flags.length - window)) = start by
      omega]
  have hwhole : (flags.drop (flags.length - window)).take window
      = flags.drop (flags.length - window) := by
    apply List.take_of_length_le
    rw [List.length_drop]
    omega
  rw [windowCount, windowCount, hwhole, hrest]
  exact ((List.take_sublist _ _).trans (List.drop_sublist _ _)).count_le true

theorem lt_worstRate (flags : List Bool) {window : Nat} (hwindow : 0 < window) (bound : Nat) :
    bound < (worstRate flags window).1 ↔ ∃ start, bound < windowCount flags window start := by
  rw [worstRate, lt_foldl_worst]
  constructor
  · rintro (h | ⟨start, -, h⟩)
    · exact absurd h (Nat.not_lt_zero _)
    · exact ⟨start, h⟩
  · rintro ⟨start, h⟩
    by_cases hstart : start < max 1 (flags.length + 1 - window)
    · exact .inr ⟨start, List.mem_range.mpr hstart, h⟩
    · refine .inr ⟨flags.length - window, List.mem_range.mpr (by omega), ?_⟩
      exact h.trans_le (windowCount_le flags hwindow (by omega))

theorem pos_of_rateWindow {fps : F} {window : Nat} (h : rateWindow fps = some window) :
    0 < window := by
  obtain ⟨n, -, rfl⟩ := Option.map_eq_some_iff.mp h
  omega

/-- What `analyse` returns when `round` does not raise. -/
def regionOf (window : Nat) (label : CString) (series : List F) : Region F where
  label
  frames := series.length
  flashPairs := (flashFlags series).count true
  worstDelta := (worstDelta series).1
  worstDeltaFrame := (worstDelta series).2
  worstRatePerSecond := (worstRate (flashFlags series) window).1
  worstRateAtFrame := (worstRate (flashFlags series) window).2
  rateExceeded := (worstRate (flashFlags series) window).1 > flashesPerSecond
  flashFrames := (((flashFlags series).zipIdx.filter (·.1)).map (·.2 + 1)).take 50

theorem analyse_eq {fps : F} {window : Nat} (h : rateWindow fps = some window) (series : List F)
    (label : CString) : analyse series fps label = .ok (regionOf window label series) := by
  rw [analyse, h]
  rfl

theorem flashPairs_regionOf (window : Nat) (label : CString) (series : List F) :
    (regionOf window label series).flashPairs ≠ 0 ↔ HasFlashPair series :=
  count_flashFlags_pos series

theorem rateExceeded_regionOf {window : Nat} (hwindow : 0 < window) (label : CString)
    (series : List F) :
    (regionOf window label series).rateExceeded = true ↔ ExceedsRate window series := by
  rw [regionOf, decide_eq_true_eq, gt_iff_lt, lt_worstRate _ hwindow, ExceedsRate]

end Series

section Verdict

variable {F : Type} [PyFloat F]

/-- The order of the verdicts, which the choice of the worst region refines. -/
def NoWorse (a b : Region F) : Prop :=
  (a.rateExceeded = true → b.rateExceeded = true) ∧
    (a.rateExceeded = b.rateExceeded → a.flashPairs ≤ b.flashPairs)

omit [PyFloat F] in
theorem NoWorse.trans {a b c : Region F} (hab : NoWorse a b) (hbc : NoWorse b c) : NoWorse a c := by
  refine ⟨fun h => hbc.1 (hab.1 h), fun h => ?_⟩
  have hb : a.rateExceeded = b.rateExceeded := by
    rw [Bool.eq_iff_iff]
    exact ⟨hab.1, fun hb => h.trans (hbc.1 hb)⟩
  exact (hab.2 hb).trans (hbc.2 (hb.symm.trans h))

/-- Whichever of two regions the keys prefer, the other is no worse. -/
theorem noWorse_of_worseThan (a b : Region F) :
    if worseThan a b = true then NoWorse b a else NoWorse a b := by
  unfold worseThan
  by_cases hrate : a.rateExceeded = b.rateExceeded
  · rw [if_neg (not_not.mpr hrate)]
    by_cases hpairs : a.flashPairs = b.flashPairs
    · -- the last key decides, and neither is worse
      have hequal : NoWorse b a ∧ NoWorse a b :=
        ⟨⟨fun h => hrate.trans h, fun _ => hpairs.ge⟩, ⟨fun h => hrate.symm.trans h, fun _ => hpairs.le⟩⟩
      rw [if_neg (not_not.mpr hpairs)]
      generalize (if PyFloat.eq a.worstDelta b.worstDelta = true then false
        else PyFloat.lt b.worstDelta a.worstDelta) = later
      cases later with
      | false => exact hequal.2
      | true => exact hequal.1
    · rw [if_pos hpairs]
      split
      · rename_i hgt
        exact ⟨fun h => hrate.trans h, fun _ => (of_decide_eq_true hgt).le⟩
      · rename_i hgt
        exact ⟨fun h => hrate.symm.trans h, fun _ => by simpa using hgt⟩
  · rw [if_pos hrate]
    split
    · rename_i ha
      exact ⟨fun _ => ha, fun h => absurd h.symm hrate⟩
    · rename_i ha
      exact ⟨fun h => absurd h ha, fun h => absurd h hrate⟩

theorem noWorse_worst (first : Region F) (rest : List (Region F)) :
    ∀ region ∈ first :: rest, NoWorse region (maxBy worseThan first rest) := by
  apply le_maxBy
  · exact fun a => ⟨id, fun _ => le_rfl⟩
  · exact fun a b c => NoWorse.trans
  · intro a b h
    have hcases := noWorse_of_worseThan a b
    rwa [if_pos h] at hcases
  · intro a b h
    have hcases := noWorse_of_worseThan a b
    rwa [if_neg (by rw [h]; decide)] at hcases

/-- The three verdicts, about every region. -/
theorem verdict_worst (first : Region F) (rest : List (Region F)) :
    (verdict (maxBy worseThan first rest) = 0 ∧ ∀ region ∈ first :: rest,
      region.rateExceeded = false ∧ region.flashPairs = 0) ∨
    (verdict (maxBy worseThan first rest) = 1 ∧ (∃ region ∈ first :: rest, region.flashPairs ≠ 0) ∧
      ∀ region ∈ first :: rest, region.rateExceeded = false) ∨
    (verdict (maxBy worseThan first rest) = 2 ∧
      ∃ region ∈ first :: rest, region.rateExceeded = true) := by
  have hmem : maxBy worseThan first rest ∈ first :: rest := maxBy_mem first rest
  have hworst := noWorse_worst first rest
  cases hrate : (maxBy worseThan first rest).rateExceeded with
  | true => exact .inr (.inr ⟨by simp [verdict, hrate], _, hmem, hrate⟩)
  | false =>
    have hnone : ∀ region ∈ first :: rest, region.rateExceeded = false := by
      intro region hregion
      cases h : region.rateExceeded with
      | false => rfl
      | true => exact absurd ((hworst region hregion).1 h) (by rw [hrate]; decide)
    by_cases hpairs : (maxBy worseThan first rest).flashPairs = 0
    · refine .inl ⟨by simp [verdict, hrate, hpairs], fun region hregion => ?_⟩
      have hle := (hworst region hregion).2 (by rw [hnone region hregion, hrate])
      exact ⟨hnone region hregion, by omega⟩
    · exact .inr (.inl ⟨by simp [verdict, hrate, hpairs], ⟨_, hmem, hpairs⟩, hnone⟩)

end Verdict

end FlashCheck

end VitaLinuxPort
