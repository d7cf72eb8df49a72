import VitaLinuxPort.Proof.Input.Normalize

/-!
# Calibration of the axes

The range kept of an axis has the bounds the device reports and a dead zone that normalization
accepts, as long as the span of the axis and two hundred times its `flat` fit `int32_t`. Both are
computed in that type, from values the device alone controls.
-/

namespace VitaLinuxPort

open CIntType

namespace AbsInfo

def span (info : AbsInfo) : Int := info.maximum.toInt - info.minimum.toInt

/-- The percentage of the range, rounded down, that `flat` extends over on either side. -/
def suggested (info : AbsInfo) : Int := 200 * info.flat.toInt / info.span

/-- The dead zone an axis should get: what the device suggests if that is wider than the default and
at most half, and the default otherwise. An empty or inverted range suggests nothing. -/
def deadzonePct (info : AbsInfo) : Int :=
  if 0 < info.span ∧ 15 < info.suggested ∧ info.suggested ≤ 50 then info.suggested else 15

/-- The span fits `int32_t`, and so does the product the suggestion is computed from. -/
def Fits (info : AbsInfo) : Prop :=
  int32.Holds info.span ∧ (0 < info.span → 0 < info.flat.toInt → 200 * info.flat.toInt ≤ 2147483647)

theorem deadzonePct_mem (info : AbsInfo) : 15 ≤ info.deadzonePct ∧ info.deadzonePct ≤ 50 := by
  unfold deadzonePct
  split <;> omega

/-- Only a positive `flat` suggests more than the default. -/
theorem deadzonePct_of_flat_nonpos {info : AbsInfo} (hspan : 0 < info.span)
    (hflat : info.flat.toInt ≤ 0) : info.deadzonePct = 15 := by
  have hnonpos : info.suggested ≤ 0 := by
    have hle := Int.ediv_le_ediv hspan (show 200 * info.flat.toInt ≤ 0 by omega)
    rwa [Int.zero_ediv] at hle
  unfold deadzonePct
  omega

/-- The suggestion as the code computes it. -/
theorem tdiv_eq_suggested {info : AbsInfo} (hflat : 0 < info.flat.toInt) :
    (info.flat.toInt * 200).tdiv info.span = info.suggested := by
  rw [Int.tdiv_eq_ediv_of_nonneg (by omega), Int.mul_comm, suggested]

theorem suggested_mem {info : AbsInfo} (hspan : 0 < info.span) (hflat : 0 < info.flat.toInt) :
    0 ≤ info.suggested ∧ info.suggested ≤ 200 * info.flat.toInt :=
  ⟨Int.ediv_nonneg (by omega) (by omega), Int.ediv_le_self _ (by omega)⟩

/-- The range an axis gets. -/
def range (info : AbsInfo) : CartInputAxisRange :=
  { min := info.minimum, max := info.maximum, deadzonePct := Int32.ofInt info.deadzonePct }

theorem range_deadzonePct (info : AbsInfo) :
    info.range.deadzonePct.toInt = info.deadzonePct := by
  obtain ⟨hlow, hhigh⟩ := info.deadzonePct_mem
  exact Int32.toInt_ofInt_of_le (by omega) (by omega)

theorem default_toInt : cartInputDefaultDeadzonePct.toInt = 15 := by decide

theorem zero_toInt : (0 : Int32).toInt = 0 := by decide

theorem fifty_toInt : (50 : Int32).toInt = 50 := by decide

/-- The percentage the checked calibration computes. -/
theorem deadzonePctChecked_of_fits {info : AbsInfo} (fits : info.Fits) :
    deadzonePctChecked info.span info.flat.toInt = some info.deadzonePct := by
  obtain ⟨hspan, hproduct⟩ := fits
  rw [holds_int32_iff] at hspan
  unfold deadzonePctChecked
  rw [default_toInt]
  dsimp only
  by_cases hasks : info.span > 0 ∧ info.flat.toInt > 0
  · have hmem := suggested_mem hasks.1 hasks.2
    have hfits := hproduct hasks.1 hasks.2
    have hquotient := tdiv_eq_suggested hasks.2
    rw [if_pos hasks, mul_of_holds (holds_int32_iff.mpr (by omega)), Option.bind_eq_bind,
      Option.bind_some, div_of_holds (by omega) (by rw [hquotient]; exact holds_int32_iff.mpr (by omega)),
      Option.bind_some, hquotient, deadzonePct]
    have hpos : 0 < info.span := hasks.1
    by_cases hsuggests : info.suggested > 15 ∧ info.suggested ≤ 50
    · rw [if_pos hsuggests, if_pos ⟨hpos, hsuggests⟩]
      rfl
    · rw [if_neg hsuggests, if_neg (fun h => hsuggests h.2)]
      rfl
  · rw [if_neg hasks]
    by_cases hpos : 0 < info.span
    · rw [deadzonePct_of_flat_nonpos hpos (by omega)]
    · rw [deadzonePct, if_neg (fun h => hpos h.1)]

theorem snapshotRangeChecked_of_fits {info : AbsInfo} (fits : info.Fits) :
    snapshotRangeChecked info = some info.range := by
  have hsub : int32.sub info.maximum.toInt info.minimum.toInt = some info.span := sub_of_holds fits.1
  rw [snapshotRangeChecked, hsub, Option.bind_eq_bind, Option.bind_some,
    deadzonePctChecked_of_fits fits]
  rfl

theorem fits_of_snapshotRangeChecked {info : AbsInfo} {range : CartInputAxisRange}
    (h : snapshotRangeChecked info = some range) : info.Fits := by
  obtain ⟨span, hspan, hrest⟩ := Option.bind_eq_some_iff.mp h
  obtain ⟨hholds, rfl⟩ := fit_eq_some_iff.mp hspan
  obtain ⟨pct, hpct, _⟩ := Option.bind_eq_some_iff.mp hrest
  refine ⟨hholds, fun hpos hflat => ?_⟩
  unfold deadzonePctChecked at hpct
  dsimp only at hpct
  rw [if_pos ⟨hpos, hflat⟩] at hpct
  obtain ⟨product, hproduct, _⟩ := Option.bind_eq_some_iff.mp hpct
  have hbound := (holds_int32_iff.mp (fit_eq_some_iff.mp hproduct).1).2
  omega

/-- The calibration of an axis whose values fit. -/
theorem snapshotRange_of_fits {info : AbsInfo} (fits : info.Fits) :
    snapshotRange info = info.range := by
  obtain ⟨hspan, hproduct⟩ := fits
  have hsub : (info.maximum - info.minimum).toInt = info.span := by
    rw [Int32.toInt_sub]
    exact CartInputAxisRange.wrapInt32_of_mem hspan.1 hspan.2
  have hmul : 0 < info.span → 0 < info.flat.toInt →
      (info.flat * 200 / (info.maximum - info.minimum)).toInt = info.suggested := by
    intro hpos hflat
    have hbound := hproduct hpos hflat
    obtain ⟨hlow, hhigh⟩ := suggested_mem hpos hflat
    have hfits : (info.flat * 200).toInt = info.flat.toInt * 200 := by
      rw [Int32.toInt_mul]
      exact CartInputAxisRange.wrapInt32_of_mem (by show _ ≤ info.flat.toInt * 200; omega)
        (by show info.flat.toInt * 200 ≤ _; omega)
    rw [Int32.toInt_div, hfits, hsub, tdiv_eq_suggested hflat]
    exact CartInputAxisRange.wrapInt32_of_mem (by omega) (by omega)
  have hpct : (snapshotRange info).deadzonePct.toInt = info.deadzonePct := by
    unfold snapshotRange
    dsimp only
    simp only [gt_iff_lt, Int32.lt_iff_toInt_lt, Int32.le_iff_toInt_le, hsub, default_toInt,
      zero_toInt, fifty_toInt]
    by_cases hpos : 0 < info.span
    · by_cases hflat : 0 < info.flat.toInt
      · rw [hmul hpos hflat, deadzonePct]
        by_cases hsuggests : 15 < info.suggested ∧ info.suggested ≤ 50
        · rw [if_pos ⟨hpos, hflat, hsuggests⟩, if_pos ⟨hpos, hsuggests⟩, hmul hpos hflat]
        · rw [if_neg (fun h => hsuggests h.2.2), if_neg (fun h => hsuggests h.2), default_toInt]
      · rw [if_neg (fun h => hflat h.2.1), default_toInt,
          deadzonePct_of_flat_nonpos hpos (Int.not_lt.mp hflat)]
    · rw [if_neg (fun h => hpos h.1), default_toInt, deadzonePct, if_neg (fun h => hpos h.1)]
  have hsame := Int32.toInt_inj.mp (hpct.trans info.range_deadzonePct.symm)
  show CartInputAxisRange.mk _ _ (snapshotRange info).deadzonePct = _
  rw [hsame]
  rfl

/-- The calibration of one axis: computed without leaving `int32_t`, with the reported bounds and the
dead zone the device should get, so that normalization rejects the range only if it is empty or
inverted. -/
def Calibrates (info : AbsInfo) (kept : CartInputAxisRange) : Prop :=
  snapshotRangeChecked info = some kept ∧ kept.min = info.minimum ∧ kept.max = info.maximum ∧
    15 ≤ kept.deadzonePct.toInt ∧ kept.deadzonePct.toInt ≤ 50 ∧
    kept.deadzonePct.toInt = info.deadzonePct ∧
    ∀ raw, cartInputAxisNormalize raw kept = cartInputAxisInvalid → info.maximum ≤ info.minimum

theorem calibrates_snapshotRange_iff {info : AbsInfo} :
    info.Calibrates (snapshotRange info) ↔ info.Fits := by
  constructor
  · exact fun h => fits_of_snapshotRangeChecked h.1
  · intro fits
    obtain ⟨hlow, hhigh⟩ := info.deadzonePct_mem
    rw [snapshotRange_of_fits fits]
    refine ⟨snapshotRangeChecked_of_fits fits, rfl, rfl, ?_, ?_, info.range_deadzonePct,
      fun raw hinvalid => ?_⟩
    · rw [range_deadzonePct]
      exact hlow
    · rw [range_deadzonePct]
      exact hhigh
    · by_contra hproper
      have hlt : info.minimum.toInt < info.maximum.toInt :=
        Int.not_le.mp (mt Int32.le_iff_toInt_le.mpr hproper)
      have usable : info.range.Usable := by
        refine ⟨hlt, ?_, ?_⟩
        · rw [range_deadzonePct]
          omega
        · rw [range_deadzonePct]
          exact hhigh
      have hanswer := CartInputAxisRange.answer_mem usable raw
      rw [CartInputAxisRange.normalize_eq usable fits.1.2 raw] at hinvalid
      rw [hinvalid] at hanswer
      exact absurd hanswer (by decide)

end AbsInfo

/-- What the device answers for an axis, if it advertises the axis and the axis can be read. -/
def Probe.axisAnswer (probe : Probe) (slot : AxisSlot) : Option AbsInfo :=
  match probe.snapshotAbs with
  | none => none
  | some absBits => if bitTest absBits (axisCodes slot).toNat then probe.ioctlAbs slot else none

theorem probeSnapshotAxes_of_answer {source : CartInputSource} {fd : Int} {probe : Probe}
    {slot : AxisSlot} {info : AbsInfo} (h : probe.axisAnswer slot = some info) :
    (probeSnapshotAxes source fd probe).1.axisValid slot = true ∧
      (probeSnapshotAxes source fd probe).1.axis slot = snapshotRange info := by
  unfold Probe.axisAnswer at h
  unfold probeSnapshotAxes
  cases hbits : probe.snapshotAbs with
  | none =>
      rw [hbits] at h
      cases h
  | some absBits =>
      rw [hbits] at h
      dsimp only at h ⊢
      rw [h]
      exact ⟨rfl, rfl⟩

/-- The calibration of a device keeps what it should of every advertised and readable axis exactly
when the values of each of these axes fit. -/
theorem calibration_iff (source : CartInputSource) (fd : Int) (probe : Probe) :
    (∀ slot info, probe.axisAnswer slot = some info →
      (probeSnapshotAxes source fd probe).1.axisValid slot = true ∧
        info.Calibrates ((probeSnapshotAxes source fd probe).1.axis slot)) ↔
      ∀ slot info, probe.axisAnswer slot = some info → info.Fits := by
  constructor
  · intro hall slot info hanswer
    have hkept := (hall slot info hanswer).2
    rw [(probeSnapshotAxes_of_answer hanswer).2] at hkept
    exact AbsInfo.calibrates_snapshotRange_iff.mp hkept
  · intro hfits slot info hanswer
    obtain ⟨hvalid, hrange⟩ := @probeSnapshotAxes_of_answer source fd probe slot info hanswer
    rw [hrange]
    exact ⟨hvalid, AbsInfo.calibrates_snapshotRange_iff.mpr (hfits slot info hanswer)⟩

/-- A stick that reports 21 % of its range as flat on either side. -/
private def wideFlat : AbsInfo := ⟨0, 0, 50000000, 0, 10737419, 0⟩

private def wideFlatProbe : Probe :=
  { ioctlName := none
    gamepadKeys := none
    gamepadAbs := none
    keyboardKeys := none
    snapshotAbs := some [1]
    ioctlAbs := fun _ => some wideFlat }

/-- The product with 200 overflows, and the dead zone kept is the default one. -/
theorem not_calibrates_wideFlat :
    wideFlatProbe.axisAnswer 0 = some wideFlat ∧ wideFlat.deadzonePct = 42 ∧
      ((probeSnapshotAxes .zero 3 wideFlatProbe).1.axis 0).deadzonePct = 15 ∧
      ¬ ∀ slot info, wideFlatProbe.axisAnswer slot = some info →
        (probeSnapshotAxes .zero 3 wideFlatProbe).1.axisValid slot = true ∧
          info.Calibrates ((probeSnapshotAxes .zero 3 wideFlatProbe).1.axis slot) := by
  have hanswer : wideFlatProbe.axisAnswer 0 = some wideFlat := rfl
  have hkept : ((probeSnapshotAxes .zero 3 wideFlatProbe).1.axis 0).deadzonePct = 15 := by decide
  refine ⟨hanswer, by decide, hkept, fun hall => ?_⟩
  obtain ⟨_, _, _, _, _, _, hpct, _⟩ := hall 0 wideFlat hanswer
  rw [hkept] at hpct
  exact absurd hpct (by decide)

end VitaLinuxPort
