import VitaLinuxPort.Lib.Response
import VitaLinuxPort.Cart.Input.Arithmetic

/-!
# Axis normalization is a response curve

On a range whose span is an `int32_t` no step of the normalization leaves its type, and its result is
the response of a curve with a dead zone to the clamped raw value. The zone never reaches the upper
end of the range; it reaches the lower end when the span is one, and then full throw downwards is
answered with zero.
-/

namespace VitaLinuxPort

open CIntType

namespace CartInputAxisRange

def span (range : CartInputAxisRange) : Int := range.max.toInt - range.min.toInt

/-- Half the width of the dead zone. -/
def half (range : CartInputAxisRange) : Int := range.span * range.deadzonePct.toInt / 200

def low (range : CartInputAxisRange) : Int := range.min.toInt + range.span / 2 - range.half

def high (range : CartInputAxisRange) : Int := range.low + 2 * range.half

def clamp (range : CartInputAxisRange) (raw : Int32) : Int :=
  if (if raw.toInt < range.min.toInt then range.min.toInt else raw.toInt) > range.max.toInt then
    range.max.toInt
  else if raw.toInt < range.min.toInt then range.min.toInt else raw.toInt

/-- The normalized value over the integers. -/
def answer (range : CartInputAxisRange) (raw : Int32) : Int :=
  response 100 range.min.toInt range.low range.high range.max.toInt (range.clamp raw)

variable {range : CartInputAxisRange}

instance : Decidable range.Usable := inferInstanceAs (Decidable (_ ∧ _ ∧ _))

theorem usable_iff_not_rejected : range.Usable ↔ ¬ (range.max.toInt ≤ range.min.toInt ∨
    range.deadzonePct.toInt < 0 ∨ range.deadzonePct.toInt > 50) := by
  unfold Usable
  omega

theorem Usable.not_rejected (usable : range.Usable) : ¬ (range.max.toInt ≤ range.min.toInt ∨
    range.deadzonePct.toInt < 0 ∨ range.deadzonePct.toInt > 50) :=
  usable_iff_not_rejected.mp usable

theorem clamp_eq (range : CartInputAxisRange) (raw : Int32) :
    (if (if raw.toInt < range.min.toInt then range.min.toInt else raw.toInt) >
      range.max.toInt then range.max.toInt
      else if raw.toInt < range.min.toInt then range.min.toInt else raw.toInt) =
      range.clamp raw := rfl

/-- The dead zone is at most half the range. -/
theorem Usable.half_bounds (usable : range.Usable) :
    0 ≤ range.half ∧ 4 * range.half ≤ range.span := by
  obtain ⟨hspan, hnonneg, hpct⟩ := usable
  have hpos : 0 < range.span := by
    unfold span
    omega
  have hlow : 0 ≤ range.span * range.deadzonePct.toInt := Int.mul_nonneg (by omega) hnonneg
  have hhigh : range.span * range.deadzonePct.toInt ≤ range.span * 50 :=
    Int.mul_le_mul_of_nonneg_left hpct (by omega)
  unfold half
  omega

theorem Usable.zone_bounds (usable : range.Usable) :
    range.min.toInt ≤ range.low ∧ range.low ≤ range.high ∧ range.high < range.max.toInt ∧
      (range.min.toInt < range.low ↔ 2 ≤ range.span) := by
  obtain ⟨hnonneg, hquarter⟩ := usable.half_bounds
  have hspan : range.max.toInt = range.min.toInt + range.span := by
    unfold span
    omega
  have hpos := usable.1
  unfold high low
  omega

theorem clamp_mem (usable : range.Usable) (raw : Int32) :
    range.min.toInt ≤ range.clamp raw ∧ range.clamp raw ≤ range.max.toInt := by
  have := usable.1
  unfold clamp
  omega

theorem clamp_of_le (usable : range.Usable) {raw : Int32} (h : raw.toInt ≤ range.min.toInt) :
    range.clamp raw = range.min.toInt := by
  have := usable.1
  unfold clamp
  omega

theorem clamp_of_ge (usable : range.Usable) {raw : Int32} (h : range.max.toInt ≤ raw.toInt) :
    range.clamp raw = range.max.toInt := by
  have := usable.1
  unfold clamp
  omega

theorem clamp_of_mem {raw : Int32} (hmin : range.min.toInt ≤ raw.toInt)
    (hmax : raw.toInt ≤ range.max.toInt) : range.clamp raw = raw.toInt := by
  unfold clamp
  omega

theorem clamp_mono (usable : range.Usable) {raw later : Int32} (h : raw ≤ later) :
    range.clamp raw ≤ range.clamp later := by
  have := usable.1
  have := Int32.le_iff_toInt_le.mp h
  unfold clamp
  omega

theorem answer_inside {raw : Int32} (h : range.low ≤ range.clamp raw ∧ range.clamp raw ≤ range.high) :
    range.answer raw = 0 :=
  response_inside h

theorem answer_below {raw : Int32} (h : range.clamp raw < range.low) :
    range.answer raw =
      ((range.clamp raw - range.low) * 100).tdiv (range.low - range.min.toInt) :=
  response_below h

theorem answer_above (usable : range.Usable) {raw : Int32} (h : range.high < range.clamp raw) :
    range.answer raw =
      ((range.clamp raw - range.high) * 100).tdiv (range.max.toInt - range.high) :=
  response_above usable.zone_bounds.2.1 h

/-- The answer is between the full ones. Where the dead zone reaches the lower end there is nothing
below it. -/
theorem answer_mem (usable : range.Usable) (raw : Int32) :
    -100 ≤ range.answer raw ∧ range.answer raw ≤ 100 := by
  obtain ⟨hlow, hzone, hhigh, hwide⟩ := usable.zone_bounds
  obtain ⟨hmin, hmax⟩ := clamp_mem usable raw
  by_cases hspan : 2 ≤ range.span
  · exact response_mem (by decide) (hwide.mpr hspan) hzone hhigh hmin hmax
  · have hreaches : range.min.toInt = range.low := by omega
    unfold answer
    have habove := @response_mono 100 range.min.toInt range.low range.high range.max.toInt
      (range.clamp raw) range.max.toInt (by decide) hzone hmin hmax (Int.le_refl _)
    rw [response_hi hzone hhigh] at habove
    refine ⟨?_, habove⟩
    by_cases hinside : range.clamp raw ≤ range.high
    · rw [response_inside ⟨by omega, hinside⟩]
      decide
    · have := @response_above_nonneg 100 range.min.toInt range.low range.high range.max.toInt
        (range.clamp raw) (by decide) hzone (by omega) hmax
      omega

/-- The span is an `int32_t`. -/
def Fits (range : CartInputAxisRange) : Prop := range.span ≤ 2147483647

theorem Usable.span_tdiv (usable : range.Usable) : range.span.tdiv 2 = range.span / 2 := by
  have hspan := usable.1
  exact Int.tdiv_eq_ediv_of_nonneg (by unfold span; omega)

theorem Usable.half_tdiv (usable : range.Usable) :
    (range.span * range.deadzonePct.toInt).tdiv 200 = range.half := by
  have hspan := usable.1
  exact Int.tdiv_eq_ediv_of_nonneg (Int.mul_nonneg (by unfold span; omega) usable.2.1)

theorem int64_holds {value : Int} (hlow : -300000000000 ≤ value) (hhigh : value ≤ 300000000000) :
    int64.Holds value := by
  rw [holds_int64_iff]
  omega

/-- The edges of the dead zone are computed without leaving a type. -/
theorem Usable.edgesChecked_eq (usable : range.Usable) (fits : range.Fits) :
    int32.sub range.max.toInt range.min.toInt = some range.span ∧
      int64.mul range.span range.deadzonePct.toInt =
        some (range.span * range.deadzonePct.toInt) ∧
      int64.div (range.span * range.deadzonePct.toInt) 200 = some range.half ∧
      int32.div range.span 2 = some (range.span / 2) ∧
      int64.add range.min.toInt (range.span / 2) = some (range.min.toInt + range.span / 2) ∧
      int64.sub (range.min.toInt + range.span / 2) range.half = some range.low ∧
      int64.mul 2 range.half = some (2 * range.half) ∧
      int64.add range.low (2 * range.half) = some range.high := by
  obtain ⟨hnonneg, hquarter⟩ := usable.half_bounds
  have hfits : range.span ≤ 2147483647 := fits
  have hspan : 0 < range.span := by
    have := usable.1
    unfold span
    omega
  have hlowest := range.min.le_toInt
  have hhighest := range.max.toInt_lt
  have hmax : range.max.toInt = range.min.toInt + range.span := by
    unfold span
    omega
  have hproduct : 0 ≤ range.span * range.deadzonePct.toInt :=
    Int.mul_nonneg (by omega) usable.2.1
  have hproduct' : range.span * range.deadzonePct.toInt ≤ range.span * 50 :=
    Int.mul_le_mul_of_nonneg_left usable.2.2 (by omega)
  refine ⟨sub_of_holds (holds_int32_iff.mpr ?_), mul_of_holds (int64_holds ?_ ?_), ?_, ?_,
    add_of_holds (int64_holds ?_ ?_), sub_of_holds (int64_holds ?_ ?_),
    mul_of_holds (int64_holds ?_ ?_), add_of_holds (int64_holds ?_ ?_)⟩
  · omega
  · omega
  · omega
  · rw [div_of_holds (by decide) (by rw [usable.half_tdiv]; exact int64_holds (by omega) (by omega)),
      usable.half_tdiv]
  · rw [div_of_holds (by decide) (by rw [usable.span_tdiv]; exact holds_int32_iff.mpr (by omega)),
      usable.span_tdiv]
  · omega
  · omega
  · omega
  · omega
  · omega
  · omega
  · unfold low
    omega
  · unfold low
    omega

/-- A distance of at most a span, scaled to hundredths of a way, where the result is in range. -/
theorem scaled_eq {x edge last first result : Int}
    (hresult : result = ((x - edge) * 100).tdiv (last - first)) (hlow : -100 ≤ result)
    (hhigh : result ≤ 100) (hbelow : -2147483647 ≤ x - edge) (habove : x - edge ≤ 2147483647)
    (hway : 0 < last - first) (hways : last - first ≤ 2147483647) :
    ((int64.sub x edge).bind fun distance => (int64.mul distance 100).bind fun scaled =>
      (int64.sub last first).bind fun way => (int64.div scaled way).bind int32.fit) =
        some result := by
  rw [sub_of_holds (int64_holds (by omega) (by omega)), Option.bind_some,
    mul_of_holds (int64_holds (by omega) (by omega)), Option.bind_some,
    sub_of_holds (int64_holds (by omega) (by omega)), Option.bind_some,
    div_of_holds (by omega) (hresult ▸ int64_holds (by omega) (by omega)), Option.bind_some,
    ← hresult]
  exact fit_of_holds (holds_int32_iff.mpr (by omega))

/-- On a range that fits, no step of the normalization leaves its type. -/
theorem normalizeChecked_eq (usable : range.Usable) (fits : range.Fits) (raw : Int32) :
    cartInputAxisNormalizeChecked raw range = some (range.answer raw) := by
  obtain ⟨hspan, hproduct, hhalf, hhalfspan, hcentre, hlow, hwidth, hhigh⟩ :=
    usable.edgesChecked_eq fits
  unfold cartInputAxisNormalizeChecked
  dsimp only
  rw [if_neg usable.not_rejected, clamp_eq]
  simp only [hspan, hproduct, hhalf, hhalfspan, hcentre, hlow, hwidth, hhigh, Option.bind_eq_bind,
    Option.bind_some]
  obtain ⟨hminlow, hzone, hhighmax, hwide⟩ := usable.zone_bounds
  obtain ⟨hmin, hmax⟩ := clamp_mem usable raw
  obtain ⟨hfull, hfull'⟩ := answer_mem usable raw
  have hbound : range.max.toInt - range.min.toInt ≤ 2147483647 := fits
  by_cases hinside : range.low ≤ range.clamp raw ∧ range.clamp raw ≤ range.high
  · rw [if_pos hinside, answer_inside hinside]
    rfl
  rw [if_neg hinside]
  by_cases hbelow : range.clamp raw < range.low
  · rw [if_pos hbelow]
    exact scaled_eq (answer_below hbelow) hfull hfull' (by omega) (by omega) (by omega) (by omega)
  · have habove : range.high < range.clamp raw := by omega
    rw [if_neg hbelow]
    exact scaled_eq (answer_above usable habove) hfull hfull' (by omega) (by omega) (by omega)
      (by omega)

theorem wrapInt32_of_mem {value : Int} (hlow : -2147483648 ≤ value) (hhigh : value ≤ 2147483647) :
    wrapInt32 value = value :=
  Int.bmod_eq_of_le (by omega) (by omega)

/-- The normalization on a range that fits. -/
theorem normalize_eq (usable : range.Usable) (fits : range.Fits) (raw : Int32) :
    cartInputAxisNormalize raw range = range.answer raw := by
  have hspan : wrapInt32 (range.max.toInt - range.min.toInt) = range.span := by
    have hpos := usable.1
    exact wrapInt32_of_mem (by omega) fits
  have hlow : range.min.toInt + range.span / 2 - range.half = range.low := rfl
  have hhigh : range.low + 2 * range.half = range.high := rfl
  obtain ⟨hfull, hfull'⟩ := answer_mem usable raw
  rw [cartInputAxisNormalize]
  dsimp only
  rw [if_neg usable.not_rejected, hspan, clamp_eq, usable.span_tdiv, usable.half_tdiv, hlow, hhigh]
  by_cases hinside : range.low ≤ range.clamp raw ∧ range.clamp raw ≤ range.high
  · rw [if_pos hinside, answer_inside hinside]
  rw [if_neg hinside]
  by_cases hbelow : range.clamp raw < range.low
  · rw [if_pos hbelow, ← answer_below hbelow]
    exact wrapInt32_of_mem (by omega) (by omega)
  · have habove : range.high < range.clamp raw := by omega
    rw [if_neg hbelow, ← answer_above usable habove]
    exact wrapInt32_of_mem (by omega) (by omega)

theorem fits_of_checked (usable : range.Usable) {raw : Int32} {value : Int}
    (h : cartInputAxisNormalizeChecked raw range = some value) : range.Fits := by
  unfold cartInputAxisNormalizeChecked at h
  dsimp only at h
  rw [if_neg usable.not_rejected] at h
  obtain ⟨span, hspan, _⟩ := Option.bind_eq_some_iff.mp h
  exact (fit_eq_some_iff.mp hspan).1.2

/-- Where the checked normalization has a result it is the normalization's. -/
theorem normalize_of_checked {raw : Int32} {value : Int}
    (h : cartInputAxisNormalizeChecked raw range = some value) :
    cartInputAxisNormalize raw range = value := by
  by_cases usable : range.Usable
  · have fits := fits_of_checked usable h
    rw [normalizeChecked_eq usable fits] at h
    rw [normalize_eq usable fits]
    exact Option.some.inj h
  · have hinvalid := not_not.mp (mt usable_iff_not_rejected.mpr usable)
    rw [cartInputAxisNormalizeChecked] at h
    dsimp only at h
    rw [if_pos hinvalid] at h
    rw [cartInputAxisNormalize]
    dsimp only
    rw [if_pos hinvalid]
    exact Option.some.inj h

theorem answer_mono (usable : range.Usable) {raw later : Int32} (h : raw ≤ later) :
    range.answer raw ≤ range.answer later :=
  response_mono (by decide) usable.zone_bounds.2.1 (clamp_mem usable raw).1 (clamp_mono usable h)
    (clamp_mem usable later).2

theorem answer_of_ge (usable : range.Usable) {raw : Int32} (h : range.max.toInt ≤ raw.toInt) :
    range.answer raw = 100 := by
  obtain ⟨_, hzone, hhigh, _⟩ := usable.zone_bounds
  rw [answer, clamp_of_ge usable h, response_hi hzone hhigh]

/-- Full throw downwards is -100 unless the dead zone reaches the lower end, and zero then. -/
theorem answer_of_le (usable : range.Usable) {raw : Int32} (h : raw.toInt ≤ range.min.toInt) :
    range.answer raw = if 2 ≤ range.span then -100 else 0 := by
  obtain ⟨hlow, hzone, _, hwide⟩ := usable.zone_bounds
  rw [answer, clamp_of_le usable h]
  split
  · next hspan => exact response_lo (hwide.mpr hspan)
  · next hspan => exact response_inside ⟨by omega, by omega⟩

/-- A range of even span has its dead zone in the middle. -/
theorem middle_of_even (heven : range.span % 2 = 0) :
    range.low - range.min.toInt = range.max.toInt - range.high := by
  have hmax : range.max.toInt = range.min.toInt + range.span := by
    unfold span
    omega
  unfold high low
  omega

theorem answer_mirror (usable : range.Usable) (heven : range.span % 2 = 0) {raw mirror : Int32}
    (hmin : range.min.toInt ≤ raw.toInt) (hmax : raw.toInt ≤ range.max.toInt)
    (hmirror : mirror.toInt = range.min.toInt + range.max.toInt - raw.toInt) :
    range.answer mirror = -range.answer raw := by
  rw [answer, answer, clamp_of_mem hmin hmax, clamp_of_mem (by omega) (by omega), hmirror]
  exact response_mirror usable.zone_bounds.2.1 (middle_of_even heven)

end CartInputAxisRange

open CartInputAxisRange

/-- No intermediate value leaves its type, the result is between -100 and 100, and both ends of the
range are answered in full. -/
def FullThrow (raw : Int32) (range : CartInputAxisRange) : Prop :=
  ∃ value, cartInputAxisNormalizeChecked raw range = some value ∧
    cartInputAxisNormalize raw range = value ∧ -100 ≤ value ∧ value ≤ 100 ∧
    (raw.toInt ≤ range.min.toInt → value = -100) ∧ (range.max.toInt ≤ raw.toInt → value = 100)

/-- Normalization on a range it accepts keeps what its header promises exactly when the span is an
`int32_t` and, for a raw value at or below the lower end, more than one. -/
theorem full_throw_iff {range : CartInputAxisRange} (usable : range.Usable) (raw : Int32) :
    FullThrow raw range ↔ range.max.toInt - range.min.toInt ≤ 2147483647 ∧
      (raw.toInt ≤ range.min.toInt → 2 ≤ range.max.toInt - range.min.toInt) := by
  constructor
  · rintro ⟨value, hchecked, hvalue, _, _, hlow, _⟩
    have fits := fits_of_checked usable hchecked
    refine ⟨fits, fun hraw => ?_⟩
    by_contra hspan
    have hzero : value = 0 := by
      rw [← hvalue, normalize_eq usable fits, answer_of_le usable hraw]
      exact if_neg hspan
    exact absurd (hzero.symm.trans (hlow hraw)) (by decide)
  · rintro ⟨fits, hspan⟩
    obtain ⟨hlow, hhigh⟩ := answer_mem usable raw
    refine ⟨_, normalizeChecked_eq usable fits raw, normalize_eq usable fits raw, hlow, hhigh,
      fun hraw => ?_, answer_of_ge usable⟩
    rw [answer_of_le usable hraw]
    exact if_pos (hspan hraw)

theorem full_throw_iff_stick : FullThrow (-40) ⟨0, 255, 15⟩ :=
  (@full_throw_iff ⟨0, 255, 15⟩ (by decide) (-40)).mpr (by decide)

/-- A switch with the positions 0 and 1, and the widest range there is. -/
theorem not_full_throw :
    ¬ FullThrow 0 ⟨0, 1, 15⟩ ∧ cartInputAxisNormalize 0 ⟨0, 1, 15⟩ = 0 ∧
      ¬ FullThrow 0 ⟨-2147483648, 2147483647, 15⟩ := by
  have hzero : cartInputAxisNormalize 0 ⟨0, 1, 15⟩ = 0 := by decide
  have hnone : cartInputAxisNormalizeChecked 0 ⟨-2147483648, 2147483647, 15⟩ = none := by decide
  refine ⟨?_, hzero, ?_⟩
  · rintro ⟨value, _, hvalue, _, _, hlow, _⟩
    have hfull := hlow (by decide)
    rw [← hvalue, hzero] at hfull
    exact absurd hfull (by decide)
  · rintro ⟨value, hchecked, _⟩
    rw [hnone] at hchecked
    cases hchecked

/-- On a range whose span is an `int32_t` normalization is monotone, divides by zero nowhere, and is
odd about the middle of the range where the span is even. -/
theorem normalize_mono_odd {range : CartInputAxisRange} (usable : range.Usable)
    (fits : range.max.toInt - range.min.toInt ≤ 2147483647) :
    (∀ raw later, raw ≤ later →
      cartInputAxisNormalize raw range ≤ cartInputAxisNormalize later range) ∧
    (∀ raw, cartInputAxisNormalizeChecked raw range = some (cartInputAxisNormalize raw range)) ∧
    ((range.max.toInt - range.min.toInt) % 2 = 0 →
      ∀ raw mirror : Int32, range.min ≤ raw → raw ≤ range.max →
        mirror.toInt = range.min.toInt + range.max.toInt - raw.toInt →
        cartInputAxisNormalize mirror range = -cartInputAxisNormalize raw range) := by
  simp only [normalize_eq usable fits]
  refine ⟨fun raw later => answer_mono usable, normalizeChecked_eq usable fits, ?_⟩
  intro heven raw mirror hmin hmax hmirror
  exact answer_mirror usable heven (Int32.le_iff_toInt_le.mp hmin) (Int32.le_iff_toInt_le.mp hmax)
    hmirror

theorem normalize_mono_odd_stick :
    cartInputAxisNormalize (-90) ⟨-128, 128, 15⟩ ≤ cartInputAxisNormalize 17 ⟨-128, 128, 15⟩ ∧
      cartInputAxisNormalize 90 ⟨-128, 128, 15⟩ = -cartInputAxisNormalize (-90) ⟨-128, 128, 15⟩ :=
  have h := @normalize_mono_odd ⟨-128, 128, 15⟩ (by decide) (by decide)
  ⟨h.1 (-90) 17 (by decide), h.2.2 (by decide) (-90) 90 (by decide) (by decide) (by decide)⟩

end VitaLinuxPort
