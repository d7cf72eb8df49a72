import Mathlib.Algebra.Order.Ring.Int
import VitaLinuxPort.Toolkit.InputWatch

/-!
# The remaining time

The elapsed milliseconds are rounded down where the nanoseconds have gone up since the start, and up
where they have gone down, for there the division of their negative difference truncates. With that
the duration is over before its time in the millisecond in which it ends, and a duration from 2^31 on
is negative when it is converted.
-/

namespace VitaLinuxPort

open CIntType

variable {durationMs : UInt32} {start now : Timespec}

/-- `elapsed_ms` without the limits of the types. -/
def elapsedExact (start now : Timespec) : Int :=
  (now.sec - start.sec) * 1000 + (now.nsec - start.nsec).tdiv 1000000

/-- The computation gives what it gives without the limits of the types, the duration is not over
before its time, and what is polled for does not last longer than it. -/
structure Timely (durationMs : UInt32) (start now : Timespec) : Prop where
  duration_eq : toInt32 durationMs.toNat = durationMs.toNat
  elapsed_eq : elapsedMs start (some now) = some (elapsedExact start now)
  remaining_eq : remaining durationMs start (some now)
    = some (durationMs.toNat - elapsedExact start now)
  le_of_expired : ∀ left, remaining durationMs start (some now) = some left → left ≤ 0 →
    durationMs.toNat * 1000000 ≤ now.nanoseconds - start.nanoseconds
  poll_le : ∀ left, remaining durationMs start (some now) = some left → 0 < left →
    left ≤ durationMs.toNat

/-- The duration is below 2^31 ms. The elapsed time is less than that, rounded as the nanoseconds have
it; and if they have gone down since the start, the clock is not in the last millisecond of the
duration. -/
def InTime (durationMs : UInt32) (start now : Timespec) : Prop :=
  durationMs.toNat < 2147483648 ∧
    if now.nsec < start.nsec then
      now.nanoseconds - start.nanoseconds ≤ 2147483647 * 1000000 ∧
        ¬((durationMs.toNat - 1 : Int) * 1000000 < now.nanoseconds - start.nanoseconds ∧
          now.nanoseconds - start.nanoseconds < durationMs.toNat * 1000000)
    else now.nanoseconds - start.nanoseconds < 2147483648 * 1000000

/-- The nanoseconds have not gone down. -/
theorem elapsedExact_of_le (h : start.nsec ≤ now.nsec) :
    elapsedExact start now * 1000000 ≤ now.nanoseconds - start.nanoseconds ∧
      now.nanoseconds - start.nanoseconds < (elapsedExact start now + 1) * 1000000 := by
  have hdiv : (now.nsec - start.nsec).tdiv 1000000 = (now.nsec - start.nsec) / 1000000 :=
    Int.tdiv_eq_ediv_of_nonneg (by omega)
  rw [elapsedExact, hdiv, Timespec.nanoseconds, Timespec.nanoseconds]
  omega

/-- The nanoseconds have gone down. -/
theorem elapsedExact_of_lt (h : now.nsec < start.nsec) :
    (elapsedExact start now - 1) * 1000000 < now.nanoseconds - start.nanoseconds ∧
      now.nanoseconds - start.nanoseconds ≤ elapsedExact start now * 1000000 := by
  have hneg : now.nsec - start.nsec = -(start.nsec - now.nsec) := by omega
  have hdiv : (now.nsec - start.nsec).tdiv 1000000 = -((start.nsec - now.nsec) / 1000000) := by
    rw [hneg, Int.neg_tdiv, Int.tdiv_eq_ediv_of_nonneg (by omega)]
  rw [elapsedExact, hdiv, Timespec.nanoseconds, Timespec.nanoseconds]
  omega

theorem elapsedExact_nonneg (hle : start.nanoseconds ≤ now.nanoseconds) :
    0 ≤ elapsedExact start now := by
  obtain h | h := lt_or_ge now.nsec start.nsec
  · have hround := elapsedExact_of_lt h
    omega
  · have hround := elapsedExact_of_le h
    omega

theorem tdiv_mem_of_nsec (start now : Timespec) :
    -1000 ≤ (now.nsec - start.nsec).tdiv 1000000 ∧ (now.nsec - start.nsec).tdiv 1000000 ≤ 1000 := by
  have hle := Int.natAbs_tdiv_le_natAbs (now.nsec - start.nsec) 1000000
  have hmod := Int.tmod_add_mul_tdiv (now.nsec - start.nsec) 1000000
  have hlow := Int.lt_tmod_of_pos (now.nsec - start.nsec) (by decide : (0 : Int) < 1000000)
  have hhigh := Int.tmod_lt_of_pos (now.nsec - start.nsec) (by decide : (0 : Int) < 1000000)
  have hnow := now.nsec_nonneg
  have hnow' := now.nsec_lt
  have hstart := start.nsec_nonneg
  have hstart' := start.nsec_lt
  omega

/-- The elapsed time is exact where it fits an `int`: nothing wraps before the conversion. -/
theorem elapsedMs_eq_iff (hle : start.nanoseconds ≤ now.nanoseconds) :
    elapsedMs start (some now) = some (elapsedExact start now)
      ↔ elapsedExact start now ≤ 2147483647 := by
  have hnonneg := elapsedExact_nonneg hle
  have hnow := now.sec_nonneg
  have hnow' := now.sec_le
  have hstart := start.sec_nonneg
  have hstart' := start.sec_le
  obtain ⟨hlow, hhigh⟩ := tdiv_mem_of_nsec start now
  have hsub : int64.sub now.sec start.sec = some (now.sec - start.sec) :=
    sub_of_holds (holds_int64_iff.mpr (by omega))
  constructor
  · intro helapsed
    simp only [elapsedMs, Option.bind_eq_bind, Option.bind_eq_some_iff] at helapsed
    obtain ⟨seconds, hseconds, milliseconds, hmilliseconds, elapsed, helapsed, hconverted⟩ := helapsed
    obtain ⟨-, rfl⟩ := fit_eq_some_iff.mp hseconds
    obtain ⟨-, rfl⟩ := fit_eq_some_iff.mp hmilliseconds
    obtain ⟨-, rfl⟩ := fit_eq_some_iff.mp helapsed
    exact (toInt32_eq_iff.mp (Option.some.inj hconverted)).2
  · intro hfits
    rw [elapsedExact] at hfits hnonneg
    have hmul : int64.mul (now.sec - start.sec) 1000 = some ((now.sec - start.sec) * 1000) :=
      mul_of_holds (holds_int64_iff.mpr (by omega))
    have hadd : int64.add ((now.sec - start.sec) * 1000) ((now.nsec - start.nsec).tdiv 1000000)
        = some (elapsedExact start now) :=
      add_of_holds (holds_int64_iff.mpr (by omega))
    have hconverted : toInt32 (elapsedExact start now) = elapsedExact start now :=
      toInt32_eq_iff.mpr (holds_int32_iff.mpr (by rw [elapsedExact]; omega))
    rw [elapsedMs, hsub]
    simp only [Option.bind_eq_bind, Option.bind_some, hmul, hadd, hconverted, Option.pure_def]

/-- With both conversions exact, so is the difference. -/
theorem remaining_eq (hduration : durationMs.toNat < 2147483648)
    (hle : start.nanoseconds ≤ now.nanoseconds) (helapsed : elapsedExact start now ≤ 2147483647) :
    remaining durationMs start (some now)
      = some (durationMs.toNat - elapsedExact start now) := by
  have hnonneg := elapsedExact_nonneg hle
  have hconverted : toInt32 durationMs.toNat = durationMs.toNat :=
    toInt32_eq_iff.mpr (holds_int32_iff.mpr (by omega))
  rw [remaining, (elapsedMs_eq_iff hle).mpr helapsed, hconverted]
  exact sub_of_holds (holds_int32_iff.mpr (by omega))

theorem toInt32_duration_eq_iff :
    toInt32 durationMs.toNat = durationMs.toNat ↔ durationMs.toNat < 2147483648 := by
  rw [toInt32_eq_iff, holds_int32_iff]
  omega

theorem inTime_of_timely (hle : start.nanoseconds ≤ now.nanoseconds)
    (htimely : Timely durationMs start now) : InTime durationMs start now := by
  have hduration := toInt32_duration_eq_iff.mp htimely.duration_eq
  have helapsed := (elapsedMs_eq_iff hle).mp htimely.elapsed_eq
  have hexpired := htimely.le_of_expired _ htimely.remaining_eq
  refine ⟨hduration, ?_⟩
  split
  · next h =>
    have hround := elapsedExact_of_lt h
    omega
  · next h =>
    have hround := elapsedExact_of_le (Int.not_lt.mp h)
    omega

theorem timely_of_inTime (hle : start.nanoseconds ≤ now.nanoseconds)
    (h : InTime durationMs start now) : Timely durationMs start now := by
  obtain ⟨hduration, hcase⟩ := h
  have hrounded : elapsedExact start now ≤ 2147483647 ∧
      (durationMs.toNat - elapsedExact start now ≤ 0 →
        durationMs.toNat * 1000000 ≤ now.nanoseconds - start.nanoseconds) := by
    split at hcase
    · next h =>
      have hround := elapsedExact_of_lt h
      omega
    · next h =>
      have hround := elapsedExact_of_le (Int.not_lt.mp h)
      omega
  obtain ⟨helapsed, hexpired⟩ := hrounded
  have hnonneg := elapsedExact_nonneg hle
  have hremaining := remaining_eq hduration hle helapsed
  refine ⟨toInt32_duration_eq_iff.mpr hduration, (elapsedMs_eq_iff hle).mpr helapsed, hremaining,
    ?_, ?_⟩
  · intro left hleft
    obtain rfl := Option.some.inj (hremaining.symm.trans hleft)
    exact hexpired
  · intro left hleft _
    obtain rfl := Option.some.inj (hremaining.symm.trans hleft)
    omega

/-- What a turn of the loop may do while the readings are in time. -/
theorem watchTurn_cases {maxEvents eventsSeen : UInt32} (hle : start.nanoseconds ≤ now.nanoseconds)
    (h : InTime durationMs start now) :
    (watchTurn durationMs maxEvents eventsSeen start (some now) = some (.ended 0) ∧
      0 < maxEvents ∧ maxEvents ≤ eventsSeen) ∨
    (watchTurn durationMs maxEvents eventsSeen start (some now) = some (.ended 1) ∧
      durationMs.toNat * 1000000 ≤ now.nanoseconds - start.nanoseconds) ∨
    ∃ timeout, watchTurn durationMs maxEvents eventsSeen start (some now) = some (.poll timeout) ∧
      0 < timeout ∧ timeout ≤ durationMs.toNat := by
  have htimely := timely_of_inTime hle h
  have hexpired := htimely.le_of_expired _ htimely.remaining_eq
  have hpoll := htimely.poll_le _ htimely.remaining_eq
  rw [watchTurn, htimely.remaining_eq]
  simp only [Option.bind_eq_bind, Option.bind_some, Option.pure_def]
  by_cases hevents : maxEvents > 0 ∧ eventsSeen ≥ maxEvents
  · exact .inl ⟨by rw [if_pos hevents], hevents⟩
  · by_cases hleft : (durationMs.toNat : Int) - elapsedExact start now ≤ 0
    · exact .inr (.inl ⟨by rw [if_neg hevents, if_pos hleft], hexpired hleft⟩)
    · exact .inr (.inr ⟨_, by rw [if_neg hevents, if_neg hleft], Int.not_le.mp hleft,
        hpoll (Int.not_le.mp hleft)⟩)

/-- The watch keeps to its duration exactly where the duration and the readings are in time. -/
theorem timely_iff (hle : start.nanoseconds ≤ now.nanoseconds) :
    Timely durationMs start now ↔ InTime durationMs start now :=
  ⟨inTime_of_timely hle, timely_of_inTime hle⟩

/-- One nanosecond before a full second. -/
def beforeSecond : Timespec where
  sec := 0
  nsec := 999999999
  sec_nonneg := by decide
  sec_le := by decide
  nsec_nonneg := by decide
  nsec_lt := by decide

def fullSecond : Timespec where
  sec := 1
  nsec := 0
  sec_nonneg := by decide
  sec_le := by decide
  nsec_nonneg := by decide
  nsec_lt := by decide

/-- A second and a nanosecond later than the start. -/
theorem timely_iff_full_second :
    beforeSecond.nanoseconds ≤ fullSecond.nanoseconds ∧
      (Timely 5000 beforeSecond fullSecond ↔ InTime 5000 beforeSecond fullSecond) :=
  ⟨by decide, timely_iff (by decide)⟩

/-- A duration of 1 ms is over after a nanosecond. -/
theorem not_timely_full_second :
    letI := armv7
    parsePositive "1".toList = some 1 ∧ beforeSecond.nanoseconds ≤ fullSecond.nanoseconds ∧
      ¬Timely 1 beforeSecond fullSecond := by
  refine ⟨by decide, by decide, fun htimely => ?_⟩
  have hexpired : remaining 1 beforeSecond (some fullSecond) = some 0 := by decide
  exact absurd (htimely.le_of_expired 0 hexpired le_rfl) (by decide)

end VitaLinuxPort
