import Mathlib.Data.List.Basic
import Mathlib.Tactic.Ring
import Mathlib.Tactic.Linarith

/-!
# Pacers

A pacer serves a periodic job and keeps its next deadline. Before the deadline there is nothing to
serve. A job served less than a period late keeps the schedule; one served later drops the whole
periods missed and starts a new schedule from the time it is served at. Moving the schedule never
counts a period twice: the jobs served and the deadlines dropped fit, a period each, before the
next deadline.
-/

namespace VitaLinuxPort

structure Pacer where
  origin : Nat
  period : Nat
  deadline : Nat
  served : Nat
  dropped : Nat

namespace Pacer

def start (origin period : Nat) : Pacer :=
  { origin := origin, period := period, deadline := origin + period, served := 0, dropped := 0 }

def advance (pacer : Pacer) (now : Nat) : Pacer :=
  if now < pacer.deadline then pacer
  else if now - pacer.deadline < pacer.period then
    { pacer with deadline := pacer.deadline + pacer.period, served := pacer.served + 1 }
  else
    { pacer with
      deadline := now + pacer.period
      served := pacer.served + 1
      dropped := pacer.dropped + (now - pacer.deadline) / pacer.period }

def Accounted (pacer : Pacer) : Prop :=
  pacer.origin + (pacer.served + pacer.dropped + 1) * pacer.period ≤ pacer.deadline

/-- The deadline is at most a period after the time. -/
def Within (pacer : Pacer) (latest : Nat) : Prop :=
  pacer.deadline ≤ latest + pacer.period

theorem start_accounted (origin period : Nat) : (start origin period).Accounted := by
  simp [Accounted, start]

theorem start_within {origin period latest : Nat} (h : origin ≤ latest) :
    (start origin period).Within latest :=
  Nat.add_le_add_right h _

@[simp] theorem advance_period (pacer : Pacer) (now : Nat) :
    (pacer.advance now).period = pacer.period := by
  unfold advance
  split
  · rfl
  · split <;> rfl

theorem advance_of_lt {pacer : Pacer} {now : Nat} (h : now < pacer.deadline) :
    pacer.advance now = pacer :=
  if_pos h

theorem advance_of_late {pacer : Pacer} {now : Nat} (hreached : pacer.deadline ≤ now)
    (hlate : now - pacer.deadline < pacer.period) :
    pacer.advance now =
      { pacer with deadline := pacer.deadline + pacer.period, served := pacer.served + 1 } := by
  rw [advance, if_neg (Nat.not_lt.mpr hreached), if_pos hlate]

theorem advance_of_missed {pacer : Pacer} {now : Nat} (hreached : pacer.deadline ≤ now)
    (hmissed : pacer.period ≤ now - pacer.deadline) :
    pacer.advance now =
      { pacer with
        deadline := now + pacer.period
        served := pacer.served + 1
        dropped := pacer.dropped + (now - pacer.deadline) / pacer.period } := by
  rw [advance, if_neg (Nat.not_lt.mpr hreached), if_neg (Nat.not_lt.mpr hmissed)]

theorem advance_accounted {pacer : Pacer} (h : pacer.Accounted) (now : Nat) :
    (pacer.advance now).Accounted := by
  unfold advance
  split
  · exact h
  next hreached =>
    unfold Accounted at h
    split
    · show pacer.origin + (pacer.served + 1 + pacer.dropped + 1) * pacer.period ≤
        pacer.deadline + pacer.period
      linarith [Nat.add_mul (pacer.served + pacer.dropped + 1) 1 pacer.period]
    · -- the periods dropped lie between the deadline missed and `now`
      have hmissed := Nat.div_mul_le_self (now - pacer.deadline) pacer.period
      have hlate : pacer.deadline + (now - pacer.deadline) / pacer.period * pacer.period ≤ now := by
        omega
      show pacer.origin + (pacer.served + 1 +
        (pacer.dropped + (now - pacer.deadline) / pacer.period) + 1) * pacer.period ≤
          now + pacer.period
      linarith [Nat.add_mul (pacer.served + pacer.dropped + 1)
        ((now - pacer.deadline) / pacer.period + 1) pacer.period,
        Nat.add_mul ((now - pacer.deadline) / pacer.period) 1 pacer.period]

theorem deadline_le_advance (pacer : Pacer) (now : Nat) :
    pacer.deadline ≤ (pacer.advance now).deadline := by
  unfold advance
  split
  · exact Nat.le_refl _
  · split
    · exact Nat.le_add_right _ _
    · dsimp only
      omega

theorem advance_dropped (pacer : Pacer) (now : Nat) :
    (pacer.advance now).dropped =
      pacer.dropped + (now - pacer.deadline) / pacer.period := by
  unfold advance
  split
  · next h => rw [Nat.sub_eq_zero_of_le (Nat.le_of_lt h), Nat.zero_div, Nat.add_zero]
  · split
    · next h => exact (congrArg (pacer.dropped + ·) (Nat.div_eq_of_lt h)).symm
    · rfl

/-- An advance leaves a deadline that is still to come. -/
theorem lt_advance_deadline {pacer : Pacer} (hperiod : 0 < pacer.period) (now : Nat) :
    now < (pacer.advance now).deadline := by
  unfold advance
  split
  · assumption
  · split
    · dsimp only
      omega
    · dsimp only
      omega

theorem advance_deadline_le (pacer : Pacer) (now : Nat) :
    (pacer.advance now).deadline ≤ max pacer.deadline (now + pacer.period) := by
  unfold advance
  split
  · exact Nat.le_max_left _ _
  · split
    · dsimp only
      omega
    · exact Nat.le_max_right _ _

theorem Within.mono {pacer : Pacer} {earlier later : Nat} (h : pacer.Within earlier)
    (hle : earlier ≤ later) : pacer.Within later :=
  Nat.le_trans h (Nat.add_le_add_right hle _)

/-- An advance at any time no later than `latest` keeps the deadline within a period of it. -/
theorem Within.advance {pacer : Pacer} {latest now : Nat} (h : pacer.Within latest)
    (hnow : now ≤ latest) : (pacer.advance now).Within latest := by
  have hle := pacer.advance_deadline_le now
  unfold Within at *
  rw [advance_period]
  omega

/-- What is counted cannot exceed the deadline. -/
theorem Accounted.counted_lt {pacer : Pacer} (h : pacer.Accounted) (hperiod : 0 < pacer.period) :
    pacer.served + pacer.dropped < pacer.deadline := by
  unfold Accounted at h
  have := Nat.le_mul_of_pos_right (pacer.served + pacer.dropped + 1) hperiod
  omega

/-- No more is served and dropped than whole periods have passed. -/
theorem Accounted.counted_le {pacer : Pacer} {latest : Nat} (h : pacer.Accounted)
    (hwithin : pacer.Within latest) (hperiod : 0 < pacer.period) :
    pacer.served + pacer.dropped ≤ (latest - pacer.origin) / pacer.period := by
  rw [Nat.le_div_iff_mul_le hperiod]
  unfold Accounted at h
  unfold Within at hwithin
  have := Nat.add_mul (pacer.served + pacer.dropped) 1 pacer.period
  omega

end Pacer

end VitaLinuxPort
