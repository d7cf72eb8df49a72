import VitaLinuxPort.Lib.Lock
import Mathlib.Algebra.Order.BigOperators.Group.Finset
import Mathlib.Data.Fintype.Card

/-!
# Monitors

One mutex and one condition variable, shared by any number of threads, each at a point of its own
program. A thread that waits leaves the mutex and sleeps until it is woken, by a broadcast or for no
reason, and then has to take the mutex again. The discipline is that of the lock, and that only threads
at a point where they wait are asleep.

A thread tests again each time it is woken, so how long the threads can go on depends on how many
broadcasts are still to come. `distance` counts the steps each has left if nobody were woken, and for
every broadcast to come two more for each thread it may wake.
-/

namespace VitaLinuxPort

open scoped BigOperators

/-- Who holds the mutex, and who sleeps on the condition and has not been woken. -/
structure Monitor (ι : Type*) where
  holder : Option ι
  sleepers : Finset ι

namespace Monitor

variable {ι P : Type*} [DecidableEq ι]

def free : Monitor ι := ⟨none, ∅⟩

/-- Take the mutex, which is free, as a thread that is awake. -/
def enter (m : Monitor ι) (p : ι) : Option (Monitor ι) :=
  if m.holder = none ∧ p ∉ m.sleepers then some { m with holder := some p } else none

def leave (m : Monitor ι) : Monitor ι := { m with holder := none }

def wait (m : Monitor ι) (p : ι) : Monitor ι := ⟨none, insert p m.sleepers⟩

def broadcast (m : Monitor ι) : Monitor ι := { m with sleepers := ∅ }

/-- A thread wakes for no reason. -/
def wake (m : Monitor ι) (p : ι) : Monitor ι := { m with sleepers := m.sleepers.erase p }

omit [DecidableEq ι] in
@[simp] theorem sleepers_leave (m : Monitor ι) : m.leave.sleepers = m.sleepers := rfl

omit [DecidableEq ι] in
@[simp] theorem sleepers_broadcast (m : Monitor ι) : m.broadcast.sleepers = ∅ := rfl

@[simp] theorem sleepers_wait (m : Monitor ι) (p : ι) : (m.wait p).sleepers = insert p m.sleepers := rfl

theorem enter_eq_some_iff {m m' : Monitor ι} {p : ι} :
    m.enter p = some m' ↔
      m.holder = none ∧ p ∉ m.sleepers ∧ m' = { m with holder := some p } := by
  rw [enter, Option.ite_none_right_eq_some, and_assoc, Option.some_inj, eq_comm (a := m')]

/-- The threads at the points inside hold the mutex, and those asleep are at points where they wait. -/
structure Kept (inside waiting : P → Prop) (point : ι → P) (m : Monitor ι) : Prop where
  locked : LockedBy inside point m.holder
  waiting : ∀ p ∈ m.sleepers, waiting (point p)

namespace Kept

variable {inside waiting : P → Prop} {point : ι → P} {m m' : Monitor ι} {p : ι} {next : P}

omit [DecidableEq ι] in
theorem not_mem (h : Kept inside waiting point m) (hp : ¬ waiting (point p)) : p ∉ m.sleepers :=
  fun hmem => hp (h.waiting p hmem)

theorem sleepers_move (h : Kept inside waiting point m) (hp : p ∉ m.sleepers) (next : P) :
    ∀ q ∈ m.sleepers, waiting (Function.update point p next q) := by
  intro q hq
  have hne : q ≠ p := fun heq => hp (heq ▸ hq)
  rw [Function.update_of_ne hne]
  exact h.waiting q hq

omit [DecidableEq ι] in
theorem start (hout : ∀ p, ¬ inside (point p)) : Kept inside waiting point (free : Monitor ι) := by
  refine ⟨LockedBy.free hout, fun p hp => ?_⟩
  simp [free] at hp

theorem enter (h : Kept inside waiting point m) (henter : m.enter p = some m') (hnext : inside next) :
    Kept inside waiting (Function.update point p next) m' := by
  obtain ⟨hfree, hawake, rfl⟩ := enter_eq_some_iff.mp henter
  exact ⟨LockedBy.acquire (hfree ▸ h.locked) hnext, h.sleepers_move hawake next⟩

theorem move (h : Kept inside waiting point m) (hp : ¬ waiting (point p))
    (hsame : inside (point p) ↔ inside next) :
    Kept inside waiting (Function.update point p next) m :=
  ⟨h.locked.move hsame, h.sleepers_move (h.not_mem hp) next⟩

theorem leave (h : Kept inside waiting point m) (hp : inside (point p)) (hawake : ¬ waiting (point p))
    (hnext : ¬ inside next) : Kept inside waiting (Function.update point p next) m.leave :=
  ⟨h.locked.release hp hnext, h.sleepers_move (h.not_mem hawake) next⟩

theorem wait (h : Kept inside waiting point m) (hp : inside (point p)) (hout : ¬ inside next)
    (hnext : waiting next) : Kept inside waiting (Function.update point p next) (m.wait p) := by
  refine ⟨h.locked.release hp hout, fun q hq => ?_⟩
  by_cases hqp : q = p
  · subst hqp
    rw [Function.update_self]
    exact hnext
  · rw [Function.update_of_ne hqp]
    exact h.waiting q ((Finset.mem_insert.mp hq).resolve_left hqp)

omit [DecidableEq ι] in
theorem broadcast (h : Kept inside waiting point m) : Kept inside waiting point m.broadcast := by
  refine ⟨h.locked, fun p hp => ?_⟩
  simp [Monitor.broadcast] at hp

theorem wake (h : Kept inside waiting point m) (p : ι) : Kept inside waiting point (m.wake p) :=
  ⟨h.locked, fun q hq => h.waiting q (Finset.mem_of_mem_erase hq)⟩

omit [DecidableEq ι] in
/-- Whoever has the mutex is inside; if nobody is, it is free. -/
theorem holder_cases (h : Kept inside waiting point m) :
    m.holder = none ∨ ∃ p, m.holder = some p ∧ inside (point p) := by
  cases hholder : m.holder with
  | none => exact .inl rfl
  | some p => exact .inr ⟨p, rfl, (h.locked p).mpr hholder⟩

theorem enter_of_free (hfree : m.holder = none) (hawake : p ∉ m.sleepers) :
    m.enter p = some { m with holder := some p } :=
  enter_eq_some_iff.mpr ⟨hfree, hawake, rfl⟩

end Kept

section Distance

variable {ι P : Type*} [DecidableEq ι] [Fintype ι] (base pending : P → Nat)

/-- What a thread at a point has left: its steps, what its broadcasts set off, and two steps more while
it is awake. -/
def weight (m : Monitor ι) (p : ι) (place : P) : Nat :=
  base place + 2 * Fintype.card ι * pending place + if p ∈ m.sleepers then 0 else 2

def distance (m : Monitor ι) (point : ι → P) : Nat := ∑ p, m.weight base pending p (point p)

variable {base pending} {m m' : Monitor ι} {point : ι → P} {p : ι} {next : P}

theorem weight_congr {q : ι} (h : q ∈ m'.sleepers ↔ q ∈ m.sleepers) (place : P) :
    m'.weight base pending q place = m.weight base pending q place := by
  simp only [weight, h]

theorem weight_le {q : ι} (m m' : Monitor ι) (place : P) :
    m'.weight base pending q place ≤ m.weight base pending q place + 2 := by
  unfold weight
  split <;> split <;> omega

/-- A step by which nobody else is woken. -/
theorem distance_lt (hothers : ∀ q, q ≠ p → (q ∈ m'.sleepers ↔ q ∈ m.sleepers))
    (hless : m'.weight base pending p next < m.weight base pending p (point p)) :
    m'.distance base pending (Function.update point p next) < m.distance base pending point := by
  apply Finset.sum_lt_sum
  · intro q _
    by_cases hqp : q = p
    · rw [hqp, Function.update_self]
      exact hless.le
    · rw [Function.update_of_ne hqp, weight_congr (hothers q hqp)]
  · refine ⟨p, Finset.mem_univ p, ?_⟩
    rw [Function.update_self]
    exact hless

/-- A broadcast pays for those it wakes. -/
theorem distance_broadcast_lt (hawake : p ∉ m.sleepers)
    (hpending : pending next + 1 ≤ pending (point p)) (hbase : base next ≤ base (point p)) :
    m.broadcast.distance base pending (Function.update point p next) <
      m.distance base pending point := by
  have hcard : (Finset.univ.erase p).card + 1 = Fintype.card ι :=
    Finset.card_erase_add_one (Finset.mem_univ p)
  have hothers : ∑ q ∈ Finset.univ.erase p,
      m.broadcast.weight base pending q (Function.update point p next q) ≤
        ∑ q ∈ Finset.univ.erase p, (m.weight base pending q (point q) + 2) := by
    apply Finset.sum_le_sum
    intro q hq
    rw [Function.update_of_ne (Finset.ne_of_mem_erase hq)]
    exact weight_le m m.broadcast (point q)
  have hown : m.broadcast.weight base pending p next + 2 * Fintype.card ι ≤
      m.weight base pending p (point p) := by
    have hpay := Nat.mul_le_mul_left (2 * Fintype.card ι) hpending
    rw [Nat.mul_add, Nat.mul_one] at hpay
    rw [weight, weight, if_neg hawake, if_neg (by simp)]
    omega
  rw [Finset.sum_add_distrib, Finset.sum_const_nat fun _ _ => rfl] at hothers
  unfold distance
  rw [← Finset.sum_erase_add _ _ (Finset.mem_univ p),
    ← Finset.sum_erase_add (a := p) _ (fun q => m.weight base pending q (point q))
      (Finset.mem_univ p), Function.update_self]
  omega

/-- The distance from anywhere. -/
theorem distance_le {bound : ι → Nat}
    (hbound : ∀ p, base (point p) + 2 * Fintype.card ι * pending (point p) + 2 ≤ bound p) :
    m.distance base pending point ≤ ∑ p, bound p := by
  apply Finset.sum_le_sum
  intro p _
  have hp := hbound p
  unfold weight
  split <;> omega

end Distance

end Monitor

/-- What a sum over all threads becomes when one of them moves. -/
theorem sum_update {ι P : Type*} [Fintype ι] [DecidableEq ι] (weight : P → Nat) (point : ι → P) (p : ι)
    (next : P) :
    ∑ q, weight (Function.update point p next q) + weight (point p) =
      ∑ q, weight (point q) + weight next := by
  have hothers : ∑ q ∈ Finset.univ.erase p, weight (Function.update point p next q) =
      ∑ q ∈ Finset.univ.erase p, weight (point q) := by
    apply Finset.sum_congr rfl
    intro q hq
    rw [Function.update_of_ne (Finset.ne_of_mem_erase hq)]
  rw [← Finset.sum_erase_add _ _ (Finset.mem_univ p), hothers, Function.update_self,
    ← Finset.sum_erase_add (a := p) _ (fun q => weight (point q)) (Finset.mem_univ p)]
  omega

end VitaLinuxPort
