import Mathlib.Logic.Function.Basic

/-!
# Processes that share a lock

Any number of processes, each at a point of its own program, and one lock. Some points lie inside the
part of the program that the lock protects. The discipline is that a process is inside exactly while
it holds the lock; it is kept by the three kinds of steps a process takes, and it makes what is
inside exclusive.
-/

namespace VitaLinuxPort

variable {ι P : Type*}

/-- The processes inside the protected part are those that hold the lock. -/
def LockedBy (inside : P → Prop) (point : ι → P) (holder : Option ι) : Prop :=
  ∀ p, inside (point p) ↔ holder = some p

namespace LockedBy

variable {inside : P → Prop} {point : ι → P} {holder : Option ι} {p q : ι} {next : P}

theorem exclusive (h : LockedBy inside point holder) (hp : inside (point p))
    (hq : inside (point q)) : p = q :=
  Option.some.inj (((h p).mp hp).symm.trans ((h q).mp hq))

theorem free (h : ∀ p, ¬ inside (point p)) : LockedBy inside point none := fun p => by
  simp [h p]

variable [DecidableEq ι]

theorem acquire (h : LockedBy inside point none) (hnext : inside next) :
    LockedBy inside (Function.update point p next) (some p) := by
  intro r
  by_cases hr : r = p
  · subst hr
    simpa using hnext
  · have hout : ¬ inside (point r) := by simpa using h r
    simpa [hr, Ne.symm hr] using hout

theorem move (h : LockedBy inside point holder) (hsame : inside (point p) ↔ inside next) :
    LockedBy inside (Function.update point p next) holder := by
  intro r
  by_cases hr : r = p
  · subst hr
    simpa [← hsame] using h r
  · simpa [hr] using h r

theorem release (h : LockedBy inside point holder) (hp : inside (point p))
    (hnext : ¬ inside next) : LockedBy inside (Function.update point p next) none := by
  refine free fun r => ?_
  by_cases hr : r = p
  · subst hr
    simpa using hnext
  · have hout : ¬ inside (point r) := fun hin => hr (h.exclusive hin hp)
    simpa [hr] using hout

end LockedBy

end VitaLinuxPort
