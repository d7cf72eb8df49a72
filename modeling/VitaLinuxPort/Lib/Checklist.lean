import Mathlib.Data.List.Basic

/-!
# Checklists

A program that goes through a list of checks, writes down how each came out, and fails at the end when
one of them failed. It stops at once when one of its commands fails. What it does is a list of steps;
that it passes says something about every step on the list and nothing about what no step looks at.
-/

namespace VitaLinuxPort

namespace Checklist

inductive Status where
  | pass
  | fail
  | skip
  deriving DecidableEq, Repr

structure Check (N : Type*) where
  name : N
  status : Status
  deriving DecidableEq, Repr

/-- A command that may fail, a check that is written down, or a command that does fail. -/
inductive Step (N : Type*) where
  | call
  | check (check : Check N)
  | abort
  deriving DecidableEq, Repr

inductive Exit where
  | aborted
  | failed
  | passed
  deriving DecidableEq, Repr

variable {N α : Type*}

/-- Goes on with a value, or stops where there is none. -/
def orAbort (value : Option α) (next : α → List (Step N)) : List (Step N) :=
  match value with
  | none => [.abort]
  | some a => next a

/-- The checks that are written down, where `succeeds k` says how the command number `k` ends. -/
def run (succeeds : Nat → Bool) : Nat → List (Step N) → Option (List (Check N))
  | _, [] => some []
  | k, .call :: steps => if succeeds k then run succeeds (k + 1) steps else none
  | k, .check check :: steps => (run succeeds k steps).map (check :: ·)
  | _, .abort :: _ => none

def exit (succeeds : Nat → Bool) (steps : List (Step N)) : Exit :=
  match run succeeds 0 steps with
  | none => .aborted
  | some checks =>
      if (checks.filter fun check => check.status = .fail).length > 0 then .failed else .passed

/-- No step stops the program and no check fails. -/
def AllPass (steps : List (Step N)) : Prop :=
  ∀ step ∈ steps, match step with
    | .call => True
    | .check check => check.status ≠ .fail
    | .abort => False

@[simp] theorem allPass_nil : AllPass ([] : List (Step N)) := by simp [AllPass]

@[simp] theorem allPass_call (steps : List (Step N)) : AllPass (.call :: steps) ↔ AllPass steps := by
  simp [AllPass]

@[simp] theorem allPass_check (check : Check N) (steps : List (Step N)) :
    AllPass (.check check :: steps) ↔ check.status ≠ .fail ∧ AllPass steps := by
  simp [AllPass]

@[simp] theorem not_allPass_abort (steps : List (Step N)) : ¬ AllPass (.abort :: steps) := by
  simp [AllPass]

@[simp] theorem allPass_append (first second : List (Step N)) :
    AllPass (first ++ second) ↔ AllPass first ∧ AllPass second := by
  simp only [AllPass, List.forall_mem_append]

@[simp] theorem allPass_flatMap (l : List α) (steps : α → List (Step N)) :
    AllPass (l.flatMap steps) ↔ ∀ a ∈ l, AllPass (steps a) := by
  simp only [AllPass, List.mem_flatMap, forall_exists_index, and_imp]
  exact ⟨fun h a ha step hstep => h step a ha hstep, fun h step a ha hstep => h a ha step hstep⟩

theorem allPass_orAbort {value : Option α} {next : α → List (Step N)}
    (h : AllPass (orAbort value next)) : ∃ a, value = some a ∧ AllPass (next a) := by
  cases value with
  | none => exact absurd h (not_allPass_abort [])
  | some a => exact ⟨a, rfl, h⟩

theorem allPass_of_run {succeeds : Nat → Bool} {k : Nat} {steps : List (Step N)}
    {checks : List (Check N)} (h : run succeeds k steps = some checks)
    (hchecks : ∀ check ∈ checks, check.status ≠ .fail) : AllPass steps := by
  induction steps generalizing k checks with
  | nil => exact allPass_nil
  | cons step steps ih =>
    cases step with
    | call =>
      rw [run] at h
      split at h
      · exact (allPass_call steps).mpr (ih h hchecks)
      · cases h
    | check check =>
      obtain ⟨rest, hrest, rfl⟩ := Option.map_eq_some_iff.mp h
      have hall := List.forall_mem_cons.mp hchecks
      exact (allPass_check check steps).mpr ⟨hall.1, ih hrest hall.2⟩
    | abort => cases h

theorem allPass_of_passed {succeeds : Nat → Bool} {steps : List (Step N)}
    (h : exit succeeds steps = .passed) : AllPass steps := by
  unfold exit at h
  split at h
  · cases h
  · rename_i checks hrun
    split at h
    · cases h
    · rename_i hnone
      apply allPass_of_run hrun
      intro check hcheck hfail
      apply hnone
      exact List.length_pos_of_mem (List.mem_filter.mpr ⟨hcheck, decide_eq_true hfail⟩)

end Checklist

end VitaLinuxPort
