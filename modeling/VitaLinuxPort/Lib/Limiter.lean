import Mathlib.Data.List.Basic
import Mathlib.Tactic.Ring
import Mathlib.Tactic.Linarith

/-!
# Rate limiters

A limiter remembers the time of its last grant and grants again only a whole period later. Two
programs of the repository are limiters, one in memory and one in a file shared between processes.
What either needs is here: the times it grants form a sequence whose members stand at least a
period apart, so that `n` grants later at least `n` periods have passed.
-/

namespace VitaLinuxPort

namespace Limiter

/-- A limiter of the given period that granted last at `last`, if ever, grants at `t`. -/
def Allows (period : Nat) (last : Option Nat) (t : Nat) : Prop :=
  ∀ l ∈ last, l + period ≤ t

/-- Every time of the list is granted in its turn. -/
def Grants (period : Nat) : Option Nat → List Nat → Prop
  | _, [] => True
  | last, t :: ts => Allows period last t ∧ Grants period (some t) ts

@[simp] theorem allows_none (period t : Nat) : Allows period none t := by
  simp [Allows]

@[simp] theorem allows_some {period l t : Nat} : Allows period (some l) t ↔ l + period ≤ t := by
  simp [Allows]

@[simp] theorem grants_nil (period : Nat) (last : Option Nat) : Grants period last [] := trivial

@[simp] theorem grants_cons {period t : Nat} {last : Option Nat} {ts : List Nat} :
    Grants period last (t :: ts) ↔ Allows period last t ∧ Grants period (some t) ts := Iff.rfl

theorem grants_concat {period t : Nat} {last : Option Nat} {ts : List Nat} :
    Grants period last (ts ++ [t]) ↔
      Grants period last ts ∧ Allows period (ts.getLast?.or last) t := by
  induction ts generalizing last with
  | nil => simp
  | cons u us ih =>
      have hlast : (u :: us).getLast?.or last = us.getLast?.or (some u) := by
        rw [List.getLast?_cons, Option.some_or, Option.or_some]
      rw [List.cons_append, grants_cons, grants_cons, ih, hlast, and_assoc]

theorem Grants.le_getElem {period l : Nat} {ts : List Nat} (h : Grants period (some l) ts)
    (n : Nat) (hn : n < ts.length) : l + (n + 1) * period ≤ ts[n] := by
  induction ts generalizing l n with
  | nil => simp at hn
  | cons t ts ih =>
      obtain ⟨hfirst, hrest⟩ := h
      rw [allows_some] at hfirst
      cases n with
      | zero => simpa using hfirst
      | succ n =>
          have hlater := ih hrest n (by simpa using hn)
          rw [List.getElem_cons_succ]
          linarith [Nat.succ_mul (n + 1) period]

/-- Two grants are as many periods apart as they are places apart. -/
theorem Grants.gap {period : Nat} {last : Option Nat} {ts : List Nat} (h : Grants period last ts)
    {i j : Nat} (hij : i < j) (hj : j < ts.length) :
    ts[i] + (j - i) * period ≤ ts[j] := by
  induction ts generalizing last i j with
  | nil => simp at hj
  | cons t ts ih =>
      obtain ⟨j, rfl⟩ : ∃ k, j = k + 1 := ⟨j - 1, by omega⟩
      cases i with
      | zero => exact h.2.le_getElem j (by simpa using hj)
      | succ i =>
          rw [Nat.add_sub_add_right]
          exact ih h.2 (by omega) (by simpa using hj)

section Retry

/-- How many units of time one has to wait from `now` on for a grant, rounded up. -/
def retry (unit period last now : Nat) : Nat := (period - (now - last) + (unit - 1)) / unit

variable {unit period last now t : Nat} (hunit : 0 < unit) (hle : last ≤ now)
  (hrefused : ¬Allows period (some last) now)
include hunit hle hrefused

theorem retry_bounds : period - (now - last) ≤ retry unit period last now * unit ∧
    (retry unit period last now - 1) * unit < period - (now - last) := by
  rw [allows_some, Nat.not_le] at hrefused
  have hdiv := Nat.div_add_mod (period - (now - last) + (unit - 1)) unit
  have hmod := Nat.mod_lt (period - (now - last) + (unit - 1)) hunit
  rw [← retry, Nat.mul_comm] at hdiv
  rw [Nat.sub_one_mul]
  omega

theorem one_le_retry : 1 ≤ retry unit period last now := by
  rw [allows_some, Nat.not_le] at hrefused
  exact (Nat.one_le_div_iff hunit).mpr (by omega)

/-- After that wait there is a grant, from then on. -/
theorem allows_of_retry_le (hwait : now + retry unit period last now * unit ≤ t) :
    Allows period (some last) t := by
  have hbounds := (retry_bounds hunit hle hrefused).1
  rw [allows_some]
  omega

/-- A unit of time less is not enough. -/
theorem not_allows_of_eq_retry (hwait : t = now + (retry unit period last now - 1) * unit) :
    ¬Allows period (some last) t := by
  have hbounds := (retry_bounds hunit hle hrefused).2
  rw [allows_some]
  omega

end Retry

end Limiter

end VitaLinuxPort
