import Mathlib.Data.Fintype.Card

/-!
# Counting barriers

A barrier of a number of parties holds back whoever arrives until that many have arrived; then it lets
all of them go and is as it was at first. Its state is the set of those it holds back. A party that
has been let go and has not left yet is not in the set, so that the others may arrive again.
-/

namespace VitaLinuxPort

namespace Barrier

variable {P : Type*} [DecidableEq P]

/-- Whom a barrier of `parties` that held back `waiting` holds back once `p` has arrived. -/
def arrive (parties : Nat) (waiting : Finset P) (p : P) : Finset P :=
  if (insert p waiting).card = parties then ∅ else insert p waiting

/-- It never holds back all of its parties. -/
theorem card_arrive_ne {parties : Nat} (hparties : 0 < parties) (waiting : Finset P) (p : P) :
    (arrive parties waiting p).card ≠ parties := by
  unfold arrive
  split
  · rw [Finset.card_empty]
    exact hparties.ne
  · assumption

variable [Fintype P] {waiting : Finset P} {p : P} {arrived : P → Prop}

/-- Where everybody is a party and the barrier holds back those that have arrived, the next to arrive
is the last and all are let go, or somebody is missing and it is held back with the others. -/
theorem arrive_cases {before : P → Prop} (hwaiting : ∀ q, q ∈ waiting ↔ before q) (hp : arrived p)
    (hothers : ∀ q, q ≠ p → (arrived q ↔ before q)) :
    ((∀ q, arrived q) ∧ arrive (Fintype.card P) waiting p = ∅) ∨
      ((∃ q, ¬ arrived q) ∧ ∀ q, q ∈ arrive (Fintype.card P) waiting p ↔ arrived q) := by
  have hmem : ∀ q, q ∈ insert p waiting ↔ arrived q := by
    intro q
    rw [Finset.mem_insert, hwaiting]
    by_cases hq : q = p
    · subst hq
      simp [hp]
    · simp [hq, hothers q hq]
  by_cases hall : ∀ q, arrived q
  · refine .inl ⟨hall, if_pos ?_⟩
    rw [Finset.card_eq_iff_eq_univ, Finset.eq_univ_iff_forall]
    exact fun q => (hmem q).mpr (hall q)
  · refine .inr ⟨not_forall.mp hall, fun q => ?_⟩
    rw [arrive, if_neg, hmem]
    rw [Finset.card_eq_iff_eq_univ, Finset.eq_univ_iff_forall]
    exact fun h => hall fun q => (hmem q).mp (h q)

end Barrier

end VitaLinuxPort
