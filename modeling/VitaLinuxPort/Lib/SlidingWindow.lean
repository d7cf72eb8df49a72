import Mathlib.Data.Finset.Sort
import Mathlib.Data.Nat.Count

/-!
# Marks in a sliding window

More than `bound` marks fall into some window of a given length exactly where `bound + 1` of them lie
less than that length apart.
-/

namespace SlidingWindow

variable (flag : Nat → Prop)

/-- The marks at the places of `place`, in order. -/
def Marks {n : Nat} (place : Fin n → Nat) : Prop := StrictMono place ∧ ∀ i, flag (place i)

def first {n : Nat} (place : Fin (n + 1) → Nat) : Nat := place 0

def last {n : Nat} (place : Fin (n + 1) → Nat) : Nat := place (Fin.last n)

omit flag in
theorem first_le_last {n : Nat} {place : Fin (n + 1) → Nat} (hmono : StrictMono place) :
    first place ≤ last place :=
  hmono.monotone (Fin.zero_le _)

variable [DecidablePred flag]

/-- The number of marks in the window that begins at `start`. -/
def count (window start : Nat) : Nat := Nat.count (fun i => flag (start + i)) window

variable {flag} {bound window start : Nat}

theorem count_zero : count flag 0 start = 0 := Nat.count_zero _

theorem count_succ :
    count flag (window + 1) start
      = count flag window start + if flag (start + window) then 1 else 0 :=
  Nat.count_succ _ window

theorem lt_count_iff :
    bound < count flag window start ↔ ∃ place : Fin (bound + 1) → Nat, Marks flag place ∧
      start ≤ first place ∧ last place < start + window := by
  rw [count, Nat.count_eq_card_filter_range, ← Nat.succ_le_iff]
  constructor
  · intro hcard
    obtain ⟨marks, hsubset, hmarks⟩ := Finset.exists_subset_card_eq hcard
    have hmem : ∀ i, marks.orderEmbOfFin hmarks i < window ∧
        flag (start + marks.orderEmbOfFin hmarks i) := by
      intro i
      have hi := hsubset (marks.orderEmbOfFin_mem hmarks i)
      rwa [Finset.mem_filter, Finset.mem_range] at hi
    refine ⟨fun i => start + marks.orderEmbOfFin hmarks i, ⟨?_, fun i => (hmem i).2⟩,
      Nat.le_add_right _ _, Nat.add_lt_add_left (hmem _).1 start⟩
    intro i j hij
    exact Nat.add_lt_add_left ((marks.orderEmbOfFin hmarks).strictMono hij) start
  · rintro ⟨place, ⟨hmono, hflag⟩, hfirst, hlast⟩
    have hfrom : ∀ i, start ≤ place i := fun i => hfirst.trans (hmono.monotone (Fin.zero_le i))
    have hbelow : ∀ i, place i < start + window := fun i =>
      (hmono.monotone (Fin.le_last i)).trans_lt hlast
    have hcard := Finset.card_le_card_of_injOn (s := Finset.univ)
      (t := {i ∈ Finset.range window | flag (start + i)}) (fun i => place i - start)
      (fun i _ => by
        have := hfrom i
        have := hbelow i
        simp only [Finset.coe_filter, Finset.mem_range, Set.mem_ofPred_eq]
        rw [Nat.add_sub_cancel' (hfrom i)]
        exact ⟨by omega, hflag i⟩)
      (fun i _ j _ hij => hmono.injective (by
        have := hfrom i
        have := hfrom j
        simp only at hij
        omega))
    rwa [Finset.card_univ, Fintype.card_fin] at hcard

theorem exists_lt_count_iff :
    (∃ start, bound < count flag window start) ↔ ∃ place : Fin (bound + 1) → Nat,
      Marks flag place ∧ last place < first place + window := by
  simp only [lt_count_iff]
  constructor
  · rintro ⟨start, place, hmarks, hfirst, hlast⟩
    exact ⟨place, hmarks, by omega⟩
  · rintro ⟨place, hmarks, hlast⟩
    exact ⟨first place, place, hmarks, le_rfl, hlast⟩

end SlidingWindow
