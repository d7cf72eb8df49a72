import Mathlib.Combinatorics.Enumerative.Composition

/-!
# Receiving in parts

A sequence arrives in parts. Its receiver stops after the first part with which it has enough, or
where it has as much as it can take. Where having enough is not lost as more arrives, it stops in
every way to split the sequence or in none, and it can stop at every place where it has enough.
-/

namespace Segmentation

section Stop

variable (enough : Nat → Bool) (limit : Nat)

/-- Where a receiver stops that has received so much. -/
def stop : (parts : List Nat) → (received : Nat) → Option Nat
  | [], received => if received < limit then none else some received
  | part :: parts, received =>
      if received < limit then
        let received := min (received + part) limit
        if enough received then some received else stop parts received
      else some received

end Stop

variable {enough : Nat → Bool} {limit total place : Nat}

/-- A place where a receiver can stop. -/
structure IsStop (enough : Nat → Bool) (limit total place : Nat) : Prop where
  pos : 0 < place
  le_total : place ≤ total
  le_limit : place ≤ limit
  reached : enough place = true ∨ place = limit

theorem stop_limit (parts : List Nat) : stop enough limit parts limit = some limit := by
  cases parts with
  | nil => exact if_neg (Nat.lt_irrefl limit)
  | cons part parts => exact if_neg (Nat.lt_irrefl limit)

theorem stop_nil {received : Nat} (h : received < limit) : stop enough limit [] received = none :=
  if_pos h

theorem stop_cons {received : Nat} (h : received < limit) (part : Nat) (parts : List Nat) :
    stop enough limit (part :: parts) received =
      if enough (min (received + part) limit) then some (min (received + part) limit)
      else stop enough limit parts (min (received + part) limit) :=
  if_pos h

theorem isStop_of_stop {parts : List Nat} (hparts : ∀ part ∈ parts, 0 < part) (hlimit : 0 < limit)
    {received : Nat} (hreceived : received ≤ limit)
    (h : stop enough limit parts received = some place) :
    IsStop enough limit (received + parts.sum) place := by
  induction parts generalizing received with
  | nil =>
    obtain hlt | rfl := Nat.lt_or_eq_of_le hreceived
    · rw [stop_nil hlt] at h
      exact absurd h nofun
    · rw [stop_limit] at h
      obtain rfl := Option.some.inj h
      exact ⟨hlimit, Nat.le_refl _, le_rfl, .inr rfl⟩
  | cons part parts ih =>
    obtain hlt | rfl := Nat.lt_or_eq_of_le hreceived
    · have hpart := hparts part List.mem_cons_self
      have hnext := Nat.min_le_right (received + part) limit
      have hsum : min (received + part) limit + parts.sum ≤ received + (part :: parts).sum := by
        rw [List.sum_cons]
        omega
      rw [stop_cons hlt] at h
      split at h
      · obtain rfl := Option.some.inj h
        exact ⟨by omega, by omega, hnext, .inl (by assumption)⟩
      · have hstop := ih (fun part hmem => hparts part (List.mem_cons_of_mem _ hmem)) hnext h
        exact ⟨hstop.pos, hstop.le_total.trans hsum, hstop.le_limit, hstop.reached⟩
    · rw [stop_limit] at h
      obtain rfl := Option.some.inj h
      exact ⟨hlimit, Nat.le_add_right _ _, le_rfl, .inr rfl⟩

theorem of_stop_eq_none {parts : List Nat} {received : Nat} (hreceived : received ≤ limit)
    (hbefore : enough received = false) (h : stop enough limit parts received = none) :
    received + parts.sum < limit ∧ enough (received + parts.sum) = false := by
  induction parts generalizing received with
  | nil =>
    obtain hlt | rfl := Nat.lt_or_eq_of_le hreceived
    · exact ⟨hlt, hbefore⟩
    · rw [stop_limit] at h
      exact absurd h nofun
  | cons part parts ih =>
    obtain hlt | rfl := Nat.lt_or_eq_of_le hreceived
    · rw [stop_cons hlt] at h
      split at h
      · exact absurd h nofun
      · have hafter := ih (Nat.min_le_right _ _) (Bool.eq_false_of_not_eq_true (by assumption)) h
        obtain hle | hgt := Nat.le_total (received + part) limit
        · rw [Nat.min_eq_left hle] at hafter
          rwa [List.sum_cons, ← Nat.add_assoc]
        · rw [Nat.min_eq_right hgt] at hafter
          omega
    · rw [stop_limit] at h
      exact absurd h nofun

section Composition

variable (hlimit : 0 < limit)
include hlimit

theorem isStop_composition {parts : Composition total}
    (h : stop enough limit parts.blocks 0 = some place) : IsStop enough limit total place := by
  have hstop := isStop_of_stop (fun _ hmem => parts.blocks_pos hmem) hlimit (Nat.zero_le limit) h
  rwa [parts.blocks_sum, Nat.zero_add] at hstop

/-- Every such place is reached, by a first part that ends there. -/
theorem exists_stop (h : IsStop enough limit total place) :
    ∃ parts : Composition total, stop enough limit parts.blocks 0 = some place := by
  have hmin : min (0 + place) limit = place := by
    rw [Nat.zero_add, Nat.min_eq_left h.le_limit]
  have hfirst (parts : List Nat) : stop enough limit (place :: parts) 0 = some place := by
    rw [stop_cons hlimit, hmin]
    obtain henough | rfl := h.reached
    · rw [if_pos henough]
    · rw [stop_limit, ite_self]
  obtain hlt | rfl := Nat.lt_or_eq_of_le h.le_total
  · have hpos : ∀ {part}, part ∈ [place, total - place] → 0 < part := by
      intro part hmem
      obtain rfl | hmem := List.mem_cons.mp hmem
      · exact h.pos
      · rw [List.mem_singleton.mp hmem]
        omega
    exact ⟨⟨[place, total - place], hpos, by rw [List.sum_pair]; omega⟩, hfirst _⟩
  · exact ⟨.single place h.pos, hfirst []⟩

theorem stop_eq_none_iff (hempty : enough 0 = false)
    (hmono : ∀ {few more : Nat}, few ≤ more → enough few = true → enough more = true)
    (parts : Composition total) :
    stop enough limit parts.blocks 0 = none ↔ total < limit ∧ enough total = false := by
  constructor
  · intro h
    have hnone := of_stop_eq_none (Nat.zero_le limit) hempty h
    rwa [parts.blocks_sum, Nat.zero_add] at hnone
  · rintro ⟨hlt, hnot⟩
    refine Option.eq_none_iff_forall_ne_some.mpr fun place h => ?_
    have hstop := isStop_composition hlimit h
    obtain henough | hplace := hstop.reached
    · exact absurd (hmono hstop.le_total henough) (Bool.eq_false_iff.mp hnot)
    · exact absurd hstop.le_total (by omega)

end Composition

end Segmentation
