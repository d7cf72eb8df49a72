import Mathlib.Data.List.Sort

/-!
# Rankings

The elements of a list by falling rank and, among equals, by rising number. Numbers that are pairwise
distinct leave one such order. Of two rankings of the same elements the first places agree exactly
when none of the elements that have them in the one is overtaken in the other.
-/

namespace VitaLinuxPort

namespace Ranking

variable {α : Type*}

section Places

variable {r s : α → α → Prop} [Std.Asymm r] [Std.Asymm s] {l m : List α}

theorem irrefl_of_asymm (r : α → α → Prop) [Std.Asymm r] (a : α) : ¬ r a a :=
  fun h => Std.Asymm.asymm a a h h

/-- An element has one of the first places if fewer elements than that precede it. -/
theorem mem_take_iff [DecidableRel r] (hl : l.Pairwise r) (n : Nat) {b : α} (hb : b ∈ l) :
    b ∈ l.take n ↔ l.countP (fun a => r a b) < n := by
  induction l generalizing n with
  | nil => simp at hb
  | cons x l ih =>
      rw [List.pairwise_cons] at hl
      cases n with
      | zero => simp
      | succ n =>
          rcases List.mem_cons.mp hb with rfl | hmem
          · have hnone : l.countP (fun a => r a b) = 0 := by
              rw [List.countP_eq_zero]
              intro a ha
              simpa using Std.Asymm.asymm b a (hl.1 a ha)
            simp [irrefl_of_asymm r b, hnone]
          · have hx : r x b := hl.1 b hmem
            have hne : b ≠ x := by
              rintro rfl
              exact irrefl_of_asymm r b hx
            rw [List.take_succ_cons, List.mem_cons, List.countP_cons_of_pos (by simpa using hx),
              or_iff_right hne, ih hl.2 n hmem]
            omega

theorem take_eq_take_iff (hl : l.Pairwise r) (hm : m.Pairwise s) (hperm : l.Perm m) (n : Nat) :
    l.take n = m.take n ↔ ∀ b ∈ l.take n, ∀ a ∈ l, r b a → s b a := by
  induction n generalizing l m with
  | zero => simp
  | succ n ih =>
      cases l with
      | nil => simp [List.nil_perm.mp hperm]
      | cons x l =>
          obtain _ | ⟨y, m⟩ := m
          · simp at hperm
          rw [List.pairwise_cons] at hl hm
          -- the same first place leaves the same elements for the others
          have hrest : x = y → (l.take n = m.take n ↔ ∀ b ∈ l.take n, ∀ a ∈ l, r b a → s b a) := by
            rintro rfl
            exact ih hl.2 hm.2 hperm.cons_inv
          rw [List.take_succ_cons, List.take_succ_cons, List.cons.injEq]
          constructor
          · rintro ⟨rfl, htake⟩ b hb a ha hba
            have hother := (hrest rfl).mp htake
            rcases List.mem_cons.mp hb with rfl | hbrest
            · rcases List.mem_cons.mp ha with rfl | harest
              · exact absurd hba (irrefl_of_asymm r a)
              · exact hm.1 a (hperm.cons_inv.mem_iff.mp harest)
            · rcases List.mem_cons.mp ha with rfl | harest
              · exact absurd hba (Std.Asymm.asymm a b (hl.1 b (List.mem_of_mem_take hbrest)))
              · exact hother b hbrest a harest hba
          · intro hkeeps
            have hfirst : x = y := by
              by_contra hne
              have hy : y ∈ l := (List.mem_cons.mp (hperm.mem_iff.mpr List.mem_cons_self)).resolve_left
                (Ne.symm hne)
              have hx : x ∈ m := (List.mem_cons.mp (hperm.mem_iff.mp List.mem_cons_self)).resolve_left
                hne
              have hxy := hkeeps x List.mem_cons_self y (List.mem_cons_of_mem x hy) (hl.1 y hy)
              exact Std.Asymm.asymm x y hxy (hm.1 x hx)
            refine ⟨hfirst, (hrest hfirst).mpr fun b hb a ha => ?_⟩
            exact hkeeps b (List.mem_cons_of_mem x hb) a (List.mem_cons_of_mem x ha)

/-- The first places agree if in the other ranking nothing that follows an element with such a place
is put before it. -/
theorem take_eq_take_iff_countP [DecidableRel r] (hl : l.Pairwise r) (hm : m.Pairwise s)
    (hperm : l.Perm m) (n : Nat) :
    l.take n = m.take n ↔ ∀ b ∈ l, l.countP (fun c => r c b) < n → ∀ a ∈ l, r b a → s b a := by
  rw [take_eq_take_iff hl hm hperm n]
  constructor
  · exact fun h b hb hcount => h b ((mem_take_iff hl n hb).mpr hcount)
  · exact fun h b hb => h b (List.mem_of_mem_take hb)
      ((mem_take_iff hl n (List.mem_of_mem_take hb)).mp hb)

end Places

section Order

variable (rank : α → Int) (number : α → Nat)

def Precedes (a b : α) : Prop := rank b < rank a ∨ (rank a = rank b ∧ number a < number b)

instance : DecidableRel (Precedes rank number) := fun _ _ => inferInstanceAs (Decidable (_ ∨ _ ∧ _))

instance : Std.Asymm (Precedes rank number) where
  asymm a b := by
    unfold Precedes
    omega

private def NotAfter (a b : α) : Prop := rank b < rank a ∨ (rank a = rank b ∧ number a ≤ number b)

private instance : DecidableRel (NotAfter rank number) :=
  fun _ _ => inferInstanceAs (Decidable (_ ∨ _ ∧ _))

private instance : Std.Total (NotAfter rank number) where
  total a b := by
    unfold NotAfter
    omega

private instance : IsTrans α (NotAfter rank number) where
  trans a b c := by
    unfold NotAfter
    omega

variable {number} {l m : List α}

/-- Elements with distinct numbers can be ranked. -/
theorem exists_ranking (hnumbers : (l.map number).Nodup) :
    ∃ order : List α, order.Perm l ∧ order.Pairwise (Precedes rank number) := by
  have hperm := List.perm_insertionSort (NotAfter rank number) l
  have hsorted := List.pairwise_insertionSort (NotAfter rank number) l
  have hdistinct : (l.insertionSort (NotAfter rank number)).Pairwise fun a b => number a ≠ number b :=
    List.pairwise_map.mp ((hperm.map number).nodup_iff.mpr hnumbers)
  refine ⟨_, hperm, hsorted.imp₂ (fun a b hnot hne => ?_) hdistinct⟩
  unfold NotAfter at hnot
  unfold Precedes
  omega

variable {rank}

/-- There is one ranking of the same elements. -/
theorem ranking_unique (hl : l.Pairwise (Precedes rank number))
    (hm : m.Pairwise (Precedes rank number)) (hperm : l.Perm m) : l = m := by
  have htake := (take_eq_take_iff hl hm hperm l.length).mpr fun _ _ _ _ h => h
  rwa [List.take_length, hperm.length_eq, List.take_length] at htake

end Order

end Ranking

end VitaLinuxPort
