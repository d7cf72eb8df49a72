import Mathlib.Data.List.Induction
import Mathlib.Data.Multiset.UnionInter

/-!
# Handles that are acquired, used and released

A program gets handles from its environment, uses them and gives them back. From its log of such
actions one can read off which handles it holds, and whether it only ever uses and releases what it
holds. Handles are held with multiplicity: that none is held twice is the environment's part, which
must not hand out a handle that is held already.
-/

namespace VitaLinuxPort

inductive Use (α : Type*) where
  | acquire (handle : α)
  | use (handle : α)
  | release (handle : α)
  deriving DecidableEq

namespace Ownership

variable {α : Type*} [DecidableEq α] {s t u : Multiset α} {log log' : List (Use α)} {handle : α}

def hold (s : Multiset α) : Use α → Multiset α
  | .acquire handle => handle ::ₘ s
  | .use _ => s
  | .release handle => s.erase handle

def heldAfter (s : Multiset α) (log : List (Use α)) : Multiset α := log.foldl hold s

def Allowed (s : Multiset α) : Use α → Prop
  | .acquire _ => True
  | .use handle | .release handle => handle ∈ s

def Disciplined : Multiset α → List (Use α) → Prop
  | _, [] => True
  | s, action :: log => Allowed s action ∧ Disciplined (hold s action) log

/-- From holding `s` the log leads in good order to holding `t`. -/
def Owns (s : Multiset α) (log : List (Use α)) (t : Multiset α) : Prop :=
  Disciplined s log ∧ heldAfter s log = t

theorem heldAfter_append (s : Multiset α) (log log' : List (Use α)) :
    heldAfter s (log ++ log') = heldAfter (heldAfter s log) log' :=
  List.foldl_append

theorem disciplined_append :
    Disciplined s (log ++ log') ↔ Disciplined s log ∧ Disciplined (heldAfter s log) log' := by
  induction log generalizing s with
  | nil => simp [Disciplined, heldAfter]
  | cons action log ih =>
      rw [List.cons_append, Disciplined, Disciplined, ih, and_assoc]
      rfl

namespace Owns

theorem nil (s : Multiset α) : Owns s [] s := ⟨trivial, rfl⟩

theorem append (h : Owns s log t) (h' : Owns t log' u) : Owns s (log ++ log') u := by
  refine ⟨disciplined_append.mpr ⟨h.1, ?_⟩, ?_⟩
  · rw [h.2]
    exact h'.1
  · rw [heldAfter_append, h.2, h'.2]

theorem acquire (h : Owns (handle ::ₘ s) log t) : Owns s (.acquire handle :: log) t :=
  ⟨⟨trivial, h.1⟩, h.2⟩

theorem release (handle : α) (s : Multiset α) : Owns (handle ::ₘ s) [.release handle] s :=
  ⟨⟨Multiset.mem_cons_self _ _, trivial⟩, Multiset.erase_cons_head _ _⟩

theorem uses (hlog : ∀ action ∈ log, action = .use handle) (hmem : handle ∈ s) : Owns s log s := by
  induction log with
  | nil => exact nil s
  | cons action log ih =>
      rw [List.forall_mem_cons] at hlog
      obtain ⟨rfl, hlog⟩ := hlog
      have hrest := ih hlog
      exact ⟨⟨hmem, hrest.1⟩, hrest.2⟩

theorem releases (handles : List α) (s : Multiset α) :
    Owns ((handles : Multiset α) + s) (handles.map .release) s := by
  induction handles with
  | nil => simpa using nil s
  | cons handle handles ih =>
      rw [← Multiset.cons_coe, Multiset.cons_add, List.map_cons, ← List.singleton_append]
      exact (release handle _).append ih

end Owns

/-- What was held and acquired is what is held and was released. -/
theorem count_heldAfter (h : Disciplined s log) (handle : α) :
    (heldAfter s log).count handle + log.count (.release handle) =
      s.count handle + log.count (.acquire handle) := by
  induction log generalizing s with
  | nil => simp [heldAfter]
  | cons action log ih =>
      have hrest := ih h.2
      rw [show heldAfter s (action :: log) = heldAfter (hold s action) log from rfl]
      cases action with
      | acquire other =>
          by_cases heq : other = handle
          · subst heq
            simp only [hold, Multiset.count_cons_self, List.count_cons_self] at hrest ⊢
            rw [List.count_cons_of_ne (by simp)]
            omega
          · simp only [hold, Multiset.count_cons_of_ne (Ne.symm heq)] at hrest ⊢
            rw [List.count_cons_of_ne (by simp), List.count_cons_of_ne (by simp [heq])]
            exact hrest
      | use other =>
          rw [List.count_cons_of_ne (by simp), List.count_cons_of_ne (by simp)]
          exact hrest
      | release other =>
          by_cases heq : other = handle
          · subst heq
            have hheld := Multiset.one_le_count_iff_mem.mpr h.1
            simp only [hold, Multiset.count_erase_self, List.count_cons_self] at hrest ⊢
            rw [List.count_cons_of_ne (by simp)]
            omega
          · simp only [hold, Multiset.count_erase_of_ne (Ne.symm heq)] at hrest ⊢
            rw [List.count_cons_of_ne (by simp [heq]), List.count_cons_of_ne (by simp)]
            exact hrest

/-- The environment hands out no handle that is held. -/
def FreshIn (s : Multiset α) (log : List (Use α)) : Prop :=
  ∀ before handle after, log = before ++ .acquire handle :: after → handle ∉ heldAfter s before

theorem nodup_heldAfter (fresh : FreshIn s log) (hs : s.Nodup) : (heldAfter s log).Nodup := by
  induction log using List.reverseRecOn with
  | nil => exact hs
  | append_singleton log action ih =>
      have hbefore := ih fun before handle after heq =>
        fresh before handle (after ++ [action]) (by simp [heq])
      rw [heldAfter_append]
      cases action with
      | acquire handle => exact Multiset.nodup_cons.mpr ⟨fresh log handle [] rfl, hbefore⟩
      | use handle => exact hbefore
      | release handle => exact hbefore.erase handle

end Ownership

end VitaLinuxPort
