import Mathlib.Data.List.Induction

/-!
# Runs of labelled transition systems

A program that is called again and again, or a set of processes that take turns, is a relation that
says which states a labelled step leads to. A run is a finite sequence of steps; a state is reached
when some run ends in it. Here is the induction every invariant goes through, and the form of it
that is needed when an invariant survives only the steps that meet a condition.
-/

namespace VitaLinuxPort

variable {σ α : Type*}

/-- `Run step s labels t`: steps with these labels, in order, lead from `s` to `t`. -/
inductive Run (step : σ → α → σ → Prop) : σ → List α → σ → Prop
  | nil (s : σ) : Run step s [] s
  | concat {s t u : σ} {labels : List α} {a : α} (run : Run step s labels t) (last : step t a u) :
      Run step s (labels ++ [a]) u

namespace Run

variable {step : σ → α → σ → Prop}

theorem nil_iff {s t : σ} : Run step s [] t ↔ s = t := by
  constructor
  · intro run
    generalize hnil : ([] : List α) = labels at run
    cases run with
    | nil => rfl
    | concat => simp at hnil
  · rintro rfl
    exact .nil s

theorem concat_iff {s u : σ} {labels : List α} {a : α} :
    Run step s (labels ++ [a]) u ↔ ∃ t, Run step s labels t ∧ step t a u := by
  constructor
  · intro run
    generalize hlabels : labels ++ [a] = all at run
    cases run with
    | nil => simp at hlabels
    | concat front last =>
        obtain ⟨rfl, hlast⟩ := List.append_inj' hlabels rfl
        cases List.singleton_inj.mp hlast
        exact ⟨_, front, last⟩
  · rintro ⟨t, front, last⟩
    exact .concat front last

theorem invariant {P : σ → Prop} {s t : σ} {labels : List α} (run : Run step s labels t)
    (start : P s) (preserved : ∀ s a t, P s → step s a t → P t) : P t := by
  induction run with
  | nil => exact start
  | concat _ last ih => exact preserved _ _ _ ih last

/-- The same for what relates a state to the steps that led to it. -/
theorem history {P : List α → σ → Prop} {s t : σ} {labels : List α} (run : Run step s labels t)
    (start : P [] s) (preserved : ∀ past s a t, P past s → step s a t → P (past ++ [a]) t) :
    P labels t := by
  induction run with
  | nil => exact start
  | concat _ last ih => exact preserved _ _ _ _ ih last

/-- The same where only the steps of this run are known to preserve the property. -/
theorem invariant_of_mem {P : σ → Prop} {s t : σ} {labels : List α} (run : Run step s labels t)
    (start : P s) (preserved : ∀ s a t, a ∈ labels → P s → step s a t → P t) : P t := by
  induction run with
  | nil => exact start
  | concat _ last ih =>
      have hfront := ih fun s a t ha => preserved s a t (List.mem_append_left _ ha)
      exact preserved _ _ _ (List.mem_append_right _ (List.mem_singleton_self _)) hfront last

/-- What holds of every label of a run may be asked of its steps. -/
theorem strengthen {P : α → Prop} {s t : σ} {labels : List α} (run : Run step s labels t)
    (h : ∀ a ∈ labels, P a) : Run (fun s a t => step s a t ∧ P a) s labels t := by
  induction run with
  | nil => exact .nil _
  | concat _ last ih =>
      have hfront := ih fun a ha => h a (List.mem_append_left _ ha)
      exact .concat hfront ⟨last, h _ (List.mem_append_right _ (List.mem_singleton_self _))⟩

/-- A rank that every step of the run lowers by the work it does, as far as there is rank left, is
lowered by the work of the whole run. -/
theorem rank_le {P : σ → Prop} {rank work : σ → Nat} {s t : σ} {labels : List α}
    (run : Run step s labels t) (start : P s)
    (law : ∀ past a u v, past ++ [a] <+: labels → Run step s past u → P u → step u a v →
      P v ∧ work u ≤ work v ∧ rank v ≤ rank u - (work v - work u)) :
    P t ∧ work s ≤ work t ∧ rank t ≤ rank s - (work t - work s) := by
  induction run with
  | nil => exact ⟨start, Nat.le_refl _, by omega⟩
  | @concat v w front a hfront hlast ih =>
      obtain ⟨hv, hwork, hrank⟩ := ih fun past b u v hpre =>
        law past b u v (hpre.trans (List.prefix_append front [a]))
      obtain ⟨hw, hmore, hless⟩ := law front a v w (List.prefix_refl _) hfront hv hlast
      exact ⟨hw, Nat.le_trans hwork hmore, by omega⟩

/-- Where every step lowers a rank, a run is no longer than the rank it started with. -/
theorem length_le {P : σ → Prop} {s t : σ} {labels : List α} (run : Run step s labels t)
    (rank : σ → Nat) (start : P s)
    (law : ∀ u a v, P u → step u a v → P v ∧ rank v < rank u) :
    labels.length + rank t ≤ rank s := by
  have hrun : P t ∧ labels.length + rank t ≤ rank s := by
    induction run with
    | nil => exact ⟨start, by simp⟩
    | concat _ last ih =>
        obtain ⟨hfront, hlength⟩ := ih
        obtain ⟨hlast, hless⟩ := law _ _ _ hfront last
        refine ⟨hlast, ?_⟩
        rw [List.length_append, List.length_singleton]
        omega
  exact hrun.2

theorem append_iff {s u : σ} {first second : List α} :
    Run step s (first ++ second) u ↔ ∃ t, Run step s first t ∧ Run step t second u := by
  induction second using List.reverseRecOn generalizing u with
  | nil => simp [nil_iff]
  | append_singleton second a ih =>
      rw [← List.append_assoc, concat_iff]
      simp only [ih, concat_iff]
      constructor
      · rintro ⟨v, ⟨t, hfirst, hsecond⟩, last⟩
        exact ⟨t, hfirst, v, hsecond, last⟩
      · rintro ⟨t, hfirst, v, hsecond, last⟩
        exact ⟨v, ⟨t, hfirst, hsecond⟩, last⟩

theorem unique (functional : ∀ s a t u, step s a t → step s a u → t = u) {s t u : σ}
    {labels : List α} (left : Run step s labels t) (right : Run step s labels u) : t = u := by
  induction left generalizing u with
  | nil => exact nil_iff.mp right
  | concat _ last ih =>
      obtain ⟨v, hfront, hlast⟩ := concat_iff.mp right
      cases ih hfront
      exact functional _ _ _ _ last hlast

theorem singleton_iff {s t : σ} {a : α} : Run step s [a] t ↔ step s a t := by
  constructor
  · intro run
    obtain ⟨u, hnil, last⟩ := concat_iff.mp (show Run step s ([] ++ [a]) t from run)
    cases nil_iff.mp hnil
    exact last
  · exact fun h => .concat (.nil s) h

/-- What the good steps preserve holds throughout a run whose steps are all good. -/
theorem always_of_good {P : σ → Prop} {good : σ → α → Prop} {s : σ} {labels : List α} (start : P s)
    (law : ∀ u a v, a ∈ labels → P u → good u a → step u a v → P v)
    (hgood : ∀ past a rest u, labels = past ++ a :: rest → Run step s past u → good u a)
    {past : List α} {u : σ} (hpre : past <+: labels) (hpast : Run step s past u) : P u := by
  induction hpast with
  | nil => exact start
  | @concat v w front a hfront hlast ih =>
      obtain ⟨rest, heq⟩ := hpre
      have hdecompose : labels = front ++ a :: rest := by simp [← heq]
      have hbefore := ih ⟨a :: rest, hdecompose.symm⟩
      exact law v a w (by simp [hdecompose]) hbefore (hgood front a rest v hdecompose hfront) hlast

/-- Where a step of a functional system keeps a property exactly when it is good, the property holds
throughout a run exactly when all the steps of the run are good. -/
theorem always_iff (functional : ∀ s a t u, step s a t → step s a u → t = u) {P I : σ → Prop}
    {good : σ → α → Prop} {s t : σ} {labels : List α} (run : Run step s labels t) (inv : I s)
    (start : P s) (keep : ∀ u a v, a ∈ labels → I u → step u a v → I v)
    (law : ∀ u a v, a ∈ labels → I u → P u → step u a v → (P v ↔ good u a)) :
    (∀ past u, past <+: labels → Run step s past u → P u) ↔
      ∀ past a rest u, labels = past ++ a :: rest → Run step s past u → good u a := by
  have hinv : ∀ {past u}, past <+: labels → Run step s past u → I u := fun hpre hrun =>
    hrun.invariant_of_mem inv fun u a v ha => keep u a v (hpre.subset ha)
  constructor
  · intro hall past a rest u heq hpast
    rw [heq] at run
    obtain ⟨u', hpast', hrest⟩ := append_iff.mp run
    cases hpast.unique functional hpast'
    rw [← List.singleton_append] at hrest
    obtain ⟨v, hsingle, _⟩ := append_iff.mp hrest
    have hstep := singleton_iff.mp hsingle
    have hbefore : past <+: labels := ⟨a :: rest, heq.symm⟩
    have hnext : past ++ [a] <+: labels := ⟨rest, by simp [heq]⟩
    exact (law u a v (by simp [heq]) (hinv hbefore hpast) (hall past u hbefore hpast) hstep).mp
      (hall _ v hnext (.concat hpast hstep))
  · intro hgood past u hpre hpast
    have hboth := always_of_good (P := fun u => I u ∧ P u) ⟨inv, start⟩
      (fun u a v ha hu hg hstep => ⟨keep u a v ha hu.1 hstep, (law u a v ha hu.1 hu.2 hstep).mpr hg⟩)
      hgood hpre hpast
    exact hboth.2

/-- Where every step of one system is matched by steps of another, or by none at all, so is every
run. -/
theorem simulate {τ β : Type*} {step' : τ → β → τ → Prop} {R : σ → τ → Prop}
    (law : ∀ s a u t, R s t → step s a u → ∃ labels v, Run step' t labels v ∧ R u v)
    {s u : σ} {t : τ} {labels : List α} (run : Run step s labels u) (start : R s t) :
    ∃ labels' v, Run step' t labels' v ∧ R u v := by
  induction run with
  | nil => exact ⟨[], t, .nil t, start⟩
  | concat _ last ih =>
      obtain ⟨first, w, hfirst, hw⟩ := ih
      obtain ⟨second, v, hsecond, hv⟩ := law _ _ _ _ hw last
      exact ⟨first ++ second, v, append_iff.mpr ⟨w, hfirst, hsecond⟩, hv⟩

end Run

def execute (f : σ → α → Option σ) (s : σ) : List α → Option σ
  | [] => some s
  | a :: labels => (f s a).bind fun t => execute f t labels

theorem execute_cons {f : σ → α → Option σ} {s t u : σ} {a : α} {labels : List α}
    (first : f s a = some t) (rest : execute f t labels = some u) :
    execute f s (a :: labels) = some u := by
  rw [execute, first, Option.bind_some, rest]

theorem Run.of_execute {f : σ → α → Option σ} {s t : σ} {labels : List α}
    (h : execute f s labels = some t) : Run (fun s a t => f s a = some t) s labels t := by
  induction labels generalizing s with
  | nil => exact Option.some.inj h ▸ .nil s
  | cons a labels ih =>
      obtain ⟨u, hstep, hrest⟩ := Option.bind_eq_some_iff.mp h
      rw [← List.singleton_append]
      exact Run.append_iff.mpr ⟨u, Run.singleton_iff.mpr hstep, ih hrest⟩

/-- Along the run of a partial step function on a list of labels every step is good. -/
def Throughout (f : σ → α → Option σ) (good : σ → α → Prop) (s : σ) : List α → Prop
  | [] => True
  | a :: labels => good s a ∧ ∀ t ∈ f s a, Throughout f good t labels

instance Throughout.decidable {f : σ → α → Option σ} {good : σ → α → Prop}
    [∀ s a, Decidable (good s a)] : ∀ (s : σ) (labels : List α), Decidable (Throughout f good s labels)
  | _, [] => isTrue trivial
  | s, a :: labels =>
      have : DecidablePred fun t => Throughout f good t labels := fun t => decidable t labels
      inferInstanceAs (Decidable (good s a ∧ ∀ t ∈ f s a, Throughout f good t labels))

theorem Throughout.good_of_run {f : σ → α → Option σ} {good : σ → α → Prop} {s : σ}
    {labels : List α} (h : Throughout f good s labels) (past : List α) (a : α) (rest : List α) (u : σ)
    (heq : labels = past ++ a :: rest) (run : Run (fun s a t => f s a = some t) s past u) :
    good u a := by
  induction past generalizing s labels with
  | nil =>
      cases Run.nil_iff.mp run
      subst heq
      exact h.1
  | cons b past ih =>
      subst heq
      rw [← List.singleton_append, Run.append_iff] at run
      obtain ⟨v, hfirst, hpast⟩ := run
      exact ih (h.2 v (Run.singleton_iff.mp hfirst)) rfl hpast

end VitaLinuxPort
