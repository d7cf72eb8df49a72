import VitaLinuxPort.Proof.RenderLoop.Steps

/-!
# The runtime may overtake a fade

The limiter counts nanoseconds, a fade counts rendered frames. When frames are slow the minimum
interval ends before the fade's fifteen frames are drawn, and a change committed then leaves the
fade leading to a scene that is no longer selected. This is what `Overtaking` describes: a step at
which a fade is in flight, the guard allows a change, and another scene is wanted. As long as no step
overtakes, a fade in flight always leads to the scene the runtime selects, and the first step that
does overtake breaks that.
-/

namespace VitaLinuxPort

namespace RenderLoop

variable [Target] {render : Nat → UInt64 → Image → Image} {s t : RenderLoop} {input : LoopInput}

def LeadsToSelected (s : RenderLoop) : Prop :=
  s.transition.active = true → s.runtime.sceneIndex = s.transition.toScene

/-- The step finds a fade in flight, permission for a change, and another scene wanted. -/
def Overtaking (s : RenderLoop) (input : LoopInput) : Prop :=
  s.transition.active = true ∧ ∃ call, s.runtimeCall input = some call ∧
    s.runtime.changeAllowed (call.actsAt s.runtime) = true ∧ call.Wants s.runtime

theorem runtimeAfter_changes_iff (ok : RuntimeOk s.runtime) (hactive : s.transition.active = true) :
    (s.runtimeAfter input).sceneIndex ≠ s.runtime.sceneIndex ↔ Overtaking s input := by
  cases hcall : s.runtimeCall input with
  | none => simp [Overtaking, runtimeAfter, hcall]
  | some call =>
      have hiff := ok.apply_changes_iff call
      simpa [Overtaking, runtimeAfter, hcall, hactive] using hiff

omit [Target] in
theorem leadsToSelected_beginFade (leads : LeadsToSelected s) :
    LeadsToSelected (s.beginFade render) := by
  unfold LeadsToSelected
  rw [beginFade_runtime]
  unfold beginFade
  split
  · dsimp only
    split
    · intro _
      simp [cartTransitionBegin]
    · intro _
      rfl
  · exact leads

omit [Target] in
theorem leadsToSelected_drawFrame (leads : LeadsToSelected s) :
    LeadsToSelected (s.drawFrame render) := by
  unfold LeadsToSelected
  rw [drawFrame_runtime]
  unfold drawFrame
  split
  · next hactive =>
      rw [cartTransitionActive] at hactive
      intro _
      simpa using leads hactive
  · exact leads

theorem leadsToSelected_step (ok : RuntimeOk s.runtime) (leads : LeadsToSelected s)
    (hquiet : ¬ Overtaking s input) (h : Steps render s input t) : LeadsToSelected t := by
  rcases step_cases h with ⟨hdrawing, hruntime⟩ | ⟨_, _, ⟨_, rfl⟩ | ⟨_, rfl⟩⟩
  · simp only [drawing, Prod.mk.injEq] at hdrawing
    intro hactive
    rw [hdrawing.1] at hactive ⊢
    have hsame := mt (runtimeAfter_changes_iff ok hactive).mp hquiet
    rw [hruntime, not_not.mp hsame]
    exact leads hactive
  · exact leadsToSelected_beginFade leads
  · exact leadsToSelected_drawFrame leads

theorem not_leadsToSelected_of_overtaking (ok : RuntimeOk s.runtime) (leads : LeadsToSelected s)
    (hover : Overtaking s input) (h : Steps render s input t) : ¬ LeadsToSelected t := by
  obtain ⟨call, hcall, _, _⟩ := hover.2
  have hchange := (runtimeAfter_changes_iff ok hover.1).mpr hover
  rcases step_cases h with ⟨hdrawing, hruntime⟩ | ⟨rfl, _⟩
  · simp only [drawing, Prod.mk.injEq] at hdrawing
    intro hleads
    have hselected := hleads (hdrawing.1 ▸ hover.1)
    rw [hdrawing.1, hruntime, ← leads hover.1] at hselected
    exact hchange hselected
  · -- a drawing step makes no runtime call
    cases hcall

theorem steps_functional (s : RenderLoop) (input : LoopInput) (t u : RenderLoop)
    (left : Steps render s input t) (right : Steps render s input u) : t = u :=
  Option.some.inj (left.symm.trans right)

/-- Every fade in flight leads to the selected scene throughout a run of the loop exactly when no
step of the run overtakes. -/
theorem leadsToSelected_iff_not_overtaking {nowNs : UInt64} {low lowFrom lowTo : Image}
    {inputs : List LoopInput} (hstart : RenderLoop.start nowNs low lowFrom lowTo = some s)
    (run : Run (Steps render) s inputs t) :
    (∀ past u, past <+: inputs → Run (Steps render) s past u → LeadsToSelected u) ↔
      ∀ past input rest u, inputs = past ++ input :: rest → Run (Steps render) s past u →
        ¬ Overtaking u input := by
  obtain ⟨hok, hdrawing, _⟩ := start_spec hstart
  simp only [drawing, Prod.mk.injEq] at hdrawing
  have hstartLeads : LeadsToSelected s := by
    intro hactive
    rw [hdrawing.1] at hactive
    cases hactive
  refine Run.always_iff steps_functional (I := fun u => RuntimeOk u.runtime) run hok hstartLeads
    (fun _ _ _ _ hu h => hu.step h) fun u input v _ hu hleads hstep => ?_
  constructor
  · intro hnext hover
    exact not_leadsToSelected_of_overtaking hu hleads hover hstep hnext
  · intro hquiet
    exact leadsToSelected_step hu hleads hquiet hstep

/-- A fade begins, its first frame takes 600 ms, and another scene is requested. -/
private def slowFrame : List LoopInput :=
  [.clock (some 2000), .signal true, .polled none, .go, .go, .clock (some 600002000),
    .slept true false, .clock (some 600003000), .signal true, .polled none, .go]

private def slowFrameOutcome : Option RenderLoop :=
  @outcome armv7 (fun _ _ image => image) 1000 slowFrame

omit [Target] in
private theorem slowFrameOutcome_isSome : slowFrameOutcome.isSome = true := by decide

omit [Target] in
theorem leadsToSelected_iff_not_overtaking_slowFrame :
    letI := armv7
    ∃ s t, RenderLoop.start 1000 [] [] [] = some s ∧
      Run (Steps fun _ _ image => image) s slowFrame t ∧
      ((∀ past u, past <+: slowFrame → Run (Steps fun _ _ image => image) s past u →
          LeadsToSelected u) ↔
        ∀ past input rest u, slowFrame = past ++ input :: rest →
          Run (Steps fun _ _ image => image) s past u → ¬ Overtaking u input) := by
  let _ : Target := armv7
  obtain ⟨s, hstart, run⟩ := run_of_outcome (Option.some_get slowFrameOutcome_isSome).symm
  exact ⟨s, _, hstart, run, leadsToSelected_iff_not_overtaking hstart run⟩

def clockReadings (inputs : List LoopInput) : List UInt64 :=
  inputs.filterMap fun input => match input with
    | .clock reading => reading
    | _ => none

omit [Target] in
/-- With slow frames the loop evaluates a fade that no longer leads to the selected scene. -/
theorem overtaken_slowFrame :
    letI := armv7
    ∃ s t, RenderLoop.start 1000 [] [] [] = some s ∧
      Run (Steps fun _ _ image => image) s slowFrame t ∧
      (clockReadings slowFrame).Pairwise (· ≤ ·) ∧ t.point = .frame ∧
      t.transition.active = true ∧ t.runtime.sceneIndex = 2 ∧ t.transition.toScene = 1 := by
  let _ : Target := armv7
  obtain ⟨s, hstart, run⟩ := run_of_outcome (Option.some_get slowFrameOutcome_isSome).symm
  exact ⟨s, _, hstart, run, by decide⟩

end RenderLoop

end VitaLinuxPort
